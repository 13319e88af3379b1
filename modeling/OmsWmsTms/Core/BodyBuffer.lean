import OmsWmsTms.Control.Loop
import Mathlib.Algebra.GroupWithZero.Nat
import Mathlib.Data.List.Flatten
import Mathlib.Data.List.TakeWhile

/-!
# Replaying a request body

`_BodyBuffer` and `AuditLogMiddleware` of `src/core/middleware.py`.  The buffer stands between the
server and the application: it reads the body of a request to its end, and hands it on.

* `Server` : the other side of `receive`, with the messages of one request; `HttpRequest` : a
  request, whose last message is the only one without `more_body`.
* `BodyBuffer.readAll`, `BodyBuffer.call`, `auditLog` : the middleware.
* `readBody` : an application that reads the body; `readBody_server` : without the middleware it
  obtains the bytes that were sent.
* `Transparent` : with the middleware it does so as well.
* `transparent_iff` : the requests for which that is so.

A function that awaits a message that never comes has no result.
-/

namespace OmsWmsTms

namespace Asgi

abbrev Bytes := List UInt8

/-- A message that `receive` returns.  A missing `body` is empty, a missing `more_body` is false. -/
inductive Message
  | request (body : Bytes) (moreBody : Bool)
  | disconnect
deriving DecidableEq

/-- `message.get("body", b"")`. -/
def Message.body : Message → Bytes
  | .request body _ => body
  | .disconnect => []

/-- `message.get("more_body", False)`. -/
def Message.moreBody : Message → Bool
  | .request _ moreBody => moreBody
  | .disconnect => false

/-! ### The server -/

/-- The messages of a body. -/
def bodyMessages : List Bytes → List Message
  | [] => []
  | [chunk] => [.request chunk false]
  | chunk :: chunks => .request chunk true :: bodyMessages chunks

/-- A request, by the chunks of its body. -/
structure HttpRequest where
  chunks : List Bytes
  /-- The server sends one message at least. -/
  chunks_ne : chunks ≠ []

/-- The bytes that were sent. -/
def HttpRequest.body (request : HttpRequest) : Bytes := request.chunks.flatten

/-- The server, during one request. -/
structure Server where
  /-- The messages that it still has to send. -/
  pending : List Message
  /-- After them the client goes away, or it waits for the response. -/
  closes : Bool
  /-- The messages that it has sent. -/
  sent : List Message := []
  /-- How often it was asked for a message after the last one. -/
  late : ℕ := 0

/-- The server at the start of a request. -/
def HttpRequest.server (request : HttpRequest) (closes : Bool) : Server where
  pending := bodyMessages request.chunks
  closes := closes

/-- `receive`. -/
def Server.receive (s : Server) : Option (Message × Server) :=
  match s.pending with
  | message :: pending =>
    some (message, { s with pending := pending, sent := s.sent ++ [message] })
  | [] =>
    if s.closes then
      some (.disconnect, { s with sent := s.sent ++ [.disconnect], late := s.late + 1 })
    else none

/-! ### The application -/

/-- What an application has read, and whether a disconnect was among it. -/
structure Reading (σ : Type) where
  body : Bytes := []
  disconnected : Bool := false
  state : σ

/-- A message is read; the one without `more_body` is the last. -/
def readMessage {σ : Type} (receive : σ → Option (Message × σ)) (r : Reading σ) :
    Reading σ ⊕ Option (Reading σ) :=
  match receive r.state with
  | none => .inr none
  | some (message, state) =>
    let r := {
      body := r.body ++ message.body
      disconnected := r.disconnected || message == .disconnect
      state := state }
    if message.moreBody then .inl r else .inr (some r)

/-- An application that reads a body. -/
def readBody {σ : Type} (receive : σ → Option (Message × σ)) (fuel : ℕ) (state : σ) :
    Option (Reading σ) :=
  (Loop.run (readMessage receive) fuel { state := state }).join

/-! ### The middleware -/

/-- `_BodyBuffer`, with the server behind its `receive`. -/
structure BodyBuffer where
  chunks : List Bytes := []
  byteOffset : ℕ := 0
  done : Bool := false
  server : Server

namespace BodyBuffer

/-- A round of the loop of `read_all`, which ends at an empty body. -/
def readRound (b : BodyBuffer) : BodyBuffer ⊕ Option BodyBuffer :=
  match b.server.receive with
  | none => .inr none
  | some (message, server) =>
    let b := { b with server := server }
    if message.body = [] then .inr (some b)
    else .inl { b with chunks := b.chunks ++ [message.body] }

/-- `read_all`. -/
def readAll (fuel : ℕ) (b : BodyBuffer) : Option (Bytes × BodyBuffer) :=
  if b.chunks = [] ∧ b.done = false then
    (Loop.run readRound fuel b).join.map fun b => (b.chunks.flatten, { b with done := true })
  else some (b.chunks.flatten, b)

/-- The answer of `__call__` when everything is read: the next 8 KB, without `more_body`. -/
def replay (b : BodyBuffer) : Message × BodyBuffer :=
  let totalLen := (b.chunks.map List.length).sum
  if b.chunks = [] then (.disconnect, b)
  else if b.byteOffset < totalLen then
    let flat := b.chunks.flatten
    let chunkSize := min 8192 (totalLen - b.byteOffset)
    let data := (flat.drop b.byteOffset).take chunkSize
    (.request data false, { b with byteOffset := b.byteOffset + chunkSize })
  else (.disconnect, b)

/-- `__call__`. -/
def call (fuel : ℕ) (b : BodyBuffer) : Option (Message × BodyBuffer) :=
  (if b.done then some b else (b.readAll fuel).map Prod.snd).map replay

/-- Some more calls. -/
def calls (fuel : ℕ) : ℕ → BodyBuffer → Option BodyBuffer
  | 0, b => some b
  | n + 1, b => (b.call fuel).bind fun answer => calls fuel n answer.2

end BodyBuffer

/-- `AuditLogMiddleware`, up to the application; what it logs is left out. -/
def auditLog (fuel : ℕ) (method : String) (server : Server) : Option BodyBuffer :=
  if method ∈ ["POST", "PUT", "DELETE", "PATCH"] then
    (BodyBuffer.readAll fuel { server := server }).map Prod.snd
  else some { server := server }

/-- An application behind the middleware reads the body. -/
def serve (fuel : ℕ) (method : String) (server : Server) : Option (Reading BodyBuffer) :=
  (auditLog fuel method server).bind (readBody (BodyBuffer.call fuel) fuel)

/-- **The middleware is transparent** for a request: an application reads the bytes that were sent,
the server is not asked for a message after the last one, and a disconnect is read only if the
server has sent one. -/
def Transparent (method : String) (request : HttpRequest) (closes : Bool) : Prop :=
  ∃ fuel r, serve fuel method (request.server closes) = some r ∧ r.body = request.body ∧
    (∀ n b, r.state.calls fuel n = some b → b.server.late = 0) ∧
    (r.disconnected = true → .disconnect ∈ r.state.server.sent)

/-- The body starts with some bytes and has an empty chunk after them, but only empty ones after
that one, and fits in one message of the buffer. -/
structure Replayable (chunks : List Bytes) : Prop where
  first : chunks.head? ≠ some []
  ends : [] ∈ chunks
  rest : ∀ chunk ∈ chunks.dropWhile (· ≠ []), chunk = []
  short : chunks.flatten.length ≤ 8192

/-! ### Without the middleware -/

@[simp] theorem map_body_bodyMessages (chunks : List Bytes) :
    (bodyMessages chunks).map Message.body = chunks := by
  induction chunks with
  | nil => rfl
  | cons chunk chunks ih =>
    cases chunks with
    | nil => rfl
    | cons chunk' chunks =>
      show chunk :: (bodyMessages (chunk' :: chunks)).map Message.body = _
      rw [ih]

theorem disconnect_not_mem_bodyMessages (chunks : List Bytes) :
    .disconnect ∉ bodyMessages chunks := by
  induction chunks with
  | nil => exact List.not_mem_nil
  | cons chunk chunks ih =>
    cases chunks with
    | nil => simp [bodyMessages]
    | cons chunk' chunks =>
      intro h
      rcases List.mem_cons.1 h with h | h
      · cases h
      · exact ih h

theorem run_readMessage_server {chunks : List Bytes} (hne : chunks ≠ []) {r : Reading Server}
    (hpending : r.state.pending = bodyMessages chunks) {fuel : ℕ} (hfuel : chunks.length ≤ fuel) :
    ∃ r', Loop.run (readMessage Server.receive) fuel r = some (some r') ∧
      r'.body = r.body ++ chunks.flatten ∧ r'.disconnected = r.disconnected ∧
      r'.state.late = r.state.late := by
  induction chunks generalizing r fuel with
  | nil => exact absurd rfl hne
  | cons chunk chunks ih =>
    obtain ⟨fuel, rfl⟩ : ∃ n, fuel = n + 1 := ⟨fuel - 1, by simp at hfuel; omega⟩
    unfold Loop.run
    cases chunks with
    | nil =>
      simp only [readMessage, Server.receive, hpending, bodyMessages, Message.moreBody]
      exact ⟨_, rfl, by simp [Message.body], by simp, rfl⟩
    | cons chunk' chunks =>
      simp only [readMessage, Server.receive, hpending, bodyMessages, Message.moreBody, if_true]
      obtain ⟨r', hrun, hbody, hdisconnected, hlate⟩ := ih (by simp)
        (r := {
          body := r.body ++ (Message.request chunk true).body
          disconnected := r.disconnected || Message.request chunk true == .disconnect
          state := { r.state with
            pending := bodyMessages (chunk' :: chunks)
            sent := r.state.sent ++ [.request chunk true] } })
        rfl (Nat.le_of_succ_le_succ hfuel)
      refine ⟨r', hrun, ?_, ?_, hlate⟩
      · rw [hbody]
        simp [Message.body]
      · rw [hdisconnected]
        simp

/-- **Without the middleware** an application reads the bytes that were sent. -/
theorem readBody_server (request : HttpRequest) (closes : Bool) : ∃ fuel r,
    readBody Server.receive fuel (request.server closes) = some r ∧ r.body = request.body ∧
      r.disconnected = false ∧ r.state.late = 0 := by
  obtain ⟨r, hrun, hbody, hdisconnected, hlate⟩ := run_readMessage_server request.chunks_ne
    (r := { state := request.server closes }) rfl le_rfl
  exact ⟨_, r, by rw [readBody, hrun]; rfl, hbody, hdisconnected, hlate⟩

/-! ### With the middleware -/

namespace BodyBuffer

/-- The loop of `read_all` ends at the first empty body. -/
theorem run_readRound_of_empty {before after : List Message} {message : Message}
    (hbefore : ∀ m ∈ before, m.body ≠ []) (hempty : message.body = []) {b : BodyBuffer}
    (hpending : b.server.pending = before ++ message :: after) {fuel : ℕ}
    (hfuel : before.length < fuel) :
    Loop.run readRound fuel b = some (some { b with
      chunks := b.chunks ++ before.map Message.body
      server := { b.server with
        pending := after, sent := b.server.sent ++ (before ++ [message]) } }) := by
  induction before generalizing b fuel with
  | nil =>
    obtain ⟨fuel, rfl⟩ : ∃ n, fuel = n + 1 := ⟨fuel - 1, by simp at hfuel; omega⟩
    rw [List.nil_append] at hpending
    simp [Loop.run, readRound, Server.receive, hpending, hempty]
  | cons m before ih =>
    obtain ⟨fuel, rfl⟩ : ∃ n, fuel = n + 1 := ⟨fuel - 1, by simp at hfuel; omega⟩
    rw [List.cons_append] at hpending
    have hm : m.body ≠ [] := hbefore m List.mem_cons_self
    simp only [Loop.run, readRound, Server.receive, hpending, hm, if_false]
    rw [ih (fun m' hm' => hbefore m' (List.mem_cons_of_mem _ hm')) rfl
      (Nat.lt_of_succ_lt_succ hfuel)]
    simp

/-- Without an empty body the server is asked for a message after the last one. -/
theorem run_readRound_late {fuel : ℕ} {b b' : BodyBuffer}
    (hpending : ∀ m ∈ b.server.pending, m.body ≠ [])
    (hrun : Loop.run readRound fuel b = some (some b')) : 0 < b'.server.late := by
  refine Loop.run_rule (I := fun b => ∀ m ∈ b.server.pending, m.body ≠ [])
    (Q := fun out => ∀ b', out = some b' → 0 < b'.server.late) (fun b₁ b₂ h₁ hround => ?_)
    (fun b₁ out h₁ hround b₂ hout => ?_) hpending hrun b' rfl
  · unfold readRound Server.receive at hround
    split at hround
    next => cases hround
    next message server hreceive =>
      split at hreceive
      next message' pending hcons =>
        obtain ⟨rfl, rfl⟩ := Prod.mk.inj (Option.some.inj hreceive)
        split_ifs at hround
        obtain rfl := Sum.inl.inj hround
        exact fun m hm => h₁ m (hcons ▸ List.mem_cons_of_mem _ hm)
      next hnil =>
        split_ifs at hreceive
        obtain ⟨rfl, rfl⟩ := Prod.mk.inj (Option.some.inj hreceive)
        cases hround
  · subst hout
    unfold readRound Server.receive at hround
    split at hround
    next => cases hround
    next message server hreceive =>
      split at hreceive
      next message' pending hcons =>
        -- the loop does not end at this message
        obtain ⟨rfl, rfl⟩ := Prod.mk.inj (Option.some.inj hreceive)
        rw [if_neg (h₁ message' (hcons ▸ List.mem_cons_self))] at hround
        cases hround
      next hnil =>
        split_ifs at hreceive
        obtain ⟨rfl, rfl⟩ := Prod.mk.inj (Option.some.inj hreceive)
        obtain rfl := Option.some.inj (Sum.inr.inj hround)
        exact Nat.succ_pos _

theorem replay_moreBody (b : BodyBuffer) : b.replay.1.moreBody = false := by
  unfold replay
  dsimp only
  split_ifs <;> rfl

theorem replay_snd (b : BodyBuffer) : b.replay.2.server = b.server ∧ b.replay.2.done = b.done := by
  unfold replay
  dsimp only
  split_ifs <;> exact ⟨rfl, rfl⟩

theorem call_of_done {fuel : ℕ} {b : BodyBuffer} (h : b.done = true) :
    b.call fuel = some b.replay := by
  simp [call, h]

/-- When everything is read the server is not asked any more. -/
theorem calls_server {fuel n : ℕ} {b b' : BodyBuffer} (hdone : b.done = true)
    (h : b.calls fuel n = some b') : b'.server = b.server := by
  induction n generalizing b with
  | zero =>
    obtain rfl := Option.some.inj h
    rfl
  | succ n ih =>
    rw [calls, call_of_done hdone, Option.bind_some] at h
    obtain ⟨hserver, hdone'⟩ := b.replay_snd
    exact (ih (hdone'.trans hdone) h).trans hserver

/-- What an application reads when everything is read. -/
def reading (b : BodyBuffer) : Reading BodyBuffer where
  body := b.replay.1.body
  disconnected := b.replay.1 == .disconnect
  state := b.replay.2

theorem readBody_of_call {fuel : ℕ} {b : BodyBuffer} {o : Option BodyBuffer}
    (hcall : b.call (fuel + 1) = o.map replay) :
    readBody (call (fuel + 1)) (fuel + 1) b = o.map reading := by
  unfold readBody Loop.run readMessage
  cases o with
  | none => simp [hcall]
  | some b' =>
    simp only [hcall, Option.map_some, b'.replay_moreBody]
    simp [reading]

theorem readAll_mono {fuel fuel' : ℕ} (hle : fuel ≤ fuel') {b : BodyBuffer}
    {out : Bytes × BodyBuffer} (h : readAll fuel b = some out) : readAll fuel' b = some out := by
  unfold readAll at h ⊢
  split_ifs at h ⊢
  · obtain ⟨b', hb', rfl⟩ := Option.map_eq_some_iff.1 h
    rw [Loop.run_mono hle (Option.join_eq_some_iff.1 hb')]
    rfl
  · exact h

theorem readAll_done {fuel : ℕ} {server : Server} {out : Bytes × BodyBuffer}
    (h : readAll fuel { server := server } = some out) : out.2.done = true := by
  unfold readAll at h
  obtain ⟨b, -, rfl⟩ := Option.map_eq_some_iff.1 h
  rfl

end BodyBuffer

/-- An application reads the first message that the buffer answers with, whether the body was read
before or not. -/
theorem serve_succ (fuel : ℕ) (method : String) (server : Server) :
    serve (fuel + 1) method server =
    (BodyBuffer.readAll (fuel + 1) { server := server }).map fun out => out.2.reading := by
  unfold serve auditLog
  split_ifs
  · cases hread : BodyBuffer.readAll (fuel + 1) { server := server } with
    | none => rfl
    | some out =>
      have hdone := BodyBuffer.readAll_done hread
      exact BodyBuffer.readBody_of_call (o := some out.2) (BodyBuffer.call_of_done hdone)
  · rw [Option.bind_some, BodyBuffer.readBody_of_call
      (o := (BodyBuffer.readAll (fuel + 1) { server := server }).map Prod.snd) rfl,
      Option.map_map]
    rfl

theorem serve_zero (method : String) (server : Server) : serve 0 method server = none := by
  unfold serve auditLog
  split_ifs <;> rfl

/-- The middleware is transparent by what `read_all` has read and what the buffer then answers. -/
theorem transparent_iff_readAll {method : String} {request : HttpRequest} {closes : Bool} :
    Transparent method request closes ↔
      ∃ fuel out, BodyBuffer.readAll (fuel + 1) { server := request.server closes } = some out ∧
        out.2.replay.1.body = request.body ∧ out.2.server.late = 0 ∧
        (out.2.replay.1 = .disconnect → .disconnect ∈ out.2.server.sent) := by
  constructor
  · rintro ⟨fuel, r, hserve, hbody, hlate, hdisconnect⟩
    cases fuel with
    | zero =>
      rw [serve_zero] at hserve
      cases hserve
    | succ fuel =>
      rw [serve_succ] at hserve
      obtain ⟨out, hread, rfl⟩ := Option.map_eq_some_iff.1 hserve
      obtain ⟨hserver, -⟩ := out.2.replay_snd
      refine ⟨fuel, out, hread, hbody, ?_, fun heq => ?_⟩
      · exact hserver ▸ hlate 0 out.2.replay.2 rfl
      · exact hserver ▸ hdisconnect (beq_iff_eq.2 heq)
  · rintro ⟨fuel, out, hread, hbody, hlate, hdisconnect⟩
    obtain ⟨hserver, hdone⟩ := out.2.replay_snd
    refine ⟨fuel + 1, out.2.reading, by rw [serve_succ, hread]; rfl, hbody, fun n b hcalls => ?_,
      fun heq => ?_⟩
    · have hdone' := hdone.trans (BodyBuffer.readAll_done hread)
      rw [BodyBuffer.calls_server hdone' hcalls]
      exact hserver.symm ▸ hlate
    · exact hserver.symm ▸ hdisconnect (beq_iff_eq.1 heq)

/-! ### Which requests are replayed -/

section Replays

variable {request : HttpRequest} {closes : Bool} {head tail : List Bytes}

/-- With an empty chunk `read_all` reads what is before the first one, and asks for no message after
the last one. -/
theorem readAll_of_ends (closes : Bool) (hsplit : request.chunks = head ++ [] :: tail)
    (hhead : ∀ chunk ∈ head, chunk ≠ []) :
    ∃ b : BodyBuffer, b.chunks = head ∧ b.byteOffset = 0 ∧ b.server.late = 0 ∧
      .disconnect ∉ b.server.sent ∧ ∃ n, ∀ fuel, n ≤ fuel →
        BodyBuffer.readAll (fuel + 1) { server := request.server closes } =
          some (head.flatten, b) := by
  -- the messages are split as the chunks are
  have hbodies := map_body_bodyMessages request.chunks
  rw [hsplit] at hbodies
  obtain ⟨before, rest, hmessages, rfl, hrest⟩ := List.map_eq_append_iff.1 hbodies
  obtain ⟨message, after, rfl, hempty, -⟩ := List.map_eq_cons_iff.1 hrest
  have hpending : (request.server closes).pending = before ++ message :: after := by
    rw [← hmessages, ← hsplit]
    rfl
  have hrun : ∀ fuel, before.length < fuel →
      Loop.run BodyBuffer.readRound fuel { server := request.server closes } = some (some {
        chunks := before.map Message.body
        server := { request.server closes with
          pending := after, sent := before ++ [message] } }) := fun fuel hfuel =>
    BodyBuffer.run_readRound_of_empty (fun m hm => hhead _ (List.mem_map_of_mem hm)) hempty
      hpending hfuel
  refine ⟨{
    chunks := before.map Message.body
    done := true
    server := { request.server closes with pending := after, sent := before ++ [message] } },
    rfl, rfl, rfl, fun hmem => ?_, before.length, fun fuel hfuel => ?_⟩
  · refine disconnect_not_mem_bodyMessages request.chunks ?_
    rw [hsplit, hmessages, List.append_cons]
    exact List.mem_append_left _ hmem
  · rw [BodyBuffer.readAll, if_pos ⟨rfl, rfl⟩, hrun (fuel + 1) (Nat.lt_succ_of_le hfuel)]
    rfl

/-- Without an empty chunk it asks for one, if it returns at all. -/
theorem late_of_readAll {fuel : ℕ} {out : Bytes × BodyBuffer} (hends : [] ∉ request.chunks)
    (h : BodyBuffer.readAll fuel { server := request.server closes } = some out) :
    0 < out.2.server.late := by
  rw [BodyBuffer.readAll, if_pos ⟨rfl, rfl⟩] at h
  obtain ⟨b, hb, rfl⟩ := Option.map_eq_some_iff.1 h
  have hlate : 0 < b.server.late := by
    refine BodyBuffer.run_readRound_late (fun m hm hempty => hends ?_)
      (Option.join_eq_some_iff.1 hb)
    have hbody : m.body ∈ (bodyMessages request.chunks).map Message.body := List.mem_map_of_mem hm
    rwa [map_body_bodyMessages, hempty] at hbody
  exact hlate

/-- The first answer of the buffer. -/
theorem replay_start {b : BodyBuffer} (hoffset : b.byteOffset = 0)
    (hchunks : ∀ chunk ∈ b.chunks, chunk ≠ []) : b.replay.1 =
      if b.chunks = [] then .disconnect else .request (b.chunks.flatten.take 8192) false := by
  unfold BodyBuffer.replay
  simp only [hoffset, ← List.length_flatten, Nat.sub_zero, List.drop_zero]
  by_cases hnil : b.chunks = []
  · rw [if_pos hnil, if_pos hnil]
  · have hlen : 0 < b.chunks.flatten.length := by
      obtain ⟨chunk, chunks, hcons⟩ := List.exists_cons_of_ne_nil hnil
      have hchunk := List.length_pos_iff.2 (hchunks chunk (hcons ▸ List.mem_cons_self))
      rw [hcons, List.flatten_cons, List.length_append]
      omega
    rw [if_neg hnil, if_neg hnil, if_pos hlen, ← List.take_eq_take_min]

/-- What is read is what was sent when the first answer is all of it. -/
theorem replay_iff (hsplit : request.chunks = head ++ [] :: tail)
    (hhead : ∀ chunk ∈ head, chunk ≠ []) :
    head ≠ [] ∧ head.flatten.take 8192 = request.body ↔ Replayable request.chunks := by
  have hbody : request.body = head.flatten ++ tail.flatten := by
    rw [HttpRequest.body, hsplit, List.flatten_append, List.flatten_cons, List.nil_append]
  have hdrop : request.chunks.dropWhile (· ≠ []) = [] :: tail := by
    rw [hsplit, List.dropWhile_append_of_pos (by simpa using hhead)]
    simp
  have hrest : (∀ chunk ∈ request.chunks.dropWhile (· ≠ []), chunk = []) ↔ tail.flatten = [] := by
    rw [hdrop, List.flatten_eq_nil_iff]
    simp
  constructor
  · rintro ⟨hne, htake⟩
    -- a part of the bytes before the empty chunk can be all bytes only if it is all of them
    have hlen := congrArg List.length htake
    rw [hbody, List.length_take, List.length_append] at hlen
    refine ⟨fun hfirst => ?_, hsplit ▸ List.mem_append_right _ List.mem_cons_self,
      hrest.2 (List.length_eq_zero_iff.1 (by omega)), ?_⟩
    · obtain ⟨chunk, chunks, rfl⟩ := List.exists_cons_of_ne_nil hne
      rw [hsplit] at hfirst
      exact hhead chunk List.mem_cons_self (Option.some.inj hfirst)
    · show request.body.length ≤ 8192
      rw [hbody, List.length_append]
      omega
  · intro h
    have htail := hrest.1 h.rest
    have hshort : request.body.length ≤ 8192 := h.short
    rw [htail, List.append_nil] at hbody
    refine ⟨?_, ?_⟩
    · rintro rfl
      exact h.first (by rw [hsplit]; rfl)
    · rw [hbody] at hshort ⊢
      exact List.take_of_length_le hshort

end Replays

/-- **The middleware is transparent** exactly for the requests whose body it can replay. -/
theorem transparent_iff (method : String) (request : HttpRequest) (closes : Bool) :
    Transparent method request closes ↔ Replayable request.chunks := by
  rw [transparent_iff_readAll]
  by_cases hends : [] ∈ request.chunks
  · obtain ⟨head, tail, hsplit, hnot⟩ := List.eq_append_cons_of_mem hends
    have hhead : ∀ chunk ∈ head, chunk ≠ [] := fun chunk hchunk hempty => hnot (hempty ▸ hchunk)
    obtain ⟨b, hchunks, hoffset, hlate, hsent, n, hread⟩ := readAll_of_ends closes hsplit hhead
    have hreplay := replay_start hoffset (hchunks ▸ hhead)
    rw [hchunks] at hreplay
    rw [← replay_iff hsplit hhead]
    constructor
    · rintro ⟨fuel, out, hout, hbody, -, hdisconnect⟩
      -- more rounds would give the same
      have hmax := BodyBuffer.readAll_mono (Nat.succ_le_succ (Nat.le_max_left fuel n)) hout
      obtain rfl := Option.some.inj (hmax.symm.trans (hread _ (Nat.le_max_right fuel n)))
      have hne : head ≠ [] := fun hnil => hsent (hdisconnect (by rw [hreplay, if_pos hnil]))
      rw [hreplay, if_neg hne] at hbody
      exact ⟨hne, hbody⟩
    · rintro ⟨hne, hbody⟩
      rw [if_neg hne] at hreplay
      refine ⟨n, _, hread n le_rfl, ?_, hlate, ?_⟩
      · rw [hreplay]
        exact hbody
      · rw [hreplay]
        exact fun hdisconnect => by cases hdisconnect
  · refine iff_of_false ?_ fun h => hends h.ends
    rintro ⟨fuel, out, hread, -, hlate, -⟩
    exact absurd hlate (late_of_readAll hends hread).ne'

/-- A request with the body `{}` in one message. -/
def oneMessage : HttpRequest where
  chunks := [[123, 125]]
  chunks_ne := List.cons_ne_nil _ _

/-- **The server is asked for another message**, and if it waits for the response, none comes. -/
theorem oneMessage_not_transparent :
    ¬ ∀ method request closes, Transparent method request closes := by
  intro h
  obtain ⟨fuel, out, hread, -, hlate, -⟩ := transparent_iff_readAll.1 (h "POST" oneMessage false)
  have hends : [] ∉ oneMessage.chunks := by decide
  exact absurd hlate (late_of_readAll hends hread).ne'

end Asgi

end OmsWmsTms
