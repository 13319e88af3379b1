import OmsWmsTms.Lts.Basic
import OmsWmsTms.Sockets.Registry

/-!
# The coroutines over the sockets

`connect`, `disconnect` and `send_to_user` or `send_to_device` of the two managers, interleaved at
their awaits.

* `Call`, `State`, `Action` : the calls, and their steps up to the next await.
* `State.next`, `socketSystem` : the runs of a manager.
* `State.Good` : a suspended call holds a list of its own key, and its loop is sound.
* `Move` : what a step can do, and `good_next` : each of them keeps the state good.
-/

namespace OmsWmsTms

namespace Sockets

/-! ### The coroutines -/

/-- Where a call of `connect` stands. -/
inductive ConnectPhase
  /-- In `await ws.accept()`. -/
  | accepting
  /-- In `await old_ws.close()`, with its list. -/
  | closing (conns : ℕ)
  | returned
  /-- The call was cancelled, or the socket was not accepted. -/
  | aborted
deriving DecidableEq

/-- Where a call of `send_to_user` or `send_to_device` stands. -/
inductive SendPhase
  /-- In `await ws.send_text(message)`, with its list. -/
  | sending (conns : ℕ) (ws : Socket)
  | returned
  /-- The call was cancelled. -/
  | aborted
deriving DecidableEq

/-- A call of `send_to_user` or `send_to_device`, with a payload that `json.dumps` takes. -/
structure SendCall where
  key : String
  phase : SendPhase
  /-- Its loop over the list. -/
  cursor : Cursor Socket
  stale : List Socket := []

/-- A call. -/
inductive Call
  | connect (key : String) (ws : Socket) (phase : ConnectPhase)
  | send (call : SendCall)

/-- It is in an await. -/
def Call.suspended : Call → Bool
  | .connect _ _ .accepting | .connect _ _ (.closing _) => true
  | .connect _ _ _ => false
  | .send call => match call.phase with
    | .sending _ _ => true
    | _ => false

/-- It does not go on. -/
def Call.abort : Call → Call
  | .connect key ws _ => .connect key ws .aborted
  | .send call => .send { call with phase := .aborted }

/-- The registry, the calls, and what has become of the sockets. -/
structure State where
  registry : Registry := {}
  /-- The sockets that were accepted: a second `accept` of a socket raises. -/
  accepted : List Socket := []
  calls : List Call := []
  /-- The sockets whose `connect` has returned and that were neither disconnected nor closed by
  another `connect` nor found dead, with their keys. -/
  live : List (String × Socket) := []

/-- A step, up to the next await of a coroutine. -/
inductive Action
  /-- `connect` is called. -/
  | connect (key : String) (ws : Socket)
  /-- `disconnect`, which does not await, is called. -/
  | disconnect (key : String) (ws : Socket)
  /-- `send_to_user` or `send_to_device` is called. -/
  | send (key : String)
  /-- The `accept` of a call returns. -/
  | accepted (i : ℕ)
  /-- The `close` of a call returns, or raises. -/
  | closed (i : ℕ)
  /-- The `send_text` of a call returns, or raises. -/
  | sentText (i : ℕ) (ok : Bool)
  /-- A call is cancelled, or its `accept` raises. -/
  | abort (i : ℕ)

namespace State

variable (m : Manager) (s : State)

/-- A call goes on. -/
def setCall (i : ℕ) (call : Call) : State := { s with calls := s.calls.set i call }

/-- A socket is not live any more. -/
def forget (key : String) (ws : Socket) : State :=
  { s with live := s.live.filter (· ≠ (key, ws)) }

/-- `connect`, from the test of its loop on: it closes the oldest socket of its list, or registers
its own. -/
def proceed (i : ℕ) (key : String) (ws : Socket) (a : Option ℕ) : State :=
  match a, a.elim [] s.registry.heap with
  | some a, oldWs :: rest =>
    if m.full (oldWs :: rest) then
      { (s.forget key oldWs).setCall i (.connect key ws (.closing a)) with
        registry := s.registry.popFirst a }
    else if m.idempotent ∧ ws ∈ oldWs :: rest then
      { s.setCall i (.connect key ws .returned) with live := s.live ++ [(key, ws)] }
    else
      { s.setCall i (.connect key ws .returned) with
        registry := s.registry.register key ws, live := s.live ++ [(key, ws)] }
  | _, _ =>
    { s.setCall i (.connect key ws .returned) with
      registry := s.registry.register key ws, live := s.live ++ [(key, ws)] }

/-- The loop of a sending call, from the next element on; after it the stale sockets are
disconnected. -/
def loop (i a : ℕ) (call : SendCall) : State :=
  match call.cursor.visit (s.registry.heap a) with
  | some (ws, cursor) =>
    s.setCall i (.send { call with phase := .sending a ws, cursor := cursor })
  | none =>
    { s.setCall i (.send { call with phase := .returned }) with
      registry := call.stale.foldl (fun r ws => r.disconnect m call.key ws) s.registry }

/-- A step. -/
def act : Action → Option State
  | .connect key ws => some { s with calls := s.calls ++ [.connect key ws .accepting] }
  | .disconnect key ws => some { s.forget key ws with
      registry := s.registry.disconnect m key ws }
  | .send key =>
    let conns := s.registry.conns key
    let call : SendCall := { key := key, phase := .returned, cursor := .start conns }
    let s' := { s with calls := s.calls ++ [.send call] }
    match s.registry.active key with
    | none => some s'
    | some a => some (if conns = [] then s' else s'.loop m s.calls.length a call)
  | .accepted i =>
    match s.calls[i]? with
    | some (.connect key ws .accepting) =>
      if ws ∈ s.accepted then none
      else some ({ s with accepted := ws :: s.accepted }.proceed m i key ws
        (s.registry.active key))
    | _ => none
  | .closed i =>
    match s.calls[i]? with
    | some (.connect key ws (.closing a)) => some (s.proceed m i key ws (some a))
    | _ => none
  | .sentText i ok =>
    match s.calls[i]? with
    | some (.send call) =>
      match call.phase with
      | .sending a ws =>
        if ok then some (s.loop m i a call)
        else some ((s.forget call.key ws).loop m i a { call with stale := call.stale ++ [ws] })
      | _ => none
    | _ => none
  | .abort i =>
    match s.calls[i]? with
    | some call => if call.suspended then some (s.setCall i call.abort) else none
    | none => none

end State

/-- What a sending call is told about a step: its list has changed, and those that are not
registered for its key any more have not stayed. -/
def Call.observe (r r' : Registry) : Call → Call
  | .connect key ws phase => .connect key ws phase
  | .send call =>
    match call.phase with
    | .sending a _ => .send { call with
        cursor := (call.cursor.change (r.heap a) (r'.heap a)).keep (r'.conns call.key) }
    | _ => .send call

/-- A step, with what the sending calls are told. -/
def State.next (m : Manager) (s : State) (action : Action) : Option State :=
  (s.act m action).map fun s' =>
    { s' with calls := s'.calls.map (Call.observe s.registry s'.registry) }

/-- The runs of a manager. -/
def socketSystem (m : Manager) : Lts State Action := Lts.ofNext (State.next m)


/-! ### What a step can do -/

/-- The socket that a suspended `connect` is going to register. -/
def Call.waiting : Call → Option Socket
  | .connect _ ws (.closing _) => some ws
  | _ => none

/-- A `connect` goes on: with its list, and the sockets that are accepted by now. -/
inductive Resumes (s : State) : Action → ℕ → String → Socket → Option ℕ → List Socket → Prop
  | accepted {i : ℕ} {key : String} {ws : Socket}
      (hcall : s.calls[i]? = some (.connect key ws .accepting)) (hnew : ws ∉ s.accepted) :
      Resumes s (.accepted i) i key ws (s.registry.active key) (ws :: s.accepted)
  | closed {i : ℕ} {key : String} {ws : Socket} {a : ℕ}
      (hcall : s.calls[i]? = some (.connect key ws (.closing a))) :
      Resumes s (.closed i) i key ws (some a) s.accepted

/-- The stale sockets of a call and the live ones after a `send_text`. -/
def Heard (s : State) (call : SendCall) (ws : Socket) (stale : List Socket)
    (live : List (String × Socket)) : Prop :=
  stale = call.stale ∧ live = s.live ∨
    stale = call.stale ++ [ws] ∧ live = s.live.filter (· ≠ (call.key, ws))

/-- What a step can do. -/
inductive Move (m : Manager) (s : State) : Action → State → Prop
  | connect {key : String} {ws : Socket} :
      Move m s (.connect key ws) { s with calls := s.calls ++ [.connect key ws .accepting] }
  | disconnect {key : String} {ws : Socket} :
      Move m s (.disconnect key ws) { s with
        registry := s.registry.disconnect m key ws, live := s.live.filter (· ≠ (key, ws)) }
  /-- There is no socket to send to. -/
  | sendNone {key : String} : Move m s (.send key) { s with
      calls := s.calls ++ [.send { key := key, phase := .returned, cursor := .start [] }] }
  | send {key : String} {a : ℕ} {ws : Socket} {cursor : Cursor Socket}
      (hkey : s.registry.active key = some a)
      (hvisit : (Cursor.start (s.registry.heap a)).visit (s.registry.heap a) = some (ws, cursor)) :
      Move m s (.send key) { s with
        calls := s.calls ++ [.send { key := key, phase := .sending a ws, cursor := cursor }] }
  /-- The oldest socket is closed. -/
  | evict {action : Action} {i a : ℕ} {key : String} {ws oldWs : Socket}
      {accepted rest : List Socket} (h : Resumes s action i key ws (some a) accepted)
      (hheap : s.registry.heap a = oldWs :: rest) (hfull : m.full (oldWs :: rest)) :
      Move m s action { s with
        calls := s.calls.set i (.connect key ws (.closing a)), accepted := accepted,
        registry := s.registry.popFirst a, live := s.live.filter (· ≠ (key, oldWs)) }
  | register {action : Action} {i : ℕ} {key : String} {ws : Socket} {a : Option ℕ}
      {accepted : List Socket} (h : Resumes s action i key ws a accepted)
      (hroom : a.elim [] s.registry.heap ≠ [] → m.full (a.elim [] s.registry.heap) = false) :
      Move m s action { s with
        calls := s.calls.set i (.connect key ws .returned), accepted := accepted,
        registry := s.registry.register key ws, live := s.live ++ [(key, ws)] }
  /-- The loop goes on with the next socket. -/
  | visit {i a : ℕ} {ok : Bool} {call : SendCall} {ws ws' : Socket} {cursor : Cursor Socket}
      {stale : List Socket} {live : List (String × Socket)}
      (hcall : s.calls[i]? = some (.send call)) (hphase : call.phase = .sending a ws)
      (hvisit : call.cursor.visit (s.registry.heap a) = some (ws', cursor))
      (hheard : Heard s call ws stale live) :
      Move m s (.sentText i ok) { s with
        calls := s.calls.set i (.send { call with
          phase := .sending a ws', cursor := cursor, stale := stale }), live := live }
  /-- The loop has ended. -/
  | returns {i a : ℕ} {ok : Bool} {call : SendCall} {ws : Socket}
      {stale : List Socket} {live : List (String × Socket)}
      (hcall : s.calls[i]? = some (.send call)) (hphase : call.phase = .sending a ws)
      (hvisit : call.cursor.visit (s.registry.heap a) = none)
      (hheard : Heard s call ws stale live) :
      Move m s (.sentText i ok) { s with
        calls := s.calls.set i (.send { call with phase := .returned, stale := stale }),
        registry := stale.foldl (fun r ws => r.disconnect m call.key ws) s.registry,
        live := live }
  | abort {i : ℕ} {call : Call} (hcall : s.calls[i]? = some call) :
      Move m s (.abort i) { s with calls := s.calls.set i call.abort }

/-! ### What always holds -/

/-- A suspended call holds a list of its key, a suspended `connect` has its socket in no list, and
a loop is sound. -/
def Call.Fine (r : Registry) (accepted : List Socket) : Call → Prop
  | .connect key ws phase =>
    ∀ a, phase = .closing a → r.Holds key a ∧ ws ∈ accepted ∧ ∀ b, ws ∉ r.heap b
  | .send call =>
    ∀ a ws, call.phase = .sending a ws → r.Holds call.key a ∧ call.cursor.Sound (r.heap a)

/-- No two calls are going to register the same socket. -/
def Alone (calls : List Call) : Prop :=
  ∀ (i j : ℕ) (call call' : Call) (ws : Socket), calls[i]? = some call → calls[j]? = some call' →
    call.waiting = some ws → call'.waiting = some ws → i = j

/-- What holds in every reachable state. -/
structure State.Good (s : State) : Prop where
  sound : s.registry.Sound
  accepted : ∀ a, ∀ ws ∈ s.registry.heap a, ws ∈ s.accepted
  fine : ∀ call ∈ s.calls, call.Fine s.registry s.accepted
  alone : Alone s.calls

variable {m : Manager} {s s' : State} {action : Action}

@[simp] theorem Call.waiting_observe (r r' : Registry) (call : Call) :
    (call.observe r r').waiting = call.waiting := by
  rcases call with ⟨key, ws, phase⟩ | call
  · rfl
  · simp only [Call.observe]
    split <;> rfl

theorem Call.Fine.mono {r : Registry} {accepted accepted' : List Socket} {call : Call}
    (h : call.Fine r accepted) (hsub : accepted ⊆ accepted') : call.Fine r accepted' := by
  rcases call with ⟨key, ws, phase⟩ | call
  · exact fun a ha => ⟨(h a ha).1, hsub (h a ha).2.1, (h a ha).2.2⟩
  · exact h

theorem Call.Fine.observe {r r' : Registry} {added : Option Socket} {accepted : List Socket}
    {call : Call} (h : call.Fine r accepted) (hr : r.Sound) (hturns : r.Turns added r')
    (hadded : ∀ ws, added = some ws → call.waiting ≠ some ws) :
    (call.observe r r').Fine r' accepted := by
  rcases call with ⟨key, ws, phase⟩ | call
  · rintro a rfl
    obtain ⟨hold, hacc, hnot⟩ := h a rfl
    refine ⟨hturns.holds key a hold, hacc, fun b hb => ?_⟩
    rcases hturns.mem b ws hb with hb | hb
    · exact hnot b hb
    · exact hadded ws hb rfl
  · simp only [Call.observe]
    split
    next a ws hphase =>
      intro a' ws' hphase'
      obtain ⟨rfl, rfl⟩ := SendPhase.sending.inj (hphase.symm.trans hphase')
      obtain ⟨hold, hcursor⟩ := h a ws hphase
      exact ⟨hturns.holds _ a hold, (hcursor.change (hr.nodup a) (hturns.changes a)).keep _⟩
    next hphase => exact fun a ws hphase' => absurd hphase' (hphase a ws)

theorem Alone.append {calls : List Call} {call : Call} (h : Alone calls)
    (hcall : call.waiting = none) : Alone (calls ++ [call]) := by
  have hold : ∀ (i : ℕ) (c : Call) (ws : Socket), (calls ++ [call])[i]? = some c →
      c.waiting = some ws → calls[i]? = some c := by
    intro i c ws hi hwaiting
    rw [List.getElem?_append] at hi
    split_ifs at hi
    · exact hi
    · obtain rfl := List.mem_singleton.1 (List.mem_of_getElem? hi)
      simp [hcall] at hwaiting
  intro i j c c' ws hi hj hc hc'
  exact h i j c c' ws (hold i c ws hi hc) (hold j c' ws hj hc') hc hc'

theorem Alone.set {calls : List Call} {i : ℕ} {call : Call} (h : Alone calls)
    (hcall : ∀ ws, call.waiting = some ws →
      ∀ j call', calls[j]? = some call' → call'.waiting = some ws → i = j) :
    Alone (calls.set i call) := by
  have hold : ∀ j c, (calls.set i call)[j]? = some c → i = j ∧ c = call ∨ calls[j]? = some c := by
    intro j c hj
    rw [List.getElem?_set] at hj
    split_ifs at hj with hij hlt
    · exact .inl ⟨hij, (Option.some.inj hj).symm⟩
    · exact .inr hj
  intro j k c c' ws hj hk hc hc'
  rcases hold j c hj with ⟨rfl, rfl⟩ | hj'
  · rcases hold k c' hk with ⟨rfl, -⟩ | hk'
    · rfl
    · exact hcall ws hc k c' hk' hc'
  · rcases hold k c' hk with ⟨rfl, rfl⟩ | hk'
    · exact (hcall ws hc' j c hj' hc).symm
    · exact h j k c c' ws hj' hk' hc hc'

/-- The calls are told what a step has done to the lists. -/
theorem State.Good.turn {added : Option Socket} (h : s.Good)
    (hturns : s.registry.Turns added s'.registry) (hsub : s.accepted ⊆ s'.accepted)
    (hadded : ∀ ws, added = some ws →
      ws ∈ s'.accepted ∧ ∀ call ∈ s'.calls, call.waiting ≠ some ws)
    (hfine : ∀ call ∈ s'.calls, call.Fine s.registry s'.accepted) (halone : Alone s'.calls) :
    State.Good { s' with calls := s'.calls.map (Call.observe s.registry s'.registry) } where
  sound := hturns.sound
  accepted a ws hws := by
    rcases hturns.mem a ws hws with hold | hnew
    · exact hsub (h.accepted a ws hold)
    · exact (hadded ws hnew).1
  fine call hcall := by
    obtain ⟨c, hc, rfl⟩ := List.mem_map.1 hcall
    exact (hfine c hc).observe h.sound hturns fun ws hws => (hadded ws hws).2 c hc
  alone i j c c' ws hi hj hc hc' := by
    simp only [List.getElem?_map, Option.map_eq_some_iff] at hi hj
    obtain ⟨c, hi, rfl⟩ := hi
    obtain ⟨c', hj, rfl⟩ := hj
    exact halone i j c c' ws hi hj (by simpa using hc) (by simpa using hc')

/-! ### The steps are moves -/

section Moves

variable {i : ℕ} {key : String} {ws : Socket} {a : Option ℕ} {accepted : List Socket}

/-- A socket whose `connect` goes on is in no list, and no other call waits for it. -/
theorem State.Good.resumes (h : s.Good) (hresumes : Resumes s action i key ws a accepted) :
    s.accepted ⊆ accepted ∧ ws ∈ accepted ∧ (∀ b, ws ∉ s.registry.heap b) ∧
      (∀ b, a = some b → s.registry.Holds key b) ∧
      ∀ (j : ℕ) (call : Call), s.calls[j]? = some call → call.waiting = some ws → i = j := by
  cases hresumes with
  | accepted hcall hnew =>
    refine ⟨fun x => List.mem_cons_of_mem _, List.mem_cons_self,
      fun b hb => hnew (h.accepted b ws hb), fun b hb => h.sound.holds hb, fun j call hj hc => ?_⟩
    -- a socket that a call waits for was accepted before
    refine absurd ?_ hnew
    rcases call with ⟨key', ws', phase⟩ | call
    · cases phase with
      | closing b =>
        obtain rfl := Option.some.inj hc
        exact (h.fine _ (List.mem_of_getElem? hj) b rfl).2.1
      | accepting => cases hc
      | returned => cases hc
      | aborted => cases hc
    · cases hc
  | closed hcall =>
    obtain ⟨hold, hacc, hnot⟩ := h.fine _ (List.mem_of_getElem? hcall) _ rfl
    refine ⟨fun x hx => hx, hacc, hnot, fun b hb => ?_, fun j call hj hc => ?_⟩
    · obtain rfl := Option.some.inj hb
      exact hold
    · exact h.alone i j _ call ws hcall hj rfl hc

theorem move_proceed (h : s.Good) (hresumes : Resumes s action i key ws a accepted) :
    Move m s action ({ s with accepted := accepted }.proceed m i key ws a) := by
  obtain ⟨-, -, hnot, -, -⟩ := h.resumes hresumes
  cases a with
  | none => exact .register hresumes fun hne => absurd rfl hne
  | some a =>
    unfold State.proceed
    cases hheap : s.registry.heap a with
    | nil =>
      simp only [Option.elim_some, hheap]
      exact .register hresumes fun hne => absurd hheap hne
    | cons oldWs rest =>
      simp only [Option.elim_some, hheap]
      by_cases hfull : m.full (oldWs :: rest)
      · rw [if_pos hfull]
        exact .evict hresumes hheap hfull
      · -- the socket is in no list
        have hmem : ¬ (m.idempotent = true ∧ ws ∈ oldWs :: rest) := by
          rintro ⟨-, hmem⟩
          exact hnot a (hheap ▸ hmem)
        rw [if_neg hfull, if_neg hmem]
        refine .register hresumes fun _ => ?_
        rw [Option.elim_some, hheap]
        exact eq_false_of_ne_true hfull

theorem move_loop {call : SendCall} {a : ℕ} {ok : Bool} {stale : List Socket}
    {live : List (String × Socket)} (hcall : s.calls[i]? = some (.send call))
    (hphase : call.phase = .sending a ws) (hheard : Heard s call ws stale live) :
    Move m s (.sentText i ok)
      ({ s with live := live }.loop m i a { call with stale := stale }) := by
  unfold State.loop
  cases hvisit : call.cursor.visit (s.registry.heap a) with
  | none =>
    simp only [State.setCall]
    exact .returns hcall hphase hvisit hheard
  | some next =>
    simp only [State.setCall]
    exact .visit hcall hphase hvisit hheard

/-- **What a step can do.** -/
theorem move_of_act (h : s.Good) (hact : s.act m action = some s') : Move m s action s' := by
  cases action with
  | connect key ws =>
    obtain rfl := Option.some.inj hact
    exact .connect
  | disconnect key ws =>
    obtain rfl := Option.some.inj hact
    exact .disconnect
  | send key =>
    simp only [State.act] at hact
    split at hact
    next hkey =>
      obtain rfl := Option.some.inj hact
      simp only [Registry.conns, hkey, Option.elim_none]
      exact .sendNone
    next a hkey =>
      obtain rfl := Option.some.inj hact
      rw [Registry.conns_of_active hkey]
      split_ifs with hempty
      · rw [hempty]
        exact .sendNone
      · -- the loop comes to the first socket
        unfold State.loop
        cases hvisit : (Cursor.start (s.registry.heap a)).visit (s.registry.heap a) with
        | none =>
          have hlen := Cursor.visit_eq_none_iff.1 hvisit
          exact absurd (List.length_eq_zero_iff.1 (Nat.le_zero.1 hlen)) hempty
        | some next =>
          simp only [State.setCall, List.set_append_right _ _ le_rfl, Nat.sub_self]
          exact .send hkey hvisit
  | accepted i =>
    -- the call is resumed where it waits for its socket to be accepted
    simp only [State.act] at hact
    split at hact
    next key ws hcall =>
      split_ifs at hact with hnew
      obtain rfl := Option.some.inj hact
      exact move_proceed h (.accepted hcall hnew)
    next => cases hact
  | closed i =>
    simp only [State.act] at hact
    split at hact
    next key ws a hcall =>
      obtain rfl := Option.some.inj hact
      exact move_proceed h (.closed hcall)
    next => cases hact
  | sentText i ok =>
    simp only [State.act] at hact
    split at hact
    next call hcall =>
      split at hact
      next a ws hphase =>
        -- a socket that fails is stale from here on
        split_ifs at hact
        · obtain rfl := Option.some.inj hact
          exact move_loop hcall hphase (.inl ⟨rfl, rfl⟩)
        · obtain rfl := Option.some.inj hact
          exact move_loop hcall hphase (.inr ⟨rfl, rfl⟩)
      next => cases hact
    next => cases hact
  | abort i =>
    simp only [State.act] at hact
    split at hact
    next call hcall =>
      split_ifs at hact
      obtain rfl := Option.some.inj hact
      exact .abort hcall
    next => cases hact

end Moves

/-! ### Every move keeps the state good -/

theorem disconnects_shrink {r : Registry} (hr : r.Sound) (key : String) (stale : List Socket) :
    r.Shrinks (stale.foldl (fun r ws => r.disconnect m key ws) r) := by
  induction stale generalizing r with
  | nil => exact .refl r
  | cons ws stale ih =>
    have hfirst : r.Shrinks (r.disconnect m key ws) := Registry.shrinks_disconnect hr
    exact hfirst.trans (ih (hfirst.turns hr).sound)

theorem fine_set {calls : List Call} {r : Registry} {accepted : List Socket} {i : ℕ} {call : Call}
    (h : ∀ c ∈ calls, c.Fine r accepted) (hcall : call.Fine r accepted) :
    ∀ c ∈ calls.set i call, c.Fine r accepted := by
  intro c hc
  rcases List.mem_or_eq_of_mem_set hc with hc | rfl
  · exact h c hc
  · exact hcall

theorem fine_append {calls : List Call} {r : Registry} {accepted : List Socket} {call : Call}
    (h : ∀ c ∈ calls, c.Fine r accepted) (hcall : call.Fine r accepted) :
    ∀ c ∈ calls ++ [call], c.Fine r accepted := by
  intro c hc
  rcases List.mem_append.1 hc with hc | hc
  · exact h c hc
  · rwa [List.mem_singleton.1 hc]

theorem Call.fine_abort (call : Call) (r : Registry) (accepted : List Socket) :
    call.abort.Fine r accepted := by
  rcases call with ⟨key, ws, phase⟩ | call
  · exact fun a ha => by cases ha
  · exact fun a ws ha => by cases ha

theorem Call.waiting_abort (call : Call) : call.abort.waiting = none := by
  rcases call with ⟨key, ws, phase⟩ | call <;> rfl

/-- Nothing is added when the calls that wait for a socket are none but those before. -/
theorem good_of_move (h : s.Good) (hmove : Move m s action s') :
    State.Good { s' with calls := s'.calls.map (Call.observe s.registry s'.registry) } := by
  have hnone : ∀ (calls : List Call) (ws : Socket), (none : Option Socket) = some ws →
      ws ∈ s.accepted ∧ ∀ call ∈ calls, call.waiting ≠ some ws := by
    intro calls ws hws
    cases hws
  have hsame : s.registry.Turns none s.registry := (Registry.Shrinks.refl _).turns h.sound
  cases hmove with
  | connect =>
    exact h.turn hsame (List.Subset.refl _) (hnone _)
      (fine_append h.fine fun a ha => by cases ha) (h.alone.append rfl)
  | disconnect =>
    exact h.turn ((Registry.shrinks_disconnect h.sound).turns h.sound) (List.Subset.refl _)
      (hnone _) h.fine h.alone
  | sendNone =>
    exact h.turn hsame (List.Subset.refl _) (hnone _)
      (fine_append h.fine fun a ws ha => by cases ha) (h.alone.append rfl)
  | @send key a ws cursor hkey hvisit =>
    refine h.turn hsame (List.Subset.refl _) (hnone _)
      (fine_append h.fine fun b ws' hb => ?_) (h.alone.append rfl)
    obtain ⟨rfl, rfl⟩ := SendPhase.sending.inj hb
    exact ⟨h.sound.holds hkey, (Cursor.sound_start _).visit (h.sound.nodup a) hvisit⟩
  | @evict action i a key ws oldWs accepted rest hresumes hheap hfull =>
    obtain ⟨hsub, hacc, hnot, hold, halone⟩ := h.resumes hresumes
    refine h.turn ((Registry.shrinks_popFirst _ a).turns h.sound) hsub
      (fun ws hws => by cases hws)
      (fine_set (fun c hc => (h.fine c hc).mono hsub) fun b hb => ?_)
      (h.alone.set fun ws' hws' => ?_)
    · obtain rfl := ConnectPhase.closing.inj hb
      exact ⟨hold a rfl, hacc, hnot⟩
    · obtain rfl := Option.some.inj hws'
      exact halone
  | @register action i key ws a accepted hresumes hroom =>
    obtain ⟨hsub, hacc, hnot, hold, halone⟩ := h.resumes hresumes
    refine h.turn (Registry.turns_register h.sound hnot) hsub (fun ws' hws' => ?_)
      (fine_set (fun c hc => (h.fine c hc).mono hsub) fun b hb => by cases hb)
      (h.alone.set fun ws' hws' => by cases hws')
    obtain rfl := Option.some.inj hws'
    refine ⟨hacc, fun c hc hwaiting => ?_⟩
    -- the call that waited for the socket has returned
    obtain ⟨j, hj⟩ := List.getElem?_of_mem hc
    rw [List.getElem?_set] at hj
    split_ifs at hj with hij hlt
    · obtain rfl := Option.some.inj hj
      cases hwaiting
    · exact hij (halone j c hj hwaiting)
  | @visit i a ok call ws ws' cursor stale live hcall hphase hvisit hheard =>
    obtain ⟨hold, hcursor⟩ := h.fine _ (List.mem_of_getElem? hcall) a ws hphase
    refine h.turn hsame (List.Subset.refl _) (hnone _) (fine_set h.fine fun b ws'' hb => ?_)
      (h.alone.set fun ws' hws' => by cases hws')
    obtain ⟨rfl, rfl⟩ := SendPhase.sending.inj hb
    exact ⟨hold, hcursor.visit (h.sound.nodup a) hvisit⟩
  | @returns i a ok call ws stale live hcall hphase hvisit hheard =>
    exact h.turn ((disconnects_shrink h.sound call.key stale).turns h.sound)
      (List.Subset.refl _) (hnone _) (fine_set h.fine fun b ws' hb => by cases hb)
      (h.alone.set fun ws' hws' => by cases hws')
  | @abort i call hcall =>
    refine h.turn hsame (List.Subset.refl _) (hnone _)
      (fine_set h.fine (call.fine_abort _ _)) (h.alone.set fun ws hws => ?_)
    rw [call.waiting_abort] at hws
    cases hws

theorem good_empty : State.Good {} where
  sound := ⟨fun _ _ h => (nomatch h), fun _ _ _ h => (nomatch h), fun _ _ => rfl,
    fun _ => List.nodup_nil, fun _ _ _ h => (nomatch h)⟩
  accepted _ _ h := nomatch h
  fine _ h := nomatch h
  alone _ _ _ _ _ h := nomatch h

/-- A step does a move, and then the calls are told of it. -/
theorem next_cases (h : s.Good) (hnext : s.next m action = some s') : ∃ s₁, Move m s action s₁ ∧
    s' = { s₁ with calls := s₁.calls.map (Call.observe s.registry s₁.registry) } := by
  obtain ⟨s₁, hact, rfl⟩ := Option.map_eq_some_iff.1 hnext
  exact ⟨s₁, move_of_act h hact, rfl⟩

theorem good_next (h : s.Good) (hnext : s.next m action = some s') : s'.Good := by
  obtain ⟨s₁, hmove, rfl⟩ := next_cases h hnext
  exact good_of_move h hmove

end Sockets

end OmsWmsTms
