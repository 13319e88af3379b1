import OmsWmsTms.Lts.Basic
import Mathlib.Data.List.Infix

/-!
# Requests as units of work

A request handler reads committed rows, one statement after another, and collects its changes; a
commit flushes them together, and the constraints of the database may refuse them.  Between two
statements of a request the other requests of the server take theirs.

* `Prog D W E A` : handlers over a database `D`; they write `W`, raise `E` or return `A`.
* `system` : the requests of a server, interleaved at their statements; each may also be cut off.
* `State.log` : the answers, each with the journals at the call and at the answer.
* `History J` : the journals of writes that are each justified, by `J`, by the writes before them.
* `Prog.Justified` : what a handler writes and answers follows from what it has read, however stale
  that is.
* `sound_run_since`, `sound_run` : the journal of a server whose handlers are justified is a
  history, and an answer is true of a moment between the call and the answer.
-/

namespace OmsWmsTms

namespace Uow

/-- The rest of a request handler. -/
inductive Prog (D W E A : Type)
  /-- Return a value. -/
  | ret (a : A)
  /-- Raise an exception; the session drops what it has collected. -/
  | throw (e : E)
  /-- A statement that reads the committed rows. -/
  | read (next : D → Prog D W E A)
  /-- Flush the changes and commit. -/
  | commit (write : W) (next : Prog D W E A)

/-- Go on with the value of a computation without statements, or raise its exception. -/
def Prog.withOk {D W E A B : Type} (x : Except E B) (next : B → Prog D W E A) : Prog D W E A :=
  match x with
  | .ok b => next b
  | .error e => .throw e

/-- A handler that runs alone: its outcome, and the database after it. -/
def Prog.alone {D W E A : Type} (apply : W → D → Except E D) : Prog D W E A → D → Except E A × D
  | .ret a, d => (.ok a, d)
  | .throw e, d => (.error e, d)
  | .read next, d => (next d).alone apply d
  | .commit w next, d =>
    match apply w d with
    | .ok d => next.alone apply d
    | .error e => (.error e, d)

/-- A request under way. -/
structure Call (D W Q E A : Type) where
  request : Q
  /-- The journal when the request came in. -/
  since : List W
  /-- The statements that are left. -/
  rest : Prog D W E A

/-- What a request has been answered. -/
structure Answer (W Q E A : Type) where
  request : Q
  /-- The journal when the request came in. -/
  since : List W
  /-- The journal when it was answered. -/
  till : List W
  outcome : Except E A

/-- A server: its database, the writes committed so far, the requests under way, and the answers
given. -/
structure State (D W Q E A : Type) where
  db : D
  /-- The writes, in the order of their commits. -/
  journal : List W := []
  flight : List (Call D W Q E A) := []
  log : List (Answer W Q E A) := []

/-- The requests that have been answered, and what. -/
def State.answers {D W Q E A : Type} (s : State D W Q E A) : List (Q × Except E A) :=
  s.log.map fun answer => (answer.request, answer.outcome)

/-- What happens next on a server. -/
inductive Label (Q : Type)
  /-- A request comes in. -/
  | call (q : Q)
  /-- A request takes its next statement. -/
  | step (i : ℕ)
  /-- A request is cut off. -/
  | drop (i : ℕ)

section System

variable {D W Q E A : Type} (apply : W → D → Except E D) (handler : Q → Prog D W E A)

/-- A request is answered. -/
def State.answer (s : State D W Q E A) (i : ℕ) (call : Call D W Q E A) (outcome : Except E A) :
    State D W Q E A :=
  { s with
    flight := s.flight.eraseIdx i
    log := s.log ++ [⟨call.request, call.since, s.journal, outcome⟩] }

/-- The next statement of a request. -/
def State.advance (s : State D W Q E A) (i : ℕ) (call : Call D W Q E A) : State D W Q E A :=
  match call.rest with
  | .ret a => s.answer i call (.ok a)
  | .throw e => s.answer i call (.error e)
  | .read next => { s with flight := s.flight.set i { call with rest := next s.db } }
  | .commit w next =>
    match apply w s.db with
    | .ok db =>
      { s with
        db := db
        journal := s.journal ++ [w]
        flight := s.flight.set i { call with rest := next } }
    | .error e => s.answer i call (.error e)

/-- A step of a server. -/
def State.next (s : State D W Q E A) : Label Q → Option (State D W Q E A)
  | .call q => some { s with flight := s.flight ++ [⟨q, s.journal, handler q⟩] }
  | .step i => s.flight[i]?.map fun call => s.advance apply i call
  | .drop i => some { s with flight := s.flight.eraseIdx i }

/-- **The requests of a server**, interleaved at their statements. -/
def system : Lts (State D W Q E A) (Label Q) := .ofNext (State.next apply handler)

/-- A server before its first request. -/
def State.init (d₀ : D) : State D W Q E A where
  db := d₀

/-! ### Histories -/

variable (J : List W → W → Prop) (d₀ : D)

/-- The journals of writes that succeed one after another, each of them justified by the writes
before it, with the database that they lead to. -/
inductive History : List W → D → Prop
  | start : History [] d₀
  | commit {ws : List W} {w : W} {d d' : D} :
    History ws d → J ws w → apply w d = .ok d' → History (ws ++ [w]) d'

/-- The journals of writes that succeed, with the database that they lead to. -/
abbrev Committed : List W → D → Prop := History apply (fun _ _ => True) d₀

variable {apply handler J d₀} {ws past : List W} {w : W} {d d' : D}

theorem History.committed (h : History apply J d₀ ws d) : Committed apply d₀ ws d := by
  induction h with
  | start => exact .start
  | commit _ _ happly ih => exact .commit ih trivial happly

theorem Committed.nil_eq (h : Committed apply d₀ [] d) : d = d₀ := by
  generalize hws : ([] : List W) = ws at h
  cases h with
  | start => rfl
  | commit => simp at hws

/-- The last write of a journal, and the database before it. -/
theorem History.concat (h : History apply J d₀ (ws ++ [w]) d') :
    ∃ d, History apply J d₀ ws d ∧ J ws w ∧ apply w d = .ok d' := by
  generalize hws : ws ++ [w] = ws' at h
  cases h with
  | start => simp at hws
  | commit hrest hJ happly =>
    obtain ⟨rfl, hw⟩ := List.append_inj' hws rfl
    cases hw
    exact ⟨_, hrest, hJ, happly⟩

/-- A journal leads to one database. -/
theorem Committed.unique (h : Committed apply d₀ ws d) (h' : Committed apply d₀ ws d') :
    d = d' := by
  induction h generalizing d' with
  | start => exact h'.nil_eq.symm
  | commit _ _ happly ih =>
    obtain ⟨d'', hrest, -, happly'⟩ := h'.concat
    obtain rfl := ih hrest
    rw [happly] at happly'
    exact Except.ok.inj happly'

/-- The beginnings of a history are histories. -/
theorem History.before (h : History apply J d₀ ws d) (hpast : past <+: ws) :
    ∃ d', History apply J d₀ past d' := by
  induction h with
  | start =>
    obtain rfl := List.prefix_nil.1 hpast
    exact ⟨_, .start⟩
  | commit hrest hJ happly ih =>
    rcases List.prefix_concat_iff.1 hpast with rfl | hpast
    · exact ⟨_, .commit hrest hJ happly⟩
    · exact ih hpast

/-- What was committed at the beginning of a history has a history. -/
theorem History.at (h : History apply J d₀ ws d) (hpast : past <+: ws)
    (hd' : Committed apply d₀ past d') : History apply J d₀ past d' := by
  obtain ⟨d'', hd''⟩ := h.before hpast
  rwa [hd'.unique hd''.committed]

/-- Each write of a history is justified by those before it. -/
theorem History.justified (h : History apply J d₀ ws d) {before after : List W}
    (hws : ws = before ++ w :: after) :
    J before w ∧ ∃ d d', History apply J d₀ before d ∧ apply w d = .ok d' := by
  subst hws
  have hprefix : before ++ [w] <+: before ++ w :: after := ⟨after, by simp⟩
  obtain ⟨d', hd'⟩ := h.before hprefix
  obtain ⟨d, hd, hJ, happly⟩ := hd'.concat
  exact ⟨hJ, d, d', hd, happly⟩

/-- **The invariant rule for histories.** -/
theorem History.invariant {I : D → Prop} (h : History apply J d₀ ws d) (h₀ : I d₀)
    (hstep : ∀ ws w d d', History apply J d₀ ws d → I d → J ws w → apply w d = .ok d' → I d') :
    I d := by
  induction h with
  | start => exact h₀
  | commit hrest hJ happly ih => exact hstep _ _ _ _ hrest ih hJ happly

/-! ### Justified handlers -/

variable (apply J d₀)

/-- A handler that goes by what it knows of the journal: its writes are justified, and its answers
true of a journal.  It knows that what it has read was committed at some moment, each time at a
later one, and what it has itself written. -/
def Prog.Justified (Post : A → List W → Prop) : Prog D W E A → (List W → Prop) → Prop
  | .ret a, K => ∀ ws, K ws → Post a ws
  | .throw _, _ => True
  | .read next, K => ∀ d, (next d).Justified Post fun ws =>
      ∃ past, past <+: ws ∧ K past ∧ Committed apply d₀ past d
  | .commit w next, K => (∀ ws, K ws → J ws w) ∧
      next.Justified Post fun ws => ∃ past, past ++ [w] <+: ws ∧ K past

variable {apply J d₀} {Post : A → List W → Prop} {K K' : List W → Prop}

/-- Knowing more does not hurt. -/
theorem Prog.Justified.mono {p : Prog D W E A} (h : p.Justified apply J d₀ Post K)
    (hK : ∀ ws, K' ws → K ws) : p.Justified apply J d₀ Post K' := by
  induction p generalizing K K' with
  | ret a =>
    intro ws hws
    exact h ws (hK ws hws)
  | throw e => trivial
  | read next ih =>
    intro d
    refine ih d (h d) ?_
    rintro ws ⟨past, hpast, hknown, hd⟩
    exact ⟨past, hpast, hK past hknown, hd⟩
  | commit w next ih =>
    refine ⟨fun ws hws => h.1 ws (hK ws hws), ih h.2 ?_⟩
    rintro ws ⟨past, hpast, hknown⟩
    exact ⟨past, hpast, hK past hknown⟩

/-- What is read was committed at some moment from now on. -/
theorem Prog.justified_read {next : D → Prog D W E A}
    (h : ∀ d, (next d).Justified apply J d₀ Post fun ws =>
      ∃ past, past <+: ws ∧ K past ∧ Committed apply d₀ past d) :
    (Prog.read next).Justified apply J d₀ Post K := h

/-- A computation without statements. -/
theorem Prog.justified_withOk {B : Type} {x : Except E B} {next : B → Prog D W E A}
    (h : ∀ b, x = .ok b → (next b).Justified apply J d₀ Post K) :
    (Prog.withOk x next).Justified apply J d₀ Post K := by
  cases x with
  | ok b => exact h b rfl
  | error e => trivial

/-- A fact that later writes do not take away. -/
def Stable (K : List W → Prop) : Prop := ∀ ws ws', ws <+: ws' → K ws → K ws'

/-- A server whose journal is a history: each request under way goes by something that is known of
the journal, and each answer was true when it was given. -/
structure Sound (apply : W → D → Except E D) (J : List W → W → Prop) (d₀ : D)
    (Post : Q → List W → A → List W → Prop) (s : State D W Q E A) : Prop where
  history : History apply J d₀ s.journal s.db
  flight : ∀ call ∈ s.flight, call.since <+: s.journal ∧ ∃ K, Stable K ∧ K s.journal ∧
    call.rest.Justified apply J d₀ (Post call.request call.since) K
  log : ∀ answer ∈ s.log, answer.since <+: answer.till ∧ answer.till <+: s.journal ∧
    ∀ a, answer.outcome = .ok a → Post answer.request answer.since a answer.till

section Sound

variable {PostOf : Q → List W → A → List W → Prop} {s s' : State D W Q E A} {i : ℕ}
  {call : Call D W Q E A} {outcome : Except E A} {q : Q} {a : A}

/-- What a request has been answered, for the journals at its call and at its answer. -/
theorem State.mem_answers :
    (q, outcome) ∈ s.answers ↔ ∃ since till, ⟨q, since, till, outcome⟩ ∈ s.log := by
  unfold State.answers
  constructor
  · intro h
    obtain ⟨answer, hanswer, heq⟩ := List.mem_map.1 h
    cases heq
    exact ⟨answer.since, answer.till, hanswer⟩
  · rintro ⟨since, till, h⟩
    exact List.mem_map.2 ⟨_, h, rfl⟩

/-- An answer was true when it was given. -/
theorem Sound.answers (h : Sound apply J d₀ PostOf s) (hanswer : (q, .ok a) ∈ s.answers) :
    ∃ since past, past <+: s.journal ∧ PostOf q since a past := by
  obtain ⟨since, till, hlog⟩ := State.mem_answers.1 hanswer
  obtain ⟨-, htill, hpost⟩ := h.log _ hlog
  exact ⟨since, till, htill, hpost a rfl⟩

theorem Sound.erase (h : Sound apply J d₀ PostOf s) (i : ℕ) :
    Sound apply J d₀ PostOf { s with flight := s.flight.eraseIdx i } where
  history := h.history
  flight call hcall := h.flight call (List.mem_of_mem_eraseIdx hcall)
  log := h.log

theorem Sound.answer (h : Sound apply J d₀ PostOf s) (hsince : call.since <+: s.journal)
    (houtcome : ∀ a, outcome = .ok a → PostOf call.request call.since a s.journal) :
    Sound apply J d₀ PostOf (s.answer i call outcome) where
  history := h.history
  flight := (h.erase i).flight
  log answer hanswer := by
    rcases List.mem_append.1 hanswer with hold | hnew
    · exact h.log answer hold
    · obtain rfl := List.mem_singleton.1 hnew
      exact ⟨hsince, List.prefix_rfl, houtcome⟩

/-- A request goes on, and the journal may have grown. -/
theorem Sound.goes (h : Sound apply J d₀ PostOf s) (i : ℕ) {db : D} {journal : List W}
    (hjournal : s.journal <+: journal) (hhistory : History apply J d₀ journal db)
    (hsince : call.since <+: s.journal)
    (hcall : ∃ K, Stable K ∧ K journal ∧
      call.rest.Justified apply J d₀ (PostOf call.request call.since) K) :
    Sound apply J d₀ PostOf { s with db := db, journal := journal, flight := s.flight.set i call }
    where
  history := hhistory
  flight other hother := by
    rcases List.mem_or_eq_of_mem_set hother with hold | rfl
    · obtain ⟨hsince', K, hstable, hK, hjust⟩ := h.flight other hold
      exact ⟨hsince'.trans hjournal, K, hstable, hstable _ _ hjournal hK, hjust⟩
    · exact ⟨hsince.trans hjournal, hcall⟩
  log answer hanswer := by
    obtain ⟨hsince', htill, hpost⟩ := h.log answer hanswer
    exact ⟨hsince', htill.trans hjournal, hpost⟩

/-- **The next statement of a request** keeps the server sound. -/
theorem Sound.advance (h : Sound apply J d₀ PostOf s) (hcall : call ∈ s.flight) :
    Sound apply J d₀ PostOf (s.advance apply i call) := by
  obtain ⟨hsince, K, hstable, hK, hjust⟩ := h.flight _ hcall
  obtain ⟨q, since, rest⟩ := call
  cases rest with
  | ret a =>
    refine h.answer hsince fun a' ha' => ?_
    cases ha'
    exact hjust s.journal hK
  | throw e => exact h.answer hsince nofun
  | read next =>
    refine h.goes i List.prefix_rfl h.history hsince ⟨_, ?_, ?_, hjust s.db⟩
    · rintro ws ws' hws ⟨past, hpast, hknown, hd⟩
      exact ⟨past, hpast.trans hws, hknown, hd⟩
    · exact ⟨s.journal, List.prefix_rfl, hK, h.history.committed⟩
  | commit w next =>
    simp only [State.advance]
    cases happly : apply w s.db with
    | error e => exact h.answer hsince nofun
    | ok db =>
      refine h.goes i (List.prefix_append _ _) (.commit h.history (hjust.1 _ hK) happly) hsince
        ⟨_, ?_, ?_, hjust.2⟩
      · rintro ws ws' hws ⟨past, hpast, hknown⟩
        exact ⟨past, hpast.trans hws, hknown⟩
      · exact ⟨s.journal, List.prefix_rfl, hK⟩

/-- A step keeps the server sound. -/
theorem Sound.next {l : Label Q} (hhandler : ∀ q since,
      (handler q).Justified apply J d₀ (PostOf q since) fun ws => since <+: ws)
    (h : Sound apply J d₀ PostOf s) (hstep : (system apply handler).step s l s') :
    Sound apply J d₀ PostOf s' := by
  replace hstep : s.next apply handler l = some s' := hstep
  cases l with
  | call q =>
    cases hstep
    refine ⟨h.history, fun call hcall => ?_, h.log⟩
    rcases List.mem_append.1 hcall with hold | hnew
    · exact h.flight call hold
    · obtain rfl := List.mem_singleton.1 hnew
      exact ⟨List.prefix_rfl, (s.journal <+: ·), fun _ _ hws hsince => hsince.trans hws,
        List.prefix_rfl, hhandler q s.journal⟩
  | step i =>
    obtain ⟨call, hcall, rfl⟩ := Option.map_eq_some_iff.1 hstep
    exact h.advance (List.mem_of_getElem? hcall)
  | drop i =>
    cases hstep
    exact h.erase i

/-- **The journal of a server whose handlers are justified is a history**, and its answers were true
when they were given; a handler knows the journal at its call. -/
theorem sound_run_since {ls : List (Label Q)} (hhandler : ∀ q since,
      (handler q).Justified apply J d₀ (PostOf q since) fun ws => since <+: ws)
    (hrun : (system apply handler).Run (.init d₀) ls s) : Sound apply J d₀ PostOf s := by
  refine hrun.invariant ?_ fun _ _ _ h hstep => h.next hhandler hstep
  exact ⟨.start, fun _ h => (by cases h), fun _ h => (by cases h)⟩

/-- A server whose handlers do not go by the journal at their calls. -/
theorem sound_run {Post : Q → A → List W → Prop} {ls : List (Label Q)} (hhandler : ∀ q,
      (handler q).Justified apply J d₀ (Post q) fun _ => True)
    (hrun : (system apply handler).Run (.init d₀) ls s) :
    Sound apply J d₀ (fun q _ => Post q) s :=
  sound_run_since (fun q _ => (hhandler q).mono fun _ _ => trivial) hrun

end Sound

end System

end Uow

end OmsWmsTms
