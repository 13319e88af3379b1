import OmsWmsTms.Core.Clock
import OmsWmsTms.Data.Keyspace
import OmsWmsTms.Lts.Basic

/-!
# The distributed lock

`distributed_lock` of `src/cache/decorators.py`: `SET NX EX`, the wrapped function, `DEL`.  Any
number of calls with one lock key run at a time.  The value of the key does not tell whose lock it
is, and the handler of every exception runs the function again, without a lock.

* `Phase`, `Locks.next`, `lockSystem` : the statements of the calls.
* `Locks.next_acquire` and the lemmas beside it : what a step does.
* `Excludes` : a body runs only under a lock of its own call, alone until the lock of the first has
  expired, and a release removes no other lock.
* `Undisturbed` : no command fails, no body raises, and a release comes before another call has
  taken the lock over.
* `excludes_iff` : the runs of such steps.
-/

namespace OmsWmsTms

namespace Cache

/-- How the wrapped function ends. -/
inductive Ending
  /-- It returns. -/
  | returned
  /-- It raises an `Exception`. -/
  | raised
  /-- It raises a `BaseException` that is none, as a cancelled task does. -/
  | cancelled
deriving DecidableEq

/-- A lock that a call has acquired. -/
structure Held where
  /-- When it was set. -/
  since : ℤ
  /-- When it expires. -/
  expires : ℤ
deriving DecidableEq

/-- Where a call stands. -/
inductive Phase
  /-- Before its `SET`, with the timeout of its lock. -/
  | called (timeout : ℤ)
  /-- The lock is set, and the answer is on its way. -/
  | granted (lock : Held)
  /-- The function runs under the lock. -/
  | body (lock : Held)
  /-- The function has ended, and the lock is still to be released. -/
  | releasing (ending : Ending)
  /-- The function runs in the handler, without a lock. -/
  | unlocked
  | done
deriving DecidableEq

/-- The server, and the calls. -/
structure Locks where
  redis : Keyspace String String
  /-- The time of the last step. -/
  clock : ℤ
  calls : List Phase := []
  /-- The call that has set the lock last. -/
  owner : Option ℕ := none

/-- A step of a call. -/
inductive LockStep
  | call (timeout : ℤ)
  /-- The `SET` of a call. -/
  | acquire (i : ℕ) (now : ℤ) (reply : Reply)
  /-- The function is called. -/
  | start (i : ℕ)
  /-- The function ends. -/
  | finish (i : ℕ) (ending : Ending)
  /-- The `DEL` of a call. -/
  | release (i : ℕ) (now : ℤ) (reply : Reply)
  /-- The function ends in the handler. -/
  | finishUnlocked (i : ℕ)
deriving DecidableEq

variable (key : String)

/-- `lock_key`. -/
def lockKey : String := "lock:" ++ key

/-- The phase after a release that was answered: an exception of the function reaches the
handler. -/
def Phase.released : Ending → Phase
  | .raised => .unlocked
  | .returned | .cancelled => .done

/-- A step, at a time that does not go back. -/
def Locks.next (s : Locks) : LockStep → Option Locks
  | .call timeout =>
    -- Redis refuses an expiry that is not positive
    if 0 < timeout then some { s with calls := s.calls ++ [.called timeout] } else none
  | .acquire i now reply =>
    match s.calls[i]? with
    | some (.called timeout) =>
      if s.clock ≤ now then
        let (acquired, redis) := s.redis.setNx now (lockKey key) "locked" (timeout * second)
        let owner := if acquired then some i else s.owner
        let phase : Phase := if acquired then .granted ⟨now, now + timeout * second⟩ else .done
        match reply with
        | .ok => some { clock := now, redis := redis, owner := owner, calls := s.calls.set i phase }
        | .unanswered => some {
            clock := now, redis := redis, owner := owner, calls := s.calls.set i .unlocked }
        | .unsent => some { s with clock := now, calls := s.calls.set i .unlocked }
      else none
    | _ => none
  | .start i =>
    match s.calls[i]? with
    | some (.granted lock) => some { s with calls := s.calls.set i (.body lock) }
    | _ => none
  | .finish i ending =>
    match s.calls[i]? with
    | some (.body _) => some { s with calls := s.calls.set i (.releasing ending) }
    | _ => none
  | .release i now reply =>
    match s.calls[i]? with
    | some (.releasing ending) =>
      if s.clock ≤ now then
        let redis := s.redis.del (lockKey key)
        match reply with
        | .ok => some { s with
            clock := now, redis := redis, calls := s.calls.set i (.released ending) }
        | .unanswered => some { s with
            clock := now, redis := redis, calls := s.calls.set i .unlocked }
        | .unsent => some { s with clock := now, calls := s.calls.set i .unlocked }
      else none
    | _ => none
  | .finishUnlocked i =>
    match s.calls[i]? with
    | some .unlocked => some { s with calls := s.calls.set i .done }
    | _ => none

/-- The runs of the calls. -/
def lockSystem : Lts Locks LockStep := Lts.ofNext (Locks.next key)

/-! ### Mutual exclusion -/

/-- Mutual exclusion, for a step. -/
structure Excludes (s : Locks) (step : LockStep) (s' : Locks) : Prop where
  /-- A call runs its body only when it has acquired the lock. -/
  locked : ∀ i : ℕ, s'.calls[i]? = some .unlocked → s.calls[i]? = some .unlocked
  /-- Of two bodies that run, the one that acquired its lock first has it no longer. -/
  alone : ∀ (i j : ℕ) lock lock', i ≠ j → s'.calls[i]? = some (.body lock) →
    s'.calls[j]? = some (.body lock') → lock.since ≤ lock'.since → lock.expires ≤ s'.clock
  /-- A release removes the lock of its own call, or none. -/
  own : ∀ i now reply, step = .release i now reply → reply ≠ .unsent →
    s.redis.get now (lockKey key) ≠ none → s.owner = some i

/-- Redis answers, no body raises, and a release finds no lock that another call has taken. -/
def Undisturbed (s : Locks) : LockStep → Prop
  | .acquire _ _ reply => reply = .ok
  | .release i now reply => reply = .ok ∧ s.calls[i]? ≠ some (.releasing .raised) ∧
      (s.redis.get now (lockKey key) ≠ none → s.owner = some i)
  | .call _ | .start _ | .finish _ _ | .finishUnlocked _ => True

/-- A call has a lock: it is to run its body, or runs it. -/
def Holds (calls : List Phase) (i : ℕ) (lock : Held) : Prop :=
  calls[i]? = some (.granted lock) ∨ calls[i]? = some (.body lock)

/-- The locks that have not expired are on the server, one after another. -/
structure Locks.Good (s : Locks) : Prop where
  live : ∀ i lock, Holds s.calls i lock → s.clock < lock.expires →
    s.redis.get? (lockKey key) = some ("locked", lock.expires) ∧ s.owner = some i
  since : ∀ i lock, Holds s.calls i lock → lock.since ≤ s.clock ∧ lock.since < lock.expires
  ordered : ∀ i j lock lock', i ≠ j → Holds s.calls i lock → Holds s.calls j lock' →
    lock.since ≤ lock'.since → lock.expires ≤ lock'.since
  timeout : ∀ (i : ℕ) timeout, s.calls[i]? = some (.called timeout) → 0 < timeout

variable {key} {s s' : Locks} {step : LockStep} {calls : List Phase} {i j : ℕ} {phase : Phase}
  {lock : Held}

/-! ### What a step does -/

/-- A `SET` gets the lock, or finds another one, or is not answered. -/
theorem Locks.next_acquire {now : ℤ} {reply : Reply}
    (hnext : s.next key (.acquire i now reply) = some s') :
    ∃ timeout, s.calls[i]? = some (.called timeout) ∧ s.clock ≤ now ∧
      ((reply = .ok ∧ s.redis.get now (lockKey key) = none ∧ s' = {
          redis := s.redis.setEx now (lockKey key) "locked" (timeout * second)
          clock := now
          owner := some i
          calls := s.calls.set i (.granted ⟨now, now + timeout * second⟩) }) ∨
        (reply = .ok ∧ s' = { s with clock := now, calls := s.calls.set i .done }) ∨
        (reply ≠ .ok ∧ s'.calls = s.calls.set i .unlocked)) := by
  simp only [Locks.next] at hnext
  cases hi : s.calls[i]? with
  | none => simp [hi] at hnext
  | some phase =>
    cases phase with
    | granted | body | releasing | unlocked | done => simp [hi] at hnext
    | called timeout =>
      simp only [hi, Option.ite_none_right_eq_some] at hnext
      obtain ⟨hclock, hnext⟩ := hnext
      refine ⟨timeout, rfl, hclock, ?_⟩
      cases reply with
      | ok =>
        cases hfree : s.redis.get now (lockKey key) with
        | none =>
          simp only [Keyspace.setNx_of_none hfree, if_true, Option.some.injEq] at hnext
          exact .inl ⟨rfl, rfl, hnext.symm⟩
        | some v =>
          simp only [Keyspace.setNx_of_some hfree, Bool.false_eq_true, if_false,
            Option.some.injEq] at hnext
          exact .inr (.inl ⟨rfl, hnext.symm⟩)
      | unsent | unanswered =>
        cases hnext
        exact .inr (.inr ⟨by simp, rfl⟩)

theorem Locks.next_start (hnext : s.next key (.start i) = some s') :
    ∃ lock, s.calls[i]? = some (.granted lock) ∧
      s' = { s with calls := s.calls.set i (.body lock) } := by
  simp only [Locks.next] at hnext
  split at hnext
  · exact ⟨_, ‹_›, (Option.some.inj hnext).symm⟩
  · cases hnext

theorem Locks.next_finish {ending : Ending} (hnext : s.next key (.finish i ending) = some s') :
    ∃ lock, s.calls[i]? = some (.body lock) ∧
      s' = { s with calls := s.calls.set i (.releasing ending) } := by
  simp only [Locks.next] at hnext
  split at hnext
  · exact ⟨_, ‹_›, (Option.some.inj hnext).symm⟩
  · cases hnext

/-- A `DEL` is answered or not. -/
theorem Locks.next_release {now : ℤ} {reply : Reply}
    (hnext : s.next key (.release i now reply) = some s') :
    ∃ ending, s.calls[i]? = some (.releasing ending) ∧ s.clock ≤ now ∧
      ((reply = .ok ∧ s' = { s with
          clock := now
          redis := s.redis.del (lockKey key)
          calls := s.calls.set i (.released ending) }) ∨
        (reply ≠ .ok ∧ s'.calls = s.calls.set i .unlocked)) := by
  simp only [Locks.next] at hnext
  cases hi : s.calls[i]? with
  | none => simp [hi] at hnext
  | some phase =>
    cases phase with
    | called | granted | body | unlocked | done => simp [hi] at hnext
    | releasing ending =>
      simp only [hi, Option.ite_none_right_eq_some] at hnext
      obtain ⟨hclock, hnext⟩ := hnext
      refine ⟨ending, rfl, hclock, ?_⟩
      cases reply with
      | ok => exact .inl ⟨rfl, (Option.some.inj hnext).symm⟩
      | unsent | unanswered =>
        cases hnext
        exact .inr ⟨by simp, rfl⟩

theorem Locks.next_finishUnlocked (hnext : s.next key (.finishUnlocked i) = some s') :
    s' = { s with calls := s.calls.set i .done } := by
  simp only [Locks.next] at hnext
  split at hnext
  · exact (Option.some.inj hnext).symm
  · cases hnext

/-! ### The locks in order -/

theorem getElem?_set_cases {phase' : Phase} (h : (calls.set i phase)[j]? = some phase') :
    (j = i ∧ phase' = phase) ∨ (j ≠ i ∧ calls[j]? = some phase') := by
  rw [List.getElem?_set] at h
  split_ifs at h with hij hlt
  · exact .inl ⟨hij.symm, (Option.some.inj h).symm⟩
  · exact .inr ⟨fun heq => hij heq.symm, h⟩

theorem Holds.of_set (h : Holds (calls.set i phase) j lock) :
    (j = i ∧ (phase = .granted lock ∨ phase = .body lock)) ∨ (j ≠ i ∧ Holds calls j lock) := by
  rcases h with h | h
  · rcases getElem?_set_cases h with ⟨hj, heq⟩ | ⟨hj, hold⟩
    · exact .inl ⟨hj, .inl heq.symm⟩
    · exact .inr ⟨hj, .inl hold⟩
  · rcases getElem?_set_cases h with ⟨hj, heq⟩ | ⟨hj, hold⟩
    · exact .inl ⟨hj, .inr heq.symm⟩
    · exact .inr ⟨hj, .inr hold⟩

/-- A step after which no call has a lock that it did not have. -/
theorem Locks.Good.of_holds (h : s.Good key) (hclock : s.clock ≤ s'.clock)
    (hholds : ∀ j lock, Holds s'.calls j lock → Holds s.calls j lock)
    (hcalled : ∀ (j : ℕ) timeout, s'.calls[j]? = some (.called timeout) → 0 < timeout)
    (hlive : ∀ j lock, Holds s'.calls j lock → s'.clock < lock.expires →
      s'.redis.get? (lockKey key) = s.redis.get? (lockKey key) ∧ s'.owner = s.owner) :
    s'.Good key where
  live j lock hj hlt := by
    obtain ⟨hredis, howner⟩ := hlive j lock hj hlt
    rw [hredis, howner]
    exact h.live j lock (hholds j lock hj) (hclock.trans_lt hlt)
  since j lock hj := by
    obtain ⟨hsince, hlt⟩ := h.since j lock (hholds j lock hj)
    exact ⟨hsince.trans hclock, hlt⟩
  ordered i j lock lock' hij hi hj :=
    h.ordered i j lock lock' hij (hholds i lock hi) (hholds j lock' hj)
  timeout := hcalled

/-- A step that changes the phase of a call which thereby gets no lock. -/
theorem Locks.Good.of_set (h : s.Good key) (hclock : s.clock ≤ s'.clock)
    (hcalls : s'.calls = s.calls.set i phase)
    (hphase : ∀ lock, phase = .granted lock ∨ phase = .body lock → Holds s.calls i lock)
    (hcalled : ∀ timeout, phase ≠ .called timeout)
    (hlive : ∀ j lock, Holds s'.calls j lock → s'.clock < lock.expires →
      s'.redis.get? (lockKey key) = s.redis.get? (lockKey key) ∧ s'.owner = s.owner) :
    s'.Good key := by
  refine h.of_holds hclock (fun j lock hj => ?_) (fun j timeout hj => ?_) hlive
  · rw [hcalls] at hj
    rcases hj.of_set with ⟨rfl, hlock⟩ | ⟨-, hold⟩
    · exact hphase lock hlock
    · exact hold
  · rw [hcalls] at hj
    rcases getElem?_set_cases hj with ⟨-, heq⟩ | ⟨-, hold⟩
    · exact absurd heq.symm (hcalled timeout)
    · exact h.timeout j timeout hold

/-- The lock of a call that has just set it: every other one has expired. -/
theorem Locks.Good.acquired (h : s.Good key) {now timeout : ℤ} (hclock : s.clock ≤ now)
    (htimeout : 0 < timeout) (hfree : s.redis.get now (lockKey key) = none) :
    Locks.Good key {
      redis := s.redis.setEx now (lockKey key) "locked" (timeout * second)
      clock := now
      owner := some i
      calls := s.calls.set i (.granted ⟨now, now + timeout * second⟩) } := by
  have hsecond : 0 < timeout * second := mul_pos htimeout (by decide)
  have hexpired : ∀ j lock, Holds s.calls j lock → lock.expires ≤ now := by
    intro j lock hj
    by_contra hlt
    obtain ⟨hget, -⟩ := h.live j lock hj (hclock.trans_lt (not_le.1 hlt))
    rw [Keyspace.get_eq_some.2 ⟨_, hget, not_le.1 hlt⟩] at hfree
    cases hfree
  have hcases : ∀ {j lock}, Holds (s.calls.set i (.granted ⟨now, now + timeout * second⟩)) j lock →
      (j = i ∧ lock = ⟨now, now + timeout * second⟩) ∨ (j ≠ i ∧ Holds s.calls j lock) := by
    intro j lock hj
    rcases hj.of_set with ⟨hji, heq | heq⟩ | hold
    · exact .inl ⟨hji, (Phase.granted.inj heq).symm⟩
    · cases heq
    · exact .inr hold
  refine ⟨fun j lock hj hlt => ?_, fun j lock hj => ?_, fun j k lock lock' hjk hj hk hle => ?_,
    fun j timeout' hj => ?_⟩
  · rcases hcases hj with ⟨rfl, rfl⟩ | ⟨-, hold⟩
    · exact ⟨by simp, rfl⟩
    · exact absurd (hexpired j lock hold) (not_le.2 hlt)
  · rcases hcases hj with ⟨rfl, rfl⟩ | ⟨-, hold⟩
    · exact ⟨le_rfl, lt_add_of_pos_right _ hsecond⟩
    · exact ⟨(h.since j lock hold).1.trans hclock, (h.since j lock hold).2⟩
  · rcases hcases hj with ⟨rfl, rfl⟩ | ⟨-, hold⟩
    · rcases hcases hk with ⟨rfl, -⟩ | ⟨-, hold'⟩
      · exact absurd rfl hjk
      · -- a lock that has not been set later has expired before it was set
        have hlater : now ≤ lock'.since := hle
        have hgone := hexpired k lock' hold'
        have hpos := (h.since k lock' hold').2
        omega
    · rcases hcases hk with ⟨rfl, rfl⟩ | ⟨-, hold'⟩
      · exact hexpired j lock hold
      · exact h.ordered j k lock lock' hjk hold hold' hle
  · rcases getElem?_set_cases hj with ⟨-, heq⟩ | ⟨-, hold⟩
    · cases heq
    · exact h.timeout j timeout' hold

theorem getElem?_set_self {phase' : Phase} (h : calls[i]? = some phase') :
    (calls.set i phase)[i]? = some phase := by
  obtain ⟨hlt, -⟩ := List.getElem?_eq_some_iff.1 h
  simp [hlt]

theorem getElem?_append_called {timeout : ℤ} {phase' : Phase}
    (h : (calls ++ [.called timeout])[j]? = some phase') :
    calls[j]? = some phase' ∨ phase' = .called timeout := by
  rw [List.getElem?_append] at h
  split_ifs at h with hlt
  · exact .inl h
  · exact .inr (List.mem_singleton.1 (List.mem_of_getElem? h))

/-- An undisturbed step keeps the locks in order, and starts no body without a lock. -/
theorem Locks.Good.next (h : s.Good key) (hnext : s.next key step = some s')
    (hundisturbed : Undisturbed key s step) : s'.Good key ∧
      ∀ i : ℕ, s'.calls[i]? = some .unlocked → s.calls[i]? = some .unlocked := by
  have hlocked : ∀ {i phase}, phase ≠ .unlocked → ∀ j : ℕ,
      (s.calls.set i phase)[j]? = some .unlocked → s.calls[j]? = some .unlocked := by
    intro i phase hne j hj
    rcases getElem?_set_cases hj with ⟨-, heq⟩ | ⟨-, hold⟩
    · exact absurd heq.symm hne
    · exact hold
  cases step with
  | call timeout =>
    simp only [Locks.next, Option.ite_none_right_eq_some, Option.some.injEq] at hnext
    obtain ⟨htimeout, rfl⟩ := hnext
    refine ⟨h.of_holds le_rfl (fun j lock hj => ?_) (fun j timeout' hj => ?_)
      fun _ _ _ _ => ⟨rfl, rfl⟩, fun j hj => ?_⟩
    · rcases hj with hj | hj
      · exact (getElem?_append_called hj).elim .inl fun heq => by cases heq
      · exact (getElem?_append_called hj).elim .inr fun heq => by cases heq
    · rcases getElem?_append_called hj with hold | heq
      · exact h.timeout j timeout' hold
      · cases heq
        exact htimeout
    · exact (getElem?_append_called hj).elim id fun heq => by cases heq
  | acquire i now reply =>
    obtain ⟨timeout, hi, hclock, ⟨-, hfree, rfl⟩ | ⟨-, rfl⟩ | ⟨hreply, -⟩⟩ := next_acquire hnext
    · exact ⟨h.acquired hclock (h.timeout i timeout hi) hfree, hlocked (by simp)⟩
    · exact ⟨h.of_set hclock rfl (by simp) (by simp) fun _ _ _ _ => ⟨rfl, rfl⟩,
        hlocked (by simp)⟩
    · exact absurd hundisturbed hreply
  | start i =>
    obtain ⟨lock, hi, rfl⟩ := next_start hnext
    refine ⟨h.of_set le_rfl rfl (fun lock' heq => ?_) (by simp) fun _ _ _ _ => ⟨rfl, rfl⟩,
      hlocked (by simp)⟩
    rcases heq with heq | heq
    · cases heq
    · cases heq
      exact .inl hi
  | finish i ending =>
    obtain ⟨lock, -, rfl⟩ := next_finish hnext
    exact ⟨h.of_set le_rfl rfl (by simp) (by simp) fun _ _ _ _ => ⟨rfl, rfl⟩, hlocked (by simp)⟩
  | release i now reply =>
    obtain ⟨hanswered, hraised, hown⟩ := hundisturbed
    obtain ⟨ending, hi, hclock, ⟨-, rfl⟩ | ⟨hreply, -⟩⟩ := next_release hnext
    · have hreleased : Phase.released ending = .done := by
        cases ending with
        | raised => exact absurd hi hraised
        | returned | cancelled => rfl
      refine ⟨h.of_set hclock rfl (by simp [hreleased]) (by simp [hreleased])
        fun j lock hj hlt => ?_, hlocked (by simp [hreleased])⟩
      -- a lock that has not expired would be the one on the server
      rw [hreleased] at hj
      rcases hj.of_set with ⟨-, heq⟩ | ⟨hji, hold⟩
      · simp at heq
      · obtain ⟨hget, howner⟩ := h.live j lock hold (hclock.trans_lt hlt)
        have hmine := hown (by rw [Keyspace.get_eq_some.2 ⟨_, hget, hlt⟩]; simp)
        exact absurd (Option.some.inj (howner.symm.trans hmine)) hji
    · exact absurd hanswered hreply
  | finishUnlocked i =>
    obtain rfl := next_finishUnlocked hnext
    exact ⟨h.of_set le_rfl rfl (by simp) (by simp) fun _ _ _ _ => ⟨rfl, rfl⟩, hlocked (by simp)⟩

/-- Of two calls that run their bodies, the first has its lock no longer. -/
theorem Locks.Good.alone (h : s.Good key) {i j : ℕ} {lock lock' : Held} (hij : i ≠ j)
    (hi : s.calls[i]? = some (.body lock)) (hj : s.calls[j]? = some (.body lock'))
    (hle : lock.since ≤ lock'.since) : lock.expires ≤ s.clock :=
  (h.ordered i j lock lock' hij (.inr hi) (.inr hj) hle).trans (h.since j lock' (.inr hj)).1

/-- A disturbed step runs a body without a lock, or removes the lock of another call. -/
theorem Excludes.undisturbed (hnext : s.next key step = some s')
    (hexcludes : Excludes key s step s') : Undisturbed key s step := by
  have hlocked : ∀ {i phase}, s.calls[i]? = some phase → phase ≠ .unlocked →
      s'.calls ≠ s.calls.set i .unlocked := by
    intro i phase hi hne hcalls
    have hold := hexcludes.locked i (hcalls ▸ getElem?_set_self hi)
    exact hne (Option.some.inj (hi.symm.trans hold))
  cases step with
  | acquire i now reply =>
    obtain ⟨timeout, hi, -, ⟨hreply, -⟩ | ⟨hreply, -⟩ | ⟨-, hcalls⟩⟩ := Locks.next_acquire hnext
    · exact hreply
    · exact hreply
    · exact absurd hcalls (hlocked hi (by simp))
  | release i now reply =>
    obtain ⟨ending, hi, -, ⟨rfl, rfl⟩ | ⟨-, hcalls⟩⟩ := Locks.next_release hnext
    · refine ⟨rfl, fun hraised => ?_, hexcludes.own i now .ok rfl (by simp)⟩
      rw [hi, Option.some.injEq, Phase.releasing.injEq] at hraised
      subst hraised
      exact hlocked hi (by simp) rfl
    · exact absurd hcalls (hlocked hi (by simp))
  | call | start | finish | finishUnlocked => trivial

/-- A server, and no call. -/
def Locks.init (redis : Keyspace String String) (clock : ℤ) : Locks where
  redis := redis
  clock := clock

theorem Locks.good_init (redis : Keyspace String String) (clock : ℤ) :
    (Locks.init redis clock).Good key where
  live _ _ h := by simp [Locks.init, Holds] at h
  since _ _ h := by simp [Locks.init, Holds] at h
  ordered _ _ _ _ _ h := by simp [Locks.init, Holds] at h
  timeout _ _ h := by simp [Locks.init] at h

/-- **`distributed_lock` excludes** exactly in the runs in which Redis answers every `SET` and
`DEL`, no body raises an exception, and a release finds no lock of another call. -/
theorem excludes_iff {redis : Keyspace String String} {clock : ℤ} {steps : List LockStep} :
    ((lockSystem key).restrict (Excludes key)).Run (Locks.init redis clock) steps s ↔
      ((lockSystem key).guard (Undisturbed key)).Run (Locks.init redis clock) steps s := by
  refine Lts.Run.restrict_iff_guard (I := Locks.Good key)
    (fun s step s' h hstep hundisturbed => (h.next hstep hundisturbed).1)
    (fun s step s' h hstep => ⟨fun hexcludes => hexcludes.undisturbed hstep,
      fun hundisturbed => ?_⟩) (Locks.good_init redis clock)
  obtain ⟨hgood, hlocked⟩ := h.next hstep hundisturbed
  refine ⟨hlocked, fun i j lock lock' hij hi hj hle => hgood.alone hij hi hj hle, ?_⟩
  rintro i now reply rfl hreply
  exact hundisturbed.2.2

/-- A body outlives its lock, and its release removes the lock of the next call. -/
def slowHolder : List LockStep :=
  [.call 10, .call 10, .acquire 0 0 .ok, .start 0, .acquire 1 (11 * second) .ok, .start 1,
    .finish 0 .returned, .release 0 (12 * second) .ok, .call 10, .acquire 2 (13 * second) .ok,
    .start 2]

/-- Then a third body runs beside the second, whose lock has not expired. -/
theorem slowHolder_not_alone :
    ¬ ∀ steps s, (lockSystem "k").Run (Locks.init .empty 0) steps s →
      ∀ (i j : ℕ) lock lock', i ≠ j → s.calls[i]? = some (.body lock) →
        s.calls[j]? = some (.body lock') → lock.since ≤ lock'.since → lock.expires ≤ s.clock := by
  intro h
  have hrun : (Lts.runNext (Locks.next "k") (Locks.init .empty 0) slowHolder).map
      (fun s => (s.clock, s.calls)) =
      some (13 * second, [.done, .body ⟨11 * second, 21 * second⟩,
        .body ⟨13 * second, 23 * second⟩]) := by decide
  obtain ⟨s, hs, hread⟩ := Lts.exists_run_of_map hrun
  obtain ⟨hclock, hcalls⟩ := Prod.mk.inj hread
  have hexpired := h _ s hs 1 2 _ _ (by decide) (by rw [hcalls]; rfl) (by rw [hcalls]; rfl)
    (by decide)
  rw [hclock] at hexpired
  exact absurd hexpired (by decide)

end Cache

end OmsWmsTms
