import OmsWmsTms.Core.RateLimiter
import Mathlib.Tactic.Push

/-!
# The limits of several endpoints

The endpoints share the set of an address: a request counts at all of them, and a shorter window
trims what a longer one still needs.

* `Independent` : an endpoint lets through its number of requests in its window, and refuses one
  only when its own requests fill the window.
* `Undisturbed` : what is left of all requests decides as the endpoint's own requests would.
* `independent_iff` : a run is independent exactly when all of its requests are undisturbed.
* `independent_of_single` : so it is where the address uses one endpoint only.
-/

namespace OmsWmsTms

namespace Limiter

variable {E : Type} (limits : E → RateLimit)

/-! ### What is promised -/

section

variable [DecidableEq E]

/-- The earlier requests to an endpoint in its window. -/
def own (history : List (Request E)) (endpoint : E) (time : ℤ) : ℕ :=
  history.countP fun r => r.endpoint = endpoint ∧ time - (limits endpoint).span < r.time

/-- Those of them that it has let through. -/
def ownAllowed (history : List (Request E)) (endpoint : E) (time : ℤ) : ℕ :=
  history.countP fun r =>
    r.endpoint = endpoint ∧ r.allowed = true ∧ time - (limits endpoint).span < r.time

/-- What an endpoint lets through in an interval of the length of its window. -/
def letThrough (history : List (Request E)) (endpoint : E) (start : ℤ) : ℕ :=
  history.countP fun r => r.endpoint = endpoint ∧ r.allowed = true ∧ start < r.time ∧
    r.time ≤ start + (limits endpoint).span

/-- **The limits are independent.** -/
structure Independent (history : List (Request E)) : Prop where
  /-- An endpoint lets through at most its number of requests. -/
  letsThrough : ∀ endpoint start,
    letThrough limits history endpoint start ≤ (limits endpoint).requests
  /-- It refuses a request only after as many of its own. -/
  refuses : ∀ before r, before ++ [r] <+: history → r.allowed = false →
    (limits r.endpoint).requests ≤ own limits before r.endpoint r.time

/-- The requests that are left reach the limit only if the endpoint's own do, and they stay below it
only if those that it has let through do. -/
def Undisturbed (s : LimiterState E) (call : LimiterCall E) : Prop :=
  ((limits call.endpoint).requests ≤ (live limits s.history call.endpoint call.time).length →
    (limits call.endpoint).requests ≤ own limits s.history call.endpoint call.time) ∧
  ((live limits s.history call.endpoint call.time).length < (limits call.endpoint).requests →
    ownAllowed limits s.history call.endpoint call.time < (limits call.endpoint).requests)

instance (s : LimiterState E) (call : LimiterCall E) : Decidable (Undisturbed limits s call) :=
  inferInstanceAs (Decidable (_ ∧ _))

variable {limits}

/-! ### One more request -/

theorem letThrough_concat (history : List (Request E)) (r : Request E) (endpoint : E) (start : ℤ) :
    letThrough limits (history ++ [r]) endpoint start = letThrough limits history endpoint start +
      if r.endpoint = endpoint ∧ r.allowed = true ∧ start < r.time ∧
        r.time ≤ start + (limits endpoint).span then 1 else 0 := by
  unfold letThrough
  rw [List.countP_append, List.countP_singleton]
  simp only [decide_eq_true_eq]

/-- The requests of an interval that ends with a request are in its window. -/
theorem letThrough_le_ownAllowed {history : List (Request E)} {endpoint : E} {start time : ℤ}
    (h : time ≤ start + (limits endpoint).span) :
    letThrough limits history endpoint start ≤ ownAllowed limits history endpoint time := by
  refine List.countP_mono_left fun r _ hr => ?_
  simp only [decide_eq_true_eq] at hr ⊢
  exact ⟨hr.1, hr.2.1, by omega⟩

/-- They are all of them when nothing is later. -/
theorem letThrough_eq_ownAllowed {history : List (Request E)} {endpoint : E} {time : ℤ}
    (h : ∀ r ∈ history, r.time ≤ time) :
    letThrough limits history endpoint (time - (limits endpoint).span) =
      ownAllowed limits history endpoint time := by
  refine List.countP_congr fun r hr => ?_
  have hle := h r hr
  simp only [decide_eq_true_eq]
  constructor
  · exact fun hr => ⟨hr.1, hr.2.1, hr.2.2.1⟩
  · exact fun hr => ⟨hr.1, hr.2.1, hr.2.2, by omega⟩

/-- **One more request** keeps the limits independent exactly when it is let through with fewer than
the limit before it, or refused after as many. -/
theorem independent_concat {history : List (Request E)} {r : Request E}
    (h : Independent limits history) (hclock : ∀ r' ∈ history, r'.time ≤ r.time) :
    Independent limits (history ++ [r]) ↔
      (r.allowed = true →
        ownAllowed limits history r.endpoint r.time < (limits r.endpoint).requests) ∧
      (r.allowed = false →
        (limits r.endpoint).requests ≤ own limits history r.endpoint r.time) := by
  have hspan := (limits r.endpoint).span_pos
  constructor
  · intro hafter
    refine ⟨fun hallowed => ?_, hafter.refuses history r (List.prefix_refl _)⟩
    have hcount := hafter.letsThrough r.endpoint (r.time - (limits r.endpoint).span)
    rw [letThrough_concat, letThrough_eq_ownAllowed hclock,
      if_pos ⟨rfl, hallowed, by omega, by omega⟩] at hcount
    omega
  · rintro ⟨hallowed, hrefused⟩
    refine ⟨fun endpoint start => ?_, fun before r' hbefore hr' => ?_⟩
    · rw [letThrough_concat]
      split_ifs with hr
      · obtain ⟨rfl, htrue, -, hend⟩ := hr
        have hle : letThrough limits history r.endpoint start ≤
            ownAllowed limits history r.endpoint r.time := letThrough_le_ownAllowed hend
        have hlt := hallowed htrue
        omega
      · exact h.letsThrough endpoint start
    -- the request is the last of the run, or one of those before it
    · rcases List.prefix_concat_iff.1 hbefore with heq | hbefore
      · obtain ⟨rfl, hlast⟩ := List.append_inj' heq rfl
        cases hlast
        exact hrefused hr'
      · exact h.refuses before r' hbefore hr'

/-- A run that is not independent stays so. -/
theorem Independent.of_concat {history : List (Request E)} {r : Request E}
    (h : Independent limits (history ++ [r])) : Independent limits history := by
  refine ⟨fun endpoint start => ?_, fun before r' hbefore => ?_⟩
  · have hcount := h.letsThrough endpoint start
    rw [letThrough_concat] at hcount
    omega
  · exact h.refuses before r' (hbefore.trans (List.prefix_append _ _))

theorem independent_nil : Independent limits [] := by
  refine ⟨fun endpoint start => Nat.zero_le _, fun before r hbefore => ?_⟩
  exact absurd (List.prefix_nil.1 hbefore) (List.append_ne_nil_of_right_ne_nil _ (by simp))

/-! ### The runs -/

variable {host? : Option String} {s s' : LimiterState E} {call : LimiterCall E}

/-- **A request keeps the limits independent exactly when it is undisturbed.** -/
theorem independent_step_iff (htracked : Tracked limits host? s)
    (h : Independent limits s.history) (hstep : (limiterSystem limits host?).step s call s') :
    Independent limits s'.history ↔ Undisturbed limits s call := by
  obtain ⟨hhistory, hclock, -⟩ := step_spec htracked hstep
  rw [hhistory, independent_concat h fun r hr => (htracked.clock r hr).trans hclock]
  simp only [decide_eq_true_eq, decide_eq_false_iff_not, not_lt, Undisturbed]
  exact and_comm

/-- **The limits of the endpoints are independent in a run exactly when** each of its requests is
undisturbed by the requests to the others. -/
theorem independent_iff {redis : LimiterRedis} {now : ℤ} {calls : List (LimiterCall E)}
    (hrun : (limiterSystem limits host?).Run (.start host? redis now) calls s) :
    Independent limits s.history ↔
      ((limiterSystem limits host?).guard (Undisturbed limits)).Run (.start host? redis now) calls
        s := by
  refine hrun.end_iff_guard (I := Tracked limits host?)
    (P := fun s => Independent limits s.history) (fun _ _ _ h hstep => (step_spec h hstep).2.2)
    (fun s call s' h hnot hstep hafter => hnot ?_) (fun _ _ _ => independent_step_iff)
    (tracked_start redis now) independent_nil
  rw [(step_spec h hstep).1] at hafter
  exact hafter.of_concat

end

/-! ### One endpoint -/

variable {limits}

/-- Requests to one endpoint drop none in its window. -/
theorem spared_of_single {endpoint : E} {r : Request E} {later : List (Request E)} {time : ℤ}
    (hsingle : ∀ r' ∈ r :: later, r'.endpoint = endpoint)
    (hsorted : (r :: later).Pairwise fun a b => a.time ≤ b.time)
    (hclock : ∀ r' ∈ r :: later, r'.time ≤ time)
    (hwindow : time - (limits endpoint).span < r.time) : Spared limits r later := by
  refine ⟨fun r' hr' => ?_, ?_⟩
  · rw [hsingle r' (List.mem_cons_of_mem _ hr')]
    have hle := hclock r' (List.mem_cons_of_mem _ hr')
    omega
  -- all of them are within one window of the first, so none has expired before the next
  · have hmin : ∀ r' ∈ r :: later, r.time ≤ r'.time := by
      intro r' hr'
      rcases List.mem_cons.1 hr' with rfl | hr'
      · exact le_rfl
      · exact List.rel_of_pairwise_cons hsorted hr'
    have hpairs : (r :: later).Pairwise fun a b =>
        b.time < a.time + (limits a.endpoint).span := by
      refine List.pairwise_iff_forall_sublist.2 fun {a b} hsublist => ?_
      have ha := hsublist.subset (List.mem_cons_self)
      have hb := hsublist.subset (List.mem_cons_of_mem _ List.mem_cons_self)
      rw [hsingle a ha]
      have hle := hclock b hb
      have hge := hmin a ha
      omega
    exact hpairs.isChain

/-- What is left of the requests to one endpoint are those in its window. -/
theorem filter_spared_of_single {endpoint : E} {history : List (Request E)} {time : ℤ}
    (hsingle : ∀ r ∈ history, r.endpoint = endpoint)
    (hsorted : history.Pairwise fun a b => a.time ≤ b.time)
    (hclock : ∀ r ∈ history, r.time ≤ time) :
    (spared limits history).filter (fun r => time - (limits endpoint).span < r.time) =
      history.filter fun r => time - (limits endpoint).span < r.time := by
  induction history with
  | nil => rfl
  | cons r later ih =>
    have hrest := ih (fun r' hr' => hsingle r' (List.mem_cons_of_mem _ hr')) hsorted.of_cons
      fun r' hr' => hclock r' (List.mem_cons_of_mem _ hr')
    by_cases hwindow : time - (limits endpoint).span < r.time
    · rw [spared, if_pos (spared_of_single hsingle hsorted hclock hwindow),
        List.filter_cons_of_pos (by simpa using hwindow),
        List.filter_cons_of_pos (by simpa using hwindow), hrest]
    -- outside of the window it does not matter whether the bucket has kept it
    · rw [List.filter_cons_of_neg (by simpa using hwindow), ← hrest, spared]
      split_ifs with hspared
      · exact List.filter_cons_of_neg (by simpa using hwindow)
      · rfl

theorem mem_of_mem_spared {r : Request E} {history : List (Request E)}
    (h : r ∈ spared limits history) : r ∈ history := by
  induction history with
  | nil => exact h
  | cons r' later ih =>
    rw [spared] at h
    split_ifs at h with hspared
    · exact (List.mem_cons.1 h).elim (fun h => h ▸ List.mem_cons_self)
        fun h => List.mem_cons_of_mem _ (ih h)
    · exact List.mem_cons_of_mem _ (ih h)

/-- The last of the requests to one endpoint expires last. -/
theorem le_expires {endpoint : E} {history : List (Request E)} {r : Request E} {t : ℤ}
    (hsingle : ∀ r ∈ history, r.endpoint = endpoint)
    (hsorted : history.Pairwise fun a b => a.time ≤ b.time) (hr : r ∈ history)
    (ht : t ∈ expires limits history) : r.time + (limits endpoint).span ≤ t := by
  obtain ⟨last, hlast, rfl⟩ := Option.map_eq_some_iff.1 ht
  have hmem := List.mem_of_getLast? hlast
  obtain ⟨init, rfl⟩ := List.getLast?_eq_some_iff.1 hlast
  have hle : r.time ≤ last.time := by
    rcases List.mem_append.1 hr with hr | hr
    · exact (List.pairwise_append.1 hsorted).2.2 r hr last List.mem_cons_self
    · rw [List.mem_singleton.1 hr]
  rw [hsingle last hmem]
  omega

/-- **Where an address uses one endpoint only**, no request is disturbed. -/
theorem undisturbed_of_single [DecidableEq E] {s : LimiterState E} {call : LimiterCall E}
    {endpoint : E} (hsingle : ∀ r ∈ s.history, r.endpoint = endpoint)
    (hsorted : s.history.Pairwise fun a b => a.time ≤ b.time)
    (hclock : ∀ r ∈ s.history, r.time ≤ call.time) (hcall : call.endpoint = endpoint) :
    Undisturbed limits s call := by
  subst hcall
  have hown : (live limits s.history call.endpoint call.time).length =
      own limits s.history call.endpoint call.time := by
    have hopen : live limits s.history call.endpoint call.time =
        (spared limits s.history).filter
          fun r => call.time - (limits call.endpoint).span < r.time := by
      refine List.filter_congr fun r hr => ?_
      rw [decide_eq_decide]
      refine and_iff_left_of_imp fun hwindow t ht => ?_
      have hle := le_expires hsingle hsorted (mem_of_mem_spared hr) ht
      omega
    rw [hopen, filter_spared_of_single hsingle hsorted hclock, ← List.countP_eq_length_filter]
    refine List.countP_congr fun r hr => ?_
    simp [hsingle r hr]
  have hallowed : ownAllowed limits s.history call.endpoint call.time ≤
      own limits s.history call.endpoint call.time := by
    refine List.countP_mono_left fun r _ hr => ?_
    simp only [decide_eq_true_eq] at hr ⊢
    exact ⟨hr.1, hr.2.2⟩
  refine ⟨fun h => hown ▸ h, fun h => ?_⟩
  omega

/-- The runs with requests to one endpoint only. -/
structure Single [DecidableEq E] (limits : E → RateLimit) (host? : Option String) (endpoint : E)
    (s : LimiterState E) : Prop where
  tracked : Tracked limits host? s
  single : ∀ r ∈ s.history, r.endpoint = endpoint
  sorted : s.history.Pairwise fun a b => a.time ≤ b.time
  independent : Independent limits s.history

/-- **The limit of an endpoint holds while its addresses use no other.** -/
theorem independent_of_single [DecidableEq E] {host? : Option String} {endpoint : E}
    {redis : LimiterRedis} {now : ℤ} {calls : List (LimiterCall E)} {s : LimiterState E}
    (hrun : ((limiterSystem limits host?).guard fun _ call => call.endpoint = endpoint).Run
      (.start host? redis now) calls s) : Independent limits s.history := by
  refine (hrun.invariant (I := Single limits host? endpoint)
    ⟨tracked_start redis now, fun _ h => (by cases h), .nil, independent_nil⟩ ?_).independent
  rintro s call s' h ⟨hstep, hcall⟩
  obtain ⟨hhistory, hclock, htracked⟩ := step_spec h.tracked hstep
  have hearlier : ∀ r ∈ s.history, r.time ≤ call.time :=
    fun r hr => (h.tracked.clock r hr).trans hclock
  refine ⟨htracked, ?_, ?_, (independent_step_iff h.tracked h.independent hstep).2
    (undisturbed_of_single h.single h.sorted hearlier hcall)⟩
  · rw [hhistory]
    exact List.forall_mem_append.2 ⟨h.single, List.forall_mem_singleton.2 hcall⟩
  · rw [hhistory]
    refine List.pairwise_append.2 ⟨h.sorted, List.pairwise_singleton _ _, fun r hr r' hr' => ?_⟩
    rw [List.mem_singleton.1 hr']
    exact hearlier r hr

/-! ### Registering and logging in -/

/-- The endpoints of `src/auth/router.py` that are limited. -/
inductive AuthEndpoint
  | register
  | login
deriving DecidableEq

/-- Their limits. -/
def authLimits : AuthEndpoint → RateLimit
  | .register => ⟨3, 3600, Nat.succ_pos _, Nat.succ_pos _⟩
  | .login => ⟨5, 60, Nat.succ_pos _, Nat.succ_pos _⟩

/-- A login, and a register a second later. -/
def loginThenRegister : List (LimiterCall AuthEndpoint) :=
  [⟨.login, 0, "0"⟩, ⟨.register, second, "1"⟩]

/-- The login does not disturb the register. -/
theorem independent_loginThenRegister : ∃ s,
    (limiterSystem authLimits none).Run (.start none .empty 0) loginThenRegister s ∧
      Independent authLimits s.history := by
  obtain ⟨s, hrun, -⟩ : ∃ s,
      (limiterSystem authLimits none).Run (.start none .empty 0) loginThenRegister s ∧ () = () :=
    Lts.exists_run_of_map (f := fun _ => ()) (by decide +kernel)
  refine ⟨s, hrun, (independent_iff hrun).2 ?_⟩
  cases hrun with
  | cons hlogin hrest =>
    cases hrest with
    | cons hregister hnil =>
      refine .cons ⟨hlogin, by decide⟩ (.cons ⟨hregister, ?_⟩ (by cases hnil; exact .nil _))
      unfold Undisturbed
      rw [(step_spec (tracked_start .empty 0) hlogin).1]
      decide

/-- Three logins, and then a register. -/
def loginsFirst : List (LimiterCall AuthEndpoint) :=
  [⟨.login, 0, "0"⟩, ⟨.login, second, "1"⟩, ⟨.login, 2 * second, "2"⟩, ⟨.register, 3 * second, "3"⟩]

/-- Three registers, a login when they are older than its window, and one more register. -/
def loginBetween : List (LimiterCall AuthEndpoint) :=
  [⟨.register, 0, "0"⟩, ⟨.register, second, "1"⟩, ⟨.register, 2 * second, "2"⟩,
    ⟨.login, 100 * second, "3"⟩, ⟨.register, 101 * second, "4"⟩]

/-- The first register of an address is refused after its three logins, and its fourth within the
hour is let through after a login. -/
theorem authLimits_not_independent :
    (∃ s, (limiterSystem authLimits none).Run (.start none .empty 0) loginsFirst s ∧
      s.history.getLast? = some ⟨.register, 3 * second, false⟩ ∧
      own authLimits s.history.dropLast .register (3 * second) = 0 ∧
      ¬ Independent authLimits s.history) ∧
    ∃ s, (limiterSystem authLimits none).Run (.start none .empty 0) loginBetween s ∧
      letThrough authLimits s.history .register (-second) = 4 ∧
      ¬ Independent authLimits s.history := by
  constructor
  · obtain ⟨s, hrun, hhistory⟩ : ∃ s,
        (limiterSystem authLimits none).Run (.start none .empty 0) loginsFirst s ∧
        s.history = [⟨.login, 0, true⟩, ⟨.login, second, true⟩, ⟨.login, 2 * second, true⟩,
          ⟨.register, 3 * second, false⟩] :=
      Lts.exists_run_of_map (f := LimiterState.history) (by decide +kernel)
    refine ⟨s, hrun, ?_⟩
    rw [hhistory]
    refine ⟨rfl, by decide, fun h => ?_⟩
    have hrefused := h.refuses [⟨.login, 0, true⟩, ⟨.login, second, true⟩,
      ⟨.login, 2 * second, true⟩] ⟨.register, 3 * second, false⟩ (List.prefix_refl _) rfl
    revert hrefused
    decide
  · obtain ⟨s, hrun, hhistory⟩ : ∃ s,
        (limiterSystem authLimits none).Run (.start none .empty 0) loginBetween s ∧
        s.history = [⟨.register, 0, true⟩, ⟨.register, second, true⟩,
          ⟨.register, 2 * second, true⟩, ⟨.login, 100 * second, true⟩,
          ⟨.register, 101 * second, true⟩] :=
      Lts.exists_run_of_map (f := LimiterState.history) (by decide +kernel)
    refine ⟨s, hrun, ?_⟩
    rw [hhistory]
    refine ⟨by decide, fun h => ?_⟩
    have hcount := h.letsThrough .register (-second)
    revert hcount
    decide

end Limiter

end OmsWmsTms
