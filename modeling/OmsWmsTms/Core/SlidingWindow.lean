import OmsWmsTms.Core.RateLimiter

/-!
# The window of a key

`RateLimiter.check_rate_limit` of `src/core/rate_limiter.py` on one key, with one limit and one
window: the sorted set holds what a window can still contain, refused calls included.

* `checkSystem` : the calls on a key, by a connected client.
* `Exact` : a call is allowed exactly when the window that it ends has no more calls than the limit.
* `Holds` : the set agrees with the calls on every window from now on; `holds_hit` : also after a
  call.
* `exact_run` : outside of the test mode every run is exact.
-/

namespace OmsWmsTms

namespace Limiter

/-! ### The calls on a key -/

/-- A call that has been answered. -/
structure Checked where
  time : ℤ
  allowed : Bool
deriving DecidableEq

/-- A new call, and its member of the set. -/
structure CheckCall where
  time : ℤ
  member : String

/-- The server, the members so far, the calls so far, and the time. -/
structure CheckState where
  redis : LimiterRedis
  members : List String
  history : List Checked
  now : ℤ

variable (settings : LimiterSettings) (key : String) (requests? window? : Option ℕ)

/-- **One call**: the clock does not go back, and the member is new. -/
def CheckState.next (s : CheckState) (call : CheckCall) : Option CheckState :=
  if s.now ≤ call.time ∧ call.member ∉ s.members then
    let (allowed, redis) := checkRateLimit settings true .ok key requests? window? call.time
      call.member s.redis
    some {
      redis
      members := s.members ++ [call.member]
      history := s.history ++ [{ time := call.time, allowed }]
      now := call.time }
  else none

/-- **The calls on a key.** -/
def checkSystem : Lts CheckState CheckCall :=
  .ofNext (CheckState.next settings key requests? window?)

/-- The start: the key has no set. -/
def CheckState.start (redis : LimiterRedis) (now : ℤ) : CheckState where
  redis := redis.del ("rate_limit:" ++ key)
  members := []
  history := []
  now

/-! ### What is promised -/

variable (requests window : ℕ)

/-- A time is in the window that ends at a time. -/
def InWindow (time t : ℤ) : Prop := time - window * second < t ∧ t ≤ time

instance (time t : ℤ) : Decidable (InWindow window time t) := inferInstanceAs (Decidable (_ ∧ _))

/-- **The window is exact.** -/
structure Exact (history : List Checked) : Prop where
  /-- A call is allowed when, with it, the calls in its window are at most the limit. -/
  allowed_iff : ∀ before c, before ++ [c] <+: history →
    (c.allowed = true ↔
      (before ++ [c]).countP (fun c' => InWindow window c.time c'.time) ≤ requests)
  /-- No window has more allowed calls than the limit. -/
  allows : ∀ time,
    history.countP (fun c => c.allowed = true ∧ InWindow window time c.time) ≤ requests

variable {requests window}

theorem exact_nil : Exact requests window [] := by
  refine ⟨fun before c hbefore => ?_, fun time => Nat.zero_le _⟩
  exact absurd (List.prefix_nil.1 hbefore) (List.append_ne_nil_of_right_ne_nil _ (by simp))

/-- **One more call**, allowed when its window has room. -/
theorem Exact.concat {history : List Checked} {c : Checked} (h : Exact requests window history)
    (hclock : ∀ c' ∈ history, c'.time ≤ c.time)
    (hallowed : c.allowed = true ↔
      (history ++ [c]).countP (fun c' => InWindow window c.time c'.time) ≤ requests) :
    Exact requests window (history ++ [c]) := by
  refine ⟨fun before c' hbefore => ?_, fun time => ?_⟩
  · rcases List.prefix_concat_iff.1 hbefore with heq | hbefore
    · obtain ⟨rfl, hlast⟩ := List.append_inj' heq rfl
      cases hlast
      exact hallowed
    · exact h.allowed_iff before c' hbefore
  · rw [List.countP_append, List.countP_singleton]
    simp only [decide_eq_true_eq]
    split_ifs with hc
    · -- the allowed calls of the window are in the window of the last of them
      have hroom := hallowed.1 hc.1
      have hself : InWindow window c.time c.time := by
        refine ⟨?_, le_rfl⟩
        have hin := hc.2
        unfold InWindow at hin
        omega
      rw [List.countP_append, List.countP_singleton, if_pos (by simpa using hself)] at hroom
      have hle : history.countP (fun c' => c'.allowed = true ∧ InWindow window time c'.time) ≤
          history.countP (fun c' => InWindow window c.time c'.time) := by
        refine List.countP_mono_left fun c' hmem hc' => ?_
        simp only [decide_eq_true_eq] at hc' ⊢
        have hin := hc.2
        have hin' := hc'.2
        have hlast := hclock c' hmem
        unfold InWindow at hin hin' ⊢
        omega
      omega
    · exact h.allows time

/-! ### The set of the key -/

variable {key}

/-- The set that a command finds at a time. -/
def visible (key : String) (redis : LimiterRedis) (time : ℤ) : SortedSet String :=
  (Keyspace.get time ("rate_limit:" ++ key) redis).getD .empty

/-- The set has the times of the calls on every window from a time on, under members that have been
used. -/
structure Holds (key : String) (window : ℕ) (redis : LimiterRedis) (members : List String)
    (times : List ℤ) (now : ℤ) : Prop where
  scores : ∀ time, now ≤ time →
    (visible key redis time).scores.filter (time - window * second < ·) =
      times.filter (time - window * second < ·)
  members : ∀ time, ∀ member ∈ (visible key redis time).keys, member ∈ members
  clock : ∀ t ∈ times, t ≤ now

theorem holds_start (key : String) (window : ℕ) (redis : LimiterRedis) (now : ℤ) :
    Holds key window (CheckState.start key redis now).redis [] [] now := by
  have hvisible (time : ℤ) : visible key (CheckState.start key redis now).redis time = .empty := by
    unfold visible CheckState.start
    rw [Keyspace.get_del, if_pos rfl]
    rfl
  refine ⟨fun time _ => ?_, fun time member hmember => ?_, fun t ht => by cases ht⟩
  · rw [hvisible]
    rfl
  · rw [hvisible] at hmember
    exact hmember

/-- A window that ends later starts later. -/
theorem filter_window_filter {l : List ℤ} {start later : ℤ} (h : start ≤ later) :
    (l.filter (start < ·)).filter (later < ·) = l.filter (later < ·) := by
  rw [List.filter_filter]
  refine List.filter_congr fun t _ => ?_
  rw [← Bool.decide_and, decide_eq_decide]
  omega

/-- The set after the commands of a call. -/
theorem visible_hit {redis : LimiterRedis} {now : ℤ} {member : String} (time : ℤ) :
    visible key (hit ("rate_limit:" ++ key) (window * second) now member redis).2 time =
      if time < now + window * second then
        ((visible key redis now).zadd member now).zremrangebyscore (now - window * second)
      else .empty := by
  unfold visible hit
  rw [Keyspace.get_setEx, if_pos rfl]
  split_ifs <;> rfl

/-- The scores that a call leaves in the set. -/
theorem scores_call {redis : LimiterRedis} {members : List String} {times : List ℤ} {now : ℤ}
    {call : CheckCall} (h : Holds key window redis members times now) (hclock : now ≤ call.time)
    (hnew : call.member ∉ members) :
    (((visible key redis call.time).zadd call.member call.time).zremrangebyscore
      (call.time - window * second)).scores =
      (times ++ [call.time]).filter (call.time - window * second < ·) := by
  have hfree : (visible key redis call.time).get? call.member = none :=
    Dict.get?_eq_none_iff.2 fun hmember => hnew (h.members _ _ hmember)
  rw [SortedSet.scores_zremrangebyscore, SortedSet.scores_zadd hfree, List.filter_append,
    h.scores _ hclock, ← List.filter_append]

/-- **What a call leaves**: the set still has the calls of every window from now on. -/
theorem holds_hit {redis : LimiterRedis} {members : List String} {times : List ℤ} {now : ℤ}
    {call : CheckCall} (h : Holds key window redis members times now) (hclock : now ≤ call.time)
    (hnew : call.member ∉ members) :
    Holds key window (hit ("rate_limit:" ++ key) (window * second) call.time call.member redis).2
      (members ++ [call.member]) (times ++ [call.time]) call.time := by
  have htimes : ∀ t ∈ times ++ [call.time], t ≤ call.time := by
    intro t ht
    rcases List.mem_append.1 ht with ht | ht
    · exact (h.clock t ht).trans hclock
    · exact (List.mem_singleton.1 ht).le
  refine ⟨fun time htime => ?_, fun time member hmember => ?_, htimes⟩
  · rw [visible_hit]
    split_ifs with hexpires
    · rw [scores_call h hclock hnew]
      exact filter_window_filter (by omega)
    · -- the set has expired, and so has every window with one of the calls
      have hnone : (times ++ [call.time]).filter (time - window * second < ·) = [] := by
        refine List.filter_eq_nil_iff.2 fun t ht => ?_
        have hle := htimes t ht
        simp only [decide_eq_true_eq]
        omega
      rw [hnone]
      rfl
  · rw [visible_hit] at hmember
    split_ifs at hmember with hexpires
    · have hadded : member ∈ ((visible key redis call.time).zadd call.member call.time).keys :=
        (List.filter_sublist.map Prod.fst).subset hmember
      rw [SortedSet.zadd, Dict.keys, Dict.set, Dict.map_fst_insert] at hadded
      split_ifs at hadded with hin
      · exact List.mem_append_left _ (h.members _ _ hadded)
      · rcases List.mem_append.1 hadded with hadded | hadded
        · exact List.mem_append_left _ (h.members _ _ hadded)
        · exact List.mem_append_right _ hadded
    · cases hmember

/-- **The answer to a call** outside of the test mode. -/
theorem checkRateLimit_eq {redis : LimiterRedis} {call : CheckCall}
    (htesting : settings.testing = false) :
    checkRateLimit settings true .ok key requests? window? call.time call.member redis =
      let span := orDefault window? settings.rateLimitWindow * second
      (decide ((hit ("rate_limit:" ++ key) span call.time call.member redis).1 ≤
          orDefault requests? settings.rateLimitRequests),
        (hit ("rate_limit:" ++ key) span call.time call.member redis).2) := by
  unfold checkRateLimit
  rw [htesting]
  rfl

/-! ### The runs -/

/-- The state of a run. -/
structure Windowed (key : String) (requests window : ℕ) (s : CheckState) : Prop where
  holds : Holds key window s.redis s.members (s.history.map Checked.time) s.now
  exact : Exact requests window s.history

variable {settings requests? window?}

theorem windowed_step (htesting : settings.testing = false) {s s' : CheckState} {call : CheckCall}
    (h : Windowed key (orDefault requests? settings.rateLimitRequests)
      (orDefault window? settings.rateLimitWindow) s)
    (hstep : (checkSystem settings key requests? window?).step s call s') :
    Windowed key (orDefault requests? settings.rateLimitRequests)
      (orDefault window? settings.rateLimitWindow) s' := by
  replace hstep : s.next settings key requests? window? call = some s' := hstep
  unfold CheckState.next at hstep
  split_ifs at hstep with hguard
  obtain ⟨hclock, hnew⟩ := hguard
  rw [checkRateLimit_eq _ _ _ htesting] at hstep
  generalize orDefault requests? settings.rateLimitRequests = requests at h hstep ⊢
  generalize orDefault window? settings.rateLimitWindow = window at h hstep ⊢
  cases hstep
  have hearlier : ∀ c ∈ s.history, c.time ≤ call.time :=
    fun c hc => (h.holds.clock _ (List.mem_map_of_mem hc)).trans hclock
  refine ⟨?_, h.exact.concat hearlier ?_⟩
  · rw [List.map_append]
    exact holds_hit h.holds hclock hnew
  · have hcount : (hit ("rate_limit:" ++ key) (window * second) call.time call.member s.redis).1 =
        ((s.history.map Checked.time ++ [call.time]).filter
          (call.time - window * second < ·)).length := by
      rw [← scores_call h.holds hclock hnew, ← SortedSet.zcard_eq_length]
      rfl
    rw [decide_eq_true_eq, hcount, ← List.countP_eq_length_filter, List.countP_append,
      List.countP_map, List.countP_append]
    -- no call is later than the new one
    have hsame : s.history.countP ((call.time - window * second < ·) ∘ Checked.time) =
        s.history.countP fun c => InWindow window call.time c.time := by
      refine List.countP_congr fun c hc => ?_
      have hle := hearlier c hc
      rw [decide_eq_true_eq]
      simp only [Function.comp_apply, decide_eq_true_eq]
      exact (and_iff_left hle).symm
    simp only [hsame, List.countP_singleton, InWindow, le_refl, and_true]

/-- **`check_rate_limit` is an exact sliding window** outside of the test mode: for every key, limit
and window, in every run of calls by a connected client. -/
theorem exact_run (htesting : settings.testing = false) {redis : LimiterRedis} {now : ℤ}
    {calls : List CheckCall} {s : CheckState}
    (hrun : (checkSystem settings key requests? window?).Run (.start key redis now) calls s) :
    Exact (orDefault requests? settings.rateLimitRequests)
      (orDefault window? settings.rateLimitWindow) s.history :=
  (hrun.invariant ⟨holds_start key _ redis now, exact_nil⟩
    fun _ _ _ h hstep => windowed_step htesting h hstep).exact

/-- Two calls at one time, and one when their window has ended. -/
def threeCalls : List CheckCall := [⟨0, "0"⟩, ⟨0, "1"⟩, ⟨second, "2"⟩]

/-- With one call in a second, the second of them is refused, and the third is allowed. -/
theorem exact_threeCalls : ∃ s,
    (checkSystem {} "ip:a" (some 1) (some 1)).Run (.start "ip:a" .empty 0) threeCalls s ∧
      s.history = [⟨0, true⟩, ⟨0, false⟩, ⟨second, true⟩] ∧ Exact 1 1 s.history := by
  obtain ⟨s, hrun, hhistory⟩ : ∃ s,
      (checkSystem {} "ip:a" (some 1) (some 1)).Run (.start "ip:a" .empty 0) threeCalls s ∧
      s.history = [⟨0, true⟩, ⟨0, false⟩, ⟨second, true⟩] :=
    Lts.exists_run_of_map (f := CheckState.history) (by decide +kernel)
  exact ⟨s, hrun, hhistory, exact_run rfl hrun⟩

/-- In the test mode all of them are allowed. -/
theorem testing_not_exact : ∃ s,
    (checkSystem { testing := true } "ip:a" (some 1) (some 1)).Run (.start "ip:a" .empty 0)
      threeCalls s ∧ s.history = [⟨0, true⟩, ⟨0, true⟩, ⟨second, true⟩] ∧
      ¬ Exact 1 1 s.history := by
  obtain ⟨s, hrun, hhistory⟩ : ∃ s,
      (checkSystem { testing := true } "ip:a" (some 1) (some 1)).Run (.start "ip:a" .empty 0)
        threeCalls s ∧ s.history = [⟨0, true⟩, ⟨0, true⟩, ⟨second, true⟩] :=
    Lts.exists_run_of_map (f := CheckState.history) (by decide +kernel)
  refine ⟨s, hrun, hhistory, fun h => ?_⟩
  have hcount := h.allows 0
  rw [hhistory] at hcount
  revert hcount
  decide

end Limiter

end OmsWmsTms
