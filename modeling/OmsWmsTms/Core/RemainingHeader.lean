import OmsWmsTms.Core.SharedLimits

/-!
# The header of the remaining requests

`RateLimiter.get_rate_limit_headers` counts the set of an address with `ZCOUNT`, with the limit and
the window of the settings, whatever the limits of the endpoint.

* `getRateLimitHeaders`, `remaining` : the headers, and what `X-Rate-Remaining` says.
* `remaining_run` : that many requests are let through at the endpoints whose limits are not
  stricter than the settings.
-/

namespace OmsWmsTms

/-- `ZCOUNT` of an interval, with its ends. -/
def SortedSet.zcount {M : Type*} (min max : ℤ) (set : SortedSet M) : ℕ :=
  set.scores.countP fun score => min ≤ score ∧ score ≤ max

namespace Limiter

/-! ### The code -/

/-- The count of the requests of a key, in the window of the settings. -/
def windowCount (settings : LimiterSettings) (key : String) (now : ℤ) (redis : LimiterRedis) : ℕ :=
  ((Keyspace.get now ("rate_limit:" ++ key) redis).getD .empty).zcount
    (now - settings.rateLimitWindow * second) now

/-- `max(0, requests - count)`. -/
def remaining (settings : LimiterSettings) (key : String) (now : ℤ) (redis : LimiterRedis) : ℕ :=
  settings.rateLimitRequests - windowCount settings key now redis

/-- `RateLimiter.get_rate_limit_headers`; `reply` says how the command ends. -/
def getRateLimitHeaders (settings : LimiterSettings) (connected : Bool) (reply : Reply)
    (key : String) (now : ℤ) (redis : LimiterRedis) : List (String × String) :=
  if ¬ connected ∨ reply ≠ .ok then []
  else
    [("X-Rate-Limit", toString settings.rateLimitRequests),
      ("X-Rate-Remaining", toString (remaining settings key now redis)),
      ("X-Rate-Window", toString settings.rateLimitWindow),
      ("X-Rate-Reset", toString ((now + settings.rateLimitWindow * second) / second))]

/-! ### The promise -/

variable {E : Type} {limits : E → RateLimit} {host? : Option String} {settings : LimiterSettings}

/-- An endpoint is not stricter than the settings. -/
def Covers (settings : LimiterSettings) (limit : RateLimit) : Prop :=
  settings.rateLimitRequests ≤ limit.requests ∧ limit.window ≤ settings.rateLimitWindow

/-- The requests from a time on that the set still has at a later one. -/
def seen (limits : E → RateLimit) (history : List (Request E)) (start time : ℤ) :
    List (Request E) :=
  (spared limits history).filter fun r =>
    start ≤ r.time ∧ ∀ t ∈ expires limits history, time < t

/-- The count of the header is that of the requests in the history. -/
theorem windowCount_eq {s : LimiterState E} (h : Tracked limits host? s) {now : ℤ}
    (hnow : s.now ≤ now) : windowCount settings (addressKey host?) now s.redis =
      (seen limits s.history (now - settings.rateLimitWindow * second) now).length := by
  have hscores : ((Keyspace.get now (bucketKey host?) s.redis).getD .empty).scores = _ :=
    scores_get h.tracks
  show List.countP _ (SortedSet.scores _) = _
  rw [bucketKey] at hscores
  rw [hscores, List.countP_map, List.countP_filter, seen, ← List.countP_eq_length_filter]
  refine List.countP_congr fun r hr => ?_
  -- the clock has not gone back
  have hle : r.time ≤ now := (h.clock r (mem_of_mem_spared hr)).trans hnow
  simp [hle]

/-- Later, the set has fewer of them. -/
theorem seen_le {history : List (Request E)} {start time later : ℤ} (h : time ≤ later) :
    (seen limits history start later).length ≤ (seen limits history start time).length := by
  unfold seen
  rw [← List.countP_eq_length_filter, ← List.countP_eq_length_filter]
  refine List.countP_mono_left fun r _ hr => ?_
  simp only [decide_eq_true_eq] at hr ⊢
  exact ⟨hr.1, fun t ht => h.trans_lt (hr.2 t ht)⟩

/-- What a request finds besides itself, where its window is in that of the settings. -/
theorem live_le {history : List (Request E)} {endpoint : E} {start time : ℤ}
    (h : start ≤ time - (limits endpoint).span) :
    (live limits history endpoint time).length ≤ (seen limits history start time).length := by
  unfold live seen
  rw [← List.countP_eq_length_filter, ← List.countP_eq_length_filter]
  refine List.countP_mono_left fun r _ hr => ?_
  simp only [decide_eq_true_eq] at hr ⊢
  exact ⟨h.trans hr.1.le, hr.2⟩

/-- A request adds one. -/
theorem seen_concat_le {history : List (Request E)} {c : Request E} {start time : ℤ}
    (h : start ≤ c.time - (limits c.endpoint).span) :
    (seen limits (history ++ [c]) start time).length ≤
      (seen limits history start c.time).length + 1 := by
  have hfilter : (seen limits (history ++ [c]) start time).length ≤
      (spared limits (history ++ [c])).length := List.length_filter_le _ _
  rw [spared_concat, List.length_append, List.length_singleton] at hfilter
  exact hfilter.trans (Nat.add_le_add_right (live_le h) 1)

/-- **One request within the promise** is let through, and leaves the rest of the promise. -/
theorem seen_step {s s' : LimiterState E} {call : LimiterCall E} {now : ℤ} {n : ℕ}
    (htracked : Tracked limits host? s) (hcovers : Covers settings (limits call.endpoint))
    (hcall : now ≤ call.time)
    (hseen : ∀ time, now ≤ time → (seen limits s.history
      (now - settings.rateLimitWindow * second) time).length + (n + 1) ≤
        settings.rateLimitRequests)
    (hstep : (limiterSystem limits host?).step s call s') :
    s'.history = s.history ++ [⟨call.endpoint, call.time, true⟩] ∧ Tracked limits host? s' ∧
      ∀ time, now ≤ time → (seen limits s'.history
        (now - settings.rateLimitWindow * second) time).length + n ≤
          settings.rateLimitRequests := by
  obtain ⟨hhistory, -, htracked'⟩ := step_spec htracked hstep
  have hstart : now - settings.rateLimitWindow * second ≤
      call.time - (limits call.endpoint).span := by
    have hwindow : ((limits call.endpoint).window : ℤ) ≤ settings.rateLimitWindow := by
      exact_mod_cast hcovers.2
    unfold RateLimit.span second
    omega
  have hnow := hseen call.time hcall
  have hlive : (live limits s.history call.endpoint call.time).length ≤
      (seen limits s.history (now - settings.rateLimitWindow * second) call.time).length :=
    live_le hstart
  have hallowed : (live limits s.history call.endpoint call.time).length <
      (limits call.endpoint).requests := by
    have hrequests := hcovers.1
    omega
  rw [decide_eq_true hallowed] at hhistory
  refine ⟨hhistory, htracked', fun time _ => ?_⟩
  rw [hhistory]
  have hone : (seen limits (s.history ++ [⟨call.endpoint, call.time, true⟩])
      (now - settings.rateLimitWindow * second) time).length ≤
      (seen limits s.history (now - settings.rateLimitWindow * second) call.time).length + 1 :=
    seen_concat_le hstart
  omega

/-- The rest of a run within the promise. -/
theorem seen_run {s s' : LimiterState E} {calls : List (LimiterCall E)} {now : ℤ}
    (htracked : Tracked limits host? s)
    (hcovers : ∀ call ∈ calls, Covers settings (limits call.endpoint))
    (hcalls : ∀ call ∈ calls, now ≤ call.time)
    (hseen : ∀ time, now ≤ time → (seen limits s.history
      (now - settings.rateLimitWindow * second) time).length + calls.length ≤
        settings.rateLimitRequests)
    (hrun : (limiterSystem limits host?).Run s calls s') :
    s'.history = s.history ++ calls.map fun call => ⟨call.endpoint, call.time, true⟩ := by
  induction hrun with
  | nil => rw [List.map_nil, List.append_nil]
  | cons hstep _ ih =>
    rw [List.forall_mem_cons] at hcovers hcalls
    obtain ⟨hhistory, htracked', hseen'⟩ := seen_step htracked hcovers.1 hcalls.1 hseen hstep
    rw [ih htracked' hcovers.2 hcalls.2 hseen', hhistory, List.append_assoc, List.map_cons]
    rfl

/-- **The header keeps its promise**: after any requests of an address to any endpoints, as many
requests as `X-Rate-Remaining` says are let through, if they are to endpoints whose limits are not
stricter than the settings, at whatever times. -/
theorem remaining_run {redis : LimiterRedis} {start now : ℤ} {before calls : List (LimiterCall E)}
    {s s' : LimiterState E} (hbefore : (limiterSystem limits host?).Run
      (.start host? redis start) before s) (hnow : s.now ≤ now)
    (hcovers : ∀ call ∈ calls, Covers settings (limits call.endpoint))
    (hcalls : ∀ call ∈ calls, now ≤ call.time)
    (hlength : calls.length ≤ remaining settings (addressKey host?) now s.redis)
    (hrun : (limiterSystem limits host?).Run s calls s') :
    s'.history = s.history ++ calls.map fun call => ⟨call.endpoint, call.time, true⟩ := by
  have htracked : Tracked limits host? s :=
    hbefore.invariant (tracked_start redis start) fun _ _ _ h hstep => (step_spec h hstep).2.2
  by_cases hnil : calls = []
  · subst hnil
    cases hrun
    rw [List.map_nil, List.append_nil]
  · refine seen_run htracked hcovers hcalls (fun time htime => ?_) hrun
    have hpos := List.length_pos_iff.2 hnil
    have hlater : (seen limits s.history (now - settings.rateLimitWindow * second) time).length ≤
        (seen limits s.history (now - settings.rateLimitWindow * second) now).length :=
      seen_le htime
    rw [remaining, windowCount_eq htracked hnow] at hlength
    omega

/-- Two logins of an address at one time, and two more after the header has promised them. -/
theorem remaining_run_logins : ∃ s s', (limiterSystem authLimits none).Run
      (.start none .empty 0) [⟨.login, 0, "0"⟩, ⟨.login, 0, "1"⟩] s ∧
    remaining { rateLimitRequests := 4 } (addressKey none) second s.redis = 2 ∧
    (limiterSystem authLimits none).Run s
      [⟨.login, 3 * second, "2"⟩, ⟨.login, 4 * second, "3"⟩] s' ∧
    s'.history = s.history ++ [⟨.login, 3 * second, true⟩, ⟨.login, 4 * second, true⟩] := by
  obtain ⟨s, hbefore, hs⟩ : ∃ s, (limiterSystem authLimits none).Run
      (.start none .empty 0) [⟨.login, 0, "0"⟩, ⟨.login, 0, "1"⟩] s ∧
      (s.now, remaining { rateLimitRequests := 4 } (addressKey none) second s.redis,
        (Lts.runNext (LimiterState.next authLimits none) s
          [⟨.login, 3 * second, "2"⟩, ⟨.login, 4 * second, "3"⟩]).isSome) = (0, 2, true) :=
    Lts.exists_run_of_map (f := fun s => (s.now,
      remaining { rateLimitRequests := 4 } (addressKey none) second s.redis,
      (Lts.runNext (LimiterState.next authLimits none) s
        [⟨.login, 3 * second, "2"⟩, ⟨.login, 4 * second, "3"⟩]).isSome)) (by decide +kernel)
  rw [Prod.mk.injEq, Prod.mk.injEq] at hs
  obtain ⟨hnow, hremaining, hsome⟩ := hs
  obtain ⟨s', hs'⟩ := Option.isSome_iff_exists.1 hsome
  have hrun : (limiterSystem authLimits none).Run s
      [⟨.login, 3 * second, "2"⟩, ⟨.login, 4 * second, "3"⟩] s' := Lts.run_of_runNext hs'
  refine ⟨s, s', hbefore, hremaining, hrun, ?_⟩
  have hcovers : ∀ call ∈ [(⟨.login, 3 * second, "2"⟩ : LimiterCall AuthEndpoint),
      ⟨.login, 4 * second, "3"⟩], Covers { rateLimitRequests := 4 } (authLimits call.endpoint) := by
    simp [Covers, authLimits]
  have hclock : s.now ≤ second := by
    rw [hnow]
    decide
  refine remaining_run hbefore hclock hcovers ?_ ?_ hrun
  · simp [second]
  · rw [hremaining]
    rfl

end Limiter

end OmsWmsTms
