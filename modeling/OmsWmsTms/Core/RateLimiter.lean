import OmsWmsTms.Core.Clock
import OmsWmsTms.Data.Keyspace
import OmsWmsTms.Lts.Basic
import Mathlib.Data.List.Chain

/-!
# The rate limiter

`src/core/rate_limiter.py`: the requests of an address are the members of one sorted set, whatever
the endpoint, with their times as scores.

* `checkRateLimit` : `RateLimiter.check_rate_limit`.
* `rateLimit` : the wrapper of `rate_limit`, for the endpoints without a `key_func`.
* `limiterSystem` : the requests of an address to some endpoints.
* `spared`, `live` : the requests that later ones have not dropped.
* `redis_step` : the set of an address has the times of the spared requests.
-/

namespace OmsWmsTms

namespace Limiter

/-! ### The code -/

/-- The settings that the limiter reads. -/
structure LimiterSettings where
  rateLimitRequests : ℕ := 100
  rateLimitWindow : ℕ := 60
  testing : Bool := false

/-- `value or default`. -/
def orDefault (value? : Option ℕ) (default : ℕ) : ℕ :=
  match value? with
  | some 0 | none => default
  | some value => value

/-- The Redis server, with the sorted sets of the limiter. -/
abbrev LimiterRedis := Keyspace String (SortedSet String)

/-- The commands of the pipeline, executed at once: `ZADD`, `ZREMRANGEBYSCORE`, `ZCARD` and
`EXPIRE`. -/
def hit (bucketKey : String) (window now : ℤ) (member : String) (redis : LimiterRedis) :
    ℕ × LimiterRedis :=
  let set := (Keyspace.get now bucketKey redis).getD .empty
  let set := (set.zadd member now).zremrangebyscore (now - window)
  (set.zcard, redis.setEx now bucketKey set window)

/-- `RateLimiter.check_rate_limit`; `reply` says how the pipeline ends. -/
def checkRateLimit (settings : LimiterSettings) (connected : Bool) (reply : Reply) (key : String)
    (requests? window? : Option ℕ) (now : ℤ) (member : String) (redis : LimiterRedis) :
    Bool × LimiterRedis :=
  let requests := orDefault requests? settings.rateLimitRequests
  let window := orDefault window? settings.rateLimitWindow
  if settings.testing then (true, redis)
  else if ¬ connected then (false, redis)
  else
    let (count, after) := hit ("rate_limit:" ++ key) (window * second) now member redis
    match reply with
    | .ok => (count ≤ requests, after)
    | .unsent => (false, redis)
    | .unanswered => (false, after)

/-- The key of the requests of an address. -/
def addressKey (host? : Option String) : String := "ip:" ++ host?.getD "unknown"

/-- The arguments of `rate_limit` at an endpoint. -/
structure RateLimit where
  requests : ℕ
  /-- The window, in seconds. -/
  window : ℕ
  requests_pos : 0 < requests
  window_pos : 0 < window

/-- The window as a time. -/
def RateLimit.span (limit : RateLimit) : ℤ := limit.window * second

/-- The wrapper of `rate_limit`: whether the endpoint is called. -/
def rateLimit (limit : RateLimit) (settings : LimiterSettings) (connected : Bool) (reply : Reply)
    (host? : Option String) (now : ℤ) (member : String) (redis : LimiterRedis) :
    Bool × LimiterRedis :=
  checkRateLimit settings connected reply (addressKey host?) (some limit.requests)
    (some limit.window) now member redis

/-! ### The requests of an address -/

/-- A request, and whether it was let through. -/
structure Request (E : Type) where
  endpoint : E
  time : ℤ
  allowed : Bool
deriving DecidableEq

/-- The server, the requests so far, and the time. -/
structure LimiterState (E : Type) where
  redis : LimiterRedis
  history : List (Request E)
  now : ℤ

/-- A new request, and its member of the set. -/
structure LimiterCall (E : Type) where
  endpoint : E
  time : ℤ
  member : String

variable {E : Type} (limits : E → RateLimit) (host? : Option String)

/-- The key of the set. -/
def bucketKey (host? : Option String) : String := "rate_limit:" ++ addressKey host?

/-- **One request**: the clock does not go back, and the member is new. -/
def LimiterState.next (s : LimiterState E) (call : LimiterCall E) : Option (LimiterState E) :=
  let set := (Keyspace.get call.time (bucketKey host?) s.redis).getD .empty
  if s.now ≤ call.time ∧ set.get? call.member = none then
    let (allowed, redis) := rateLimit (limits call.endpoint) {} true .ok host? call.time call.member
      s.redis
    some {
      redis
      history := s.history ++ [{ endpoint := call.endpoint, time := call.time, allowed }]
      now := call.time }
  else none

/-- **The requests of an address.** -/
def limiterSystem : Lts (LimiterState E) (LimiterCall E) := .ofNext (LimiterState.next limits host?)

/-- The start: the address has no set. -/
def LimiterState.start (redis : LimiterRedis) (now : ℤ) : LimiterState E where
  redis := redis.del (bucketKey host?)
  history := []
  now

/-! ### What later requests drop -/

/-- The requests after this one have neither trimmed it nor let the set expire. -/
def Spared (r : Request E) (later : List (Request E)) : Prop :=
  (∀ r' ∈ later, r'.time - (limits r'.endpoint).span < r.time) ∧
    (r :: later).IsChain fun a b => b.time < a.time + (limits a.endpoint).span

instance (r : Request E) (later : List (Request E)) : Decidable (Spared limits r later) :=
  inferInstanceAs (Decidable (_ ∧ _))

/-- The requests that later ones have spared. -/
def spared : List (Request E) → List (Request E)
  | [] => []
  | r :: later => if Spared limits r later then r :: spared later else spared later

/-- When the set expires. -/
def expires (history : List (Request E)) : Option ℤ :=
  history.getLast?.map fun r => r.time + (limits r.endpoint).span

/-- The earlier requests that a request at a time spares too. -/
def live (history : List (Request E)) (endpoint : E) (time : ℤ) : List (Request E) :=
  (spared limits history).filter fun r =>
    time - (limits endpoint).span < r.time ∧ ∀ t ∈ expires limits history, time < t

/-! ### The set and the requests -/

variable {limits host?}

theorem RateLimit.span_pos (limit : RateLimit) : 0 < limit.span := by
  have hpos := limit.window_pos
  unfold RateLimit.span second
  omega

/-- The set of the address: the times of the requests that later ones have spared. -/
def Tracks (limits : E → RateLimit) (host? : Option String) (redis : LimiterRedis)
    (history : List (Request E)) : Prop :=
  match expires limits history with
  | none => redis.get? (bucketKey host?) = none
  | some t => ∃ set, redis.get? (bucketKey host?) = some (set, t) ∧
      set.scores = (spared limits history).map Request.time

/-- The state of a run. -/
structure Tracked (limits : E → RateLimit) (host? : Option String) (s : LimiterState E) : Prop where
  tracks : Tracks limits host? s.redis s.history
  clock : ∀ r ∈ s.history, r.time ≤ s.now

theorem expires_concat (history : List (Request E)) (r : Request E) :
    expires limits (history ++ [r]) = some (r.time + (limits r.endpoint).span) := by
  rw [expires, List.getLast?_concat]
  rfl

theorem expires_cons {r : Request E} {history : List (Request E)} (h : history ≠ []) :
    expires limits (r :: history) = expires limits history := by
  rw [expires, expires, List.getLast?_cons_of_ne_nil h]

/-- One more request. -/
theorem spared_concat_iff (r c : Request E) (later : List (Request E)) :
    Spared limits r (later ++ [c]) ↔ Spared limits r later ∧
      c.time - (limits c.endpoint).span < r.time ∧
      ∀ t ∈ expires limits (r :: later), c.time < t := by
  have hchain : (r :: (later ++ [c])).IsChain
      (fun a b => b.time < a.time + (limits a.endpoint).span) ↔
      (r :: later).IsChain (fun a b => b.time < a.time + (limits a.endpoint).span) ∧
        ∀ t ∈ expires limits (r :: later), c.time < t := by
    rw [← List.cons_append, List.isChain_append]
    simp [expires]
  unfold Spared
  rw [hchain, List.forall_mem_append, List.forall_mem_singleton]
  tauto

/-- **What a request leaves**: what it has spared, and itself. -/
theorem spared_concat (history : List (Request E)) (c : Request E) :
    spared limits (history ++ [c]) = live limits history c.endpoint c.time ++ [c] := by
  induction history with
  | nil =>
    have hself : Spared limits c [] := ⟨fun _ h => (by cases h), .singleton c⟩
    simp [spared, live, hself]
  | cons r later ih =>
    have hrest : live limits (r :: later) c.endpoint c.time =
        if Spared limits r (later ++ [c]) then r :: live limits later c.endpoint c.time
        else live limits later c.endpoint c.time := by
      have htail : (spared limits later).filter (fun r' =>
          c.time - (limits c.endpoint).span < r'.time ∧
            ∀ t ∈ expires limits (r :: later), c.time < t) =
          live limits later c.endpoint c.time := by
        cases later with
        | nil => rfl
        | cons r' later => rw [live, expires_cons (List.cons_ne_nil _ _)]
      unfold live
      rw [spared]
      by_cases hspared : Spared limits r later
      · rw [if_pos hspared, List.filter_cons, htail]
        simp only [spared_concat_iff, hspared, true_and, decide_eq_true_eq]
        rfl
      · rw [if_neg hspared, htail, if_neg fun h => hspared ((spared_concat_iff r c later).1 h).1]
        rfl
    rw [List.cons_append, spared, ih, hrest]
    split_ifs <;> rfl

/-- What the server has for a request. -/
theorem scores_get {redis : LimiterRedis} {history : List (Request E)} {now : ℤ}
    (h : Tracks limits host? redis history) :
    ((Keyspace.get now (bucketKey host?) redis).getD .empty).scores =
      ((spared limits history).filter fun _ => ∀ t ∈ expires limits history, now < t).map
        Request.time := by
  unfold Tracks at h
  cases hexpires : expires limits history with
  | none =>
    rw [hexpires] at h
    have hnil : history = [] := by
      unfold expires at hexpires
      exact List.getLast?_eq_none_iff.1 (Option.map_eq_none_iff.1 hexpires)
    rw [Keyspace.get_eq_none_of_get? h, hnil]
    rfl
  | some t =>
    rw [hexpires] at h
    obtain ⟨set, hset, hscores⟩ := h
    by_cases hnow : now < t
    · rw [Keyspace.get_eq_some.2 ⟨t, hset, hnow⟩]
      simp [hnow, hscores]
    · have hnone : Keyspace.get now (bucketKey host?) redis = none := by
        unfold Keyspace.get
        rw [hset]
        exact if_neg hnow
      rw [hnone]
      simp [hnow, SortedSet.scores, Dict.empty]

/-- **What a request finds**: itself and the requests that it spares. -/
theorem hit_spec {redis : LimiterRedis} {history : List (Request E)} {call : LimiterCall E}
    (h : Tracks limits host? redis history)
    (hnew :
      ((Keyspace.get call.time (bucketKey host?) redis).getD .empty).get? call.member = none) :
    (hit (bucketKey host?) (limits call.endpoint).span call.time call.member redis).1 =
        (live limits history call.endpoint call.time).length + 1 ∧
      ∀ allowed, Tracks limits host?
        (hit (bucketKey host?) (limits call.endpoint).span call.time call.member redis).2
        (history ++ [⟨call.endpoint, call.time, allowed⟩]) := by
  have hscores : ((((Keyspace.get call.time (bucketKey host?) redis).getD .empty).zadd call.member
      call.time).zremrangebyscore (call.time - (limits call.endpoint).span)).scores =
      (live limits history call.endpoint call.time).map Request.time ++ [call.time] := by
    have hpos := (limits call.endpoint).span_pos
    rw [SortedSet.scores_zremrangebyscore, SortedSet.scores_zadd hnew, scores_get h,
      List.filter_append, List.filter_map, List.filter_filter]
    have hself : [call.time].filter (fun score => call.time - (limits call.endpoint).span < score) =
        [call.time] := by simp [hpos]
    rw [hself]
    congr 2
    refine List.filter_congr fun r _ => ?_
    simp only [Function.comp_apply, Bool.decide_and]
  refine ⟨?_, fun allowed => ?_⟩
  · change SortedSet.zcard _ = _
    rw [SortedSet.zcard_eq_length, hscores, List.length_append, List.length_map]
    rfl
  · unfold Tracks
    rw [expires_concat]
    refine ⟨_, Keyspace.get?_setEx.trans (if_pos rfl), ?_⟩
    rw [spared_concat, List.map_append]
    exact hscores

/-! ### The decision -/

/-- A request is let through when fewer than the limit are left. -/
theorem rateLimit_fst {redis : LimiterRedis} {history : List (Request E)} {call : LimiterCall E}
    (h : Tracks limits host? redis history)
    (hnew :
      ((Keyspace.get call.time (bucketKey host?) redis).getD .empty).get? call.member = none) :
    (rateLimit (limits call.endpoint) {} true .ok host? call.time call.member redis).1 =
        decide ((live limits history call.endpoint call.time).length <
          (limits call.endpoint).requests) ∧
      (rateLimit (limits call.endpoint) {} true .ok host? call.time call.member redis).2 =
        (hit (bucketKey host?) (limits call.endpoint).span call.time call.member redis).2 := by
  have hdefault : ∀ n d, 0 < n → orDefault (some n) d = n := by
    intro n d hn
    cases n with
    | zero => cases hn
    | succ n => rfl
  unfold rateLimit checkRateLimit
  rw [hdefault _ _ (limits call.endpoint).requests_pos,
    hdefault _ _ (limits call.endpoint).window_pos]
  refine ⟨?_, rfl⟩
  change decide ((hit (bucketKey host?) (limits call.endpoint).span call.time call.member redis).1 ≤
    (limits call.endpoint).requests) = _
  rw [(hit_spec h hnew).1]
  rfl

/-- **One request**, by the requests before it. -/
theorem step_spec {s s' : LimiterState E} {call : LimiterCall E} (h : Tracked limits host? s)
    (hstep : (limiterSystem limits host?).step s call s') :
    s'.history = s.history ++ [{
      endpoint := call.endpoint
      time := call.time
      allowed := (live limits s.history call.endpoint call.time).length <
        (limits call.endpoint).requests }] ∧ s.now ≤ call.time ∧ Tracked limits host? s' := by
  replace hstep : s.next limits host? call = some s' := hstep
  unfold LimiterState.next at hstep
  dsimp only at hstep
  split_ifs at hstep with hguard
  obtain ⟨hclock, hnew⟩ := hguard
  obtain ⟨hfst, hsnd⟩ := rateLimit_fst h.tracks hnew
  cases hstep
  refine ⟨?_, hclock, ?_, ?_⟩
  · rw [hfst]
  · rw [hsnd]
    exact (hit_spec h.tracks hnew).2 _
  · intro r hr
    rcases List.mem_append.1 hr with hr | hr
    · exact (h.clock r hr).trans hclock
    · cases List.mem_singleton.1 hr
      exact le_rfl

theorem tracked_start (redis : LimiterRedis) (now : ℤ) :
    Tracked limits host? (.start host? redis now) where
  tracks := by
    change (redis.del (bucketKey host?)).get? (bucketKey host?) = none
    rw [Keyspace.get?_del, if_pos rfl]
  clock r hr := by cases hr

end Limiter

end OmsWmsTms
