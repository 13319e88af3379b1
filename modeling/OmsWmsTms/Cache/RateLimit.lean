import OmsWmsTms.Cache.Decorators
import OmsWmsTms.Core.Clock
import OmsWmsTms.Data.Keyspace

/-!
# The limit of `rate_limit`

`rate_limit` of `src/cache/decorators.py` over the client of redis-py, with a server that is up.  The
client has no method `zremrange`, so that every call takes the handler, which calls the function.

* `redisPy` : the client; `method` : what it does for a method that it has or has not.
* `starting` : a function that notes when it is started.
* `calls` : a sequence of calls of the decorated function.
* `Limited` : no window has more executions than the limit, and every further call is refused.
* `limited_iff` : so it is exactly when no window has more calls than the limit.
-/

namespace OmsWmsTms

namespace Cache

/-! ### The client -/

/-- The server, the time, and when the function was started. -/
structure World (S : Type) where
  values : Keyspace String String
  sets : Keyspace String (SortedSet String)
  now : ℤ
  starts : List ℤ
  /-- The state of the application. -/
  app : S

/-- The methods of redis-py for sorted sets. -/
def sortedSetMethods : List String :=
  ["bzmpop", "bzpopmax", "bzpopmin", "zadd", "zcard", "zcount", "zdiff", "zdiffstore", "zincrby",
    "zinter", "zintercard", "zinterstore", "zlexcount", "zmpop", "zmscore", "zpopmax", "zpopmin",
    "zrandmember", "zrange", "zrangebylex", "zrangebyscore", "zrangestore", "zrank", "zrem",
    "zremrangebylex", "zremrangebyrank", "zremrangebyscore", "zrevrange", "zrevrangebylex",
    "zrevrangebyscore", "zrevrank", "zscan", "zscan_iter", "zscore", "zunion", "zunionstore"]

variable {S α β : Type}

/-- A method of the client; an unknown one raises an `AttributeError`. -/
def method (name : String) (command : World S → β × World S) (w : World S) :
    Except String β × World S :=
  if name ∈ sortedSetMethods then (.ok (command w).1, (command w).2)
  else (.error "AttributeError", w)

/-- The members of a key, which do not expire. -/
def World.set? (w : World S) (key : String) : SortedSet String :=
  ((w.sets.get? key).map Prod.fst).getD .empty

/-- **The client of redis-py**, with a server that is up. -/
def redisPy : RedisClient (World S) String where
  enter w := (.ok (), w)
  get key w := (.ok (Keyspace.get w.now key w.values), w)
  set key text ttl w := (.ok (), { w with
    values := Keyspace.setEx w.now key text (ttl * second) w.values })
  setNx key value ttl w :=
    let set := Keyspace.setNx w.now key value (ttl * second) w.values
    (.ok set.1, { w with values := set.2 })
  delete key w := (.ok (), { w with values := Keyspace.del key w.values })
  zremrange key window := method "zremrange" fun w => ((), { w with
    sets := w.sets.set key ((w.set? key).zremrangebyscore (w.now - window * second), 0) })
  zcard key := method "zcard" fun w => ((w.set? key).zcard, w)
  -- `{now: "1"}`: the time is the member, and the score is 1
  zadd key := method "zadd" fun w => ((), { w with
    sets := w.sets.set key ((w.set? key).zadd (toString w.now) 1, 0) })

/-! ### The calls -/

/-- A function that notes when it is started. -/
def starting (func : Comp S Raised α) : Comp (World S) Raised α where
  exec w :=
    let (outcome, app) := func.exec w.app
    (outcome, { w with app, starts := w.starts ++ [w.now] })

/-- A call of the decorated function: when, what was started before it, and its outcome. -/
structure Called (α : Type) where
  time : ℤ
  before : List ℤ
  outcome : Except Raised α

variable (funcName : String) (maxCalls : ℕ) (window : ℤ) (func : Comp S Raised α)

/-- **The calls of the decorated function** at some times, one after another. -/
def calls (w : World S) : List ℤ → List (Called α) × World S
  | [] => ([], w)
  | time :: times =>
    let ran := (rateLimit redisPy funcName maxCalls window (starting func)).exec
      { w with now := time }
    let others := calls ran.2 times
    (⟨time, w.starts, ran.1⟩ :: others.1, others.2)

/-- How many times are in the window that ends at a time. -/
def inWindow (times : List ℤ) (time : ℤ) : ℕ :=
  times.countP fun t => time - window * second < t ∧ t ≤ time

/-- `RateLimitExceeded`. -/
def IsExceeded (outcome : Except Raised α) : Prop :=
  ∃ message, outcome = .error (.rateLimitExceeded message)

/-- **The function is limited.** -/
structure Limited (called : List (Called α)) (starts : List ℤ) : Prop where
  /-- No window has more executions than the limit. -/
  starts_le : ∀ time, inWindow window starts time ≤ maxCalls
  /-- A call that would be one too many is refused. -/
  refused : ∀ call ∈ called,
    maxCalls < inWindow window (call.before ++ [call.time]) call.time → IsExceeded call.outcome

variable {funcName maxCalls window func}

theorem zremrange_notMem : "zremrange" ∉ sortedSetMethods := by decide

theorem method_unknown {name : String} (h : name ∉ sortedSetMethods)
    (command : World S → β × World S) (w : World S) :
    method name command w = (.error "AttributeError", w) := if_neg h

/-- **Every call takes the handler**: the function is started once, whatever was started before. -/
theorem rateLimit_redisPy (w : World S) :
    (rateLimit redisPy funcName maxCalls window (starting func)).exec w =
      (starting func).exec w := by
  have hremove : redisPy.zremrange ("rate_limit:" ++ funcName) window w =
      (.error "AttributeError", w) := by
    simp only [redisPy, method_unknown zremrange_notMem]
  have hprelude : (rateLimitDecorator redisPy funcName maxCalls window :
      Decorator (World S) Raised α).prelude w = .fallback w := by
    have henter : redisPy.enter w = (.ok (), w) := rfl
    simp only [rateLimitDecorator, henter, hremove]
  rw [rateLimit_eq]
  simp only [Decorator.apply, hprelude]

theorem calls_cons (w : World S) (time : ℤ) (times : List ℤ) :
    calls funcName maxCalls window func w (time :: times) =
      let ran := (starting func).exec { w with now := time }
      let others := calls funcName maxCalls window func ran.2 times
      (⟨time, w.starts, ran.1⟩ :: others.1, others.2) := by
  rw [calls, rateLimit_redisPy]

/-- What some calls have started: one execution each. -/
theorem starts_calls (w : World S) (times : List ℤ) :
    (calls funcName maxCalls window func w times).2.starts = w.starts ++ times := by
  induction times generalizing w with
  | nil => simp [calls]
  | cons time times ih =>
    rw [calls_cons]
    dsimp only
    rw [ih]
    simp [starting]

/-- What was started before a call: what the calls before it have started. -/
theorem before_of_mem_calls {w : World S} {times : List ℤ} {call : Called α}
    (h : call ∈ (calls funcName maxCalls window func w times).1) :
    ∃ earlier later, times = earlier ++ call.time :: later ∧ call.before = w.starts ++ earlier := by
  induction times generalizing w with
  | nil => cases h
  | cons time times ih =>
    rw [calls_cons] at h
    rcases List.mem_cons.1 h with rfl | h
    · exact ⟨[], times, rfl, (List.append_nil _).symm⟩
    · obtain ⟨earlier, later, htimes, hbefore⟩ := ih h
      refine ⟨time :: earlier, later, by rw [htimes, List.cons_append], ?_⟩
      rw [hbefore]
      simp [starting]

/-- **The function is limited exactly when** no window has more calls than the limit, as the
decorator refuses none. -/
theorem limited_iff (funcName : String) (maxCalls : ℕ) (window : ℤ) (func : Comp S Raised α)
    (w : World S) (times : List ℤ) :
    Limited maxCalls window (calls funcName maxCalls window func w times).1
        (calls funcName maxCalls window func w times).2.starts ↔
      ∀ time, inWindow window (w.starts ++ times) time ≤ maxCalls := by
  rw [starts_calls]
  refine ⟨fun h => h.starts_le, fun h => ⟨h, fun call hcall hfull => ?_⟩⟩
  obtain ⟨earlier, later, htimes, hbefore⟩ := before_of_mem_calls hcall
  have hsublist : (call.before ++ [call.time]).Sublist (w.starts ++ times) := by
    rw [hbefore, htimes, List.append_assoc]
    exact (List.prefix_append_right_inj _).2 ⟨later, by simp⟩ |>.sublist
  have hle : inWindow window (call.before ++ [call.time]) call.time ≤ maxCalls :=
    (hsublist.countP_le).trans (h call.time)
  omega

/-- A world in which nothing has happened. -/
def World.start (app : S) : World S := ⟨.empty, .empty, 0, [], app⟩

/-- A function that returns its argument. -/
def returning (a : α) : Comp Unit Raised α := pure a

/-- Eleven calls at one instant are all executed. -/
theorem elevenCalls_not_limited :
    ¬ Limited 10 60
      (calls "find_best_route_plan" 10 60 (returning "plan") (.start ()) (List.replicate 11 0)).1
      (calls "find_best_route_plan" 10 60 (returning "plan") (.start ())
        (List.replicate 11 0)).2.starts := by
  intro h
  have hcount := h.starts_le 0
  rw [starts_calls] at hcount
  revert hcount
  decide

end Cache

end OmsWmsTms
