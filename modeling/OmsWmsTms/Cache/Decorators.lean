import OmsWmsTms.Cache.Lock
import OmsWmsTms.Control.Decorator

/-!
# The cache decorators

`cached`, `rate_limit` and `distributed_lock` of `src/cache/decorators.py`, around any function,
with a Redis client whose commands answer or raise as they like, and `generate_route_plan` of
`src/tms/service.py`, which carries two of them.  Each has its commands and the call of the function
in one `try` block, whose handler calls the function.

* `Raised`, `RedisClient`, `JsonCodec` : what can be raised, and what the decorators call.
* `cached`, `rateLimit`, `distributedLock`, `generateRoutePlan` : the decorated functions.
* `cachedDecorator`, `rateLimitDecorator`, `lockDecorator` : the same as what is done before and
  after the call.
* `decorators_once` : they call the function at most once unless a handler repeats the call.
-/

namespace OmsWmsTms

namespace Cache

/-- What a function can raise. -/
inductive Raised
  /-- `RateLimitExceeded`. -/
  | rateLimitExceeded (message : String)
  /-- Another `Exception`. -/
  | exception (name : String)
  /-- A `BaseException` that is no `Exception`. -/
  | base (name : String)
deriving DecidableEq

/-- `except Exception` catches it. -/
@[simp]
def Raised.isException : Raised → Bool
  | .rateLimitExceeded _ | .exception _ => true
  | .base _ => false

/-- The commands of a Redis client, on the state of everything: each answers, or raises an
exception of some name. -/
structure RedisClient (S Bytes : Type) where
  /-- `async with get_redis()`. -/
  enter : S → Except String Unit × S
  get : String → S → Except String (Option Bytes) × S
  /-- `set` with an expiry. -/
  set : String → Bytes → ℤ → S → Except String Unit × S
  /-- `set` with an expiry and `nx`. -/
  setNx : String → String → ℤ → S → Except String Bool × S
  delete : String → S → Except String Unit × S
  /-- `zremrange` up to the start of a window. -/
  zremrange : String → ℤ → S → Except String Unit × S
  zcard : String → S → Except String ℕ × S
  /-- `zadd` of the present time. -/
  zadd : String → S → Except String Unit × S

/-- `json.dumps` with its `encode`, and `json.loads` with its `decode`; both can raise. -/
structure JsonCodec (α Bytes : Type) where
  dumps : α → Except String Bytes
  loads : Bytes → Except String α

section

variable {S α β Bytes : Type}

/-- A command, or another call that raises by name. -/
def command (call : S → Except String β × S) : Comp S Raised β where
  exec s :=
    match call s with
    | (.ok answer, s) => (.ok answer, s)
    | (.error name, s) => (.error (.exception name), s)

/-- A value, or an exception by name. -/
def valueOf (value : Except String β) : Comp S Raised β := command fun s => (value, s)

/-- `try` a body, `finally` a command. -/
def tryFinally (body : Comp S Raised α) (last : Comp S Raised Unit) : Comp S Raised α where
  exec s :=
    match last.exec (body.exec s).2 with
    | (.ok _, s') => ((body.exec s).1, s')
    | (.error e, s') => (.error e, s')

/-- `_generate_cache_key`, with the text of the arguments. -/
def generateCacheKey (md5 : String → String) (keyPrefix funcName argStr : String) : String :=
  keyPrefix ++ ":" ++ funcName ++ ":" ++ md5 argStr

variable (redis : RedisClient S Bytes)

/-- `cached`. -/
def cached (json : JsonCodec α Bytes) (ttl : ℤ) (key : String) (func : Comp S Raised α) :
    Comp S Raised α :=
  tryCatch (do
      command redis.enter
      match ← command (redis.get key) with
      | some cachedValue => valueOf (json.loads cachedValue)
      | none => do
        let result ← func
        let text ← valueOf (json.dumps result)
        command (redis.set key text ttl)
        pure result)
    fun e => if e.isException then func else throw e

/-- The message of `RateLimitExceeded`. -/
def rateLimitMessage (funcName : String) (maxCalls : ℕ) (window : ℤ) : String :=
  s!"Rate limit exceeded for {funcName}: {maxCalls} calls per {window}s window"

/-- `rate_limit`. -/
def rateLimit (funcName : String) (maxCalls : ℕ) (window : ℤ) (func : Comp S Raised α) :
    Comp S Raised α :=
  tryCatch (do
      command redis.enter
      command (redis.zremrange ("rate_limit:" ++ funcName) window)
      let callCount ← command (redis.zcard ("rate_limit:" ++ funcName))
      if maxCalls ≤ callCount then
        throw (.rateLimitExceeded (rateLimitMessage funcName maxCalls window))
      else do
        command (redis.zadd ("rate_limit:" ++ funcName))
        func)
    fun e => match e with
      | .rateLimitExceeded message => throw (.rateLimitExceeded message)
      | .exception _ => func
      | .base name => throw (.base name)

/-- `distributed_lock`, with the `None` that it returns without the lock. -/
def distributedLock (none : α) (key : String) (timeout : ℤ) (func : Comp S Raised α) :
    Comp S Raised α :=
  tryCatch (do
      command redis.enter
      let acquired ← command (redis.setNx (lockKey key) "locked" timeout)
      if acquired then tryFinally func (command (redis.delete (lockKey key))) else pure none)
    fun e => if e.isException then func else throw e

/-- `generate_route_plan`. -/
def generateRoutePlan (none : α) (func : Comp S Raised α) : Comp S Raised α :=
  rateLimit redis "generate_route_plan" 10 60
    (distributedLock redis none "generate_route_plan" 30 func)

/-! ### Before and after the call -/

/-- `cached`, before and after the call. -/
def cachedDecorator (json : JsonCodec α Bytes) (ttl : ℤ) (key : String) :
    Decorator S Raised α where
  prelude s :=
    match redis.enter s with
    | (.error _, s) => .fallback s
    | (.ok _, s) =>
      match redis.get key s with
      | (.error _, s) => .fallback s
      | (.ok none, s) => .call s
      | (.ok (some cachedValue), s) =>
        match json.loads cachedValue with
        | .error _ => .fallback s
        | .ok value => .answer (.ok value) s
  after
    | (.error e, s) => if e.isException then .again s else .keep s
    | (.ok result, s) =>
      match json.dumps result with
      | .error _ => .again s
      | .ok text =>
        match redis.set key text ttl s with
        | (.error _, s) => .again s
        | (.ok _, s) => .keep s

/-- `rate_limit`, before and after the call. -/
def rateLimitDecorator (funcName : String) (maxCalls : ℕ) (window : ℤ) : Decorator S Raised α where
  prelude s :=
    match redis.enter s with
    | (.error _, s) => .fallback s
    | (.ok _, s) =>
      match redis.zremrange ("rate_limit:" ++ funcName) window s with
      | (.error _, s) => .fallback s
      | (.ok _, s) =>
        match redis.zcard ("rate_limit:" ++ funcName) s with
        | (.error _, s) => .fallback s
        | (.ok callCount, s) =>
          if maxCalls ≤ callCount then
            .answer (.error (.rateLimitExceeded (rateLimitMessage funcName maxCalls window))) s
          else
            match redis.zadd ("rate_limit:" ++ funcName) s with
            | (.error _, s) => .fallback s
            | (.ok _, s) => .call s
  after
    | (.error (.exception _), s) => .again s
    | (_, s) => .keep s

/-- `distributed_lock`, before and after the call. -/
def lockDecorator (none : α) (key : String) (timeout : ℤ) : Decorator S Raised α where
  prelude s :=
    match redis.enter s with
    | (.error _, s) => .fallback s
    | (.ok _, s) =>
      match redis.setNx (lockKey key) "locked" timeout s with
      | (.error _, s) => .fallback s
      | (.ok true, s) => .call s
      | (.ok false, s) => .answer (.ok none) s
  after
    | (outcome, s) =>
      match redis.delete (lockKey key) s with
      | (.error _, s) => .again s
      | (.ok _, s) =>
        match outcome with
        | .ok _ => .keep s
        | .error e => if e.isException then .again s else .keep s

variable {redis}

@[simp] theorem exec_command (call : S → Except String β × S) (s : S) : (command call).exec s =
    match call s with
    | (.ok answer, s) => (.ok answer, s)
    | (.error name, s) => (.error (.exception name), s) := rfl

@[simp] theorem exec_valueOf (value : Except String β) (s : S) : (valueOf value).exec s =
    match value with
    | .ok value => (.ok value, s)
    | .error name => (.error (.exception name), s) := by
  cases value <;> rfl

theorem cached_eq (json : JsonCodec α Bytes) (ttl : ℤ) (key : String) (func : Comp S Raised α) :
    cached redis json ttl key func = (cachedDecorator redis json ttl key).apply func := by
  ext s : 2
  rcases henter : redis.enter s with ⟨_ | _, s₁⟩
  · simp [cached, cachedDecorator, Decorator.apply, henter]
  rcases hget : redis.get key s₁ with ⟨_ | _ | cachedValue, s₂⟩
  · simp [cached, cachedDecorator, Decorator.apply, henter, hget]
  · -- nothing is cached: what the function does decides
    rcases hfunc : func.exec s₂ with ⟨e | result, s₃⟩
    · cases e <;> simp [cached, cachedDecorator, Decorator.apply, henter, hget, hfunc]
    rcases hdumps : json.dumps result with _ | text
    · simp [cached, cachedDecorator, Decorator.apply, henter, hget, hfunc, hdumps]
    rcases hset : redis.set key text ttl s₃ with ⟨_ | _, s₄⟩ <;>
      simp [cached, cachedDecorator, Decorator.apply, henter, hget, hfunc, hdumps, hset]
  · rcases hloads : json.loads cachedValue with _ | value <;>
      simp [cached, cachedDecorator, Decorator.apply, henter, hget, hloads]

theorem rateLimit_eq (funcName : String) (maxCalls : ℕ) (window : ℤ) (func : Comp S Raised α) :
    rateLimit redis funcName maxCalls window func =
      (rateLimitDecorator redis funcName maxCalls window).apply func := by
  ext s : 2
  rcases henter : redis.enter s with ⟨_ | _, s₁⟩
  · simp [rateLimit, rateLimitDecorator, Decorator.apply, henter]
  rcases hrem : redis.zremrange ("rate_limit:" ++ funcName) window s₁ with ⟨_ | _, s₂⟩
  · simp [rateLimit, rateLimitDecorator, Decorator.apply, henter, hrem]
  rcases hcard : redis.zcard ("rate_limit:" ++ funcName) s₂ with ⟨_ | callCount, s₃⟩
  · simp [rateLimit, rateLimitDecorator, Decorator.apply, henter, hrem, hcard]
  by_cases hmax : maxCalls ≤ callCount
  · simp [rateLimit, rateLimitDecorator, Decorator.apply, henter, hrem, hcard, hmax]
  rcases hadd : redis.zadd ("rate_limit:" ++ funcName) s₃ with ⟨_ | _, s₄⟩
  · simp [rateLimit, rateLimitDecorator, Decorator.apply, henter, hrem, hcard, hmax, hadd]
  · rcases hfunc : func.exec s₄ with ⟨e | result, s₅⟩
    · cases e <;>
        simp [rateLimit, rateLimitDecorator, Decorator.apply, henter, hrem, hcard, hmax, hadd,
          hfunc]
    · simp [rateLimit, rateLimitDecorator, Decorator.apply, henter, hrem, hcard, hmax, hadd, hfunc]

theorem distributedLock_eq (none : α) (key : String) (timeout : ℤ) (func : Comp S Raised α) :
    distributedLock redis none key timeout func =
      (lockDecorator redis none key timeout).apply func := by
  ext s : 2
  rcases henter : redis.enter s with ⟨_ | _, s₁⟩
  · simp [distributedLock, lockDecorator, Decorator.apply, henter]
  rcases hset : redis.setNx (lockKey key) "locked" timeout s₁ with ⟨_ | _ | _, s₂⟩
  · simp [distributedLock, lockDecorator, Decorator.apply, henter, hset]
  · simp [distributedLock, lockDecorator, Decorator.apply, henter, hset]
  · rcases hfunc : func.exec s₂ with ⟨e | result, s₃⟩ <;>
      rcases hdelete : redis.delete (lockKey key) s₃ with ⟨_ | _, s₄⟩
    · cases e <;>
        simp [distributedLock, lockDecorator, Decorator.apply, tryFinally, henter, hset, hfunc,
          hdelete]
    · cases e <;>
        simp [distributedLock, lockDecorator, Decorator.apply, tryFinally, henter, hset, hfunc,
          hdelete]
    · simp [distributedLock, lockDecorator, Decorator.apply, tryFinally, henter, hset, hfunc,
        hdelete]
    · simp [distributedLock, lockDecorator, Decorator.apply, tryFinally, henter, hset, hfunc,
        hdelete]

/-! ### When a handler repeats the call -/

variable (redis)

/-- `cached` finds nothing under its key, and calls the function. -/
def Missed (key : String) (s s' : S) : Prop :=
  ∃ s₁, redis.enter s = (.ok (), s₁) ∧ redis.get key s₁ = (.ok none, s')

/-- What `cached` catches once the function has been called. -/
inductive StoreFails (json : JsonCodec α Bytes) (ttl : ℤ) (key : String) :
    Except Raised α × S → Prop
  /-- The function raises. -/
  | raised {e : Raised} {s : S} (h : e.isException) : StoreFails json ttl key (.error e, s)
  /-- The result has no JSON. -/
  | dumps {result : α} {s : S} {name : String} (h : json.dumps result = .error name) :
      StoreFails json ttl key (.ok result, s)
  /-- The result cannot be stored. -/
  | set {result : α} {s s' : S} {text : Bytes} {name : String}
      (hdumps : json.dumps result = .ok text)
      (hset : redis.set key text ttl s = (.error name, s')) :
      StoreFails json ttl key (.ok result, s)

/-- `rate_limit` lets the call through. -/
def Admitted (funcName : String) (maxCalls : ℕ) (window : ℤ) (s s' : S) : Prop :=
  ∃ s₁ s₂ callCount s₃, redis.enter s = (.ok (), s₁) ∧
    redis.zremrange ("rate_limit:" ++ funcName) window s₁ = (.ok (), s₂) ∧
    redis.zcard ("rate_limit:" ++ funcName) s₂ = (.ok callCount, s₃) ∧ callCount < maxCalls ∧
    redis.zadd ("rate_limit:" ++ funcName) s₃ = (.ok (), s')

/-- `distributed_lock` acquires its lock. -/
def Acquired (key : String) (timeout : ℤ) (s s' : S) : Prop :=
  ∃ s₁, redis.enter s = (.ok (), s₁) ∧
    redis.setNx (lockKey key) "locked" timeout s₁ = (.ok true, s')

/-- What `distributed_lock` catches once the function has been called. -/
inductive ReleaseFails (key : String) : Except Raised α × S → Prop
  /-- The function raises. -/
  | raised {e : Raised} {s : S} (h : e.isException) : ReleaseFails key (.error e, s)
  /-- The lock cannot be deleted. -/
  | delete {outcome : Except Raised α} {s s' : S} {name : String}
      (h : redis.delete (lockKey key) s = (.error name, s')) : ReleaseFails key (outcome, s)

/-- What a handler of `generate_route_plan` catches once the function has been called. -/
inductive PlanFails (none : α) (func : Comp S Raised α) (s : S) : Prop
  /-- The handler of the lock. -/
  | released {s' s'' : S}
      (hstarts : (rateLimitDecorator redis "generate_route_plan" 10 60 :
        Decorator S Raised α).Starts s s')
      (hacquired : Acquired redis "generate_route_plan" 30 s' s'')
      (hfails : ReleaseFails redis "generate_route_plan" (func.exec s''))
  /-- The handler of the limit, which catches what the locked function raises. -/
  | raised {s' s'' : S} {name : String}
      (hadmitted : Admitted redis "generate_route_plan" 10 60 s s')
      (hstarts : (lockDecorator redis none "generate_route_plan" 30).Starts s' s'')
      (hraised : (func.exec s'').1 = .error (.exception name))

variable {redis} {func : Comp S Raised α} {s : S}

theorem cached_call_iff {json : JsonCodec α Bytes} {ttl : ℤ} {key : String} (s' : S) :
    (cachedDecorator redis json ttl key).prelude s = .call s' ↔ Missed redis key s s' := by
  simp only [cachedDecorator, Missed]
  rcases redis.enter s with ⟨_ | _, s₁⟩
  · simp
  rcases hget : redis.get key s₁ with ⟨_ | _ | cachedValue, s₂⟩
  · simp [hget]
  · simp [hget]
  · rcases hloads : json.loads cachedValue with _ | value <;> simp [hget, hloads]

theorem cached_again_iff {json : JsonCodec α Bytes} {ttl : ℤ} {key : String}
    (ending : Except Raised α × S) :
    (∃ s', (cachedDecorator redis json ttl key).after ending = .again s') ↔
      StoreFails redis json ttl key ending := by
  obtain ⟨e | result, s⟩ := ending
  · constructor
    · rintro ⟨s', h⟩
      simp only [cachedDecorator] at h
      split at h
      next hexc => exact .raised hexc
      next => cases h
    · rintro ⟨hexc⟩
      exact ⟨s, if_pos hexc⟩
  rcases hdumps : json.dumps result with name | text
  · exact iff_of_true ⟨s, by simp [cachedDecorator, hdumps]⟩ (.dumps hdumps)
  rcases hset : redis.set key text ttl s with ⟨name | _, s'⟩
  · exact iff_of_true ⟨s', by simp [cachedDecorator, hdumps, hset]⟩ (.set hdumps hset)
  · refine iff_of_false (by simp [cachedDecorator, hdumps, hset]) ?_
    rintro (_ | h | ⟨h, hfail⟩)
    · rw [hdumps] at h
      cases h
    · rw [hdumps] at h
      cases h
      rw [hset] at hfail
      cases hfail

theorem rateLimit_call_iff {funcName : String} {maxCalls : ℕ} {window : ℤ} (s' : S) :
    (rateLimitDecorator redis funcName maxCalls window : Decorator S Raised α).prelude s =
      .call s' ↔
      Admitted redis funcName maxCalls window s s' := by
  simp only [rateLimitDecorator, Admitted]
  rcases redis.enter s with ⟨_ | _, s₁⟩
  · simp
  rcases hrem : redis.zremrange ("rate_limit:" ++ funcName) window s₁ with ⟨_ | _, s₂⟩
  · simp [hrem]
  rcases hcard : redis.zcard ("rate_limit:" ++ funcName) s₂ with ⟨_ | callCount, s₃⟩
  · simp [hrem, hcard]
  by_cases hmax : maxCalls ≤ callCount
  · simp [hrem, hcard, hmax]
  · rcases hadd : redis.zadd ("rate_limit:" ++ funcName) s₃ with ⟨_ | _, s₄⟩ <;>
      simp [hrem, hcard, hmax, hadd, Nat.lt_of_not_le hmax]

theorem rateLimit_again_iff {funcName : String} {maxCalls : ℕ} {window : ℤ}
    (ending : Except Raised α × S) :
    (∃ s', (rateLimitDecorator redis funcName maxCalls window).after ending = .again s') ↔
      ∃ name, ending.1 = .error (.exception name) := by
  obtain ⟨(_ | _ | _) | _, s⟩ := ending <;> simp [rateLimitDecorator]

theorem lock_call_iff {none : α} {key : String} {timeout : ℤ} (s' : S) :
    (lockDecorator redis none key timeout).prelude s = .call s' ↔
      Acquired redis key timeout s s' := by
  simp only [lockDecorator, Acquired]
  rcases redis.enter s with ⟨_ | _, s₁⟩
  · simp
  · rcases hset : redis.setNx (lockKey key) "locked" timeout s₁ with ⟨_ | _ | _, s₂⟩ <;>
      simp [hset]

theorem lock_again_iff {none : α} {key : String} {timeout : ℤ} (ending : Except Raised α × S) :
    (∃ s', (lockDecorator redis none key timeout).after ending = .again s') ↔
      ReleaseFails redis key ending := by
  obtain ⟨outcome, s⟩ := ending
  rcases hdelete : redis.delete (lockKey key) s with ⟨name | _, s'⟩
  · exact iff_of_true ⟨s', by simp [lockDecorator, hdelete]⟩ (.delete hdelete)
  constructor
  · rintro ⟨s'', h⟩
    rcases outcome with e | result
    · simp only [lockDecorator, hdelete] at h
      split at h
      next hexc => exact .raised hexc
      next => cases h
    · simp [lockDecorator, hdelete] at h
  · rintro (hexc | h)
    · refine ⟨s', ?_⟩
      simp only [lockDecorator, hdelete]
      exact if_pos hexc
    · rw [hdelete] at h
      cases h

theorem lock_answer {none : α} {key : String} {timeout : ℤ} {outcome : Except Raised α} {s' : S}
    (h : (lockDecorator redis none key timeout).prelude s = .answer outcome s') :
    outcome = .ok none := by
  simp only [lockDecorator] at h
  split at h
  next => cases h
  next =>
    split at h
    next => cases h
    next => cases h
    next =>
      cases h
      rfl

theorem lock_repeats_iff {none : α} {key : String} {timeout : ℤ} :
    (lockDecorator redis none key timeout).Repeats func s ↔
      ∃ s', Acquired redis key timeout s s' ∧ ReleaseFails redis key (func.exec s') :=
  Decorator.repeats_iff lock_call_iff lock_again_iff

/-- What the locked function raises, the function has raised. -/
theorem lock_raises_iff {none : α} {key : String} {timeout : ℤ}
    (hrepeats : ¬ (lockDecorator redis none key timeout).Repeats func s) :
    (∃ name, (((lockDecorator redis none key timeout).apply func).exec s).1 =
        .error (.exception name)) ↔
      ∃ s', (lockDecorator redis none key timeout).Starts s s' ∧
        ∃ name, (func.exec s').1 = .error (.exception name) := by
  constructor
  · intro hraises
    cases hprelude : (lockDecorator redis none key timeout).prelude s with
    | answer outcome s' =>
      obtain ⟨name, hname⟩ := hraises
      rw [Decorator.apply_answer hprelude, lock_answer hprelude] at hname
      cases hname
    | call s' =>
      rw [Decorator.apply_fst hrepeats (.inl hprelude)] at hraises
      exact ⟨s', .inl hprelude, hraises⟩
    | fallback s' =>
      rw [Decorator.apply_fst hrepeats (.inr hprelude)] at hraises
      exact ⟨s', .inr hprelude, hraises⟩
  · rintro ⟨s', hstarts, hraises⟩
    rw [Decorator.apply_fst hrepeats hstarts]
    exact hraises

/-! ### The calls of a decorated function -/

/-- A command beside a log. -/
def unlogged {L : Type} (call : S → Except String β × S) (s : S × L) : Except String β × S × L :=
  ((call s.1).1, (call s.1).2, s.2)

/-- The client beside a log. -/
def RedisClient.unlogged (redis : RedisClient S Bytes) (L : Type) : RedisClient (S × L) Bytes where
  enter := Cache.unlogged redis.enter
  get key := Cache.unlogged (redis.get key)
  set key text ttl := Cache.unlogged (redis.set key text ttl)
  setNx key value ttl := Cache.unlogged (redis.setNx key value ttl)
  delete key := Cache.unlogged (redis.delete key)
  zremrange key window := Cache.unlogged (redis.zremrange key window)
  zcard key := Cache.unlogged (redis.zcard key)
  zadd key := Cache.unlogged (redis.zadd key)

/-- A log of the executions of a function: each adds its outcome, and no command of Redis
changes it. -/
structure Monitor (redis : RedisClient S Bytes) (func : Comp S Raised α) where
  log : S → List (Except Raised α)
  records : Records log func
  enter : ∀ s, log (redis.enter s).2 = log s
  get : ∀ key s, log (redis.get key s).2 = log s
  set : ∀ key text ttl s, log (redis.set key text ttl s).2 = log s
  setNx : ∀ key value ttl s, log (redis.setNx key value ttl s).2 = log s
  delete : ∀ key s, log (redis.delete key s).2 = log s
  zremrange : ∀ key window s, log (redis.zremrange key window s).2 = log s
  zcard : ∀ key s, log (redis.zcard key s).2 = log s
  zadd : ∀ key s, log (redis.zadd key s).2 = log s

/-- Every function and every client have one, once the outcomes are kept beside the state. -/
def Monitor.counting (redis : RedisClient S Bytes) (func : Comp S Raised α) :
    Monitor (redis.unlogged (List (Except Raised α))) func.counted where
  log := Prod.snd
  records := func.records_counted
  enter _ := rfl
  get _ _ := rfl
  set _ _ _ _ := rfl
  setNx _ _ _ _ := rfl
  delete _ _ := rfl
  zremrange _ _ _ := rfl
  zcard _ _ := rfl
  zadd _ _ := rfl

namespace Monitor

variable (monitor : Monitor redis func)

theorem silent_cached (json : JsonCodec α Bytes) (ttl : ℤ) (key : String) :
    (cachedDecorator redis json ttl key).Silent monitor.log where
  prelude s := by
    have henter := monitor.enter s
    simp only [cachedDecorator]
    generalize redis.enter s = entered at henter ⊢
    rcases entered with ⟨_ | _, s₁⟩
    · exact henter
    dsimp only
    have hget := monitor.get key s₁
    generalize redis.get key s₁ = got at hget ⊢
    rcases got with ⟨_ | _ | cachedValue, s₂⟩
    · exact hget.trans henter
    · exact hget.trans henter
    · rcases hloads : json.loads cachedValue with _ | value <;> simp only [hloads] <;>
        exact hget.trans henter
  after := by
    rintro ⟨e | result, s⟩
    · cases e <;> rfl
    rcases hdumps : json.dumps result with _ | text
    · simp only [cachedDecorator, hdumps, After.state]
    · have hset := monitor.set key text ttl s
      simp only [cachedDecorator, hdumps]
      generalize redis.set key text ttl s = stored at hset ⊢
      rcases stored with ⟨_ | _, s'⟩ <;> exact hset

theorem silent_rateLimit (funcName : String) (maxCalls : ℕ) (window : ℤ) :
    (rateLimitDecorator redis funcName maxCalls window : Decorator S Raised α).Silent
      monitor.log where
  prelude s := by
    have henter := monitor.enter s
    simp only [rateLimitDecorator]
    generalize redis.enter s = entered at henter ⊢
    rcases entered with ⟨_ | _, s₁⟩
    · exact henter
    dsimp only
    have hrem := monitor.zremrange ("rate_limit:" ++ funcName) window s₁
    generalize redis.zremrange ("rate_limit:" ++ funcName) window s₁ = removed at hrem ⊢
    rcases removed with ⟨_ | _, s₂⟩
    · exact hrem.trans henter
    dsimp only
    have hcard := monitor.zcard ("rate_limit:" ++ funcName) s₂
    generalize redis.zcard ("rate_limit:" ++ funcName) s₂ = counted at hcard ⊢
    rcases counted with ⟨_ | callCount, s₃⟩
    · exact hcard.trans (hrem.trans henter)
    by_cases hmax : maxCalls ≤ callCount
    · simp only [hmax, if_true]
      exact hcard.trans (hrem.trans henter)
    · have hadd := monitor.zadd ("rate_limit:" ++ funcName) s₃
      simp only [hmax, if_false]
      generalize redis.zadd ("rate_limit:" ++ funcName) s₃ = added at hadd ⊢
      rcases added with ⟨_ | _, s₄⟩ <;>
        exact hadd.trans (hcard.trans (hrem.trans henter))
  after := by
    rintro ⟨(_ | _ | _) | _, s⟩ <;> rfl

theorem silent_lock (none : α) (key : String) (timeout : ℤ) :
    (lockDecorator redis none key timeout).Silent monitor.log where
  prelude s := by
    have henter := monitor.enter s
    simp only [lockDecorator]
    generalize redis.enter s = entered at henter ⊢
    rcases entered with ⟨_ | _, s₁⟩
    · exact henter
    dsimp only
    have hset := monitor.setNx (lockKey key) "locked" timeout s₁
    generalize redis.setNx (lockKey key) "locked" timeout s₁ = acquired at hset ⊢
    rcases acquired with ⟨_ | _ | _, s₂⟩ <;>
      exact hset.trans henter
  after := by
    rintro ⟨outcome, s⟩
    have hdelete := monitor.delete (lockKey key) s
    simp only [lockDecorator]
    generalize redis.delete (lockKey key) s = deleted at hdelete ⊢
    rcases deleted with ⟨_ | _, s'⟩
    · exact hdelete
    · rcases outcome with (_ | _ | _) | _ <;> exact hdelete

theorem generateRoutePlan_once_iff (none : α) :
    Once monitor.log (generateRoutePlan redis none func) s ↔ ¬ PlanFails redis none func s := by
  unfold generateRoutePlan
  rw [rateLimit_eq, distributedLock_eq, Decorator.once_stack_iff (monitor.silent_rateLimit _ _ _)
    (monitor.silent_lock _ _ _) monitor.records]
  · rw [Decorator.repeats_iff rateLimit_call_iff rateLimit_again_iff]
    constructor
    · rintro ⟨hraises, hrepeats⟩ (⟨hstarts, hacquired, hfails⟩ | ⟨hadmitted, hstarts, hraised⟩)
      · exact hrepeats _ hstarts (lock_repeats_iff.2 ⟨_, hacquired, hfails⟩)
      · have hlock := hrepeats _ (.inl ((rateLimit_call_iff _).2 hadmitted))
        exact hraises ⟨_, hadmitted, (lock_raises_iff hlock).2 ⟨_, hstarts, _, hraised⟩⟩
    · intro hfails
      have hrepeats : ∀ s', (rateLimitDecorator redis "generate_route_plan" 10 60 :
          Decorator S Raised α).Starts s s' →
          ¬ (lockDecorator redis none "generate_route_plan" 30).Repeats func s' := by
        intro s' hstarts h
        obtain ⟨s'', hacquired, hrelease⟩ := lock_repeats_iff.1 h
        exact hfails (.released hstarts hacquired hrelease)
      refine ⟨?_, hrepeats⟩
      rintro ⟨s', hadmitted, hraises⟩
      have hlock := hrepeats s' (.inl ((rateLimit_call_iff s').2 hadmitted))
      obtain ⟨s'', hstarts, name, hraised⟩ := (lock_raises_iff hlock).1 hraises
      exact hfails (.raised hadmitted hstarts hraised)
  · intro s outcome s' h s₁ s₂ hagain
    obtain ⟨name, hname⟩ := (rateLimit_again_iff _).1 ⟨s₂, hagain⟩
    rw [lock_answer h] at hname
    cases hname

end Monitor

/-- **A decorated function is executed at most once**, and the call has its outcome, unless the
function has been called in the `try` block and its handler then catches something.  Of the two
decorators of `generate_route_plan`, that holds of each. -/
theorem decorators_once (monitor : Monitor redis func) (s : S) :
    (∀ json ttl key, Once monitor.log (cached redis json ttl key func) s ↔
      ∀ s', Missed redis key s s' → ¬ StoreFails redis json ttl key (func.exec s')) ∧
    (∀ funcName maxCalls window,
      Once monitor.log (rateLimit redis funcName maxCalls window func) s ↔
      ∀ s', Admitted redis funcName maxCalls window s s' →
        ∀ name, (func.exec s').1 ≠ .error (.exception name)) ∧
    (∀ none key timeout, Once monitor.log (distributedLock redis none key timeout func) s ↔
      ∀ s', Acquired redis key timeout s s' → ¬ ReleaseFails redis key (func.exec s')) ∧
    ∀ none, Once monitor.log (generateRoutePlan redis none func) s ↔
      ¬ PlanFails redis none func s := by
  refine ⟨fun json ttl key => ?_, fun funcName maxCalls window => ?_, fun none key timeout => ?_,
    fun none => ?_⟩
  · rw [cached_eq, Decorator.once_iff (monitor.silent_cached json ttl key) monitor.records,
      Decorator.repeats_iff cached_call_iff cached_again_iff]
    push Not
    rfl
  · rw [rateLimit_eq, Decorator.once_iff (monitor.silent_rateLimit funcName maxCalls window)
        monitor.records, Decorator.repeats_iff rateLimit_call_iff rateLimit_again_iff]
    push Not
    rfl
  · rw [distributedLock_eq, Decorator.once_iff (monitor.silent_lock none key timeout)
        monitor.records, Decorator.repeats_iff lock_call_iff lock_again_iff]
    push Not
    rfl
  · exact monitor.generateRoutePlan_once_iff none

/-- A server that answers every command, with nothing cached, no call counted and no lock set. -/
def answering : RedisClient Unit String where
  enter s := (.ok (), s)
  get _ s := (.ok none, s)
  set _ _ _ s := (.ok (), s)
  setNx _ _ _ s := (.ok true, s)
  delete _ s := (.ok (), s)
  zremrange _ _ s := (.ok (), s)
  zcard _ s := (.ok 0, s)
  zadd _ s := (.ok (), s)

/-- The function raises a `ValueError`. -/
def raising : Comp Unit Raised String where
  exec s := (.error (.exception "ValueError"), s)

/-- The text is its own JSON. -/
def textJson : JsonCodec String String where
  dumps := .ok
  loads := .ok

/-- **The function is executed twice** under each decorator when it raises. -/
theorem raising_twice :
    ¬ Once (Monitor.counting answering raising).log
      (cached (answering.unlogged _) textJson 300 "tms:get_hub" raising.counted) ((), []) ∧
    ¬ Once (Monitor.counting answering raising).log
      (rateLimit (answering.unlogged _) "get_hub" 10 60 raising.counted) ((), []) ∧
    ¬ Once (Monitor.counting answering raising).log
      (distributedLock (answering.unlogged _) "" "get_hub" 10 raising.counted) ((), []) := by
  have hcached : ((cached (answering.unlogged _) textJson 300 "tms:get_hub"
      raising.counted).exec ((), [])).2.2 =
      [.error (.exception "ValueError"), .error (.exception "ValueError")] := rfl
  have hrateLimit : ((rateLimit (answering.unlogged _) "get_hub" 10 60
      raising.counted).exec ((), [])).2.2 =
      [.error (.exception "ValueError"), .error (.exception "ValueError")] := rfl
  have hlock : ((distributedLock (answering.unlogged _) "" "get_hub" 10
      raising.counted).exec ((), [])).2.2 =
      [.error (.exception "ValueError"), .error (.exception "ValueError")] := rfl
  simp only [Once, Monitor.counting, hcached, hrateLimit, hlock]
  simp

end

end Cache

end OmsWmsTms
