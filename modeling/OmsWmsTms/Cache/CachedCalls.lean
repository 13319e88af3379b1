import OmsWmsTms.Cache.RateLimit
import OmsWmsTms.Uow.Shared

/-!
# Calls of a cached function, statement by statement

`cached` of `src/cache/decorators.py` on a server that answers other requests between the commands
of a call, and whose store may fail at each of them.

* `Replies`, `cachedCall` : how the commands of a call end, and the call.
* `alone_cachedCall` : with nothing in between, it is `cached`.
* `Served` : what a call returns is read by it, since it was made, or was stored not longer ago than
  it is kept.
* `justified_cachedCall` : a request knows so of what it is returned.
-/

namespace OmsWmsTms

namespace Cache

open Uow (Query Shared SharedWrite after)

/-- How the commands of a call end. -/
structure Replies where
  /-- `async with get_redis()` is entered. -/
  enter : Bool := true
  /-- The `GET` is answered. -/
  get : Bool := true
  set : Reply := .ok
  /-- The statement at which the function raises when it is called first, -/
  first : Option ℕ := none
  /-- and when the handler calls it. -/
  second : Option ℕ := none
deriving DecidableEq

section

variable {T R Bytes E A : Type} (json : JsonCodec R Bytes) (ttl : ℤ) (key : String)
  (query : Query T R)

/-- A request on the tables and the cache. -/
abbrev CacheProg (T Bytes E A : Type) :=
  Uow.Prog (Shared T String Bytes) (SharedWrite T String Bytes) E A

/-- Store what the function has returned, and go on with it. -/
def storeResult (set : Reply) (handler : CacheProg T Bytes E A) (next : R → CacheProg T Bytes E A)
    (result : R) : CacheProg T Bytes E A :=
  match json.dumps result with
  | .error _ => handler
  | .ok text =>
    match set with
    | .ok => .commit (.setEx key text (ttl * second)) (next result)
    | .unsent => handler
    | .unanswered => .commit (.setEx key text (ttl * second)) handler

/-- `cached`, with what a function raises that is called by the handler, and the rest of the
request. -/
def cachedCall (replies : Replies) (raised : E) (next : R → CacheProg T Bytes E A) :
    CacheProg T Bytes E A :=
  let handler := query.call replies.second next (.throw raised)
  if replies.enter ∧ replies.get then
    .read fun d =>
      match Keyspace.get d.clock key d.store with
      | some cachedValue =>
        match json.loads cachedValue with
        | .ok value => next value
        | .error _ => handler
      | none =>
        query.call replies.first (storeResult json ttl key replies.set handler next) handler
  else handler

end

/-! ### With nothing in between -/

section

variable {T R E A : Type} {json : JsonCodec R String} {ttl : ℤ} {key : String}

/-- What the function returns when nothing comes between its statements. -/
def resultOf : Query T R → T → ℤ → R
  | .ret a, _, _ => a
  | .read next, tables, now => resultOf (next tables now) tables now

/-- The function, as a computation. -/
def funcOf (query : Query T R) : Comp (World T) Raised R where
  exec w := (.ok (resultOf query w.app w.now), w)

/-- The server, with its tables as the state of the application. -/
def worldOf (d : Shared T String String) : World T where
  values := d.store
  sets := .empty
  now := d.clock
  starts := []
  app := d.tables

theorem alone_call (query : Query T R) (next : R → CacheProg T String E A)
    (handler : CacheProg T String E A) (d : Shared T String String) :
    (query.call none next handler).alone SharedWrite.apply d =
      (next (resultOf query d.tables d.clock)).alone SharedWrite.apply d := by
  induction query with
  | ret a => rfl
  | read rest ih => exact ih d.tables d.clock

/-- **With nothing in between**, and nothing that fails, a call is one of `cached`. -/
theorem alone_cachedCall (query : Query T R) (raised : E) (d : Shared T String String) :
    ∃ value d', (cachedCall json ttl key query {} raised .ret).alone SharedWrite.apply d =
        (.ok value, d') ∧
      (cached redisPy json ttl key (funcOf query)).exec (worldOf d) = (.ok value, worldOf d') := by
  have hcall (next : R → CacheProg T String E R) (handler : CacheProg T String E R) :=
    alone_call query next handler d
  rw [cached_eq]
  unfold cachedCall storeResult
  rw [if_pos ⟨rfl, rfl⟩]
  cases hget : Keyspace.get d.clock key d.store with
  | some cachedValue =>
    cases hloads : json.loads cachedValue with
    | ok value =>
      refine ⟨value, d, ?_, ?_⟩
      · simp [Uow.Prog.alone, hget, hloads]
      · simp [cachedDecorator, Decorator.apply, redisPy, worldOf, hget, hloads]
    | error name =>
      refine ⟨resultOf query d.tables d.clock, d, ?_, ?_⟩
      · simp [Uow.Prog.alone, hget, hloads, hcall]
      · simp [cachedDecorator, Decorator.apply, redisPy, worldOf, hget, hloads, funcOf]
  | none =>
    cases hdumps : json.dumps (resultOf query d.tables d.clock) with
    | ok text =>
      refine ⟨resultOf query d.tables d.clock,
        SharedWrite.on d (.setEx key text (ttl * second)), ?_, ?_⟩
      · simp [Uow.Prog.alone, hget, hdumps, hcall, SharedWrite.apply]
      · simp [cachedDecorator, Decorator.apply, redisPy, worldOf, hget, hdumps, funcOf,
          SharedWrite.on]
    | error name =>
      refine ⟨resultOf query d.tables d.clock, d, ?_, ?_⟩
      · simp [Uow.Prog.alone, hget, hdumps, hcall]
      · simp [cachedDecorator, Decorator.apply, redisPy, worldOf, hget, hdumps, funcOf]

/-! ### What a call returns -/

/-- **What a call may return** at a moment, to a request that has come in at another: a value that
the function reads in between, or one that is read of a text stored under the key, less than the
time before the moment for which it was stored. -/
inductive Served (json : JsonCodec R String) (d₀ : Shared T String String) (key : String)
    (query : Query T R) (since ws : List (SharedWrite T String String)) (value : R) : Prop
  | read (hreads : query.Reads d₀ since ws value)
  | stored {before later : List (SharedWrite T String String)} {text : String} {kept : ℤ}
    (hws : ws = before ++ .setEx key text kept :: later)
    (hfresh : (after d₀ ws).clock < (after d₀ before).clock + kept)
    (hloads : json.loads text = .ok value)

variable {d₀ : Shared T String String} {query : Query T R} {raised : E} {replies : Replies}
  {since : List (SharedWrite T String String)}
  {J : List (SharedWrite T String String) → SharedWrite T String String → Prop}
  {Post : A → List (SharedWrite T String String) → Prop}
  {K : List (SharedWrite T String String) → Prop} {next : R → CacheProg T String E A}

/-- The handler of a call, which calls the function once more. -/
theorem justified_handler {K' : List (SharedWrite T String String) → Prop} (raisesAt : Option ℕ)
    (raised : E)
    (hnext : ∀ value, (next value).Justified SharedWrite.apply J d₀ Post fun ws =>
      K ws ∧ ∃ past, since <+: past ∧ past <+: ws ∧ Served json d₀ key query since past value)
    (hK : Uow.Stable K) (hsince : ∀ ws, K ws → since <+: ws) (hK' : ∀ ws, K' ws → K ws) :
    (query.call raisesAt next (.throw raised)).Justified SharedWrite.apply J d₀ Post K' := by
  refine Uow.justified_call (fun value => (hnext value).mono ?_) trivial
  rintro ws ⟨start, hstart, hreads⟩
  have hknown := hK' _ hstart
  exact ⟨hK _ _ hreads.prefix hknown, ws, (hsince _ hknown).trans hreads.prefix, List.prefix_rfl,
    .read (hreads.mono (hsince _ hknown) List.prefix_rfl)⟩

/-- A call that stores the value that the function has read, and goes on. -/
theorem justified_store {K' : List (SharedWrite T String String) → Prop} {value : R} (set : Reply)
    (raisesAt : Option ℕ) (raised : E)
    (hnext : ∀ value, (next value).Justified SharedWrite.apply J d₀ Post fun ws =>
      K ws ∧ ∃ past, since <+: past ∧ past <+: ws ∧ Served json d₀ key query since past value)
    (hK : Uow.Stable K) (hsince : ∀ ws, K ws → since <+: ws)
    (hK' : ∀ ws, K' ws → K ws ∧ query.Reads d₀ since ws value)
    (hstore : ∀ ws result text, query.Reads d₀ [] ws result → json.dumps result = .ok text →
      J ws (.setEx key text (ttl * second))) :
    (storeResult json ttl key set (query.call raisesAt next (.throw raised)) next value).Justified
      SharedWrite.apply J d₀ Post K' := by
  have hunknown := justified_handler raisesAt raised hnext hK hsince fun ws hws => (hK' ws hws).1
  unfold storeResult
  cases hdumps : json.dumps value with
  | error name => exact hunknown
  | ok text =>
    have hset : ∀ ws, K' ws → J ws (.setEx key text (ttl * second)) :=
      fun ws hws => hstore ws value text ((hK' ws hws).2.mono List.nil_prefix List.prefix_rfl)
        hdumps
    cases set with
    | ok =>
      refine ⟨hset, (hnext value).mono ?_⟩
      rintro ws ⟨past, hpast, hknown⟩
      have hprefix := (List.prefix_append _ _).trans hpast
      obtain ⟨hpresent, hreads⟩ := hK' past hknown
      exact ⟨hK _ _ hprefix hpresent, past, hsince _ hpresent, hprefix, .read hreads⟩
    | unsent => exact hunknown
    | unanswered =>
      refine ⟨hset, justified_handler raisesAt raised hnext hK hsince ?_⟩
      rintro ws ⟨past, hpast, hknown⟩
      exact hK _ _ ((List.prefix_append _ _).trans hpast) (hK' past hknown).1

/-- **A request knows what it is returned**, when it may store what the function reads. -/
theorem justified_cachedCall (h₀ : d₀.store = .empty) (hK : Uow.Stable K)
    (hsince : ∀ ws, K ws → since <+: ws)
    (hstore : ∀ ws result text, query.Reads d₀ [] ws result → json.dumps result = .ok text →
      J ws (.setEx key text (ttl * second)))
    (hnext : ∀ value, (next value).Justified SharedWrite.apply J d₀ Post fun ws =>
      K ws ∧ ∃ past, since <+: past ∧ past <+: ws ∧ Served json d₀ key query since past value) :
    (cachedCall json ttl key query replies raised next).Justified SharedWrite.apply J d₀ Post
      K := by
  unfold cachedCall
  dsimp only
  split
  · refine Uow.Prog.justified_read fun d => ?_
    split
    · next cachedValue hget =>
      split
      · next value hloads =>
        refine (hnext value).mono ?_
        rintro ws ⟨past, hpast, hknown, hd⟩
        rw [Uow.eq_after hd] at hget
        obtain ⟨before, kept, later, hws, hfresh⟩ := Uow.exists_setEx_of_get h₀ hget
        exact ⟨hK _ _ hpast hknown, past, hsince _ hknown, hpast, .stored hws hfresh hloads⟩
      · refine justified_handler _ raised hnext hK hsince ?_
        rintro ws ⟨past, hpast, hknown, -⟩
        exact hK _ _ hpast hknown
    · refine Uow.justified_call
        (fun value => justified_store replies.set replies.second raised hnext hK hsince ?_ hstore)
        (justified_handler replies.second raised hnext hK hsince ?_)
      · rintro ws ⟨start, ⟨past, hpast, hknown, -⟩, hreads⟩
        exact ⟨hK _ _ (hpast.trans hreads.prefix) hknown,
          hreads.mono ((hsince _ hknown).trans hpast) List.prefix_rfl⟩
      · rintro ws ⟨start, hstart, past, hpast, hknown, -⟩
        exact hK _ _ (hpast.trans hstart) hknown
  · exact justified_handler replies.second raised hnext hK hsince fun ws hws => hws

end

end Cache

end OmsWmsTms
