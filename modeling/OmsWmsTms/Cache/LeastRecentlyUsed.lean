import Mathlib.Data.Fintype.EquivFin
import OmsWmsTms.Cache.MemoryCache
import OmsWmsTms.Lts.Basic

/-!
# The least recently used key

Calls of `MemoryCache` of `src/cache/redis_client.py`, one after another, and what they tell: the
keys in the order of their last use, each with the value that was last reported of it.

* `Call`, `State.next`, `cacheSystem` : the calls.
* `Lawful` : the cache is bounded, answers with the values that were reported, and evicts only what
  was used longest ago, for a new key.
* `Agrees` : the cache is its log; `lawful_of_agrees` : a step from there is lawful, and
  `agrees_next_iff` : it leads there exactly if it is `Steady`.
* `exposed_of_not_agrees` : where the two differ, further calls break the promise.
* `memoryCache_iff` : the runs of steady calls.
-/

namespace OmsWmsTms

namespace Cache

variable {α : Type*}

/-! ### The calls -/

/-- A call with its arguments. -/
inductive Call (α : Type*)
  | set (key : String) (value : Value α) (expire : Option ℚ)
  | get (key : String)
  | delete (key : String)
  | incr (key : String) (delta : ℤ)
  | decr (key : String) (delta : ℤ)

/-- The key that a call adds where it is missing. -/
def Call.adds? : Call α → Option String
  | .set key _ _ | .incr key _ | .decr key _ => some key
  | .get _ | .delete _ => none

/-- A call that is not of a counter. -/
def Call.Plain : Call α → Prop
  | .set _ _ _ | .get _ | .delete _ => True
  | .incr _ _ | .decr _ _ => False

/-- The cache, and its keys in the order of their last use, with the values reported of them. -/
structure State (α : Type*) where
  cache : MemoryCache α
  log : Dict String (Value α)

/-- An empty cache. -/
def State.start (maxsize : ℤ) : State α := { cache := .new maxsize, log := .empty }

/-- After a call that stores a value of a key and reports one, if it does not raise.  A key that
the cache has lost is forgotten. -/
def State.answered (log : Dict String (Value α)) (key : String)
    (answer : Option (Value α) × MemoryCache α) : State α where
  cache := answer.2
  log :=
    (match answer.1 with
    | none => log
    | some value => log.put key value).keep (· ∈ answer.2.cache.keys)

variable (py : Operators α)

/-- One call. -/
def State.next (s : State α) : Call α → State α
  | .set key value expire =>
    let (done, cache) := s.cache.set key value expire
    .answered s.log key (done.map fun _ => value, cache)
  | .get key => { cache := (s.cache.get key).2, log := s.log.moveToEnd key }
  | .delete key => { cache := (s.cache.delete key).2, log := s.log.erase key }
  | .incr key delta => .answered s.log key (s.cache.incr py key delta)
  | .decr key delta => .answered s.log key (s.cache.decr py key delta)

/-- **The calls on a cache.** -/
def cacheSystem : Lts (State α) (Call α) where
  step s call s' := s' = s.next py call

/-! ### What is promised -/

/-- **A lawful step.** -/
structure Lawful (s : State α) (call : Call α) (s' : State α) : Prop where
  /-- The cache does not outgrow its size. -/
  bounded : (s'.cache.cache.length : ℤ) ≤ s'.cache.maxsize
  /-- `get` answers with the value last reported, unless the key is gone. -/
  reads : ∀ key, call = .get key → (s.cache.get key).1 = s.log.get? key
  /-- What goes without being deleted makes room for a new key in a full cache, and was used
  longest ago. -/
  evicts : ∀ key ∈ s.cache.cache.keys, key ∉ s'.cache.cache.keys → call = .delete key ∨
    ∃ new, call.adds? = some new ∧ new ∉ s.cache.cache.keys ∧
      s.cache.maxsize ≤ (s.cache.cache.length : ℤ) ∧ s.log.keys.head? = some key

/-- A lawful step, after which further calls of `set`, `get` and `delete` are lawful as well. -/
def Secure (s : State α) (call : Call α) (s' : State α) : Prop :=
  ∀ calls t, (∀ call ∈ calls, call.Plain) → (cacheSystem py).Run s' calls t →
    ((cacheSystem py).restrict Lawful).Run s (call :: calls) t

/-- What a counter makes of the value reported last is what it then reports, of a key that is new
or was used last; or it raises, and has stored nothing else. -/
def State.Counts (s : State α) (operator returned : Value α → Option (Value α)) (key : String) :
    Prop :=
  match operator ((s.log.get? key).getD (.int 0)) with
  | none => True
  | some value =>
    match returned value with
    | none => value = (s.log.get? key).getD (.int 0)
    | some answer => answer = value ∧ (key ∉ s.log.keys ∨ s.log.keys.getLast? = some key)

/-- A call that leaves the cache in the order of use, with the values that are reported. -/
def Steady (s : State α) : Call α → Prop
  | .set _ _ _ | .get _ | .delete _ => True
  | .incr key delta => s.Counts (Value.add py delta) some key
  | .decr key delta => s.Counts (Value.sub py delta) (Value.max0 py) key

/-! ### The keys of the log -/

/-- The cache is within its size, and the log has its keys. -/
structure Tracked (maxsize : ℤ) (s : State α) : Prop where
  maxsize_eq : s.cache.maxsize = maxsize
  length_le : (s.cache.cache.length : ℤ) ≤ maxsize
  mem_iff : ∀ key, key ∈ s.log.keys ↔ key ∈ s.cache.cache.keys

variable {py} {maxsize : ℤ} {s : State α}

theorem tracked_start (hmaxsize : 1 ≤ maxsize) :
    Tracked maxsize (.start maxsize : State α) where
  maxsize_eq := rfl
  length_le := le_trans zero_le_one hmaxsize
  mem_iff _ := Iff.rfl

/-- The log follows a call whose keys it has, or which reports of the key that is new. -/
theorem Tracked.answered (h : Tracked maxsize s) {key : String}
    {answer : Option (Value α) × MemoryCache α} (hmaxsize : answer.2.maxsize = maxsize)
    (hlength : (answer.2.cache.length : ℤ) ≤ maxsize)
    (hkeys : ∀ key' ∈ answer.2.cache.keys,
      key' ∈ s.cache.cache.keys ∨ key' = key ∧ answer.1.isSome) :
    Tracked maxsize (.answered s.log key answer) := by
  refine ⟨hmaxsize, hlength, fun key' => ?_⟩
  unfold State.answered
  rw [Dict.mem_keys_keep, and_iff_right_of_imp]
  intro hmem
  cases hanswer : answer.1 with
  | none =>
    rcases hkeys key' hmem with hold | ⟨-, hsome⟩
    · exact (h.mem_iff key').2 hold
    · rw [hanswer] at hsome
      cases hsome
  | some value =>
    change key' ∈ (s.log.put key value).keys
    rw [Dict.mem_keys_put]
    rcases hkeys key' hmem with hold | ⟨hnew, -⟩
    · exact .inr ((h.mem_iff key').2 hold)
    · exact .inl hnew

/-- The log follows a call that stores a value at the end. -/
theorem Tracked.store (h : Tracked maxsize s) (hmaxsize : 1 ≤ maxsize) (key : String)
    (value : Value α) (entry : Entry α) :
    Tracked maxsize (.answered s.log key (some value, { s.cache with
      cache := s.cache.cache.store s.cache.maxsize key entry })) := by
  refine h.answered h.maxsize_eq ?_ fun key' hmem => ?_
  · rw [h.maxsize_eq]
    exact Dict.length_store_le hmaxsize h.length_le _ _
  · rcases Dict.mem_of_mem_store hmem with rfl | hold
    · exact .inr ⟨rfl, rfl⟩
    · exact .inl hold

section Counters

variable {operator returned : Value α → Option (Value α)}

/-- A counter that is missing can be stored. -/
def Starts (operator returned : Value α → Option (Value α)) : Prop :=
  ∃ value answer, operator (.int 0) = some value ∧ returned value = some answer

theorem starts_incr (py : Operators α) (delta : ℤ) : Starts (Value.add py delta) some :=
  ⟨_, _, rfl, rfl⟩

theorem starts_decr (py : Operators α) (delta : ℤ) : Starts (Value.sub py delta) (Value.max0 py) :=
  ⟨_, _, rfl, rfl⟩

theorem Tracked.count (h : Tracked maxsize s) (hmaxsize : 1 ≤ maxsize)
    (hstarts : Starts operator returned) (key : String) :
    Tracked maxsize (.answered s.log key (s.cache.count operator returned key)) := by
  have hone : 1 ≤ s.cache.maxsize := h.maxsize_eq ▸ hmaxsize
  cases hentry : s.cache.cache.get? key with
  | none =>
    obtain ⟨value, answer, hvalue, hanswer⟩ := hstarts
    rw [MemoryCache.count_eq_of_notMem hone (Dict.get?_eq_none_iff.1 hentry) hvalue, hanswer]
    exact h.store hmaxsize key answer _
  | some entry =>
    have hkey : key ∈ s.cache.cache.keys := Dict.mem_keys_of_get? hentry
    rw [MemoryCache.count_eq_of_get? hentry]
    split
    · exact h.answered h.maxsize_eq h.length_le fun key' hmem => .inl hmem
    · refine h.answered h.maxsize_eq ?_ fun key' hmem => .inl ?_
      · change ((s.cache.cache.set key _).length : ℤ) ≤ maxsize
        rw [Dict.length_set_of_mem _ hkey]
        exact h.length_le
      · change key' ∈ (s.cache.cache.set key _).keys at hmem
        rwa [Dict.keys_set_of_mem _ hkey] at hmem

end Counters

theorem next_set (hone : 1 ≤ s.cache.maxsize) (key : String) (value : Value α)
    (expire : Option ℚ) : s.next py (.set key value expire) =
      .answered s.log key (some value, { s.cache with
        cache := s.cache.cache.store s.cache.maxsize key
          { value, expire := expire.getD 0 } }) := by
  simp only [State.next, MemoryCache.set_eq hone, Option.map_some]

theorem get_eq (c : MemoryCache α) (key : String) : c.get key =
    ((c.cache.get? key).map Entry.value, { c with cache := c.cache.moveToEnd key }) := by
  unfold MemoryCache.get Dict.moveToEnd
  cases c.cache.get? key <;> rfl

theorem next_get (key : String) : s.next py (.get key) =
    { cache := { s.cache with cache := s.cache.cache.moveToEnd key },
      log := s.log.moveToEnd key } := by
  simp only [State.next, get_eq]

/-- **Every call** leaves the cache within its size. -/
theorem Tracked.next (h : Tracked maxsize s) (hmaxsize : 1 ≤ maxsize) (py : Operators α)
    (call : Call α) :
    Tracked maxsize (s.next py call) := by
  have hone : 1 ≤ s.cache.maxsize := h.maxsize_eq ▸ hmaxsize
  cases call with
  | set key value expire =>
    rw [next_set hone]
    exact h.store hmaxsize key value _
  | get key =>
    rw [next_get]
    refine ⟨h.maxsize_eq, ?_, fun key' => ?_⟩
    · rw [Dict.length_moveToEnd]
      exact h.length_le
    · rw [Dict.mem_keys_moveToEnd, Dict.mem_keys_moveToEnd]
      exact h.mem_iff key'
  | delete key =>
    refine ⟨h.maxsize_eq, ?_, fun key' => ?_⟩
    · exact le_trans (Int.ofNat_le.2 (Dict.length_erase_le _ _)) h.length_le
    · change key' ∈ (s.log.erase key).keys ↔ key' ∈ (s.cache.cache.erase key).keys
      rw [Dict.keys_erase, Dict.keys_erase, List.mem_filter, List.mem_filter, h.mem_iff]
  | incr key delta => exact h.count hmaxsize (starts_incr py delta) key
  | decr key delta => exact h.count hmaxsize (starts_decr py delta) key

/-! ### The cache in the order of use -/

/-- **The cache is its log**: the same keys in the same order, with the same values. -/
def Agrees (s : State α) : Prop := s.cache.cache.map Entry.value = s.log

theorem Agrees.keys_eq (h : Agrees s) : s.log.keys = s.cache.cache.keys := by
  rw [← h, Dict.keys_map]

theorem Agrees.get?_eq (h : Agrees s) (key : String) :
    s.log.get? key = (s.cache.cache.get? key).map Entry.value := by
  rw [← h, Dict.get?_map]

theorem agrees_start : Agrees (.start maxsize : State α) := rfl

/-- What a counter call evicts. -/
theorem lost_of_count {operator returned : Value α → Option (Value α)}
    (hone : 1 ≤ s.cache.maxsize) (hstarts : Starts operator returned) {key key' : String}
    (hmem : key' ∈ s.cache.cache.keys)
    (hlost : key' ∉ (s.cache.count operator returned key).2.cache.keys) :
    key ∉ s.cache.cache.keys ∧ s.cache.maxsize ≤ (s.cache.cache.length : ℤ) ∧
      s.cache.cache.keys.head? = some key' := by
  cases hentry : s.cache.cache.get? key with
  | none =>
    obtain ⟨value, -, hvalue, -⟩ := hstarts
    rw [MemoryCache.count_eq_of_notMem hone (Dict.get?_eq_none_iff.1 hentry) hvalue] at hlost
    exact Dict.lost_of_store hmem hlost
  | some entry =>
    have hkey : key ∈ s.cache.cache.keys := Dict.mem_keys_of_get? hentry
    rw [MemoryCache.count_eq_of_get? hentry] at hlost
    split at hlost
    · exact absurd hmem hlost
    · change key' ∉ (s.cache.cache.set key _).keys at hlost
      rw [Dict.keys_set_of_mem _ hkey] at hlost
      exact absurd hmem hlost

/-- **A step from a cache that is its log** is lawful. -/
theorem lawful_of_agrees (htracked : Tracked maxsize s) (hmaxsize : 1 ≤ maxsize) (h : Agrees s)
    (call : Call α) : Lawful s call (s.next py call) := by
  have hone : 1 ≤ s.cache.maxsize := htracked.maxsize_eq ▸ hmaxsize
  have hnext := htracked.next hmaxsize py call
  refine ⟨hnext.maxsize_eq ▸ hnext.length_le, fun key _ => ?_, fun key hmem hlost => ?_⟩
  · rw [get_eq, h.get?_eq]
  · rw [h.keys_eq]
    cases call with
    | set new value expire =>
      rw [next_set hone] at hlost
      exact .inr ⟨new, rfl, Dict.lost_of_store hmem hlost⟩
    | get new =>
      rw [next_get] at hlost
      exact absurd (Dict.mem_keys_moveToEnd.2 hmem) hlost
    | delete new =>
      change key ∉ (s.cache.cache.erase new).keys at hlost
      rw [Dict.keys_erase, List.mem_filter, not_and, decide_eq_true_iff, not_not] at hlost
      exact .inl (congrArg Call.delete (hlost hmem).symm)
    | incr new delta =>
      exact .inr ⟨new, rfl, lost_of_count hone (starts_incr py delta) hmem hlost⟩
    | decr new delta =>
      exact .inr ⟨new, rfl, lost_of_count hone (starts_decr py delta) hmem hlost⟩

/-- After a value has been stored, the log has it if it is the one that was reported. -/
theorem agrees_answered_store (h : Agrees s) (key : String) (value : Value α) (entry : Entry α) :
    Agrees (.answered s.log key (some value, { s.cache with
      cache := s.cache.cache.store s.cache.maxsize key entry })) ↔ value = entry.value := by
  have hkeys : (s.cache.cache.store s.cache.maxsize key entry).keys =
      (s.log.store s.cache.maxsize key entry.value).keys := by
    rw [← h, ← Dict.map_store, Dict.keys_map]
  unfold Agrees State.answered
  simp only [hkeys, Dict.keep_put_store, Dict.map_store]
  unfold Agrees at h
  rw [h, Dict.store_eq_store_iff, eq_comm]

/-- After a value has been assigned in place, the log has not lost a key. -/
theorem agrees_answered_set (h : Agrees s) {key : String} (hkey : key ∈ s.cache.cache.keys)
    (answer : Option (Value α)) (entry : Entry α) :
    Agrees (.answered s.log key (answer, { s.cache with
      cache := s.cache.cache.set key entry })) ↔
      s.log.set key entry.value =
        match answer with
        | none => s.log
        | some value => s.log.put key value := by
  unfold Agrees State.answered
  simp only [Dict.map_set]
  rw [show s.cache.cache.map Entry.value = s.log from h, Dict.keep_eq_self]
  intro key' hmem
  rw [Dict.keys_set_of_mem _ hkey, ← h.keys_eq]
  cases answer with
  | none => exact hmem
  | some value =>
    rcases Dict.mem_keys_put.1 hmem with rfl | hold
    · exact h.keys_eq ▸ hkey
    · exact hold

/-- **A counter call keeps the cache in the order of use** exactly under its condition. -/
theorem agrees_count_iff {operator returned : Value α → Option (Value α)}
    (hone : 1 ≤ s.cache.maxsize) (hstarts : Starts operator returned) (h : Agrees s)
    (key : String) : Agrees (.answered s.log key (s.cache.count operator returned key)) ↔
      s.Counts operator returned key := by
  cases hentry : s.cache.cache.get? key with
  | none =>
    have hkey := Dict.get?_eq_none_iff.1 hentry
    obtain ⟨value, answer, hvalue, hanswer⟩ := hstarts
    rw [MemoryCache.count_eq_of_notMem hone hkey hvalue, hanswer, agrees_answered_store h]
    simp only [State.Counts, h.get?_eq, hentry, Option.map_none, Option.getD_none, hvalue, hanswer,
      h.keys_eq, hkey, not_false_eq_true, true_or, and_true]
  | some entry =>
    have hkey : key ∈ s.cache.cache.keys := Dict.mem_keys_of_get? hentry
    have hget : s.log.get? key = some entry.value := by rw [h.get?_eq, hentry, Option.map_some]
    rw [MemoryCache.count_eq_of_get? hentry]
    simp only [State.Counts, hget, Option.getD_some]
    cases hvalue : operator entry.value with
    | none =>
      refine iff_of_true ?_ trivial
      unfold Agrees State.answered
      rw [Dict.keep_eq_self fun key' hmem => h.keys_eq ▸ hmem]
      exact h
    | some value =>
      have hlog : key ∈ s.log.keys := h.keys_eq ▸ hkey
      refine (agrees_answered_set h hkey _ _).trans ?_
      cases hanswer : returned value with
      | none =>
        simp only [hanswer]
        exact Dict.set_eq_self_iff hget
      | some answer =>
        simp only [hanswer, Dict.set_eq_put_iff hlog, hlog, not_true_eq_false, false_or]

/-- **A step keeps the cache in the order of use** exactly if it is steady. -/
theorem agrees_next_iff (hone : 1 ≤ s.cache.maxsize) (h : Agrees s) (call : Call α) :
    Agrees (s.next py call) ↔ Steady py s call := by
  cases call with
  | set key value expire =>
    rw [next_set hone, agrees_answered_store h]
    exact iff_of_true rfl trivial
  | get key =>
    rw [next_get]
    refine iff_of_true ?_ trivial
    unfold Agrees at h ⊢
    rw [Dict.map_moveToEnd, h]
  | delete key =>
    refine iff_of_true ?_ trivial
    unfold Agrees at h
    exact (Dict.map_erase _ _ _).trans (congrArg (·.erase key) h)
  | incr key delta => exact agrees_count_iff hone (starts_incr py delta) h key
  | decr key delta => exact agrees_count_iff hone (starts_decr py delta) h key

/-! ### Where the two differ -/

/-- Further plain calls need not be lawful. -/
def Exposed (py : Operators α) (s : State α) : Prop :=
  ∃ calls, (∀ call ∈ calls, call.Plain) ∧
    ∀ t, ¬ ((cacheSystem py).restrict Lawful).Run s calls t

theorem exposed_of_not_lawful (call : Call α) (hplain : call.Plain)
    (h : ¬ Lawful s call (s.next py call)) : Exposed py s := by
  refine ⟨[call], by simpa using hplain, fun t hrun => ?_⟩
  cases hrun with
  | cons hstep _ => exact h (hstep.1 ▸ hstep.2)

theorem exposed_of_next (call : Call α) (hplain : call.Plain) (h : Exposed py (s.next py call)) :
    Exposed py s := by
  obtain ⟨calls, hcalls, hnot⟩ := h
  refine ⟨call :: calls, ?_, fun t hrun => ?_⟩
  · intro call' hmem
    rcases List.mem_cons.1 hmem with rfl | hmem
    · exact hplain
    · exact hcalls call' hmem
  · cases hrun with
    | cons hstep hrest => exact hnot t (hstep.1 ▸ hrest)

/-- The keys after one that is new has been set. -/
theorem keys_next_set (py : Operators α) (htracked : Tracked maxsize s) (hmaxsize : 1 ≤ maxsize)
    {key : String} (hkey : key ∉ s.cache.cache.keys) (value : Value α) (expire : Option ℚ)
    {room : List String} (hroom : room =
      if maxsize ≤ (s.cache.cache.length : ℤ) then s.cache.cache.keys.tail
      else s.cache.cache.keys) :
    (s.next py (.set key value expire)).cache.cache.keys = room ++ [key] ∧
      (s.next py (.set key value expire)).log.keys = s.log.keys.filter (· ∈ room) ++ [key] := by
  have hone : 1 ≤ s.cache.maxsize := htracked.maxsize_eq ▸ hmaxsize
  have hkeys (entry : Entry α) :
      (s.cache.cache.store s.cache.maxsize key entry).keys = room ++ [key] := by
    rw [Dict.keys_store_of_notMem entry hkey, htracked.maxsize_eq, hroom]
  have hlog : key ∉ s.log.keys := fun hmem => hkey ((htracked.mem_iff key).1 hmem)
  rw [next_set hone]
  refine ⟨hkeys _, ?_⟩
  unfold State.answered
  simp only [hkeys]
  have hne : ∀ key' ∈ s.log.keys, key' ≠ key := by
    rintro key' hmem rfl
    exact hlog hmem
  rw [Dict.keys_keep, Dict.keys_put, List.filter_append,
    List.filter_eq_self.2 fun key' hmem => decide_eq_true (hne key' hmem)]
  refine congrArg₂ (· ++ ·) (List.filter_congr fun key' hmem => ?_) (by simp)
  simp only [List.mem_append, List.mem_singleton, hne key' hmem, or_false]

/-- **Where the orders differ**, new keys push them out until the wrong one goes. -/
theorem exposed_of_order (hmaxsize : 1 ≤ maxsize) {k k' : String} (hne : k ≠ k') (n : ℕ) :
    ∀ {s : State α} {before after after' : List String}, Tracked maxsize s →
      s.cache.cache.keys = before ++ k :: after → s.log.keys = before ++ k' :: after' →
      (maxsize - s.cache.cache.length).toNat + before.length = n → Exposed py s := by
  induction n using Nat.strong_induction_on with
  | _ n ih =>
  intro s before after after' htracked hcache hlog hn
  obtain ⟨new, hnew⟩ := Infinite.exists_notMem_finset s.cache.cache.keys.toFinset
  rw [List.mem_toFinset] at hnew
  have hnext := htracked.next hmaxsize py (.set new (.int 0) none)
  have hlength := s.cache.cache.length_keys
  have hlength' := (s.next py (.set new (.int 0) none)).cache.cache.length_keys
  by_cases hfull : maxsize ≤ (s.cache.cache.length : ℤ)
  · obtain ⟨hcache', hlog'⟩ := keys_next_set py htracked hmaxsize hnew (.int 0) none
      (if_pos hfull).symm
    cases before with
    | nil =>
      -- the first key of the cache goes, and was not used longest ago
      refine exposed_of_not_lawful (.set new (.int 0) none) trivial fun hlawful => ?_
      have hmem : k ∈ s.cache.cache.keys := by rw [hcache]; exact List.mem_cons_self
      have hlost : k ∉ (s.next py (.set new (.int 0) none)).cache.cache.keys := by
        have hnodup := s.cache.cache.nodup_keys
        rw [hcache] at hnodup
        rw [hcache', hcache, List.mem_append, List.mem_singleton, not_or]
        refine ⟨(List.nodup_cons.1 hnodup).1, ?_⟩
        rintro rfl
        exact hnew hmem
      rcases hlawful.evicts k hmem hlost with hdelete | ⟨_, _, _, _, hhead⟩
      · cases hdelete
      · rw [hlog] at hhead
        exact hne (Option.some.inj hhead).symm
    | cons first before =>
      -- the first key of both goes
      have htail : s.cache.cache.keys.tail = before ++ k :: after := by rw [hcache]; rfl
      have hfilter : s.log.keys.filter (· ∈ s.cache.cache.keys.tail) = before ++ k' :: after' := by
        have hnodup := s.cache.cache.nodup_keys
        have hnodup' := s.log.nodup_keys
        rw [hcache, List.cons_append, List.nodup_cons] at hnodup
        rw [hlog, List.cons_append, List.nodup_cons] at hnodup'
        rw [htail, hlog, List.cons_append, List.filter_cons_of_neg (by simpa using hnodup.1)]
        refine List.filter_eq_self.2 fun key hkey => decide_eq_true ?_
        have hold : key ∈ s.cache.cache.keys := by
          rw [← htracked.mem_iff, hlog]
          exact List.mem_cons_of_mem _ hkey
        rw [hcache, List.cons_append, List.mem_cons] at hold
        refine hold.resolve_left ?_
        rintro rfl
        exact hnodup'.1 hkey
      rw [htail, List.append_assoc, List.cons_append] at hcache'
      rw [hfilter, List.append_assoc, List.cons_append] at hlog'
      refine exposed_of_next (.set new (.int 0) none) trivial
        (ih _ ?_ hnext hcache' hlog' rfl)
      rw [hcache'] at hlength'
      rw [hcache] at hlength
      simp only [List.length_append, List.length_cons, List.length_nil] at hlength hlength' hn ⊢
      omega
  · obtain ⟨hcache', hlog'⟩ := keys_next_set py htracked hmaxsize hnew (.int 0) none
      (if_neg hfull).symm
    rw [List.filter_eq_self.2 fun key hkey => decide_eq_true ((htracked.mem_iff key).1 hkey), hlog,
      List.append_assoc, List.cons_append] at hlog'
    rw [hcache, List.append_assoc, List.cons_append] at hcache'
    refine exposed_of_next (.set new (.int 0) none) trivial
      (ih _ ?_ hnext hcache' hlog' rfl)
    rw [hcache'] at hlength'
    rw [hcache] at hlength
    simp only [List.length_append, List.length_cons, List.length_nil] at hlength hlength' hn ⊢
    omega

/-- Two lists of one length differ at a first place. -/
theorem exists_first_difference {l l' : List String} (hlength : l.length = l'.length)
    (hne : l ≠ l') : ∃ before k k' after after',
      l = before ++ k :: after ∧ l' = before ++ k' :: after' ∧ k ≠ k' := by
  induction l generalizing l' with
  | nil => exact absurd (List.length_eq_zero_iff.1 hlength.symm).symm hne
  | cons k l ih =>
    cases l' with
    | nil => cases hlength
    | cons k' l' =>
      by_cases hk : k = k'
      · subst hk
        obtain ⟨before, x, x', after, after', rfl, rfl, hx⟩ :=
          ih (Nat.succ.inj hlength) fun heq => hne (congrArg _ heq)
        exact ⟨k :: before, x, x', after, after', rfl, rfl, hx⟩
      · exact ⟨[], k, k', l, l', rfl, rfl, hk⟩

/-- **A cache that is not its log** is exposed by further calls. -/
theorem exposed_of_not_agrees (py : Operators α) (htracked : Tracked maxsize s)
    (hmaxsize : 1 ≤ maxsize) (h : ¬ Agrees s) : Exposed py s := by
  by_cases hget : ∀ key, (s.cache.get key).1 = s.log.get? key
  · have hkeys : s.cache.cache.keys ≠ s.log.keys := by
      intro hkeys
      refine h (Dict.ext_get? ((Dict.keys_map _ _).trans hkeys) fun key => ?_)
      rw [Dict.get?_map, ← hget, get_eq]
    have hperm : s.cache.cache.keys.Perm s.log.keys :=
      (List.perm_ext_iff_of_nodup s.cache.cache.nodup_keys s.log.nodup_keys).2 fun key =>
        (htracked.mem_iff key).symm
    obtain ⟨before, k, k', after, after', hcache, hlog, hne⟩ :=
      exists_first_difference hperm.length_eq hkeys
    exact exposed_of_order hmaxsize hne _ htracked hcache hlog rfl
  · obtain ⟨key, hkey⟩ := not_forall.1 hget
    exact exposed_of_not_lawful (.get key) trivial fun hlawful =>
      hkey (hlawful.reads key rfl)

theorem exists_run (py : Operators α) (s : State α) (calls : List (Call α)) :
    ∃ t, (cacheSystem py).Run s calls t := by
  induction calls generalizing s with
  | nil => exact ⟨s, .nil s⟩
  | cons call calls ih =>
    obtain ⟨t, hrun⟩ := ih (s.next py call)
    exact ⟨t, .cons rfl hrun⟩

/-! ### Runs -/

theorem steady_of_plain {call : Call α} (h : call.Plain) (s : State α) : Steady py s call := by
  cases call with
  | set | get | delete => trivial
  | incr | decr => cases h

/-- The state of a run whose steps are steady. -/
structure Ordered (maxsize : ℤ) (s : State α) : Prop where
  tracked : Tracked maxsize s
  agrees : Agrees s

theorem Ordered.next (h : Ordered maxsize s) (hmaxsize : 1 ≤ maxsize) {call : Call α}
    (hsteady : Steady py s call) : Ordered maxsize (s.next py call) where
  tracked := h.tracked.next hmaxsize py call
  agrees := (agrees_next_iff (h.tracked.maxsize_eq ▸ hmaxsize) h.agrees call).2 hsteady

/-- **Steady calls are lawful.** -/
theorem lawful_run {calls : List (Call α)} {t : State α} (hmaxsize : 1 ≤ maxsize)
    (h : Ordered maxsize s) (hrun : ((cacheSystem py).guard (Steady py)).Run s calls t) :
    ((cacheSystem py).restrict Lawful).Run s calls t := by
  induction hrun with
  | nil => exact .nil _
  | cons hstep _ ih =>
    obtain ⟨rfl, hsteady⟩ := hstep
    exact .cons ⟨rfl, lawful_of_agrees h.tracked hmaxsize h.agrees _⟩
      (ih (h.next hmaxsize hsteady))

/-- **A call is secure exactly if it is steady.** -/
theorem secure_iff_steady (hmaxsize : 1 ≤ maxsize) (h : Ordered maxsize s) (call : Call α) :
    Secure py s call (s.next py call) ↔ Steady py s call := by
  constructor
  · intro hsecure
    refine Classical.byContradiction fun hnot => ?_
    have hone : 1 ≤ s.cache.maxsize := h.tracked.maxsize_eq ▸ hmaxsize
    obtain ⟨calls, hplain, hexposed⟩ := exposed_of_not_agrees py
      (h.tracked.next hmaxsize py call) hmaxsize (mt (agrees_next_iff hone h.agrees call).1 hnot)
    obtain ⟨t, hrun⟩ := exists_run py (s.next py call) calls
    cases hsecure calls t hplain hrun with
    | cons hstep hrest => exact hexposed t (hstep.1 ▸ hrest)
  · intro hsteady calls t hplain hrun
    refine lawful_run hmaxsize h (.cons ⟨rfl, hsteady⟩ ?_)
    clear hsteady
    generalize s.next py call = s at hrun
    induction hrun with
    | nil => exact .nil _
    | cons hstep _ ih =>
      exact .cons ⟨hstep, steady_of_plain (hplain _ List.mem_cons_self) _⟩
        (ih fun call hmem => hplain call (List.mem_cons_of_mem _ hmem))

/-- **Every run of calls** keeps the cache within its size.  The runs of calls that are steady are
lawful; they are the runs in which no call can be followed by calls of `set`, `get` and `delete`
that break the promise. -/
theorem memoryCache_iff (py : Operators α) {maxsize : ℤ} (hmaxsize : 1 ≤ maxsize)
    (calls : List (Call α)) (s : State α) :
    ((cacheSystem py).Run (.start maxsize) calls s → (s.cache.cache.length : ℤ) ≤ maxsize) ∧
      (((cacheSystem py).guard (Steady py)).Run (.start maxsize) calls s →
        ((cacheSystem py).restrict Lawful).Run (.start maxsize) calls s) ∧
      (((cacheSystem py).restrict (Secure py)).Run (.start maxsize) calls s ↔
        ((cacheSystem py).guard (Steady py)).Run (.start maxsize) calls s) := by
  have hstart : Ordered maxsize (.start maxsize : State α) :=
    ⟨tracked_start hmaxsize, agrees_start⟩
  refine ⟨fun hrun => ?_, lawful_run hmaxsize hstart, ?_⟩
  · refine (hrun.invariant (I := Tracked maxsize) hstart.tracked ?_).length_le
    rintro s call _ htracked rfl
    exact htracked.next hmaxsize py call
  · refine Lts.Run.restrict_iff_guard (I := Ordered maxsize) ?_ ?_ hstart
    · rintro s call _ hordered rfl hsteady
      exact hordered.next hmaxsize hsteady
    · rintro s call _ hordered rfl
      exact secure_iff_steady hmaxsize hordered call

/-- Python's operators on strings, with an integer: all of them raise. -/
def stringOperators : Operators String where
  add? _ _ := none
  sub? _ _ := none
  positive? _ := none

/-- A counter that is read before it is counted up stays, where a full cache evicts. -/
def readAndCounted : List (Call String) :=
  [.set "stock" (.int 5) none, .set "lock" (.object "token") (some 30), .get "stock",
    .incr "stock" 1, .set "orders" (.int 0) none, .get "stock"]

theorem readAndCounted_lawful : ((cacheSystem stringOperators).restrict Lawful).Run (.start 2)
    readAndCounted (readAndCounted.foldl (State.next stringOperators) (.start 2)) := by
  refine (memoryCache_iff stringOperators (by decide) _ _).2.1 ?_
  refine .cons ⟨rfl, trivial⟩ <| .cons ⟨rfl, trivial⟩ <| .cons ⟨rfl, trivial⟩ <| .cons ⟨rfl, ?_⟩ <|
    .cons ⟨rfl, trivial⟩ <| .cons ⟨rfl, trivial⟩ <| .nil _
  exact ⟨rfl, .inr (by decide)⟩

/-- A counter below 0 is read back with another value than it was reported with; and a counter that
was counted last is evicted. -/
theorem counters_not_lawful :
    (∀ t, ¬ ((cacheSystem stringOperators).restrict Lawful).Run (.start 1)
      [.decr "stock" 1, .get "stock"] t) ∧
    ∀ t, ¬ ((cacheSystem stringOperators).restrict Lawful).Run (.start 2)
      [.set "stock" (.int 5) none, .set "lock" (.object "token") (some 30), .incr "stock" 1,
        .set "orders" (.int 0) none] t := by
  constructor
  · rintro t (_ | ⟨⟨rfl, -⟩, _ | ⟨⟨-, hget⟩, -⟩⟩)
    exact absurd (hget.reads "stock" rfl) (by decide)
  · rintro t (_ | ⟨⟨rfl, -⟩, _ | ⟨⟨rfl, -⟩, _ | ⟨⟨rfl, -⟩, _ | ⟨⟨rfl, hset⟩, -⟩⟩⟩⟩)
    rcases hset.evicts "stock" (by decide) (by decide) with hdelete | ⟨_, _, _, _, hhead⟩
    · cases hdelete
    · exact absurd hhead (by decide)

end Cache

end OmsWmsTms
