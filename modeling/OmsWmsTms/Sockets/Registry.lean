import OmsWmsTms.Data.Cursor
import Mathlib.Logic.Function.Basic
import Mathlib.Order.Nat

/-!
# The registries of WebSockets

`_active` of `ConnectionManager` in `src/notification/ws.py` and of `PdaConnectionManager` in
`src/pda/ws.py`.  It maps a user or a device to a list *object*: a coroutine that has read the list
keeps it over its awaits, while others change it, or drop it and register another one.

* `Registry` : `_active` with the list objects.
* `Manager` : what the two managers differ in.
* `Registry.register`, `Registry.disconnect`, `Registry.popFirst` : what is done between two awaits.
* `Registry.Sound` : a list that is not registered is empty, and no socket is in two places.
* `Registry.Turns` : what all of them do to the lists.
-/

namespace OmsWmsTms

namespace Sockets

/-- A `WebSocket`, an object. -/
abbrev Socket := ℕ

/-! ### The lists -/

/-- `_active`, with the list objects at their addresses. -/
structure Registry where
  heap : ℕ → List Socket := fun _ => []
  /-- The next address. -/
  fresh : ℕ := 0
  active : String → Option ℕ := fun _ => none

/-- What the two managers differ in. -/
structure Manager where
  /-- `connect` closes the oldest sockets as long as there are as many. -/
  limit : Option ℕ
  /-- `connect` looks for the socket in the list first. -/
  idempotent : Bool
  /-- `disconnect` takes the socket out of the list. -/
  remove : Socket → List Socket → List Socket
  /-- In a list without duplicates it takes out nothing else. -/
  remove_eq : ∀ ws conns, conns.Nodup → remove ws conns = conns.filter (· ≠ ws)

/-- `ConnectionManager`: `while ws in conns: conns.remove(ws)`. -/
def connectionManager : Manager where
  limit := some 3
  idempotent := true
  remove ws conns := conns.filter (· ≠ ws)
  remove_eq _ _ _ := rfl

/-- `PdaConnectionManager`: `if ws in conns: conns.remove(ws)`. -/
def pdaConnectionManager : Manager where
  limit := none
  idempotent := false
  remove ws conns := conns.erase ws
  remove_eq ws conns hnodup := by
    rw [hnodup.erase_eq_filter]
    exact List.filter_congr fun x _ => by simp [bne, beq_eq_decide]

/-- `conns` holds as many sockets as there may be. -/
def Manager.full (m : Manager) (conns : List Socket) : Bool := m.limit.any (· ≤ conns.length)

namespace Registry

/-- `_active.get(key, [])`. -/
def conns (r : Registry) (key : String) : List Socket := (r.active key).elim [] r.heap

/-- Change a list. -/
def setList (r : Registry) (a : ℕ) (conns : List Socket) : Registry :=
  { r with heap := Function.update r.heap a conns }

/-- `_active.setdefault(key, [])`. -/
def setdefault (r : Registry) (key : String) : ℕ × Registry :=
  match r.active key with
  | some a => (a, r)
  | none => (r.fresh, {
      heap := Function.update r.heap r.fresh []
      fresh := r.fresh + 1
      active := Function.update r.active key (some r.fresh) })

/-- `_active.setdefault(key, []).append(ws)`. -/
def register (r : Registry) (key : String) (ws : Socket) : Registry :=
  let (a, r) := r.setdefault key
  r.setList a (r.heap a ++ [ws])

/-- `disconnect`: an emptied list is dropped. -/
def disconnect (m : Manager) (r : Registry) (key : String) (ws : Socket) : Registry :=
  match r.active key with
  | none => r
  | some a =>
    let conns := m.remove ws (r.heap a)
    let r := r.setList a conns
    if conns = [] then { r with active := Function.update r.active key none } else r

/-- `conns.pop(0)`. -/
def popFirst (r : Registry) (a : ℕ) : Registry := r.setList a (r.heap a).tail

end Registry

/-! ### What is done to the lists -/

namespace Registry

/-- The lists of different keys are different and hold no socket in common, and a list that is not
registered is empty. -/
structure Sound (r : Registry) : Prop where
  active_lt : ∀ key a, r.active key = some a → a < r.fresh
  inj : ∀ key key' a, r.active key = some a → r.active key' = some a → key = key'
  dropped : ∀ a, (∀ key, r.active key ≠ some a) → r.heap a = []
  nodup : ∀ a, (r.heap a).Nodup
  disjoint : ∀ a b ws, ws ∈ r.heap a → ws ∈ r.heap b → a = b

/-- A coroutine of a key holds a list: it is registered for this key or for none. -/
def Holds (r : Registry) (key : String) (a : ℕ) : Prop :=
  a < r.fresh ∧ ∀ key', r.active key' = some a → key' = key

/-- Sockets are taken out of the lists, and what is dropped is empty. -/
structure Shrinks (r r' : Registry) : Prop where
  fresh : r'.fresh = r.fresh
  active : ∀ key a, r'.active key = some a → r.active key = some a
  heap : ∀ a, (r'.heap a).Sublist (r.heap a)
  dropped : ∀ key a, r.active key = some a → r'.active key = none → r'.heap a = []

/-- What a step does to the lists, with the socket that it adds. -/
structure Turns (r : Registry) (added : Option Socket) (r' : Registry) : Prop where
  sound : r'.Sound
  holds : ∀ key a, r.Holds key a → r'.Holds key a
  changes : ∀ a, Cursor.Changes (r.heap a) (r'.heap a)
  mem : ∀ a ws, ws ∈ r'.heap a → ws ∈ r.heap a ∨ added = some ws

variable {m : Manager} {r r' r'' : Registry} {key key' : String} {ws ws' : Socket} {a : ℕ}

theorem Sound.holds (h : r.Sound) (hkey : r.active key = some a) : r.Holds key a :=
  ⟨h.active_lt key a hkey, fun key' hkey' => h.inj key' key a hkey' hkey⟩

theorem conns_of_active (hkey : r.active key = some a) : r.conns key = r.heap a := by
  simp [conns, hkey]

theorem Shrinks.refl (r : Registry) : r.Shrinks r :=
  ⟨rfl, fun _ _ h => h, fun _ => .refl _, fun key a h h' => by simp [h] at h'⟩

theorem Shrinks.trans (h : r.Shrinks r') (h' : r'.Shrinks r'') : r.Shrinks r'' where
  fresh := h'.fresh.trans h.fresh
  active key a hkey := h.active key a (h'.active key a hkey)
  heap a := (h'.heap a).trans (h.heap a)
  dropped key a hkey hnone := by
    cases hmid : r'.active key with
    | none => exact List.eq_nil_of_subset_nil (h.dropped key a hkey hmid ▸ (h'.heap a).subset)
    | some b =>
      obtain rfl := Option.some.inj ((h.active key b hmid).symm.trans hkey)
      exact h'.dropped key b hmid hnone

theorem Shrinks.turns (h : r.Shrinks r') (hr : r.Sound) : r.Turns none r' where
  sound := by
    refine ⟨fun key a hkey => ?_, fun key key' a hkey hkey' => ?_, fun a hnone => ?_, fun a => ?_,
      fun a b ws ha hb => ?_⟩
    · rw [h.fresh]
      exact hr.active_lt key a (h.active key a hkey)
    · exact hr.inj key key' a (h.active key a hkey) (h.active key' a hkey')
    · by_cases hold : ∃ key, r.active key = some a
      · obtain ⟨key, hkey⟩ := hold
        refine h.dropped key a hkey (Option.eq_none_iff_forall_ne_some.2 fun b hb => ?_)
        obtain rfl := Option.some.inj ((h.active key b hb).symm.trans hkey)
        exact hnone key hb
      · have hempty := hr.dropped a fun key hkey => hold ⟨key, hkey⟩
        exact List.eq_nil_of_subset_nil (hempty ▸ (h.heap a).subset)
    · exact (hr.nodup a).sublist (h.heap a)
    · exact hr.disjoint a b ws ((h.heap a).subset ha) ((h.heap b).subset hb)
  holds key a hold := by
    refine ⟨h.fresh ▸ hold.1, fun key' hkey' => hold.2 key' (h.active key' a hkey')⟩
  changes a := .erased (h.heap a)
  mem a ws hws := .inl ((h.heap a).subset hws)

theorem shrinks_popFirst (r : Registry) (a : ℕ) : r.Shrinks (r.popFirst a) where
  fresh := rfl
  active _ _ h := h
  heap b := by
    simp only [popFirst, setList, Function.update_apply]
    split_ifs with hb
    · rw [hb]
      exact List.tail_sublist _
    · exact .refl _
  dropped key b hkey hnone := by
    rw [show (r.popFirst a).active key = r.active key from rfl, hkey] at hnone
    cases hnone

/-- `disconnect` takes its socket out of the list of its key. -/
theorem disconnect_of_active (m : Manager) (ws : Socket) (hr : r.Sound)
    (hkey : r.active key = some a) :
    (r.disconnect m key ws).heap = Function.update r.heap a ((r.heap a).filter (· ≠ ws)) ∧
      (r.disconnect m key ws).fresh = r.fresh ∧
      (r.disconnect m key ws).active = if (r.heap a).filter (· ≠ ws) = [] then
        Function.update r.active key none else r.active := by
  simp only [disconnect, hkey, m.remove_eq ws _ (hr.nodup a), setList]
  split_ifs <;> exact ⟨rfl, rfl, rfl⟩

theorem shrinks_disconnect (hr : r.Sound) : r.Shrinks (r.disconnect m key ws) := by
  cases hkey : r.active key with
  | none =>
    have hsame : r.disconnect m key ws = r := by simp [disconnect, hkey]
    rw [hsame]
    exact .refl r
  | some a =>
    obtain ⟨hheap, hfresh, hactive⟩ := disconnect_of_active m ws hr hkey
    refine ⟨hfresh, fun key' b hb => ?_, fun b => ?_, fun key' b hb hnone => ?_⟩
    · rw [hactive] at hb
      split_ifs at hb
      · rw [Function.update_apply] at hb
        split_ifs at hb
        exact hb
      · exact hb
    · rw [hheap, Function.update_apply]
      split_ifs with hba
      · rw [hba]
        exact List.filter_sublist
      · exact .refl _
    · -- only the list of the key is dropped, when it is empty
      rw [hactive] at hnone
      split_ifs at hnone with hempty
      · rw [Function.update_apply] at hnone
        split_ifs at hnone with hsame
        · rw [hsame, hkey] at hb
          obtain rfl := Option.some.inj hb
          rw [hheap, Function.update_self]
          exact hempty
        · rw [hb] at hnone
          cases hnone
      · rw [hb] at hnone
        cases hnone

/-- The sockets of a key after a `disconnect`. -/
theorem conns_disconnect (hr : r.Sound) : (r.disconnect m key ws).conns key' =
    if key' = key then (r.conns key).filter (· ≠ ws) else r.conns key' := by
  cases hkey : r.active key with
  | none =>
    have hsame : r.disconnect m key ws = r := by simp [disconnect, hkey]
    rw [hsame]
    split_ifs with hkey'
    · simp [hkey', conns, hkey]
    · rfl
  | some a =>
    obtain ⟨hheap, -, hactive⟩ := disconnect_of_active m ws hr hkey
    rw [conns_of_active hkey]
    by_cases hkey' : key' = key
    · subst hkey'
      rw [if_pos rfl]
      by_cases hempty : (r.heap a).filter (· ≠ ws) = []
      · rw [if_pos hempty] at hactive
        rw [hempty]
        simp [conns, hactive]
      · rw [if_neg hempty] at hactive
        simp [conns, hactive, hheap, hkey]
    · -- lists of different keys are different, so that of another key stays as it is
      rw [if_neg hkey']
      have hactive' : (r.disconnect m key ws).active key' = r.active key' := by
        rw [hactive]
        split_ifs
        · rw [Function.update_of_ne hkey']
        · rfl
      unfold conns
      rw [hactive', hheap]
      cases hother : r.active key' with
      | none => rfl
      | some b =>
        have hne : b ≠ a := fun hba => hkey' (hr.inj key' key a (hba ▸ hother) hkey)
        simp [Function.update_of_ne hne]

/-- The sockets of a key after a `pop(0)`. -/
theorem conns_popFirst (r : Registry) (a : ℕ) (key : String) : (r.popFirst a).conns key =
    if r.active key = some a then (r.conns key).tail else r.conns key := by
  unfold conns popFirst setList
  cases r.active key with
  | none => simp
  | some b =>
    by_cases hb : b = a
    · simp [hb]
    · simp [hb]

/-- `setdefault` and `append` add the socket to the list of the key, or to a new one. -/
theorem register_spec (hr : r.Sound) (key : String) (ws : Socket) : ∃ a,
    (r.register key ws).heap = Function.update r.heap a (r.heap a ++ [ws]) ∧
    (r.register key ws).active = Function.update r.active key (some a) ∧
    ((r.active key = some a ∧ (r.register key ws).fresh = r.fresh) ∨
      (r.active key = none ∧ a = r.fresh ∧ (r.register key ws).fresh = r.fresh + 1)) := by
  unfold register setdefault setList
  cases hkey : r.active key with
  | some a =>
    refine ⟨a, rfl, ?_, .inl ⟨rfl, rfl⟩⟩
    rw [← hkey, Function.update_eq_self, hkey]
  | none =>
    refine ⟨r.fresh, ?_, rfl, .inr ⟨rfl, rfl, rfl⟩⟩
    -- the new list has an address that was not used
    have hempty : r.heap r.fresh = [] :=
      hr.dropped r.fresh fun key hkey => lt_irrefl _ (hr.active_lt key r.fresh hkey)
    simp [hempty]

/-- The sockets of a key after `setdefault` and `append`. -/
theorem conns_register (hr : r.Sound) (key key' : String) (ws : Socket) :
    (r.register key ws).conns key' =
      if key' = key then r.conns key ++ [ws] else r.conns key' := by
  obtain ⟨a, hheap, hactive, hcase⟩ := register_spec hr key ws
  unfold conns
  rw [hheap, hactive]
  by_cases hkey' : key' = key
  · subst hkey'
    rw [if_pos rfl, Function.update_self]
    rcases hcase with ⟨hkey, -⟩ | ⟨hkey, rfl, -⟩
    · simp [hkey]
    · have hempty : r.heap r.fresh = [] :=
        hr.dropped r.fresh fun key hkey => lt_irrefl _ (hr.active_lt key r.fresh hkey)
      simp [hkey, hempty]
  · rw [if_neg hkey', Function.update_of_ne hkey']
    cases hother : r.active key' with
    | none => rfl
    | some b =>
      have hne : b ≠ a := by
        rintro rfl
        rcases hcase with ⟨hkey, -⟩ | ⟨-, rfl, -⟩
        · exact hkey' (hr.inj key' key b hother hkey)
        · exact lt_irrefl _ (hr.active_lt key' _ hother)
      simp [Function.update_of_ne hne]

theorem turns_register (hr : r.Sound) (hws : ∀ a, ws ∉ r.heap a) :
    r.Turns (some ws) (r.register key ws) := by
  obtain ⟨a, hheap, hactive, hcase⟩ := register_spec hr key ws
  -- no other key has the list
  have hother : ∀ key', key' ≠ key → r.active key' ≠ some a := by
    rintro key' hkey' hb
    rcases hcase with ⟨hkey, -⟩ | ⟨-, rfl, -⟩
    · exact hkey' (hr.inj key' key a hb hkey)
    · exact lt_irrefl _ (hr.active_lt key' _ hb)
  have hfresh : r.fresh ≤ (r.register key ws).fresh ∧ a < (r.register key ws).fresh := by
    rcases hcase with ⟨hkey, hsame⟩ | ⟨-, rfl, hnew⟩
    · exact ⟨hsame.ge, hsame ▸ hr.active_lt key a hkey⟩
    · omega
  have hactive' : ∀ key' b, (r.register key ws).active key' = some b →
      key' = key ∧ b = a ∨ key' ≠ key ∧ r.active key' = some b := by
    intro key' b hb
    rw [hactive, Function.update_apply] at hb
    split_ifs at hb with hkey'
    · exact .inl ⟨hkey', (Option.some.inj hb).symm⟩
    · exact .inr ⟨hkey', hb⟩
  have hmem : ∀ b ws', ws' ∈ (r.register key ws).heap b → ws' ∈ r.heap b ∨ b = a ∧ ws' = ws := by
    intro b ws' hws'
    rw [hheap, Function.update_apply] at hws'
    split_ifs at hws' with hb
    · rw [hb]
      exact (List.mem_append.1 hws').imp_right fun h => ⟨rfl, List.mem_singleton.1 h⟩
    · exact .inl hws'
  refine ⟨⟨fun key' b hb => ?_, fun key' key'' b hb hb' => ?_, fun b hnone => ?_, fun b => ?_,
    fun b b' ws' hb hb' => ?_⟩, fun key' b hold => ⟨hold.1.trans_le hfresh.1, fun key'' hb => ?_⟩,
    fun b => ?_, fun b ws' hws' => ?_⟩
  · rcases hactive' key' b hb with ⟨-, rfl⟩ | ⟨-, hb⟩
    · exact hfresh.2
    · exact (hr.active_lt key' b hb).trans_le hfresh.1
  · rcases hactive' key' b hb with ⟨rfl, rfl⟩ | ⟨hkey', hold⟩
    · rcases hactive' key'' b hb' with ⟨rfl, -⟩ | ⟨hkey'', hold'⟩
      · rfl
      · exact absurd hold' (hother key'' hkey'')
    · rcases hactive' key'' b hb' with ⟨rfl, rfl⟩ | ⟨-, hold'⟩
      · exact absurd hold (hother key' hkey')
      · exact hr.inj key' key'' b hold hold'
  · have hba : b ≠ a := by
      rintro rfl
      exact hnone key (by rw [hactive, Function.update_self])
    rw [hheap, Function.update_of_ne hba]
    refine hr.dropped b fun key' hb => hnone key' ?_
    rw [hactive, Function.update_apply]
    split_ifs with hkey'
    · rcases hcase with ⟨hkey, -⟩ | ⟨hkey, -⟩
      · rw [hkey', hkey] at hb
        exact hb
      · rw [hkey', hkey] at hb
        cases hb
    · exact hb
  · rw [hheap, Function.update_apply]
    split_ifs
    · exact List.nodup_append.2 ⟨hr.nodup a, List.nodup_singleton ws, by
        rintro x hx y hy rfl
        exact hws a (List.mem_singleton.1 hy ▸ hx)⟩
    · exact hr.nodup b
  · rcases hmem b ws' hb with hold | ⟨rfl, rfl⟩
    · rcases hmem b' ws' hb' with hold' | ⟨rfl, rfl⟩
      · exact hr.disjoint b b' ws' hold hold'
      · exact absurd hold (hws b)
    · rcases hmem b' ws' hb' with hold' | ⟨rfl, -⟩
      · exact absurd hold' (hws b')
      · rfl
  · rcases hactive' key'' b hb with ⟨rfl, rfl⟩ | ⟨-, hb⟩
    · rcases hcase with ⟨hkey, -⟩ | ⟨-, rfl, -⟩
      · exact hold.2 key'' hkey
      · exact absurd hold.1 (lt_irrefl _)
    · exact hold.2 key'' hb
  · rw [hheap, Function.update_apply]
    split_ifs with hb
    · rw [hb]
      exact .added (hws a)
    · exact .erased (.refl _)
  · exact (hmem b ws' hws').imp_right fun h => by rw [h.2]

end Registry

end Sockets

end OmsWmsTms
