import OmsWmsTms.Oms.Effects
import OmsWmsTms.Oms.MergeCounts
import OmsWmsTms.Txn.Decides
import OmsWmsTms.Txn.OneCommit

/-!
# The codes of merge groups

The code that `merge_orders` makes for a call without one counts the merge groups, whatever codes
these have.  Its retry counts them again in a session whose flush has failed, and raises.

* `retryGroup` : the loop of three attempts; `mergeOrders_eq_retry` : it has one attempt.
* `ReadyToMerge` : what a call needs apart from its code.
* `decides_mergeOrders` : a call that is ready is accepted exactly when its code is not taken.
* `CodeFound` : a ready call without a code gets one that is not taken.
* `codesFound_iff` : so it is in every run exactly when no caller has passed the next code.
-/

namespace OmsWmsTms

namespace Oms

open Txn (Prog Decides OneCommit Writes Session)

/-! ### The retry -/

/-- `SELECT count(*)` over the merge groups; `failed` says that a flush of this session has failed
and was not rolled back. -/
def countGroups (failed : Bool) : OmsProg ℕ :=
  if failed then .throw .pendingRollback
  else do
    let groups ← Prog.query fun key _ => match key with | .mergeGroup _ => true | _ => false
    return groups.length

/-- Whether the foreign key of a warehouse is met. -/
def warehouseFound (warehouseId : Option Uuid) : OmsProg Bool :=
  match warehouseId with
  | none => return true
  | some id => do
    let rows ← Prog.query (Txn.keyQuery (.warehouse id))
    return decide (rows ≠ [])

/-- `db.add` and `db.flush` of a new group; `none` stands for an `IntegrityError`. -/
def flushGroup (gathered : Gathered) (warehouseId : Option IdArg) (note code : String) :
    OmsProg (Option MergeGroup) := do
  let id ← Prog.newId
  let warehouseId ← warehouseArg warehouseId
  let code ← Prog.ofExcept (storeText 50 code)
  let totalItems ← Prog.ofExcept (storeInt gathered.totalItems)
  let totalAmount ← Prog.ofExcept (storeNumeric gathered.totalAmount)
  let found ← warehouseFound warehouseId
  if found then do
    let group : MergeGroup := ⟨id, code, warehouseId, "active", totalItems, totalAmount, note⟩
    let free ← Prog.insertAll [(.mergeCode code, .mergeCode id), (.mergeGroup id, .mergeGroup group)]
    return if free then some group else none
  else return none

/-- The loop, with `left` attempts after this one. -/
def retryGroup (gathered : Gathered) (warehouseId : Option IdArg) (note : String) (left : ℕ)
    (code : String) : OmsProg MergeGroup := do
  match ← flushGroup gathered warehouseId note code with
  | some group => return group
  | none =>
    match left with
    | 0 => .throw (.validation "Could not generate unique merge code — try again" none)
    | left + 1 =>
      -- `expire_all` does not roll back
      let count ← countGroups true
      retryGroup gathered warehouseId note left (mergeCode count)

/-- `merge_orders` with its loop. -/
def mergeOrdersRetrying (orderIds : List IdArg) (code : Option String) (warehouseId : Option IdArg)
    (note : String) : OmsProg MergeDict := do
  if orderIds.length < 2 then
    .throw (.validation "Need at least 2 orders to merge" none)
  else
    let gathered ← Prog.foldEach orderIds {} gatherOrder
    let count ← countGroups false
    let group ← retryGroup gathered warehouseId note 2
      (if code.getD "" = "" then mergeCode count else code.getD "")
    Prog.forEach gathered.orders fun order => insertLink none order.id (some group.id) "merged"
    Prog.commitOr .commitFailed
    return ⟨group, gathered.orders.map Order.id⟩

section Retry

variable {A : Type} {gathered : Gathered} {warehouseId : Option IdArg} {note code : String}

/-- **The first attempt is the only one**: after an `IntegrityError` the count raises. -/
theorem retryGroup_bind (left : ℕ) (next : MergeGroup → OmsProg A) :
    (retryGroup gathered warehouseId note (left + 1) code).bind next =
      (Prog.newId : OmsProg ℕ).bind fun id => (warehouseArg warehouseId).bind fun warehouseId =>
        (Prog.ofExcept (storeText 50 code)).bind fun code =>
        (Prog.ofExcept (storeInt gathered.totalItems)).bind fun totalItems =>
        (Prog.ofExcept (storeNumeric gathered.totalAmount)).bind fun totalAmount =>
        (checkWarehouse warehouseId).bind fun _ =>
        (Prog.insertOr .pendingRollback (.mergeCode code) (.mergeCode id)).bind fun _ =>
        (Prog.insertOr .pendingRollback (.mergeGroup id) (.mergeGroup
          ⟨id, code, warehouseId, "active", totalItems, totalAmount, note⟩)).bind fun _ =>
        next ⟨id, code, warehouseId, "active", totalItems, totalAmount, note⟩ := by
  unfold retryGroup flushGroup
  simp only [Prog.bind_eq, Prog.pure_eq, Prog.bind_assoc]
  congr 1
  funext id
  generalize warehouseId = warehouseArg'
  congr 1
  funext warehouseId
  congr 1
  funext code
  congr 1
  funext totalItems
  congr 1
  funext totalAmount
  -- the insert of the group and of its code, or the count that raises
  have hinsert (group : MergeGroup) :
      ((Prog.insertAll [(.mergeCode code, .mergeCode id), (.mergeGroup id, .mergeGroup group)] :
        OmsProg Bool).bind fun free =>
          (Prog.ret (if free then some group else none)).bind fun group? =>
            Prog.bind (match group? with
              | some group => Prog.ret group
              | none => (countGroups true).bind fun count =>
                retryGroup gathered warehouseArg' note left (mergeCode count)) next) =
        (Prog.insertOr .pendingRollback (.mergeCode code) (.mergeCode id)).bind fun _ =>
          (Prog.insertOr .pendingRollback (.mergeGroup id) (.mergeGroup group)).bind fun _ =>
            next group := by
    refine congrArg (Prog.insert _ _) (funext fun unique => ?_)
    cases unique with
    | false => rfl
    | true => exact congrArg (Prog.insert _ _) (funext fun free => by cases free <;> rfl)
  cases warehouseId with
  | none =>
    simp only [warehouseFound, checkWarehouse, Prog.ret_bind, Prog.pure_eq, if_true,
      Prog.bind_assoc]
    exact hinsert _
  | some warehouse =>
    refine congrArg (Prog.select _) (funext fun rows => ?_)
    by_cases hrows : rows = []
    · simp only [hrows, ne_eq, not_true, decide_false, Prog.pure_eq, Prog.ret_bind,
        Bool.false_eq_true, if_false, if_true]
      rfl
    · simp only [hrows, ne_eq, not_false_iff, decide_true, Prog.pure_eq, Prog.ret_bind, if_true,
        if_false, Prog.bind_assoc]
      exact hinsert _

/-- **`merge_orders` makes one attempt.** -/
theorem mergeOrders_eq_retry (orderIds : List IdArg) (code : Option String)
    (warehouseId : Option IdArg) (note : String) :
    mergeOrdersRetrying orderIds code warehouseId note =
      mergeOrders orderIds code warehouseId note := by
  unfold mergeOrdersRetrying mergeOrders
  split
  · rfl
  · refine congrArg (Prog.bind _) (funext fun gathered => ?_)
    refine congrArg (Prog.select _) (funext fun groups => ?_)
    exact retryGroup_bind 1 _

end Retry

/-! ### When a call is accepted -/

/-- The identifiers in a list. -/
def namedIds (orderIds : List IdArg) : List Uuid := orderIds.filterMap IdArg.uuid?

/-- An order that is there and in no terminal state. -/
def Mergeable (d : OmsDb) (orderId : IdArg) : Prop :=
  ∃ id order, orderId.uuid? = some id ∧ orderAt d (.order id) = some order ∧
    order.status ∉ [.completed, .cancelled, .failed]

/-- What a call needs apart from its code: at least two orders that can be merged, sums that fit
their columns, and its warehouse. -/
structure ReadyToMerge (d : OmsDb) (call : MergeCall) : Prop where
  two : 2 ≤ call.orderIds.length
  orders : ∀ orderId ∈ call.orderIds, Mergeable d orderId
  totalItems : FitsInteger
    ((namedIds call.orderIds).map fun id => ((linesOf d id).length : ℤ)).sum
  totalAmount : (Numeric.ofRat? ((namedIds call.orderIds).map (totalAt d)).sum :
    Option (Numeric 18 2)).isSome = true
  warehouse : ∀ arg ∈ call.warehouseId, arg.text ≠ "" →
    ∃ id, arg.uuid? = some id ∧ d.get? (.warehouse id) ≠ none

/-- A code is in use. -/
def InUse (d : OmsDb) (code : String) : Prop := d.get? (.mergeCode code) ≠ none

/-- The query of all merge groups. -/
def isMergeGroup (key : OmsKey) (_ : OmsRow) : Bool :=
  match key with
  | .mergeGroup _ => true
  | _ => false

/-- The number of merge groups. -/
def groupCount (d : OmsDb) : ℕ := (Txn.select isMergeGroup d).length

/-- The code of the next call without one. -/
def nextCode (d : OmsDb) : String := mergeCode (groupCount d)

/-- A call has no code. -/
def MergeCall.Codeless (call : MergeCall) : Prop := call.code.getD "" = ""

instance (call : MergeCall) : Decidable call.Codeless := inferInstanceAs (Decidable (_ = _))

/-- The code of the group of a call. -/
def MergeCall.codeOn (call : MergeCall) (d : OmsDb) : String :=
  if call.Codeless then nextCode d else call.code.getD ""

/-- The new identifiers differ from each other and from those in use. -/
structure FreshGroupIds (ids : ℕ → ℕ) (d : OmsDb) : Prop where
  injective : Function.Injective ids
  group : ∀ n, d.get? (.mergeGroup (ids n)) = none
  link : ∀ n, d.get? (.splitChildOrder (ids n)) = none

/-- The rows `w` are the rows `d` with one more group, under a new code. -/
structure Coded (d : OmsDb) (code : String) (w : OmsDb) : Prop where
  inUse : ∀ other, InUse w other ↔ other = code ∨ InUse d other
  groupCount : groupCount w = groupCount d + 1

section Accepted

variable {d : OmsDb} {ids : ℕ → ℕ} {call : MergeCall}

/-- What has been gathered from some of the identifiers. -/
structure GatheredFrom (d : OmsDb) (done : List IdArg) (gathered : Gathered) : Prop where
  totalItems : gathered.totalItems =
    ((namedIds done).map fun id => ((linesOf d id).length : ℤ)).sum
  totalAmount : gathered.totalAmount = ((namedIds done).map (totalAt d)).sum

theorem exec_selectItems (id : Uuid) (s : Session OmsKey OmsRow) :
    ∃ items, (selectItems id).exec s = (.ok items, s) ∧
      items.map Prod.snd = linesOf s.working id := by
  have hitems : Txn.Ensures (fun _ _ => True)
      (fun items _ _ => items.map Prod.snd = linesOf s.working id) (selectItems id) s.committed
      s.working := ensures_selectItems fun _ h => h
  exact ⟨_, rfl, hitems⟩

/-- **An identifier is gathered** if its order can be merged. -/
theorem decides_gatherOrder {orderIds : List IdArg} (orderId : IdArg) (rest : List IdArg)
    (gathered : Gathered) :
    Decides (fun s => (∃ done, done ++ orderId :: rest = orderIds ∧ GatheredFrom d done gathered) ∧
        s = ⟨d, d, ids⟩)
      (gatherOrder gathered orderId) (Mergeable d orderId)
      fun gathered s => (∃ done, done ++ rest = orderIds ∧ GatheredFrom d done gathered) ∧
        s = ⟨d, d, ids⟩ := by
  rintro s ⟨⟨done, hdone, hgathered⟩, rfl⟩
  unfold gatherOrder toUuid Mergeable
  cases hid : orderId.uuid? with
  | none =>
    refine ⟨fun ⟨_, _, hsome, _⟩ => ?_, fun _ => ⟨_, _, rfl⟩⟩
    cases hsome
  | some id =>
    simp only [Prog.pure_eq, Prog.bind_eq, Prog.ret_bind,
      Prog.exec_bind_of_ok (exec_selectOrder id _)]
    cases horder : orderAt d (.order id) with
    | none =>
      refine ⟨fun ⟨id', _, heq, hsome, _⟩ => ?_, fun _ => ⟨_, _, rfl⟩⟩
      cases heq
      rw [horder] at hsome
      cases hsome
    | some order =>
      obtain ⟨items, hexec, hitems⟩ := exec_selectItems id ⟨d, d, ids⟩
      simp only [Prog.exec_bind_of_ok hexec]
      by_cases hstatus : order.status ∈ [.completed, .cancelled, .failed]
      · simp only [if_pos hstatus]
        refine ⟨fun ⟨id', order', heq, hsome, hnot⟩ => ?_, fun _ => ⟨_, _, rfl⟩⟩
        cases heq
        rw [horder] at hsome
        cases hsome
        exact absurd hstatus hnot
      · simp only [if_neg hstatus]
        refine ⟨fun _ => ⟨_, _, rfl, ⟨⟨done ++ [orderId], by simp [← hdone], ?_⟩, rfl⟩⟩,
          fun hnot => absurd ⟨id, order, rfl, horder, hstatus⟩ hnot⟩
        have hlength : items.length = (linesOf d id).length := by
          rw [← hitems, List.length_map]
        constructor
        · simp [namedIds, hid, hgathered.totalItems, hlength]
        · simp [namedIds, hid, hgathered.totalAmount, totalAt, horder]

/-- The identifier of the warehouse that a call names. -/
def MergeCall.Names (call : MergeCall) (id : Uuid) : Prop :=
  ∃ arg ∈ call.warehouseId, arg.text ≠ "" ∧ arg.uuid? = some id

theorem decides_warehouseArg {P : Session OmsKey OmsRow → Prop} :
    Decides P (warehouseArg call.warehouseId)
      (∀ arg ∈ call.warehouseId, arg.text ≠ "" → ∃ id, arg.uuid? = some id)
      fun warehouseId s => (∀ id, warehouseId = some id ↔ call.Names id) ∧ P s := by
  unfold warehouseArg MergeCall.Names
  intro s hs
  cases call.warehouseId with
  | none => exact ⟨fun _ => ⟨_, _, rfl, by simp, hs⟩, fun h => absurd (by simp) h⟩
  | some arg =>
    by_cases htext : arg.text = ""
    · simp only [if_pos htext]
      exact ⟨fun _ => ⟨_, _, rfl, by simp [htext], hs⟩, fun h => absurd (by simp [htext]) h⟩
    · simp only [if_neg htext, toUuid]
      cases hid : arg.uuid? with
      | none =>
        refine ⟨fun h => ?_, fun _ => ⟨_, _, rfl⟩⟩
        obtain ⟨id, hsome⟩ := h arg rfl htext
        rw [hid] at hsome
        cases hsome
      | some id =>
        refine ⟨fun _ => ⟨_, _, rfl, fun id' => ?_, hs⟩, fun h => absurd ?_ h⟩
        · simp [htext, hid]
        · simp [hid]

theorem decides_checkWarehouse {warehouseId : Option Uuid} {P : Session OmsKey OmsRow → Prop}
    (hnames : ∀ id, warehouseId = some id ↔ call.Names id) (hP : ∀ s, P s → s.working = d) :
    Decides P (checkWarehouse warehouseId) (∀ id, call.Names id → d.get? (.warehouse id) ≠ none)
      fun _ => P := by
  simp only [← hnames]
  cases warehouseId with
  | none => exact (Decides.ret fun _ hs => hs).conseq (fun _ hs => hs) (by simp) fun _ _ h => h
  | some id =>
    intro s hs
    rw [checkWarehouse, Prog.bind_eq, Prog.exec_bind_of_ok (Prog.exec_query _ s), hP s hs]
    by_cases hnone : d.get? (.warehouse id) = none
    · rw [Txn.select_keyQuery_eq_nil_iff.2 hnone, if_pos rfl]
      exact ⟨fun h => absurd hnone (h id rfl), fun _ => ⟨_, _, rfl⟩⟩
    · rw [if_neg (mt Txn.select_keyQuery_eq_nil_iff.1 hnone)]
      refine ⟨fun _ => ⟨_, _, rfl, hs⟩, fun h => absurd (fun id' hid' => ?_) h⟩
      cases hid'
      exact hnone

/-- A new row adds to the codes and to the groups as its key says. -/
theorem inUse_set {key : OmsKey} {row : OmsRow} {code : String} :
    InUse (d.set key row) code ↔ key = .mergeCode code ∨ InUse d code := by
  rw [InUse, Dict.get?_set]
  by_cases hkey : key = .mergeCode code
  · simp [hkey]
  · simp [hkey, InUse]

theorem groupCount_set {key : OmsKey} {row : OmsRow} (h : d.get? key = none) :
    groupCount (d.set key row) = groupCount d + if isMergeGroup key row then 1 else 0 := by
  rw [groupCount, Txn.select_set_of_none h, List.length_append]
  cases isMergeGroup key row <;> rfl

/-- The session in which the orders are linked to the group. -/
structure Linking (d : OmsDb) (code : String) (s : Session OmsKey OmsRow) : Prop where
  coded : Coded d code s.working
  injective : Function.Injective s.ids
  link : ∀ n, s.working.get? (.splitChildOrder (s.ids n)) = none

theorem decides_insertLink {code : String} (parentOrderId : Option Uuid) (childOrderId : Uuid)
    (mergeGroupId : Option Uuid) (splitReason : String) :
    Decides (Linking d code) (insertLink parentOrderId childOrderId mergeGroupId splitReason) True
      fun _ => Linking d code := by
  refine Decides.bind_true (Q := fun id s => s.working.get? (.splitChildOrder id) = none ∧
    (∀ n, s.ids n ≠ id) ∧ Linking d code s) (.newId fun s hs => ?_) fun id => ?_
  · refine ⟨hs.link 0, fun n hn => ?_, hs.coded, fun n m hnm => ?_, fun n => hs.link (n + 1)⟩
    · cases hs.injective hn
    · exact Nat.succ.inj (hs.injective hnm)
  · refine .insertOr (fun s hs => iff_of_true trivial hs.1) fun s hs hfree => ?_
    obtain ⟨-, hne, hlinking⟩ := hs
    refine ⟨⟨fun other => ?_, ?_⟩, hlinking.injective, fun n => ?_⟩
    · rw [inUse_set, hlinking.coded.inUse]
      simp
    · rw [groupCount_set hfree, hlinking.coded.groupCount]
      rfl
    · rw [Dict.get?_set, if_neg]
      · exact hlinking.link n
      · exact fun heq => hne n (OmsKey.splitChildOrder.inj heq).symm

/-- **The rows of a group**: they are inserted if the code is not in use. -/
theorem decides_insertGroup {id : Uuid} {code : String} (group : MergeGroup)
    (hids : FreshGroupIds ids d) (hid : id = ids 0) :
    Decides (fun s => s = ⟨d, d, fun n => ids (n + 1)⟩)
      ((Prog.insertOr .pendingRollback (.mergeCode code) (.mergeCode id) : OmsProg Unit).bind
        fun _ => Prog.insertOr .pendingRollback (.mergeGroup id) (.mergeGroup group))
      (¬ InUse d code) fun _ => Linking d code := by
  subst hid
  refine (Decides.bind (φ := ¬ InUse d code) (ψ := True)
    (Q := fun _ s => s = ⟨d, d.set (.mergeCode code) (.mergeCode (ids 0)), fun n => ids (n + 1)⟩ ∧
      d.get? (.mergeCode code) = none)
    (.insertOr (fun s hs => ?_) fun s hs hfree => ?_) fun _ =>
    .insertOr (fun s hs => ?_) fun s hs hfree => ?_).conseq (fun _ hs => hs)
      (fun _ _ => by rw [and_true]) fun _ _ h => h
  · rw [hs, InUse, not_not]
  · rw [hs] at hfree ⊢
    exact ⟨rfl, hfree⟩
  · rw [hs.1, Dict.get?_set, if_neg (by simp), hids.group]
    simp
  · obtain ⟨rfl, hcode⟩ := hs
    refine ⟨⟨fun other => ?_, ?_⟩, fun n m hnm => ?_, fun n => ?_⟩
    · rw [inUse_set, inUse_set]
      simp [eq_comm]
    · rw [groupCount_set hfree, groupCount_set hcode]
      rfl
    · exact Nat.succ.inj (hids.injective hnm)
    · rw [Dict.get?_set, if_neg (by simp), Dict.get?_set, if_neg (by simp), hids.link]

theorem decides_gather (orderIds : List IdArg) :
    Decides (fun s => s = ⟨d, d, ids⟩) (Prog.foldEach orderIds {} gatherOrder)
      (∀ orderId ∈ orderIds, Mergeable d orderId)
      fun gathered s => GatheredFrom d orderIds gathered ∧ s = ⟨d, d, ids⟩ := by
  refine (Decides.foldEach (J := fun rest gathered s => (∃ done, done ++ rest = orderIds ∧
    GatheredFrom d done gathered) ∧ s = ⟨d, d, ids⟩) decides_gatherOrder orderIds {}).conseq
      (fun s hs => ?_) (fun _ _ => Iff.rfl) fun gathered s hs => ?_
  · exact ⟨⟨[], rfl, ⟨rfl, rfl⟩⟩, hs⟩
  · obtain ⟨⟨done, hdone, hgathered⟩, hs⟩ := hs
    rw [List.append_nil] at hdone
    exact ⟨hdone ▸ hgathered, hs⟩

/-- **A group is created** if what the column keeps of its code is not in use. -/
theorem decides_createGroup {gathered : Gathered} (call : MergeCall) (code : String)
    (hids : FreshGroupIds ids d) :
    Decides (fun s => s = ⟨d, d, ids⟩)
      ((Prog.newId : OmsProg ℕ).bind fun id => (warehouseArg call.warehouseId).bind fun warehouseId =>
        (Prog.ofExcept (storeText 50 code)).bind fun code =>
        (Prog.ofExcept (storeInt gathered.totalItems)).bind fun totalItems =>
        (Prog.ofExcept (storeNumeric gathered.totalAmount)).bind fun totalAmount =>
        (checkWarehouse warehouseId).bind fun _ =>
        (Prog.insertOr .pendingRollback (.mergeCode code) (.mergeCode id)).bind fun _ =>
        (Prog.insertOr .pendingRollback (.mergeGroup id) (.mergeGroup
          ⟨id, code, warehouseId, "active", totalItems, totalAmount, call.note⟩)).bind fun _ =>
        (Prog.forEach gathered.orders fun order =>
          insertLink none order.id (some id) "merged").bind fun _ =>
        (Prog.commitOr .commitFailed).bind fun _ =>
        .ret (⟨⟨id, code, warehouseId, "active", totalItems, totalAmount, call.note⟩,
          gathered.orders.map Order.id⟩ : MergeDict))
      ((∀ arg ∈ call.warehouseId, arg.text ≠ "" → ∃ id, arg.uuid? = some id) ∧
        Text.FitsUpToBlanks 50 code ∧ FitsInteger gathered.totalItems ∧
        (Numeric.ofRat? gathered.totalAmount : Option (Numeric 18 2)).isSome = true ∧
        (∀ id, call.Names id → d.get? (.warehouse id) ≠ none) ∧ ¬ InUse d (Text.cut 50 code))
      fun dict s => dict.group.code = Text.cut 50 code ∧ Coded d (Text.cut 50 code) s.committed := by
  rw [← exists_storeText_iff, ← exists_storeInt_iff, ← exists_storeNumeric_iff]
  refine Decides.bind_true (Q := fun id s => id = ids 0 ∧ s = ⟨d, d, fun n => ids (n + 1)⟩)
    (.newId fun s hs => by rw [hs]; exact ⟨rfl, rfl⟩) fun id => Decides.assume fun hid => ?_
  refine decides_warehouseArg.bind fun warehouseId => Decides.assume fun hnames => ?_
  refine (Decides.ofExcept fun code' hcode' s hs => And.intro hcode' hs).bind fun code' =>
    Decides.assume fun hcode' => ?_
  obtain ⟨-, rfl⟩ := Text.varchar?_eq_some_iff.1 (storeText_eq_ok_iff.1 hcode')
  refine (Decides.ofExcept fun _ _ _ hs => hs).bind fun totalItems => ?_
  refine (Decides.ofExcept fun _ _ _ hs => hs).bind fun totalAmount => ?_
  refine (decides_checkWarehouse hnames fun s hs => by rw [hs]).bind fun _ => ?_
  rw [← Prog.bind_assoc]
  refine ((decides_insertGroup _ hids hid).bind fun _ => (Decides.bind_true
    (Decides.forEach_true (J := fun _ => Linking d (Text.cut 50 code))
      (fun order rest => decides_insertLink _ _ _ _) _) fun _ => Decides.bind_true
        (Q := fun _ s => Coded d (Text.cut 50 code) s.committed) (.commitOr fun s hs => hs.coded) fun _ =>
          .ret fun s hs => ⟨rfl, hs⟩)).conseq (fun _ hs => hs) (fun _ _ => by rw [and_true])
    fun _ _ h => h

/-- What is asked of a call, in the order in which it is asked. -/
theorem readyToMerge_iff (hlength : 2 ≤ call.orderIds.length) (code : String) :
    (ReadyToMerge d call ∧ Text.FitsUpToBlanks 50 code ∧ ¬ InUse d (Text.cut 50 code)) ↔
      (∀ orderId ∈ call.orderIds, Mergeable d orderId) ∧
        ((∀ arg ∈ call.warehouseId, arg.text ≠ "" → ∃ id, arg.uuid? = some id) ∧
          Text.FitsUpToBlanks 50 code ∧
          FitsInteger ((namedIds call.orderIds).map fun id => ((linesOf d id).length : ℤ)).sum ∧
          (Numeric.ofRat? ((namedIds call.orderIds).map (totalAt d)).sum :
            Option (Numeric 18 2)).isSome = true ∧
          (∀ id, call.Names id → d.get? (.warehouse id) ≠ none) ∧ ¬ InUse d (Text.cut 50 code)) := by
  constructor
  · rintro ⟨hready, hcode, hfree⟩
    refine ⟨hready.orders, fun arg harg htext => ?_, hcode, hready.totalItems, hready.totalAmount,
      ?_, hfree⟩
    · obtain ⟨id, hid, -⟩ := hready.warehouse arg harg htext
      exact ⟨id, hid⟩
    · rintro id ⟨arg, harg, htext, hid⟩
      obtain ⟨id', hid', hfound⟩ := hready.warehouse arg harg htext
      cases hid.symm.trans hid'
      exact hfound
  · rintro ⟨horders, hargs, hcode, hitems, hamount, hwarehouse, hfree⟩
    refine ⟨⟨hlength, horders, hitems, hamount, fun arg harg htext => ?_⟩, hcode, hfree⟩
    obtain ⟨id, hid⟩ := hargs arg harg htext
    exact ⟨id, hid, hwarehouse id ⟨arg, harg, htext, hid⟩⟩

/-- **A call is accepted exactly when it is ready and its code, as the column keeps it, is not in
use.** -/
theorem decides_mergeOrders (call : MergeCall) (hids : FreshGroupIds ids d) :
    Decides (fun s => s = ⟨d, d, ids⟩)
      (mergeOrders call.orderIds call.code call.warehouseId call.note)
      (ReadyToMerge d call ∧ Text.FitsUpToBlanks 50 (call.codeOn d) ∧
        ¬ InUse d (Text.cut 50 (call.codeOn d)))
      fun dict s => dict.group.code = Text.cut 50 (call.codeOn d) ∧
        Coded d (Text.cut 50 (call.codeOn d)) s.committed := by
  unfold mergeOrders
  by_cases hlength : call.orderIds.length < 2
  · rw [if_pos hlength]
    refine fun s _ => ⟨fun h => ?_, fun _ => ⟨_, _, rfl⟩⟩
    exact absurd h.1.two (by omega)
  rw [if_neg hlength, readyToMerge_iff (by omega)]
  refine (decides_gather call.orderIds).bind fun gathered => Decides.assume fun hgathered => ?_
  refine Decides.bind_true (p := Prog.query isMergeGroup)
    (Q := fun groups s => groups.length = groupCount d ∧ s = ⟨d, d, ids⟩)
    (.query fun s hs => by rw [hs]; exact ⟨rfl, rfl⟩) fun groups => Decides.assume fun hgroups => ?_
  have hcode : (if call.code.getD "" = "" then mergeCode groups.length else call.code.getD "") =
      call.codeOn d := by
    rw [hgroups]
    rfl
  rw [← hgathered.totalItems, ← hgathered.totalAmount, ← hcode]
  exact decides_createGroup call _ hids

/-- `merge_orders` ends with its commit. -/
theorem oneCommit_mergeOrders (orderIds : List IdArg) (code : Option String)
    (warehouseId : Option IdArg) (note : String) :
    OneCommit (fun _ _ _ => True) (mergeOrders orderIds code warehouseId note) := by
  unfold mergeOrders
  split
  · trivial
  · refine .bind (Writes.foldEach fun _ _ => Writes.of_reads (reads_gatherOrder _ _))
      fun gathered => ?_
    intro groups id
    refine .bind (Writes.of_reads (reads_warehouseArg _)) fun warehouseId => ?_
    refine .bind (Writes.ofExcept _) fun code => .bind (Writes.ofExcept _) fun totalItems => ?_
    refine .bind (Writes.ofExcept _) fun totalAmount => ?_
    refine .bind (Writes.of_reads (reads_checkWarehouse _)) fun _ => ?_
    refine .bind (Writes.insertOr trivial) fun _ => .bind (Writes.insertOr trivial) fun _ => ?_
    refine .bind (Writes.forEach fun order => ?_) fun _ => .commitOr _ _
    exact fun id => Writes.insertOr trivial

end Accepted

/-! ### Runs -/

/-- The rows, and the codes of their own that callers have passed, as the column keeps them. -/
structure MergeState where
  db : OmsDb
  own : List String

/-- A call, and the identifiers that it makes. -/
structure MergeRequest where
  call : MergeCall
  ids : ℕ → ℕ

/-- The answer of a call. -/
def MergeRequest.answer (r : MergeRequest) (d : OmsDb) : Except ServiceError MergeDict :=
  (r.call.run r.ids d).1

/-- The state after a call. -/
def MergeState.after (s : MergeState) (r : MergeRequest) : MergeState where
  db := (r.call.run r.ids s.db).2
  own := if (r.answer s.db).isOk ∧ ¬ r.call.Codeless then
      s.own ++ [Text.cut 50 (r.call.code.getD "")]
    else s.own

/-- **The runs of `merge_orders`**, one call after another, with or without codes. -/
def mergeRuns : Lts MergeState MergeRequest where
  step s r s' := FreshGroupIds r.ids s.db ∧ s' = s.after r

/-- **A call without a code gets one that is not in use**, if it is ready and the code is not too
long for its column. -/
def CodeFound (s : MergeState) (r : MergeRequest) : Prop :=
  r.call.Codeless → ReadyToMerge s.db r.call → (nextCode s.db).length ≤ 50 →
    ∃ dict, r.answer s.db = .ok dict ∧ ¬ InUse s.db dict.group.code

/-- The condition: no caller has passed the code that such a call makes. -/
def NextUnpassed (s : MergeState) (r : MergeRequest) : Prop :=
  r.call.Codeless → ReadyToMerge s.db r.call → (nextCode s.db).length ≤ 50 → nextCode s.db ∉ s.own

/-- No groups, and no codes in use. -/
structure NoGroups (d : OmsDb) : Prop where
  groupCount : groupCount d = 0
  inUse : ∀ code, ¬ InUse d code

/-- The codes in use were passed by a caller, or made when there were fewer groups. -/
structure Known (s : MergeState) : Prop where
  own : ∀ code ∈ s.own, InUse s.db code
  inUse : ∀ code, InUse s.db code → code ∈ s.own ∨ ∃ n < groupCount s.db, code = mergeCode n

/-- The number in a code, whatever zeros it is padded with. -/
theorem mergeCode_injective : Function.Injective mergeCode := by
  intro n m h
  have hdigits := congrArg (fun code => Nat.ofDigitChars 10 (code.toList.drop 3) 0) h
  simp only [mergeCode, String.toList_append, String.toList_ofList, List.leftpad] at hdigits
  change Nat.ofDigitChars 10 (List.replicate _ '0' ++ _) 0 =
    Nat.ofDigitChars 10 (List.replicate _ '0' ++ _) 0 at hdigits
  simp only [Nat.ofDigitChars_append, Nat.ofDigitChars_replicate_zero, Nat.mul_zero,
    Nat.ofDigitChars_ten_toDigits] at hdigits
  omega

/-- A code has no blanks, so that it is not cut. -/
theorem length_mergeCode_le {limit n : ℕ} (h : Text.FitsUpToBlanks limit (mergeCode n)) :
    (mergeCode n).length ≤ limit := by
  refine Text.length_le_of_fitsUpToBlanks h fun hlast => ?_
  have hblank : ' ' ∈ "MG-".toList ++ (List.replicate (4 - (Nat.toDigits 10 (n + 1)).length) '0' ++
      Nat.toDigits 10 (n + 1)) := by
    have hlist : (mergeCode n).toList = "MG-".toList ++
        List.leftpad 4 '0' (Nat.toDigits 10 (n + 1)) :=
      String.toList_append.trans (congrArg _ String.toList_ofList)
    exact hlist ▸ List.mem_of_getLast? hlast
  rcases List.mem_append.1 hblank with hstart | hdigits
  · exact absurd hstart (by decide)
  · rcases List.mem_append.1 hdigits with hzero | hdigit
    · exact absurd (List.eq_of_mem_replicate hzero) (by decide)
    · exact absurd (Nat.isDigit_of_mem_toDigits (by decide) (by decide) hdigit) (by decide)

/-- The next code is kept as it is. -/
theorem cut_nextCode {d : OmsDb} (h : Text.FitsUpToBlanks 50 (nextCode d)) :
    Text.cut 50 (nextCode d) = nextCode d :=
  Text.cut_of_length_le (length_mergeCode_le h)

section Runs

variable {s : MergeState} {r : MergeRequest}

theorem known_start {d : OmsDb} (h : NoGroups d) : Known ⟨d, []⟩ :=
  ⟨fun _ hcode => absurd hcode List.not_mem_nil, fun code hcode => absurd hcode (h.inUse code)⟩

/-- The next code is in use exactly when a caller has passed it. -/
theorem inUse_nextCode_iff (h : Known s) : InUse s.db (nextCode s.db) ↔ nextCode s.db ∈ s.own := by
  refine ⟨fun hinUse => ?_, h.own _⟩
  rcases h.inUse _ hinUse with hown | ⟨n, hlt, heq⟩
  · exact hown
  · have hn : groupCount s.db = n := mergeCode_injective heq
    omega

/-- A call, by its condition. -/
theorem answer_cases (r : MergeRequest) (hids : FreshGroupIds r.ids s.db) :
    (ReadyToMerge s.db r.call ∧ Text.FitsUpToBlanks 50 (r.call.codeOn s.db) ∧
      ¬ InUse s.db (Text.cut 50 (r.call.codeOn s.db)) ∧
      ∃ dict, r.answer s.db = .ok dict ∧ dict.group.code = Text.cut 50 (r.call.codeOn s.db) ∧
        Coded s.db (Text.cut 50 (r.call.codeOn s.db)) (s.after r).db) ∨
    (¬ (ReadyToMerge s.db r.call ∧ Text.FitsUpToBlanks 50 (r.call.codeOn s.db) ∧
      ¬ InUse s.db (Text.cut 50 (r.call.codeOn s.db))) ∧
      ∃ e, r.answer s.db = .error e ∧ (s.after r).db = s.db) := by
  obtain ⟨hok, herror⟩ := (decides_mergeOrders r.call hids).run rfl
  by_cases hφ : ReadyToMerge s.db r.call ∧ Text.FitsUpToBlanks 50 (r.call.codeOn s.db) ∧
      ¬ InUse s.db (Text.cut 50 (r.call.codeOn s.db))
  · obtain ⟨dict, s', hrun, hcode, hcoded⟩ := hok hφ
    refine .inl ⟨hφ.1, hφ.2.1, hφ.2.2, dict, congrArg Prod.fst hrun, hcode, ?_⟩
    have hdb : (s.after r).db = s'.committed := congrArg Prod.snd hrun
    rw [hdb]
    exact hcoded
  · obtain ⟨e, d', hrun⟩ := herror hφ
    refine .inr ⟨hφ, e, congrArg Prod.fst hrun, ?_⟩
    exact (congrArg Prod.snd hrun).trans ((oneCommit_mergeOrders _ _ _ _).run_error hrun)

/-- **A call keeps the codes known.** -/
theorem known_step {s' : MergeState} (h : Known s) (hstep : mergeRuns.step s r s') : Known s' := by
  obtain ⟨hids, rfl⟩ := hstep
  rcases answer_cases r hids with ⟨-, hfits, -, dict, hanswer, -, hcoded⟩ | ⟨-, e, hanswer, hdb⟩
  · by_cases hcodeless : r.call.Codeless
    · have hown : (s.after r).own = s.own := if_neg fun hand => hand.2 hcodeless
      have hcode : r.call.codeOn s.db = nextCode s.db := if_pos hcodeless
      rw [hcode] at hfits
      rw [hcode, cut_nextCode hfits] at hcoded
      refine ⟨fun code hmem => (hcoded.inUse code).2 (.inr (h.own code (hown ▸ hmem))),
        fun code hinUse => ?_⟩
      rw [hown, hcoded.groupCount]
      rcases (hcoded.inUse code).1 hinUse with rfl | hold
      · exact .inr ⟨_, Nat.lt_succ_self _, rfl⟩
      · exact (h.inUse code hold).imp_right fun ⟨n, hlt, heq⟩ => ⟨n, by omega, heq⟩
    · have hown : (s.after r).own = s.own ++ [Text.cut 50 (r.call.code.getD "")] :=
        if_pos ⟨by rw [hanswer]; rfl, hcodeless⟩
      have hcode : r.call.codeOn s.db = r.call.code.getD "" := if_neg hcodeless
      rw [hcode] at hcoded
      refine ⟨fun code hmem => (hcoded.inUse code).2 ?_, fun code hinUse => ?_⟩
      · rw [hown, List.mem_append, List.mem_singleton] at hmem
        exact hmem.symm.imp_right (h.own code)
      · rw [hown, hcoded.groupCount, List.mem_append, List.mem_singleton]
        rcases (hcoded.inUse code).1 hinUse with rfl | hold
        · exact .inl (.inr rfl)
        · exact (h.inUse code hold).imp .inl fun ⟨n, hlt, heq⟩ => ⟨n, by omega, heq⟩
  · have hown : (s.after r).own = s.own := if_neg fun hand => by
      rw [hanswer] at hand
      cases hand.1
    refine ⟨?_, ?_⟩
    · rw [hown, hdb]
      exact h.own
    · rw [hown, hdb]
      exact h.inUse

/-- **A code is found exactly when no caller has passed it.** -/
theorem codeFound_step_iff (h : Known s) (hids : FreshGroupIds r.ids s.db) :
    CodeFound s r ↔ NextUnpassed s r := by
  refine imp_congr_right fun hcodeless => imp_congr_right fun hready =>
    imp_congr_right fun hlength => ?_
  have hcode : r.call.codeOn s.db = nextCode s.db := if_pos hcodeless
  have hfits : Text.FitsUpToBlanks 50 (nextCode s.db) := Text.fitsUpToBlanks_of_length_le hlength
  rw [← inUse_nextCode_iff h]
  rcases answer_cases r hids with ⟨-, -, hfree, dict, hanswer, heq, -⟩ | ⟨hnot, e, hanswer, -⟩
  · rw [hcode, cut_nextCode hfits] at hfree heq
    exact iff_of_true ⟨dict, hanswer, heq ▸ hfree⟩ hfree
  · rw [hcode, cut_nextCode hfits] at hnot
    refine iff_of_false ?_ fun hfree => hnot ⟨hready, hfits, hfree⟩
    rintro ⟨dict, hok, -⟩
    rw [hanswer] at hok
    cases hok

/-- **Every call of a run finds a code that is not in use exactly when no caller has passed the
next code before a call that makes it.** -/
theorem codesFound_iff (d : OmsDb) (h : NoGroups d) (requests : List MergeRequest) (s : MergeState) :
    (mergeRuns.restrict fun s r _ => CodeFound s r).Run ⟨d, []⟩ requests s ↔
      (mergeRuns.guard NextUnpassed).Run ⟨d, []⟩ requests s :=
  Lts.Run.restrict_iff_guard (I := Known) (fun _ _ _ h hstep _ => known_step h hstep)
    (fun _ _ _ h hstep => codeFound_step_iff h hstep.1) (known_start h)

end Runs

/-! ### A caller passes the next code but one -/

/-- A merge of the orders `1` and `2`. -/
def mergePair (code : Option String) (ids : ℕ → ℕ) : MergeRequest :=
  ⟨{ orderIds := [⟨"1", some 1⟩, ⟨"2", some 2⟩], code }, ids⟩

theorem noGroups_pairDb : NoGroups pairDb :=
  ⟨by decide, fun code => by simp [InUse, pairDb]⟩

theorem freshGroupIds_pairDb : FreshGroupIds (fun n => n + 5) pairDb :=
  ⟨add_left_injective 5, fun n => by simp [pairDb], fun n => by simp [pairDb]⟩

/-- Without codes of callers, the first code is found. -/
theorem mergePair_codeFound :
    (mergeRuns.restrict fun s r _ => CodeFound s r).Run ⟨pairDb, []⟩ [mergePair none (· + 5)]
      (MergeState.after ⟨pairDb, []⟩ (mergePair none (· + 5))) :=
  (codesFound_iff pairDb noGroups_pairDb _ _).2 (.single
    ⟨⟨freshGroupIds_pairDb, rfl⟩, fun _ _ _ hmem => absurd hmem List.not_mem_nil⟩)

/-- The state after a caller has passed the second code. -/
def passedState : MergeState := MergeState.after ⟨pairDb, []⟩ (mergePair (some "MG-0002") (· + 5))

theorem keys_passedState : passedState.db.keys = [.order 1, .order 2, .mergeCode "MG-0002",
    .mergeGroup 5, .splitChildOrder 6, .splitChildOrder 7] := by decide +kernel

theorem freshGroupIds_passedState : FreshGroupIds (fun n => n + 8) passedState.db := by
  refine ⟨add_left_injective 8, fun n => ?_, fun n => ?_⟩
  · rw [Dict.get?_eq_none_iff, keys_passedState]
    simp
  · rw [Dict.get?_eq_none_iff, keys_passedState]
    simp

/-- Both orders can be merged once more, as a call with another code shows. -/
theorem ready_passedState : ReadyToMerge passedState.db (mergePair none (· + 8)).call := by
  have hok : ((mergePair (some "A") (· + 8)).answer passedState.db).isOk = true := by
    decide +kernel
  rcases answer_cases (mergePair (some "A") (· + 8)) freshGroupIds_passedState with
    ⟨hready, -⟩ | ⟨-, e, hanswer, -⟩
  · exact ⟨hready.two, hready.orders, hready.totalItems, hready.totalAmount, hready.warehouse⟩
  · rw [hanswer] at hok
    cases hok

/-- **The next code is taken**, and the retry of the call raises. -/
theorem passedState_not_codesFound :
    mergeRuns.Run ⟨pairDb, []⟩ [mergePair (some "MG-0002") (· + 5), mergePair none (· + 8)]
        (passedState.after (mergePair none (· + 8))) ∧
      (mergePair none (· + 8)).answer passedState.db = .error .pendingRollback ∧
      ¬ (mergeRuns.restrict fun s r _ => CodeFound s r).Run ⟨pairDb, []⟩
        [mergePair (some "MG-0002") (· + 5), mergePair none (· + 8)]
        (passedState.after (mergePair none (· + 8))) := by
  have hanswer : (mergePair none (· + 8)).answer passedState.db = .error .pendingRollback := by
    decide +kernel
  refine ⟨.cons ⟨freshGroupIds_pairDb, rfl⟩ (.single ⟨freshGroupIds_passedState, rfl⟩), hanswer,
    fun hrun => ?_⟩
  cases hrun with
  | cons hfirst hrest =>
    cases hrest with
    | cons hsecond _ =>
      obtain ⟨⟨-, rfl⟩, -⟩ := hfirst
      obtain ⟨dict, hok, -⟩ := hsecond.2 rfl ready_passedState (by decide +kernel)
      cases hanswer.symm.trans hok

end Oms

end OmsWmsTms
