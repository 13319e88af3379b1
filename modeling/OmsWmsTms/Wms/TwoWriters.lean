import OmsWmsTms.Txn.OneCommit
import OmsWmsTms.Wms.AllOrNothing
import OmsWmsTms.Wms.CountSpares
import Mathlib.Data.Fintype.Option

/-!
# An adjustment beside another writer

One call of `adjust_inventory` runs concurrently with one call of a writer that does not check the
version of the rows that it changes.

* `PlainCall` : the other call.
* `Serial` : the two calls one after the other, each running alone.
* `Careful` : the condition on a commit; `Phase` : how far a careful run has come.
* `serial_of_careful` : what the two have written in such a run, they write in one of the two
  orders.
* `Recounted` : what a count that runs alone makes of a row.
* `shelfDb_not_serial` : a count that is lost.
-/

namespace OmsWmsTms

namespace Wms

open Txn (Prog Keeps Triple)

/-- A call of a writer that does not check the version, with the clock. -/
inductive PlainCall
  | stockIn (warehouseId : IdArg) (data : StockInData)
  | stockOut (warehouseId : IdArg) (data : StockOutData)
  | adjustStockCount (now : ℤ) (data : CountData)
  | pickFromStock (now : ℤ) (warehouseId : IdArg) (sku : String) (quantity : ℤ)

namespace PlainCall

/-- The program of a call, without its answer. -/
def prog (rt : Runtime) : PlainCall → WmsProg Unit
  | stockIn warehouseId data => (Wms.stockIn rt warehouseId data).map fun _ => ()
  | stockOut warehouseId data => (Wms.stockOut warehouseId data).map fun _ => ()
  | adjustStockCount now data => (Wms.adjustStockCount now data).map fun _ => ()
  | pickFromStock now warehouseId sku quantity =>
    (Wms.pickFromStock rt now warehouseId sku quantity).map fun _ => ()

/-- The call advances the version of the rows that it changes. -/
def Advancing : PlainCall → Prop
  | pickFromStock _ _ _ _ => True
  | _ => False

/-- The call runs alone and returns, with some identifiers. -/
def RunsAlone (rt : Runtime) (call : PlainCall) (d d' : WmsDb) : Prop :=
  ∃ ids, (call.prog rt).run ids d = (.ok (), d')

theorem oneCommit_prog (rt : Runtime) (call : PlainCall) :
    Txn.OneCommit (Txn.WriteKeeps Steady) (call.prog rt) := by
  cases call with
  | stockIn warehouseId data =>
    exact (Txn.OneCommit.of_writes (inserts_stockIn rt warehouseId data).steady).map _
  | stockOut warehouseId data =>
    exact (Txn.OneCommit.of_writes (inserts_stockOut warehouseId data).steady).map _
  | adjustStockCount now data => exact (oneCommit_adjustStockCount now data).map _
  | pickFromStock now warehouseId sku quantity =>
    exact (oneCommit_pickFromStock rt now warehouseId sku quantity).map _

/-- A call leaves the stock in its place. -/
theorem writers (rt : Runtime) (call : PlainCall) (d : WmsDb) :
    Writers Steady d fun _ : Unit => call.prog rt :=
  fun _ => Txn.Safe.keeps (oneCommit_prog rt call).writes (fun _ _ h => h) (fun _ _ _ => trivial)
    (.refl d)

theorem pickKeeps_advances (now : ℤ) (d : WmsDb) : PickKeeps now (Keeps Advances d) where
  pick w pick quantity version hw hread _ _ hversion := hw.trans (Txn.keeps_set fun row hrow => by
    rw [hread] at hrow
    cases hrow
    exact .inventory ⟨rfl, rfl, rfl⟩ (hversion ▸ lt_add_one _))
  log w key row hw hfree _ := hw.trans (Txn.keeps_set fun r hr => by
    rw [hfree] at hr
    cases hr)

/-- **A pick advances the version of the rows that it changes.** -/
theorem RunsAlone.advances {rt : Runtime} {call : PlainCall} {d d' : WmsDb}
    (h : call.RunsAlone rt d d') (hcall : call.Advancing) : Keeps Advances d d' := by
  obtain ⟨ids, hrun⟩ := h
  cases call with
  | pickFromStock now warehouseId sku quantity =>
    have hpick : Triple (Keeps Advances d) (fun s => Keeps Advances d s.working)
        ((pickFromStock now warehouseId sku quantity).prog rt) fun _ _ => True :=
      (triple_pickFromStock (pickKeeps_advances now d) rt warehouseId sku quantity).bind
        fun _ => .ret fun _ _ => trivial
    have hkeeps : Keeps Advances d (((pickFromStock now warehouseId sku quantity).prog rt).run
        ids d).2 := hpick.run (.refl d) (.refl d)
    rwa [hrun] at hkeeps
  | _ => exact hcall.elim

end PlainCall

/-! ### Serial orders -/

/-- A call of `adjust_inventory` runs alone and returns, at some time and with some identifiers. -/
def AdjustsAlone (rt : Runtime) (data : AdjustData) (d d' : WmsDb) : Prop :=
  ∃ now ids answer, (adjustInventory rt now data).run ids d = (.ok answer, d')

/-- **One call after the other**, each running alone. -/
inductive Serial (rt : Runtime) (data : AdjustData) (other : PlainCall) (d d' : WmsDb) : Prop
  | adjustFirst {mid : WmsDb} :
      AdjustsAlone rt data d mid → other.RunsAlone rt mid d' → Serial rt data other d d'
  | adjustLast {mid : WmsDb} :
      other.RunsAlone rt d mid → AdjustsAlone rt data mid d' → Serial rt data other d d'

/-- A call that commits on a valid read of the stock has run alone. -/
theorem AdjustCommit.adjustsAlone {rt : Runtime} {now : ℕ → ℤ} {data : AdjustData}
    {l : Txn.Local WmsKey WmsRow} {d : WmsDb} (c : AdjustCommit rt now data l d)
    (hvalid : c.observation.Valid d) : AdjustsAlone rt data d (Txn.overlay d l.pending) := by
  obtain ⟨ids, huses⟩ := (c.plan hvalid).exists_uses
  have hrun : (adjustInventory rt (fun _ => now c.attempt) data).run ids d = _ :=
    (c.plan hvalid).run rfl huses
  rw [c.writes_plan hvalid] at hrun
  exact ⟨_, ids, _, hrun⟩

/-- **What an adjustment that runs alone makes of a row**: it changes it by its quantity, or leaves
it alone. -/
theorem AdjustsAlone.inventory {rt : Runtime} {data : AdjustData} {d d' : WmsDb} {id : Uuid}
    {inv : Inventory} (h : AdjustsAlone rt data d d')
    (hinv : d.get? (.inventory id) = some (.inventory inv)) :
    Keeps Advances d d' ∧ ∃ inv', d'.get? (.inventory id) = some (.inventory inv') ∧
      (inv'.quantity = inv.quantity ∨
        Numeric.ofRat? (inv.quantity + data.quantity) = some inv'.quantity) := by
  obtain ⟨now, ids, answer, hrun⟩ := h
  have halone := run_alone rt now data d ids
  rw [hrun] at halone
  rcases halone with hd | ⟨-, k, plan, hd⟩
  · cases hd
    exact ⟨.refl _, inv, hinv, .inl rfl⟩
  · have hget := plan.commit.get?_inventory id
    cases hd
    refine ⟨plan.commit.keeps_advances, ?_⟩
    by_cases hkey : plan.key = .inventory id
    · refine ⟨plan.stock, hget.trans (if_pos hkey), .inr ?_⟩
      rcases plan.write.inv with ⟨read, cur, values, hchoice, hvalues, hcur, hversion, hstock⟩ |
        ⟨id', -, -, hfree, -⟩
      · obtain rfl : cur = read :=
          plan.readCurrent read cur (mem_of_choiceOf_eq_update hchoice) hcur hversion
        rw [hkey, hinv] at hcur
        cases hcur
        rw [hstock]
        exact (stockValues_spec hvalues).1
      · rw [hkey, hinv] at hfree
        cases hfree
    · exact ⟨inv, (hget.trans (if_neg hkey)).trans hinv, .inl rfl⟩

/-! ### What a count leaves -/

/-- What a count makes of a row: it has the quantity that was counted, or the one that was there
when the two agree. -/
def Recounted (key : WmsKey) (inv : Inventory) (actual : ℚ) (d : WmsDb) : Prop :=
  ∃ inv', d.get? key = some (.inventory inv') ∧ (Numeric.ofRat? actual = some inv'.quantity ∨
    inv'.quantity = inv.quantity ∧ |actual - inv.quantity.toRat| < tolerance)

section Recount

variable {I : WmsDb → Prop} {key : WmsKey} {inv : Inventory} {sku : Oms.Sku} {code : String}
  {actual : QuantityArg} {item : CountItem} {now : ℤ} {whId : Option Uuid} {locId : Uuid}

theorem triple_applyCount_change (now : ℤ) (whId : Option Uuid) (locId skuId : Uuid) (code : String)
    (actual : QuantityArg) (seen : SetQuantities) (key : WmsKey) (inv : Inventory) (diff : ℚ) :
    Triple I (fun s => s.working.get? key = some (.inventory inv))
      (applyCount now whId locId skuId code actual seen (.change key diff))
      fun _ s => Recounted key inv actual.value s.working := by
  refine Triple.bind (Inserts.triple (Txn.Writes.of_reads (reads_logWarehouse whId))) fun id => ?_
  refine Triple.bind (Triple.ofExcept (Q := fun quantity s =>
    Numeric.ofRat? actual.value = some quantity ∧ s.working.get? key = some (.inventory inv))
    fun quantity hquantity s hs => ⟨storeNumeric_eq_ok_iff.1 hquantity, hs⟩) fun quantity => ?_
  refine Triple.assume fun hquantity => Triple.bind (Q := fun _ s =>
    s.working.get? key = some (.inventory (setCount now quantity inv))) ?_ fun _ => ?_
  · refine Triple.updateOr fun s row hs hrow => ?_
    rw [hs] at hrow
    cases hrow
    rw [Dict.get?_set, if_pos rfl]
    rfl
  · refine Triple.bind (inserts_logCount id code diff).triple fun _ => .ret fun s hs => ?_
    exact ⟨_, hs, .inl hquantity⟩

/-- **A count** of a row that is read. -/
theorem triple_countItem_row (hactual : item.actual = some actual) (hcode : item.skuStr = some code)
    (hcond : countCond whId locId sku.id inv = true) :
    Triple I (fun s => s.working.get? (.sku code) = some (.sku sku) ∧
      s.working.get? key = some (.inventory inv)) (countItem now whId locId [] item)
      fun _ s => Recounted key inv actual.value s.working := by
  unfold countItem
  rw [hactual, hcode]
  refine Triple.bind (Q := fun answer s => answer = (sku, false) ∧
    s.working.get? key = some (.inventory inv)) (fun s hI hs => ?_) fun (sku', created) => ?_
  · rw [exec_getOrCreateSku_found hs.1]
    exact ⟨hI, fun answer hanswer => ⟨(Except.ok.inj hanswer).symm, hs.2⟩⟩
  refine Triple.assume fun hanswer => ?_
  cases hanswer
  refine Triple.bind (triple_selectInventory (Q := fun rows s => (key, inv) ∈ rows ∧
    s.working.get? key = some (.inventory inv)) fun s hs => ⟨?_, hs⟩) fun rows => ?_
  · exact mem_stockOf.2 (Txn.mem_select.2 ⟨hs, hcond⟩)
  refine Triple.assume fun hmem => ?_
  match rows with
  | [] => cases hmem
  | [item] =>
    obtain rfl := List.mem_singleton.1 hmem
    unfold chooseCount
    dsimp only
    split_ifs with hagree
    · exact .ret fun s hs => ⟨inv, hs, .inr ⟨rfl, hagree⟩⟩
    · exact triple_applyCount_change _ _ _ _ _ _ _ _ _ _
    · exact .throw
    · exact triple_applyCount_change _ _ _ _ _ _ _ _ _ _
  | _ :: _ :: _ => exact .throw

/-- **A call that counts one row.** -/
theorem triple_adjustStockCount_row {data : CountData} {d : WmsDb}
    (hitems : data.countResults = [item])
    (hactual : item.actual = some actual) (hcode : item.skuStr = some code)
    (hsku : d.get? (.sku code) = some (.sku sku)) (hinv : d.get? key = some (.inventory inv))
    (hcond : ∀ whId locId, CountWarehouse data d whId → CountLocation data locId →
      countCond whId locId sku.id inv = true) :
    Triple (fun _ => True) (fun s => s.working = d) (adjustStockCount now data)
      fun _ s => Recounted key inv actual.value s.committed := by
  refine (triple_countWarehouse fun _ hs => hs).bind fun whId => Triple.assume fun hwh => ?_
  refine triple_countLocation.bind fun locId => Triple.assume fun hloc => ?_
  refine Triple.bind (Q := fun _ s => s.working = d) (.writes (J := fun w => w = d)
    (reads_checkLocation locId) fun _ _ _ _ hrow => hrow.elim) fun _ => ?_
  rw [hitems, if_neg (List.cons_ne_nil _ _)]
  refine Triple.bind (Q := fun _ s => Recounted key inv actual.value s.working) ?_ fun _ => ?_
  · have hcount : Triple (fun _ => True) (fun s => s.working = d) (countItem now whId locId [] item)
        fun _ s => Recounted key inv actual.value s.working :=
      (triple_countItem_row hactual hcode (hcond whId locId hwh hloc)).conseq
        (fun s hs => hs ▸ ⟨hsku, hinv⟩) fun _ _ hs => hs
    exact hcount.bind fun _ => .ret fun _ hs => hs
  · exact Triple.bind (Q := fun _ s => Recounted key inv actual.value s.committed)
      (.commitOr fun s hs => ⟨trivial, hs⟩) fun _ => .ret fun _ hs => hs

/-- What a count that runs alone makes of a row. -/
theorem recounted_of_runsAlone {rt : Runtime} {data : CountData} {d d' : WmsDb}
    (h : (PlainCall.adjustStockCount now data).RunsAlone rt d d')
    (hitems : data.countResults = [item])
    (hactual : item.actual = some actual) (hcode : item.skuStr = some code)
    (hsku : d.get? (.sku code) = some (.sku sku)) (hinv : d.get? key = some (.inventory inv))
    (hcond : ∀ whId locId, CountWarehouse data d whId → CountLocation data locId →
      countCond whId locId sku.id inv = true) : Recounted key inv actual.value d' := by
  obtain ⟨ids, hrun⟩ := h
  have hcount : Triple (fun _ => True) (fun s => s.working = d) (adjustStockCount now data)
      fun _ s => Recounted key inv actual.value s.committed :=
    triple_adjustStockCount_row hitems hactual hcode hsku hinv hcond
  have hmap : Triple (fun _ => True) (fun s => s.working = d)
      ((PlainCall.adjustStockCount now data).prog rt)
      fun _ s => Recounted key inv actual.value s.committed := hcount.map fun _ _ hs => hs
  obtain ⟨s, hs, hrecounted⟩ := hmap.run_ok trivial rfl hrun
  exact hs ▸ hrecounted

end Recount

/-! ### Careful runs -/

/-- A state of the two calls: of the adjustment, `none`, and of the other call. -/
abbrev PairState := AmongState Unit Unit

/-- The two calls at their start. -/
def pairStart (rt : Runtime) (d : WmsDb) (call : AdjustCall) (other : PlainCall) : PairState :=
  .start d (among rt call (fun _ => ()) fun _ => other.prog rt)

/-- Every query of the open transaction of `p` would be answered now as it was. -/
def ReadsValid (s : PairState) (p : Option Unit) : Prop :=
  ∀ o ∈ (s.procs p).loc.observed, o.Valid s.db

/-- **A careful commit**: when the other call has committed before, the open transaction has read
nothing that has changed since; an adjustment may have, when the other call advances the
versions. -/
def Careful (other : PlainCall) (s : PairState) : Txn.Label (Option Unit) → Prop
  | .run p _ => ∀ next q, (s.procs p).prog = .commit next → q ≠ p → (s.procs q).loc.commits ≠ [] →
      ReadsValid s p ∨ p = none ∧ other.Advancing
  | .fail _ => True

/-- The call has committed a change of the row. -/
def Wrote (s : PairState) (p : Option Unit) (key : WmsKey) : Prop :=
  ∃ c ∈ (s.procs p).loc.commits, (Txn.overlay c.1 c.2).get? key ≠ c.1.get? key

/-- How far a careful run has come. -/
inductive Phase (rt : Runtime) (call : AdjustCall) (other : PlainCall) (d : WmsDb) (s : PairState) :
    Prop
  /-- No call has committed. -/
  | start : (s.procs none).loc.commits = [] → (s.procs (some ())).loc.commits = [] → s.db = d →
      (∀ p, ReadsValid s p) → Phase rt call other d s
  /-- The adjustment has committed. -/
  | adjusted : (s.procs none).loc.commits ≠ [] → (s.procs (some ())).loc.commits = [] →
      AdjustsAlone rt call.data d s.db → Phase rt call other d s
  /-- The other call has committed. -/
  | written {w : List (WmsKey × WmsRow)} : (s.procs none).loc.commits = [] →
      (s.procs (some ())).loc.commits = [(d, w)] → s.db = Txn.overlay d w →
      other.RunsAlone rt d s.db →
      (∀ o ∈ (s.procs none).loc.observed, o.Valid d ∨ o.Valid s.db) → Phase rt call other d s
  /-- Both calls have committed. -/
  | both : (s.procs none).loc.commits ≠ [] → (s.procs (some ())).loc.commits ≠ [] →
      (∀ id, Wrote s none (.inventory id) → Wrote s (some ()) (.inventory id) →
        Serial rt call.data other d s.db) → Phase rt call other d s

section Run

variable {rt : Runtime} {call : AdjustCall} {other : PlainCall} {d : WmsDb} {s s' : PairState}
  {label : Txn.Label (Option Unit)} {next : Bool → WmsProg Unit}

/-- What holds of the two calls in every state of a run. -/
structure PairInv (rt : Runtime) (call : AdjustCall) (other : PlainCall) (s : PairState) :
    Prop where
  among : Among rt call Steady s
  coherent : ∀ p, Txn.Coherent (s.procs p)
  stage : Txn.Stage (Txn.WriteKeeps Steady) (other.prog rt) (s.procs (some ()))

theorem pairInv_start (rt : Runtime) (d : WmsDb) (call : AdjustCall) (other : PlainCall) :
    PairInv rt call other (pairStart rt d call other) where
  among := among_start (other.writers rt d)
  coherent _ := .of_begin rfl rfl
  stage := .before (other.oneCommit_prog rt) rfl

theorem pairInv_step (hs : PairInv rt call other s) (h : Txn.system.step s label s') :
    PairInv rt call other s' where
  among := among_step (fun _ _ h => h) hs.among h
  coherent := Txn.coherent_step hs.coherent h
  stage := Txn.stage_step hs.stage h

/-- An adjustment that commits on valid reads runs alone. -/
theorem PairInv.adjustsAlone (hs : PairInv rt call other s)
    (hprog : (s.procs none).prog = .commit next) (hvalid : ReadsValid s none) :
    AdjustsAlone rt call.data s.db (Txn.overlay s.db (s.procs none).loc.pending) := by
  obtain ⟨-, -, ⟨c⟩⟩ := hs.among.commit hprog
  exact c.adjustsAlone (hvalid _ c.read)

/-- Another call that commits on valid reads runs alone. -/
theorem PairInv.runsAlone (hs : PairInv rt call other s)
    (hprog : (s.procs (some ())).prog = .commit next) (hvalid : ReadsValid s (some ())) :
    other.RunsAlone rt s.db (Txn.overlay s.db (s.procs (some ())).loc.pending) := by
  obtain ⟨ids, answer, hrun⟩ := hs.stage.run (hs.coherent _) hprog hvalid
  exact ⟨ids, hrun⟩

/-- **An adjustment of a row whose version has advanced** has read it afterwards. -/
theorem PairInv.adjustsAlone_of_advances (hs : PairInv rt call other s)
    (hprog : (s.procs none).prog = .commit next) (hkeeps : Keeps Advances d s.db)
    (hreads : ∀ o ∈ (s.procs none).loc.observed, o.Valid d ∨ o.Valid s.db) {id : Uuid}
    (hadjust : (Txn.overlay s.db (s.procs none).loc.pending).get? (.inventory id) ≠
      s.db.get? (.inventory id))
    (hother : s.db.get? (.inventory id) ≠ d.get? (.inventory id)) :
    AdjustsAlone rt call.data s.db (Txn.overlay s.db (s.procs none).loc.pending) := by
  obtain ⟨-, -, ⟨c⟩⟩ := hs.among.commit hprog
  refine c.adjustsAlone ((hreads c.observation c.read).resolve_left fun hvalid => ?_)
  have hkey : c.key = .inventory id := by
    by_contra hne
    exact hadjust (by rw [c.get?_inventory, if_neg hne])
  rw [← hkey] at hother
  rcases c.write.inv with ⟨inv, cur, values, hchoice, -, hcur, hversion, -⟩ | ⟨id', -, -, hfree, -⟩
  · -- the version of the row that was read is that of the row before the other write
    have hread : (c.key, .inventory inv) ∈ c.observation.rows :=
      mem_of_choiceOf_eq_update hchoice
    rw [← hvalid] at hread
    have hget := get?_of_overlay_skuWrites (Txn.mem_select.1 hread).1
    obtain ⟨row', hrow', hadvances⟩ := hkeeps c.key _ hget
    obtain rfl : WmsRow.inventory cur = row' := Option.some.inj (hcur.symm.trans hrow')
    cases hadvances with
    | refl => exact hother (hcur.trans hget.symm)
    | inventory _ hlt => exact hlt.ne' hversion
  · cases hget : d.get? c.key with
    | none => exact hother (hfree.trans hget.symm)
    | some row =>
      obtain ⟨row', hrow', -⟩ := hkeeps c.key row hget
      rw [hfree] at hrow'
      cases hrow'

/-- **A careful step.** -/
theorem phase_step (hs : PairInv rt call other s) (hphase : Phase rt call other d s)
    (h : Txn.system.step s label s') (hcareful : Careful other s label) :
    Phase rt call other d s' := by
  rcases Txn.system_commits h with ⟨hdb, hcommits⟩ | ⟨p, next, n, hprog, rfl, rfl⟩
  · -- no commit: the phase stays the same
    have hwrote {p : Option Unit} {key : WmsKey} (hw : Wrote s' p key) : Wrote s p key := by
      obtain ⟨c, hc, hne⟩ := hw
      exact ⟨c, hcommits p ▸ hc, hne⟩
    cases hphase with
    | start hnone hsome hd hreads =>
      refine .start ((hcommits _).trans hnone) ((hcommits _).trans hsome) (hdb.trans hd)
        fun p o ho => ?_
      rw [hdb]
      exact (Txn.valid_or_observed h ho).elim (hreads p o) id
    | adjusted hnone hsome halone =>
      refine .adjusted ?_ ((hcommits _).trans hsome) ?_
      · rwa [hcommits]
      · rwa [hdb]
    | written hnone hsome hd halone hreads =>
      refine .written ((hcommits _).trans hnone) ((hcommits _).trans hsome) (hdb.trans hd) ?_
        fun o ho => ?_
      · rwa [hdb]
      · rw [hdb]
        exact (Txn.valid_or_observed h ho).elim (hreads o) .inr
    | both hnone hsome hserial =>
      refine .both ?_ ?_ fun id hadjust hother => ?_
      · rwa [hcommits]
      · rwa [hcommits]
      · rw [hdb]
        exact hserial id (hwrote hadjust) (hwrote hother)
  · cases p with
    | none =>
      -- the adjustment commits, as the first or as the last
      have hnil := (hs.among.commit hprog).1
      cases hphase with
      | start _ hsome hd hreads =>
        refine .adjusted ?_ ?_ ?_
        · simp [Txn.State.update, Txn.Local.commit]
        · simpa [Txn.State.update] using hsome
        · exact hd ▸ hs.adjustsAlone hprog (hreads none)
      | adjusted hnone => exact absurd hnil hnone
      | both hnone => exact absurd hnil hnone
      | @written w _ hsome hd halone hreads =>
        refine .both ?_ ?_ fun id hadjust hother => ?_
        · simp [Txn.State.update, Txn.Local.commit]
        · simp [Txn.State.update, hsome]
        · refine .adjustLast halone ?_
          rcases hcareful next (some ()) hprog (by simp) (by simp [hsome]) with hvalid | ⟨-, hcall⟩
          · exact hs.adjustsAlone hprog hvalid
          · have hchanged : s.db.get? (.inventory id) ≠ d.get? (.inventory id) := by
              simpa [Wrote, Txn.State.update, hsome, ← hd] using hother
            refine hs.adjustsAlone_of_advances hprog (halone.advances hcall) hreads ?_ hchanged
            simpa [Wrote, Txn.State.update, Txn.Local.commit, hnil] using hadjust
    | some q =>
      -- the other call commits
      have hnil := hs.stage.commits hprog
      cases hphase with
      | start hnone _ hd hreads =>
        refine .written (w := (s.procs (some ())).loc.pending) ?_ ?_ ?_ ?_ fun o ho => .inl ?_
        · simpa [Txn.State.update] using hnone
        · simp [Txn.State.update, Txn.Local.commit, hnil, hd]
        · rw [← hd]
          rfl
        · exact hd ▸ hs.runsAlone hprog (hreads _)
        · exact hd ▸ hreads none o (by simpa [Txn.State.update] using ho)
      | adjusted hnone _ halone =>
        refine .both ?_ ?_ fun id _ _ => .adjustFirst halone ?_
        · simpa [Txn.State.update] using hnone
        · simp [Txn.State.update, Txn.Local.commit]
        · rcases hcareful next none hprog (by simp) hnone with hvalid | ⟨hp, -⟩
          · exact hs.runsAlone hprog hvalid
          · cases hp
      | written _ hsome =>
        rw [hnil] at hsome
        cases hsome
      | both _ hsome => exact absurd hnil hsome

/-- **What the two calls have written, they write one after the other.**  In every run whose commits
are careful, a row of the stock that both have changed is as one of the two serial orders leaves
it. -/
theorem serial_of_careful (rt : Runtime) (d : WmsDb) (call : AdjustCall) (other : PlainCall)
    (labels : List (Txn.Label (Option Unit))) (s : PairState) (id : Uuid)
    (h : (Txn.system.guard (Careful other)).Run (pairStart rt d call other) labels s)
    (hadjust : Wrote s none (.inventory id)) (hother : Wrote s (some ()) (.inventory id)) :
    ∃ d', Serial rt call.data other d d' ∧
      (inventoryAt s.db (.inventory id)).map Inventory.quantity =
        (inventoryAt d' (.inventory id)).map Inventory.quantity := by
  have hinit : Phase rt call other d (pairStart rt d call other) :=
    .start rfl rfl rfl fun _ _ ho => nomatch ho
  have hphase := (h.invariant (I := fun s => PairInv rt call other s ∧ Phase rt call other d s)
    ⟨pairInv_start rt d call other, hinit⟩ fun _ _ _ hs hstep =>
      ⟨pairInv_step hs.1 hstep.1, phase_step hs.1 hs.2 hstep.1 hstep.2⟩).2
  have ⟨c, hc, _⟩ := hadjust
  have ⟨c', hc', _⟩ := hother
  cases hphase with
  | start hnone =>
    rw [hnone] at hc
    cases hc
  | adjusted _ hsome =>
    rw [hsome] at hc'
    cases hc'
  | written hnone =>
    rw [hnone] at hc
    cases hc
  | both _ _ hserial => exact ⟨s.db, hserial id hadjust hother, rfl⟩

end Run

/-! ### Two calls on the shelf -/

instance (s : PairState) (p : Option Unit) (key : WmsKey) : Decidable (Wrote s p key) :=
  inferInstanceAs (Decidable (∃ c ∈ (s.procs p).loc.commits,
    (Txn.overlay c.1 c.2).get? key ≠ c.1.get? key))

/-- Three pieces are picked from the shelf. -/
def pickShelf : PlainCall := .pickFromStock 0 ⟨"1", some 1⟩ "A" 3

/-- A statement of a schedule in which the pick commits first. -/
def pickFirst (s : PairState) (step : Option Unit × ℕ) : Option PairState :=
  if s.Unblocked step.1 ∧ (step.1 = none ∨ (s.procs none).loc.commits = []) then
    some (s.update step.1 ((s.procs step.1).next s.db step.2))
  else none

/-- The adjustment reads the shelf; the pick runs to its end, and the adjustment reads it again. -/
def pickBetween : List (Option Unit × ℕ) :=
  List.replicate 4 (none, 0) ++ List.replicate 6 (some (), 7) ++ List.replicate 9 (none, 8)

/-- Five pieces are put on the shelf while three are picked. -/
theorem shelfDb_serial : ∃ labels s,
    (Txn.system.guard (Careful pickShelf)).Run
      (pairStart ⟨fun _ _ => true, true⟩ shelfDb (adjustShelf 5) pickShelf) labels s ∧
    (inventoryAt s.db (.inventory 4)).map (fun inv => inv.quantity.units) = some 120000 ∧
    ∃ d', Serial ⟨fun _ _ => true, true⟩ (adjustShelf 5).data pickShelf shelfDb d' ∧
      (inventoryAt s.db (.inventory 4)).map Inventory.quantity =
        (inventoryAt d' (.inventory 4)).map Inventory.quantity := by
  have hschedule : ((Lts.runNext pickFirst (pairStart ⟨fun _ _ => true, true⟩ shelfDb
      (adjustShelf 5) pickShelf) pickBetween).map fun s =>
        ((inventoryAt s.db (.inventory 4)).map (fun inv => inv.quantity.units),
          decide (Wrote s none (.inventory 4)), decide (Wrote s (some ()) (.inventory 4)))) =
      some (some 120000, true, true) := by decide +kernel
  obtain ⟨s, hrun, hs⟩ := Lts.exists_run_of_map hschedule
  simp only [Prod.mk.injEq, decide_eq_true_eq] at hs
  have hcareful : (Txn.system.guard (Careful pickShelf)).Run (pairStart ⟨fun _ _ => true, true⟩
      shelfDb (adjustShelf 5) pickShelf) (pickBetween.map fun step => .run step.1 step.2) s := by
    refine hrun.map fun s step s' hstep => ?_
    unfold Lts.ofNext pickFirst at hstep
    obtain ⟨⟨hfree, hfirst⟩, hs'⟩ := Option.ite_none_right_eq_some.1 hstep
    cases hs'
    refine ⟨⟨hfree, rfl⟩, fun next q _ hq hcommits => .inr ⟨?_, trivial⟩⟩
    rcases hfirst with hnone | hnil
    · exact hnone
    · cases q with
      | none => exact absurd hnil hcommits
      | some q =>
        by_contra hp
        obtain ⟨q', hq'⟩ := Option.ne_none_iff_exists'.1 hp
        exact hq (by rw [hq'])
  exact ⟨_, s, hcareful, hs.1, serial_of_careful _ shelfDb (adjustShelf 5) pickShelf _ s 4 hcareful
    hs.2.1 hs.2.2⟩

/-- Twelve pieces of the SKU are counted. -/
def twelvePieces : CountItem :=
  { sku := some (some "A"), actualQty := some ⟨12, "12", true⟩ }

/-- The payload of a count of the shelf. -/
def countData : CountData where
  warehouseId := some ⟨"1", some 1⟩
  locationId := some ⟨"2", some 2⟩
  countResults := [twelvePieces]

/-- The count of the shelf. -/
def countTwelve : PlainCall := .adjustStockCount 0 countData

theorem countCond_of_samePlace {inv : Inventory} {whId : Option Uuid} {locId : Uuid} {d : WmsDb}
    (hplace : SamePlace shelf inv) (hwh : CountWarehouse countData d whId)
    (hloc : CountLocation countData locId) : countCond whId locId 3 inv = true := by
  obtain ⟨id, hid, rfl⟩ := hwh
  obtain ⟨arg, harg, hid'⟩ := hloc
  cases hid
  cases harg
  cases hid'
  obtain ⟨hwh, hloc, hsku⟩ := hplace
  simp [countCond, hwh, hloc, hsku, shelf]

/-- **Twelve pieces are there after a count** of a row with ten pieces or with fifteen. -/
theorem twelve_of_runsAlone {rt : Runtime} {d d' : WmsDb} {inv : Inventory}
    (h : countTwelve.RunsAlone rt d d') (hsku : d.get? (.sku "A") = some (.sku ⟨3, "A", "A"⟩))
    (hget : d.get? (.inventory 4) = some (.inventory inv)) (hplace : SamePlace shelf inv)
    (hinv : inv.quantity = ⟨100000, by decide⟩ ∨ inv.quantity = ⟨150000, by decide⟩) :
    ∃ inv', d'.get? (.inventory 4) = some (.inventory inv') ∧
      inv'.quantity = ⟨120000, by decide⟩ := by
  have hactual : twelvePieces.actual = some ⟨12, "12", true⟩ := rfl
  have hcode : twelvePieces.skuStr = some "A" := rfl
  obtain ⟨inv', hget', hcounted | ⟨-, hagree⟩⟩ := recounted_of_runsAlone h rfl hactual hcode hsku
    hget fun _ _ => countCond_of_samePlace hplace
  · have htwelve : Numeric.ofRat? (12 : ℚ) = some (⟨120000, by decide⟩ : Numeric 20 4) := by
      decide +kernel
    exact ⟨inv', hget', Option.some.inj (hcounted.symm.trans htwelve)⟩
  · rcases hinv with hq | hq
    · rw [hq] at hagree
      exact absurd hagree (by decide +kernel)
    · rw [hq] at hagree
      exact absurd hagree (by decide +kernel)

/-- **One call after the other**: twelve pieces or seventeen are on the shelf. -/
theorem quantity_of_serial {rt : Runtime} {d' : WmsDb}
    (h : Serial rt (adjustShelf 5).data countTwelve shelfDb d') :
    ∃ inv, d'.get? (.inventory 4) = some (.inventory inv) ∧
      (inv.quantity = ⟨120000, by decide⟩ ∨ inv.quantity = ⟨170000, by decide⟩) := by
  have hshelf : shelfDb.get? (.inventory 4) = some (.inventory shelf) := by decide +kernel
  have hsku : shelfDb.get? (.sku "A") = some (.sku ⟨3, "A", "A"⟩) := by decide +kernel
  cases h with
  | adjustFirst hadjust hcount =>
    obtain ⟨hkeeps, inv, hinv, hinvQuantity⟩ := hadjust.inventory hshelf
    have hsteady := hkeeps.mono fun _ _ => Advances.steady
    obtain ⟨inv', hinv', hplace⟩ := get?_inventory_of_steady hsteady hshelf
    cases hinv.symm.trans hinv'
    have hfifteen : Numeric.ofRat? (shelf.quantity + (adjustShelf 5).data.quantity) =
        some (⟨150000, by decide⟩ : Numeric 20 4) := by decide +kernel
    rw [hfifteen] at hinvQuantity
    obtain ⟨inv', hget, htwelve⟩ := twelve_of_runsAlone hcount (get?_sku_of_steady hsteady hsku)
      hinv hplace (hinvQuantity.imp_right fun h => (Option.some.inj h).symm)
    exact ⟨inv', hget, .inl htwelve⟩
  | adjustLast hcount hadjust =>
    obtain ⟨inv, hget, htwelve⟩ := twelve_of_runsAlone hcount hsku hshelf ⟨rfl, rfl, rfl⟩ (.inl rfl)
    obtain ⟨-, inv', hinv', hinvQuantity⟩ := hadjust.inventory hget
    have hseventeen : Numeric.ofRat? ((⟨120000, by decide⟩ : Numeric 20 4) +
        (adjustShelf 5).data.quantity) = some (⟨170000, by decide⟩ : Numeric 20 4) := by
      decide +kernel
    rw [htwelve, hseventeen] at hinvQuantity
    exact ⟨inv', hinv', hinvQuantity.imp_right fun h => (Option.some.inj h).symm⟩

/-- An adjustment reads the shelf, a count of twelve pieces commits, and the adjustment writes what
it has read and five more. -/
def countBetween : List (Option Unit × ℕ) :=
  List.replicate 4 (none, 0) ++ List.replicate 8 (some (), 7) ++ List.replicate 6 (none, 8)

/-- **The count is lost**: fifteen pieces are on the shelf, and not twelve or seventeen. -/
theorem shelfDb_not_serial : ∃ labels s,
    Txn.system.Run (pairStart ⟨fun _ _ => true, true⟩ shelfDb (adjustShelf 5) countTwelve)
      labels s ∧
    Wrote s none (.inventory 4) ∧ Wrote s (some ()) (.inventory 4) ∧
    ∀ d', Serial ⟨fun _ _ => true, true⟩ (adjustShelf 5).data countTwelve shelfDb d' →
      (inventoryAt s.db (.inventory 4)).map Inventory.quantity ≠
        (inventoryAt d' (.inventory 4)).map Inventory.quantity := by
  have hschedule : ((pairStart ⟨fun _ _ => true, true⟩ shelfDb (adjustShelf 5)
      countTwelve).schedule countBetween).map (fun s =>
        ((inventoryAt s.db (.inventory 4)).map Inventory.quantity,
          decide (Wrote s none (.inventory 4)), decide (Wrote s (some ()) (.inventory 4)))) =
      some (some ⟨150000, by decide⟩, true, true) := by decide +kernel
  obtain ⟨s, hs, hstock⟩ := Option.map_eq_some_iff.1 hschedule
  simp only [Prod.mk.injEq, decide_eq_true_eq] at hstock
  obtain ⟨hquantity, hadjust, hother⟩ := hstock
  refine ⟨_, s, Txn.State.run_schedule hs, hadjust, hother, fun d' hserial => ?_⟩
  obtain ⟨inv, hget, hinv⟩ := quantity_of_serial hserial
  rw [hquantity, inventoryAt_eq_some_iff.2 hget, Option.map_some]
  intro heq
  rcases hinv with hinv | hinv
  · exact absurd (Option.some.inj (heq.trans (congrArg some hinv))) (by decide)
  · exact absurd (Option.some.inj (heq.trans (congrArg some hinv))) (by decide)

end Wms

end OmsWmsTms
