import OmsWmsTms.Txn.Alone
import OmsWmsTms.Wms.AdjustAmong
import OmsWmsTms.Wms.Fulfils

/-!
# All or nothing

When a call of `adjust_inventory` does all that was asked for or nothing at all.

* `Adjusted` : all of it: the stock and the movements change by the quantity of the call.
* `Accounted` : what a call among others has committed when it has ended; `accounted_among`.
* `AllOrNothing` : what is asked of a call that runs alone.
* `Fulfils` : the condition under which such a call does it.
-/

namespace OmsWmsTms

namespace Wms

open Txn (Prog Local Keeps)

/-! ### The effect of a call -/

/-- The place that a call names, on rows that have its SKU. -/
structure Names (data : AdjustData) (d : WmsDb) (place : Place) : Prop where
  warehouse : data.warehouseId.uuid? = some place.warehouseId
  location : data.locationId.uuid? = some place.locationId
  sku : ∃ sku, d.get? (.sku data.sku) = some (.sku sku) ∧ sku.id = place.skuId

/-- From `d` to `d'`, the stock on hand at the place of the call has changed by its quantity, and
one movement of that quantity has been added. -/
def Adjusted (data : AdjustData) (d d' : WmsDb) : Prop :=
  ∃ place movement, Names data d' place ∧ AdjustEffect data place movement d d'

section Commit

variable {rt : Runtime} {now : ℕ → ℤ} {data : AdjustData} {l : Local WmsKey WmsRow} {d d' : WmsDb}

theorem AdjustCommit.get?_sku (c : AdjustCommit rt now data l d) :
    (Txn.overlay d l.pending).get? (.sku data.sku) = some (.sku c.sku) := by
  have hne : WmsKey.sku data.sku ≠ c.key := by
    cases hc : c.created with
    | true => exact (c.placed.skuFound.made hc).1 ▸ c.sku_ne_key hc
    | false =>
      intro heq
      have hfound := c.placed.skuFound.found hc
      rcases c.write.inv with ⟨inv, cur, values, -, -, hcur, -⟩ | ⟨id, -, -, -, hkey⟩
      · rw [heq, hcur] at hfound
        cases hfound
      · rw [← heq] at hkey
        cases hkey
  rw [c.overlay_eq, Dict.get?_set, if_neg (fun h => nomatch h), withStock, Dict.get?_set,
    if_neg hne.symm]
  cases hc : c.created with
  | true =>
    rw [AdjustCommit.withSku, skuWrites, if_pos hc, (c.placed.skuFound.made hc).1]
    simp [Txn.overlay_cons]
  | false =>
    rw [AdjustCommit.withSku, skuWrites, hc]
    exact c.placed.skuFound.found hc

theorem AdjustCommit.names (c : AdjustCommit rt now data l d) :
    Names data (Txn.overlay d l.pending) c.place where
  warehouse := c.placed.whId_eq
  location := c.placed.locId_eq
  sku := ⟨c.sku, c.get?_sku, rfl⟩

theorem AdjustCommit.adjusted (c : AdjustCommit rt now data l d) (hread : ReadCurrent c)
    (hq : OnGrid 4 data.quantity) : Adjusted data d (Txn.overlay d l.pending) :=
  ⟨c.place, c.movement, c.names, c.effect hread hq⟩

/-- The quantity has at most four decimals. -/
theorem Adjusted.onGrid (h : Adjusted data d d') : OnGrid 4 data.quantity := by
  obtain ⟨place, movement, -, heffect⟩ := h
  have habs : OnGrid 4 |data.quantity| := heffect.quantity_eq ▸ movement.quantity.onGrid
  exact habs.of_abs

theorem Adjusted.ne (h : Adjusted data d d') : d' ≠ d := by
  rintro rfl
  obtain ⟨place, movement, -, heffect⟩ := h
  simpa using heffect.movements_eq

end Commit

/-! ### A call among others -/

/-- What a call has committed when it has ended. -/
structure Accounted {A : Type} (data : AdjustData) (p : Txn.Proc WmsKey WmsRow ServiceError A) :
    Prop where
  raises : ∀ e, p.prog = .throw e → p.loc.commits = []
  returns : ∀ a, p.prog = .ret a →
    ((∃ d w, p.loc.commits = [(d, w)] ∧ Adjusted data d (Txn.overlay d w)) ↔
      p.loc.rollbacks < maxRetries ∧ OnGrid 4 data.quantity)

section Among

variable {Q A : Type} {rt : Runtime} {call : AdjustCall} {d : WmsDb} {answer : InventoryDict → A}
  {others : Q → WmsProg A} {s s' : AmongState Q A} {label : Txn.Label (Option Q)}

/-- What holds in every state of a run among programs that advance the versions. -/
structure AmongAdvancing (rt : Runtime) (call : AdjustCall) (s : AmongState Q A) : Prop where
  among : Among rt call Advances s
  reads : Txn.ReadsKept Advances s
  adjusted : OnGrid 4 call.data.quantity →
    ∀ c ∈ (s.procs none).loc.commits, Adjusted call.data c.1 (Txn.overlay c.1 c.2)

variable [DecidableEq Q]

theorem amongAdvancing_step (hs : AmongAdvancing rt call s) (h : Txn.system.step s label s') :
    AmongAdvancing rt call s' where
  among := among_step (fun _ _ => Advances.steady) hs.among h
  reads := Txn.readsKept_step hs.reads h (hs.among.keeps (fun _ _ h => h) h)
  adjusted hq c hc := by
    rcases Txn.system_commits h with ⟨-, hcommits⟩ | ⟨p, next, n, hprog, -, rfl⟩
    · exact hs.adjusted hq c (hcommits none ▸ hc)
    · cases p with
      | none =>
        obtain ⟨hcommits, -, ⟨commit⟩⟩ := hs.among.commit hprog
        simp only [Txn.State.update, Function.update_self, Local.commit, hcommits,
          List.mem_singleton] at hc
        rw [hc]
        exact commit.adjusted (commit.readCurrent (hs.reads none)) hq
      | some q =>
        refine hs.adjusted hq c ?_
        simpa [Txn.State.update, Function.update_of_ne] using hc

/-- A call among programs that advance the versions. -/
theorem accounted_among (hothers : Writers Advances d others) {labels : List (Txn.Label (Option Q))}
    (h : Txn.system.Run (.start d (among rt call answer others)) labels s) :
    Accounted call.data (s.procs none) := by
  have hs : AmongAdvancing rt call s := h.invariant (I := AmongAdvancing rt call)
    ⟨among_start hothers, Txn.readsKept_start _ _, fun _ c hc => (nomatch hc)⟩
    fun _ _ _ => amongAdvancing_step
  have hsafe := hs.among.safe none
  refine ⟨fun e hprog => ?_, fun a hprog => ?_⟩
  · rw [hprog] at hsafe
    exact hsafe s.db (.refl _)
  · rw [hprog] at hsafe
    have hpost := hsafe s.db (.refl _ _) rfl
    constructor
    · rintro ⟨d₀, w, hcommits, hadjusted⟩
      refine ⟨?_, hadjusted.onGrid⟩
      rcases hpost with ⟨-, hlt⟩ | ⟨hnil, -⟩
      · exact hlt
      · rw [hcommits] at hnil
        cases hnil
    · rintro ⟨hlt, hq⟩
      rcases hpost with ⟨hlength, -⟩ | ⟨-, hrollbacks⟩
      · obtain ⟨⟨d₀, w⟩, hcommits⟩ := List.length_eq_one_iff.1 hlength
        exact ⟨d₀, w, hcommits, hs.adjusted hq _ (hcommits ▸ List.mem_singleton_self _)⟩
      · rw [hrollbacks] at hlt
        exact absurd hlt (lt_irrefl _)

end Among

/-! ### A call that runs alone -/

/-- The stock that is available at a place; a row that is locked beyond its quantity has none. -/
def availableAt (d : WmsDb) (place : Place) : ℚ :=
  Txn.total (fun row => (row.inventory?.map fun inv =>
    if inv.IsAt place then max 0 inv.available else 0).getD 0) d

/-- A call that the stock allows: it puts stock, or takes no more than what is available. -/
def Allowed (data : AdjustData) (d : WmsDb) : Prop :=
  0 < data.quantity ∨
    ∃ place, Names data d place ∧ data.quantity < 0 ∧ |data.quantity| ≤ availableAt d place

/-- **What is asked of a call that runs alone.** -/
structure AllOrNothing (rt : Runtime) (now : ℕ → ℤ) (data : AdjustData) (ids : ℕ → ℕ) (d : WmsDb) :
    Prop where
  returns : ∀ answer, ((adjustInventory rt now data).run ids d).1 = .ok answer →
    Adjusted data d ((adjustInventory rt now data).run ids d).2
  raises : ∀ e, ((adjustInventory rt now data).run ids d).1 = .error e →
    (∀ place, onHand ((adjustInventory rt now data).run ids d).2 place = onHand d place) ∧
      movements ((adjustInventory rt now data).run ids d).2 = movements d
  allowed : Allowed data d → ∃ answer, ((adjustInventory rt now data).run ids d).1 = .ok answer

section Alone

variable {rt : Runtime} {now : ℕ → ℤ} {data : AdjustData} {d : WmsDb} {ids : ℕ → ℕ}

/-- A call that runs alone has committed nothing, or it has carried out a plan. -/
theorem alone_state {labels : List (Txn.Label Unit)} {s : AdjustState Unit}
    (h : Txn.system.Run (adjustStart rt d fun _ => ⟨now, data⟩) labels s) :
    (s.procs ()).loc.commits = [] ∧ s.db = d ∨
      (s.procs ()).loc.commits ≠ [] ∧
        ∃ k, ∃ plan : AdjustPlan rt (now k) data d, s.db = Txn.overlay d plan.writes := by
  refine h.invariant_reach (I := fun s => (s.procs ()).loc.commits = [] ∧ s.db = d ∨
    (s.procs ()).loc.commits ≠ [] ∧
      ∃ k, ∃ plan : AdjustPlan rt (now k) data d, s.db = Txn.overlay d plan.writes)
    (.inl ⟨rfl, rfl⟩) fun labels' s label s' hrun hs hstep => ?_
  rcases Txn.system_commits hstep with ⟨hdb, hcommits⟩ | ⟨p, next, n, hprog, -, rfl⟩
  · rwa [hdb, hcommits]
  · obtain ⟨hcommits, -, c, -⟩ := (adjustInv_run hrun).commit hprog
    rcases hs with ⟨-, rfl⟩ | ⟨hne, -⟩
    · have hvalid := Txn.valid_alone hrun _ c.read
      refine .inr ⟨?_, c.attempt, c.plan hvalid, ?_⟩
      · simp [Txn.State.update, Local.commit]
      · rw [c.writes_plan hvalid]
        rfl
    · exact absurd hcommits hne

/-- The result of a call that runs alone. -/
theorem run_alone (rt : Runtime) (now : ℕ → ℤ) (data : AdjustData) (d : WmsDb) (ids : ℕ → ℕ) :
    ((adjustInventory rt now data).run ids d).2 = d ∨
      (∃ answer, ((adjustInventory rt now data).run ids d).1 = .ok answer) ∧
        ∃ k, ∃ plan : AdjustPlan rt (now k) data d,
          ((adjustInventory rt now data).run ids d).2 = Txn.overlay d plan.writes := by
  obtain ⟨labels, s, hrun, hdb, hprog⟩ := Txn.exists_run_exec (adjustInventory rt now data)
    (adjustInventory rt now data) .start d ids
  have hrun : Txn.system.Run (adjustStart rt d fun _ : Unit => ⟨now, data⟩) labels s := hrun
  have hdb : s.db = ((adjustInventory rt now data).run ids d).2 := hdb
  have hprog : (s.procs ()).prog =
      Prog.ofExcept ((adjustInventory rt now data).run ids d).1 := hprog
  rw [← hdb]
  rcases alone_state hrun with ⟨-, h⟩ | ⟨hcommits, h⟩
  · exact .inl h
  · refine .inr ⟨?_, h⟩
    cases hanswer : ((adjustInventory rt now data).run ids d).1 with
    | ok answer => exact ⟨answer, rfl⟩
    | error e =>
      have hsafe := (adjustInv_run hrun).safe ()
      rw [hprog, hanswer] at hsafe
      exact absurd (hsafe s.db (.refl _)) hcommits

/-- What the batches have available is available at the place. -/
theorem sum_batches_le (rt : Runtime) (data : AdjustData) (d : WmsDb) (whId locId skuId : Uuid) :
    ((batchesOf rt data.pickingStrategy (stockRead data d whId locId skuId)).map
      fun batch => batch.2.available).sum ≤ availableAt d ⟨whId, locId, skuId⟩ := by
  let share (row : WmsRow) : ℚ := (row.inventory?.map fun inv =>
    if inv.IsAt ⟨whId, locId, skuId⟩ then max 0 inv.available else 0).getD 0
  have hshare (row : WmsRow) : 0 ≤ share row := by
    cases row with
    | inventory inv =>
      simp only [share, WmsRow.inventory?, Option.map_some, Option.getD_some]
      split_ifs
      · exact le_max_left _ _
      · exact le_rfl
    | _ => exact le_rfl
  have hitems (items : List (WmsKey × WmsRow)) :
      (((stockOf (items.filter fun item => stockQuery data whId locId skuId item.1 item.2)).filter
        fun batch => decide (0 < batch.2.available)).map fun batch => batch.2.available).sum ≤
      (items.map fun item => share item.2).sum := by
    induction items with
    | nil => exact le_rfl
    | cons item items ih =>
      obtain ⟨key, row⟩ := item
      rw [List.filter_cons, List.map_cons, List.sum_cons]
      split_ifs with hmatch
      · cases row with
        | inventory inv =>
          have hat : inv.IsAt ⟨whId, locId, skuId⟩ := place_of_stockQuery hmatch
          have hinv : share (.inventory inv) = max 0 inv.available := if_pos hat
          have hstock (rest : List (WmsKey × WmsRow)) :
              stockOf ((key, .inventory inv) :: rest) = (key, inv) :: stockOf rest := rfl
          rw [hinv, hstock, List.filter_cons]
          split_ifs
          · rw [List.map_cons, List.sum_cons]
            exact add_le_add (le_max_right _ _) ih
          · exact ih.trans (le_add_of_nonneg_left (le_max_left _ _))
        | _ => cases hmatch
      · exact ih.trans (le_add_of_nonneg_left (hshare row))
  have hperm := ((orderBy_perm (fun a b => batchOrder rt data.pickingStrategy a.2 b.2)
    (stockRead data d whId locId skuId)).filter fun batch =>
      decide (0 < batch.2.available)).map fun batch => batch.2.available
  rw [batchesOf, hperm.sum_eq]
  exact hitems d.items

theorem chooseOutbound_eq_raise {need : ℚ} {stock : List (WmsKey × Inventory)}
    (h : (stock.map fun batch => batch.2.available).sum < need) :
    chooseOutbound need stock = .raise (.validation "Insufficient stock" none) := by
  match stock with
  | [] => rfl
  | (_, _) :: _ => rw [chooseOutbound, if_pos h]

/-- A call that the stock does not allow raises. -/
theorem exists_error_of_not_allowed (hq : data.quantity ≠ 0) (hids : Fresh ids d)
    (h : ¬ Allowed data d) : ∃ e, ((adjustInventory rt now data).run ids d).1 = .error e := by
  have hpos : ¬ 0 < data.quantity := fun hpos => h (.inl hpos)
  have hneg : data.quantity < 0 := lt_of_le_of_ne (not_lt.1 hpos) hq
  rcases exec_adjustInventory rt now data d ids with ⟨e, s', he⟩ |
    ⟨whId, locId, sku, created, ids', hplaced, hcreated, hexec⟩
  · rw [Prog.run, he]
    exact ⟨e, rfl⟩
  · have hsum : ((batchesOf rt data.pickingStrategy (stockOf (Txn.select
        (stockQuery data whId locId sku.id) (Txn.overlay d (skuWrites sku created))))).map
          fun batch => batch.2.available).sum < |data.quantity| := by
      cases hc : created with
      | true =>
        have hnew := hids.sku 0
        rw [← (hcreated hc).2] at hnew
        rw [select_eq_nil hnew]
        exact abs_pos.2 hq
      | false =>
        by_contra hle
        refine h (.inr ⟨⟨whId, locId, sku.id⟩, ⟨hplaced.whId_eq, hplaced.locId_eq, sku,
          hplaced.skuFound.found hc, rfl⟩, hneg, (not_lt.1 hle).trans ?_⟩)
        exact sum_batches_le rt data d whId locId sku.id
    have hattempt : (adjustAttempt rt now data whId locId sku created 0).exec
        ⟨d, Txn.overlay d (skuWrites sku created), ids'⟩ =
          (.error (.validation "Insufficient stock" none),
            ⟨d, Txn.overlay d (skuWrites sku created), ids'⟩) := by
      rw [adjustAttempt, skuObjId, if_pos (.inl rfl)]
      simp only [Prog.pure_eq, Prog.bind_eq, chooseStock_eq, Prog.bind, Prog.exec_select]
      rw [choiceOf, if_neg hpos, chooseOutbound_eq_raise hsum]
      rfl
    have hstock : (adjustStock rt now data whId locId sku created).exec
        ⟨d, Txn.overlay d (skuWrites sku created), ids'⟩ = (.error _, _) :=
      Prog.exec_bind_of_error (Prog.exec_bind_of_error hattempt)
    rw [Prog.run, hexec, hstock]
    exact ⟨_, rfl⟩

/-- **A call that runs alone** does what is asked of it exactly when the stock fulfils what it
allows. -/
theorem allOrNothing_alone (hq : data.quantity ≠ 0) (hids : Fresh ids d) :
    AllOrNothing rt now data ids d ↔ (Allowed data d → Fulfils rt data d) := by
  constructor
  · intro h hallowed
    obtain ⟨answer, hanswer⟩ := h.allowed hallowed
    have hadjusted := h.returns answer hanswer
    rcases run_alone rt now data d ids with hdb | ⟨-, k, plan, hdb⟩
    · exact absurd hdb hadjusted.ne
    · refine plan.fulfils hadjusted.onGrid fun hc => ?_
      have hsku : plan.sku.id = ids 0 := by
        refine sku_id_of_run (plan.skuFree hc) hanswer ?_
        rw [hdb]
        exact plan.commit.get?_sku
      rw [hsku]
      exact hids.sku 0
  · intro h
    have hdone (hallowed : Allowed data d) : ∃ answer, Adjusted data d
        ((adjustInventory rt now data).run ids d).2 ∧
          ((adjustInventory rt now data).run ids d).1 = .ok answer := by
      have hfulfils := h hallowed
      obtain ⟨plan, huses⟩ := hfulfils.exists_plan hq hids (now 0)
      rw [plan.run rfl huses]
      exact ⟨_, plan.commit.adjusted plan.readCurrent hfulfils.1.onGrid.of_abs, rfl⟩
    refine ⟨fun answer hanswer => ?_, fun e he => ?_, fun hallowed => ?_⟩
    · by_cases hallowed : Allowed data d
      · obtain ⟨-, hadjusted, -⟩ := hdone hallowed
        exact hadjusted
      · have herror : ∃ e, ((adjustInventory rt now data).run ids d).1 = .error e :=
          exists_error_of_not_allowed hq hids hallowed
        obtain ⟨e, he⟩ := herror
        rw [hanswer] at he
        cases he
    · rcases run_alone rt now data d ids with hdb | ⟨⟨answer, hanswer⟩, -⟩
      · rw [hdb]
        exact ⟨fun _ => rfl, rfl⟩
      · rw [hanswer] at he
        cases he
    · obtain ⟨answer, -, hanswer⟩ := hdone hallowed
      exact ⟨answer, hanswer⟩

end Alone

/-- Identifiers from a hundred on. -/
def hundreds (n : ℕ) : ℕ := n + 100

theorem fresh_shelfDb : Fresh hundreds shelfDb where
  inventory n := by
    simp [shelfDb, emptyDb, hundreds]
  movement n := by simp [shelfDb, emptyDb, hundreds]
  sku n key inv h := by
    have hinv : key = .inventory 4 ∧ inv = shelf := by
      unfold shelfDb emptyDb at h
      simp only [Dict.get?_set, Dict.get?_empty] at h
      split_ifs at h with h₄ h₃ h₂ h₁ <;> cases h
      exact ⟨h₄.symm, rfl⟩
    rw [hinv.2]
    change 3 ≠ n + 100
    omega

theorem batch_fits : Int.natAbs 10000 < 10 ^ 20 := by decide

/-- Two batches of one SKU: a piece that expires first, and ten pieces. -/
def batchesDb : WmsDb :=
  (emptyDb.set (.inventory 4) (.inventory { shelf with
    quantity := ⟨10000, batch_fits⟩, expiryDate := some 1 })).set (.inventory 5)
      (.inventory { shelf with
      id := 5, batchNo := some "B", expiryDate := some 2 })

end Wms

end OmsWmsTms
