import OmsWmsTms.Tms.Returns

/-!
# The discipline of refunds

What a refund and the state of the goods say about the past of a return order, along the runs of
`Tms/Returns`.

* `Returns.Was` : what a return was in an earlier state.
* `RefundsReturned`, `GoodsMoved`, `ReceiptsAccepted` : the three parts of the discipline.
* `InspectsReturned`, `CancelsNothing`, `MovesNothing` : the calls that keep them.
* `refundDiscipline_iff` : the runs that keep the discipline.
-/

namespace OmsWmsTms

namespace Tms

/-- The goods are on their way. -/
def ReturnRow.InTransit (ret : ReturnRow) : Prop :=
  ret.status = .inTransitReturn ∨ ret.shipmentStatus = .inTransitReturn ∨
    ret.shipmentStatus = .receivedByCarrier

namespace Returns

/-- A return has been in an earlier state with a property. -/
def Was (s : Returns) (id : Uuid) (P : ReturnRow → Prop) : Prop :=
  ∃ rows ∈ s.past, ∃ ret ∈ rows, ret.id = id ∧ P ret

/-- What is refunded was back in the warehouse. -/
def RefundsReturned (s : Returns) : Prop :=
  ∀ ret ∈ s.rows, ret.status = .refunded → s.Was ret.id (·.status = .returnedToWarehouse)

/-- Goods that are back in the warehouse were on their way. -/
def GoodsMoved (s : Returns) : Prop :=
  ∀ ret ∈ s.rows, ret.shipmentStatus = .returnedToWarehouse → s.Was ret.id ReturnRow.InTransit

/-- `mark_shipment_received` accepts a return in transit that the carrier has not received. -/
def ReceiptsAccepted (s : Returns) : Prop :=
  ∀ ret ∈ s.rows, ret.status = .inTransitReturn → ret.shipmentStatus ≠ .receivedByCarrier →
    ret.shipmentStatus ≠ .returnedToWarehouse → ∀ returnId : IdArg, returnId.uuid? = some ret.id →
    ∃ rows, markShipmentReceived s.rows returnId = .ok rows

/-- No inspection accepts goods in transit. -/
def InspectsReturned (s : Returns) (label : ReturnLabel) : Prop :=
  label.committed → ∀ returnId ret, label.call = .markReturnInspected returnId true →
    findReturn s.rows returnId = .ok ret → ret.status ≠ .inTransitReturn

/-- No return is cancelled. -/
def CancelsNothing (s : Returns) (label : ReturnLabel) : Prop :=
  label.committed → ∀ returnId ret, label.call = .cancelReturnOrder returnId →
    findReturn s.rows returnId = .ok ret →
    ret.status ≠ .requested ∧ ret.status ≠ .pickupScheduled

/-- No scheduled return goes on its way. -/
def MovesNothing (s : Returns) (label : ReturnLabel) : Prop :=
  label.committed → ∀ returnId ret, label.call = .updateReturnStatus returnId "in_transit_return" →
    findReturn s.rows returnId = .ok ret → ret.status ≠ .pickupScheduled

/-- The table and its past: every return has advanced since, and one that is back in the warehouse
was in transit. -/
structure History (s : Returns) : Prop where
  good : Good s.rows
  past : ∀ rows ∈ s.past, Good rows ∧ Advance rows s.rows
  returned : ∀ ret ∈ s.rows, ret.status = .returnedToWarehouse → s.Was ret.id ReturnRow.InTransit

variable {s s' : Returns} {label : ReturnLabel} {P : ReturnRow → Prop} {id : Uuid}

theorem Was.mono (h : s.Was id P) (hpast : s'.past = s.rows :: s.past) : s'.Was id P := by
  obtain ⟨rows, hrows, hret⟩ := h
  exact ⟨rows, hpast ▸ List.mem_cons_of_mem _ hrows, hret⟩

theorem was_of_mem (hpast : s'.past = s.rows :: s.past) {ret : ReturnRow} (hret : ret ∈ s.rows)
    (hP : P ret) (hid : ret.id = id) : s'.Was id P :=
  ⟨s.rows, hpast ▸ List.mem_cons_self, ret, hret, hid, hP⟩

/-- What a return was, it has passed. -/
theorem History.rank_le (h : s.History) {ret : ReturnRow} (hret : ret ∈ s.rows)
    (hwas : s.Was ret.id P) : ∃ ret', P ret' ∧ ret'.Sound ∧ ret'.status.rank ≤ ret.status.rank := by
  obtain ⟨rows, hrows, ret', hret', hid, hP⟩ := hwas
  obtain ⟨hgood, hadvance⟩ := h.past rows hrows
  obtain ⟨ret'', hret'', hadvances⟩ := hadvance ret' hret'
  obtain rfl := List.inj_on_of_nodup_map h.good.nodup hret'' hret (hadvances.id.trans hid)
  exact ⟨ret', hP, hgood.sound ret' hret', hadvances.rank⟩

/-- Goods are on their way only with the status of the return. -/
theorem status_of_inTransit {ret : ReturnRow} (hsound : ret.Sound) (h : ret.InTransit) :
    ret.status = .inTransitReturn := by
  rcases h with h | h | h
  · exact h
  · have hshipment := hsound.shipment
    simp [h] at hshipment
  · have hshipment := hsound.shipment
    simp [h] at hshipment

/-- The only way to the warehouse is from transit. -/
theorem inTransit_of_allowed {status : ReturnStatus}
    (h : ReturnStatus.returnedToWarehouse.value ∈ status.allowedTransitions) :
    status = .inTransitReturn := by
  revert h
  cases status <;> decide

/-- The only transition to a refund is from the warehouse. -/
theorem returned_of_allowed {status : ReturnStatus}
    (h : ReturnStatus.refunded.value ∈ status.allowedTransitions) :
    status = .returnedToWarehouse := by
  revert h
  cases status <;> decide

/-- **Every call keeps the history.** -/
theorem History.next (h : s.History) (hnext : s.next label = some s') : s'.History := by
  obtain ⟨hgood, hadvance⟩ := h.good.next hnext
  obtain ⟨hpast, hcases⟩ := next_cases hnext
  have hold : ∀ ret ∈ s.rows, ret.status = .returnedToWarehouse →
      s'.Was ret.id ReturnRow.InTransit :=
    fun ret hret hstatus => (h.returned ret hret hstatus).mono hpast
  refine ⟨hgood, fun rows hrows => ?_, ?_⟩
  · rw [hpast] at hrows
    rcases List.mem_cons.1 hrows with rfl | hrows
    · exact ⟨h.good, hadvance⟩
    · exact ⟨(h.past rows hrows).1, (h.past rows hrows).2.trans hadvance⟩
  obtain ⟨-, hwrites⟩ | ⟨hsame, -⟩ := hcases
  · obtain ⟨rows', past'⟩ := s'
    obtain ⟨call, committed⟩ := label
    cases hwrites with
    | @create day newId data ret hcreate hid hstatus hshipment =>
      intro ret' hret' hreturned
      rcases List.mem_append.1 hret' with hret' | hnew
      · exact hold ret' hret' hreturned
      · rw [List.mem_singleton.1 hnew, hstatus] at hreturned
        cases hreturned
    | @update returnId ret status hret htarget =>
      have hmem := mem_of_findReturn hret
      refine (h.good.forall_setStates_iff hold hmem _ _).2 ?_
      rintro rfl
      exact was_of_mem hpast hmem (.inl (inTransit_of_allowed htarget)) rfl
    | @receive returnId ret hret hshipment =>
      have hsound := (h.good.sound ret (mem_of_findReturn hret)).shipment
      simp [hshipment] at hsound
    | @inspect returnId accepted ret hret hstatus =>
      refine (h.good.forall_setStates_iff hold (mem_of_findReturn hret) _ _).2 ?_
      cases accepted <;> exact fun hreturned => nomatch hreturned
    | cancel hret hstatus =>
      refine (h.good.forall_setStates_iff hold (mem_of_findReturn hret) _ _).2 ?_
      exact fun hreturned => nomatch hreturned
  · rw [hsame]
    exact hold

/-! ### The three parts -/

/-- A call keeps the refunds to what was back in the warehouse exactly if it accepts nothing in
transit. -/
theorem refundsReturned_iff (h : s.History) (hrefunds : s.RefundsReturned)
    (hnext : s.next label = some s') : s'.RefundsReturned ↔ s.InspectsReturned label := by
  obtain ⟨hpast, hcases⟩ := next_cases hnext
  have hold : ∀ ret ∈ s.rows, ret.status = .refunded →
      s'.Was ret.id (·.status = .returnedToWarehouse) :=
    fun ret hret hstatus => (hrefunds ret hret hstatus).mono hpast
  obtain ⟨hcommitted, hwrites⟩ | ⟨hsame, hnone⟩ := hcases
  · obtain ⟨rows', past'⟩ := s'
    obtain ⟨call, committed⟩ := label
    cases hwrites with
    | @create day newId data ret hcreate hid hstatus hshipment =>
      refine iff_of_true (fun ret' hret' hrefunded => ?_) fun _ _ _ hcall => nomatch hcall
      rcases List.mem_append.1 hret' with hret' | hnew
      · exact hold ret' hret' hrefunded
      · rw [List.mem_singleton.1 hnew, hstatus] at hrefunded
        cases hrefunded
    | @update returnId ret status hret htarget =>
      refine iff_of_true ?_ fun _ _ _ hcall => nomatch hcall
      have hmem := mem_of_findReturn hret
      refine (h.good.forall_setStates_iff hold hmem _ _).2 ?_
      rintro rfl
      exact was_of_mem hpast hmem (returned_of_allowed htarget) rfl
    | @receive returnId ret hret hshipment =>
      have hsound := (h.good.sound ret (mem_of_findReturn hret)).shipment
      simp [hshipment] at hsound
    | @inspect returnId accepted ret hret hstatus =>
      have hmem := mem_of_findReturn hret
      refine (h.good.forall_setStates_iff hold hmem _ _).trans ?_
      cases accepted with
      | false =>
        exact iff_of_true (fun hrefunded => nomatch hrefunded) fun _ _ _ hcall => nomatch hcall
      | true =>
        rcases hstatus with hstatus | hstatus
        · refine iff_of_true (fun _ => was_of_mem hpast hmem hstatus rfl) ?_
          rintro - returnId' ret' hcall hret'
          cases hcall
          cases hret.symm.trans hret'
          rw [hstatus]
          simp
        · -- what is in transit has not been back in the warehouse
          refine iff_of_false (fun hwas => ?_) fun hreturned => ?_
          · obtain ⟨rows, hrows, ret', hret', hid, hreturned⟩ := hwas rfl
            rw [hpast] at hrows
            rcases List.mem_cons.1 hrows with rfl | hrows
            · obtain rfl := List.inj_on_of_nodup_map h.good.nodup hret' hmem hid
              rw [hstatus] at hreturned
              cases hreturned
            · have hwas : s.Was ret.id (·.status = .returnedToWarehouse) :=
                ⟨rows, hrows, ret', hret', hid, hreturned⟩
              obtain ⟨ret'', hreturned', -, hrank⟩ := h.rank_le hmem hwas
              rw [hreturned', hstatus] at hrank
              exact absurd hrank (by decide)
          · exact hreturned hcommitted returnId ret rfl hret hstatus
    | cancel hret hstatus =>
      refine iff_of_true ?_ fun _ _ _ hcall => nomatch hcall
      refine (h.good.forall_setStates_iff hold (mem_of_findReturn hret) _ _).2 ?_
      exact fun hrefunded => nomatch hrefunded
  · refine iff_of_true (by rwa [RefundsReturned, hsame]) ?_
    intro hcommitted returnId ret hcall hret hstatus
    refine hnone ⟨hcommitted, setStates s.rows ret .refunded .returnedToWarehouse, ?_⟩
    rw [hcall]
    exact .inspect hret (.inr hstatus)

/-- A call keeps the goods where they have moved exactly if it cancels nothing. -/
theorem goodsMoved_iff (h : s.History) (hmoved : s.GoodsMoved) (hnext : s.next label = some s') :
    s'.GoodsMoved ↔ s.CancelsNothing label := by
  obtain ⟨hpast, hcases⟩ := next_cases hnext
  have hold : ∀ ret ∈ s.rows, ret.shipmentStatus = .returnedToWarehouse →
      s'.Was ret.id ReturnRow.InTransit :=
    fun ret hret hshipment => (hmoved ret hret hshipment).mono hpast
  obtain ⟨hcommitted, hwrites⟩ | ⟨hsame, hnone⟩ := hcases
  · obtain ⟨rows', past'⟩ := s'
    obtain ⟨call, committed⟩ := label
    cases hwrites with
    | @create day newId data ret hcreate hid hstatus hshipment =>
      refine iff_of_true (fun ret' hret' hreturned => ?_) fun _ _ _ hcall => nomatch hcall
      rcases List.mem_append.1 hret' with hret' | hnew
      · exact hold ret' hret' hreturned
      · rw [List.mem_singleton.1 hnew, hshipment] at hreturned
        cases hreturned
    | @update returnId ret status hret htarget =>
      refine iff_of_true ?_ fun _ _ _ hcall => nomatch hcall
      have hmem := mem_of_findReturn hret
      exact (h.good.forall_setStates_iff hold hmem _ _).2 (hold ret hmem)
    | receive hret hshipment =>
      have hsound := (h.good.sound _ (mem_of_findReturn hret)).shipment
      simp [hshipment] at hsound
    | inspect hret hstatus =>
      refine iff_of_true ?_ fun _ _ _ hcall => nomatch hcall
      have hmem := mem_of_findReturn hret
      refine (h.good.forall_setStates_iff hold hmem _ _).2 fun _ => ?_
      rcases hstatus with hstatus | hstatus
      · exact (h.returned _ hmem hstatus).mono hpast
      · exact was_of_mem hpast hmem (.inl hstatus) rfl
    | @cancel returnId ret hret hstatus =>
      have hmem := mem_of_findReturn hret
      refine (h.good.forall_setStates_iff hold hmem _ _).trans ?_
      -- what is still to be picked up has not been in transit
      have hrank : ret.status.rank < ReturnStatus.inTransitReturn.rank := by
        rcases hstatus with hstatus | hstatus <;> rw [hstatus] <;> decide
      refine iff_of_false (fun hwas => ?_) fun hnothing => ?_
      · obtain ⟨rows, hrows, ret', hret', hid, htransit⟩ := hwas rfl
        rw [hpast] at hrows
        rcases List.mem_cons.1 hrows with rfl | hrows
        · obtain rfl := List.inj_on_of_nodup_map h.good.nodup hret' hmem hid
          rw [status_of_inTransit (h.good.sound ret' hmem) htransit] at hrank
          exact lt_irrefl _ hrank
        · have hwas : s.Was ret.id ReturnRow.InTransit :=
            ⟨rows, hrows, ret', hret', hid, htransit⟩
          obtain ⟨ret'', htransit', hsound, hrank'⟩ := h.rank_le hmem hwas
          rw [status_of_inTransit hsound htransit'] at hrank'
          omega
      · obtain ⟨hrequested, hscheduled⟩ := hnothing hcommitted returnId ret rfl hret
        exact hstatus.elim hrequested hscheduled
  · refine iff_of_true (by rwa [GoodsMoved, hsame]) fun hcommitted returnId ret hcall hret => ?_
    by_contra hstatus
    refine hnone ⟨hcommitted, setStates s.rows ret .closed .returnedToWarehouse, ?_⟩
    rw [hcall]
    exact .cancel hret (by tauto)

/-- The goods of a return in transit are `PENDING`, and are not received: there is no such
return. -/
theorem receiptsAccepted_iff_forall (h : Good s.rows) :
    s.ReceiptsAccepted ↔ ∀ ret ∈ s.rows, ret.status ≠ .inTransitReturn := by
  constructor
  · intro hreceipts ret hret hstatus
    have hpending : ret.shipmentStatus = .pending := by
      simpa [hstatus] using (h.sound ret hret).shipment
    obtain ⟨rows, hrows⟩ := hreceipts ret hret hstatus (by simp [hpending]) (by simp [hpending])
      ⟨"", some ret.id⟩ rfl
    obtain ⟨ret', hret', htransit, -⟩ := markShipmentReceived_eq_ok_iff.1 hrows
    have hsound := (h.sound ret' (mem_of_findReturn hret')).shipment
    simp [htransit] at hsound
  · intro hnone ret hret hstatus
    exact absurd hstatus (hnone ret hret)

/-- A call keeps the receipts accepted exactly if it moves nothing. -/
theorem receiptsAccepted_iff (h : s.History) (hreceipts : s.ReceiptsAccepted)
    (hnext : s.next label = some s') : s'.ReceiptsAccepted ↔ s.MovesNothing label := by
  obtain ⟨hpast, hcases⟩ := next_cases hnext
  rw [receiptsAccepted_iff_forall (h.next hnext).good]
  have hold := (receiptsAccepted_iff_forall h.good).1 hreceipts
  obtain ⟨hcommitted, hwrites⟩ | ⟨hsame, hnone⟩ := hcases
  · obtain ⟨rows', past'⟩ := s'
    obtain ⟨call, committed⟩ := label
    cases hwrites with
    | @create day newId data ret hcreate hid hstatus hshipment =>
      refine iff_of_true (fun ret' hret' => ?_) fun _ _ _ hcall => nomatch hcall
      rcases List.mem_append.1 hret' with hret' | hnew
      · exact hold ret' hret'
      · rw [List.mem_singleton.1 hnew, hstatus]
        simp
    | @update returnId ret status hret htarget =>
      refine (h.good.forall_setStates_iff hold (mem_of_findReturn hret) _ _).trans ?_
      constructor
      · rintro hstatus - returnId' ret' hcall -
        obtain ⟨-, htext⟩ := ReturnCall.updateReturnStatus.inj hcall
        have hstore := congrArg ReturnStatus.store htext
        rw [ReturnStatus.store_value] at hstore
        cases hstore.trans (ReturnStatus.store_value .inTransitReturn)
        exact absurd rfl hstatus
      · rintro hmoves rfl
        refine hmoves hcommitted returnId ret rfl hret ?_
        revert htarget
        cases ret.status <;> decide
    | receive hret hshipment =>
      have hsound := (h.good.sound _ (mem_of_findReturn hret)).shipment
      simp [hshipment] at hsound
    | @inspect returnId accepted ret hret hstatus =>
      refine iff_of_true ?_ fun _ _ _ hcall => nomatch hcall
      refine (h.good.forall_setStates_iff hold (mem_of_findReturn hret) _ _).2 ?_
      cases accepted <;> simp
    | cancel hret hstatus =>
      refine iff_of_true ?_ fun _ _ _ hcall => nomatch hcall
      exact (h.good.forall_setStates_iff hold (mem_of_findReturn hret) _ _).2 (by simp)
  · refine iff_of_true (by rwa [hsame]) fun hcommitted returnId ret hcall hret hstatus => ?_
    have htarget : ReturnStatus.inTransitReturn.value ∈ ret.status.allowedTransitions := by
      rw [hstatus]
      decide
    refine hnone ⟨hcommitted, setStates s.rows ret .inTransitReturn ret.shipmentStatus, ?_⟩
    rw [hcall]
    exact .update hret htarget

theorem History.start : ({} : Returns).History :=
  ⟨Good.start, by simp, by simp⟩

end Returns

/-! ### Runs -/

/-- The discipline of refunds. -/
structure Returns.Disciplined (s : Returns) : Prop where
  refunds : s.RefundsReturned
  goods : s.GoodsMoved
  receipts : s.ReceiptsAccepted

/-- **The discipline holds** in exactly the runs in which no inspection accepts goods in transit, no
return is cancelled and none goes on its way. -/
theorem refundDiscipline_iff {labels : List ReturnLabel} {s : Returns} :
    (returnSystem.restrict fun _ _ s' => s'.Disciplined).Run {} labels s ↔
      (returnSystem.guard fun s label => s.InspectsReturned label ∧ s.CancelsNothing label ∧
        s.MovesNothing label).Run {} labels s := by
  have hstep : ∀ s label s', s.History ∧ s.Disciplined → Returns.next s label = some s' →
      (s'.Disciplined ↔
        s.InspectsReturned label ∧ s.CancelsNothing label ∧ s.MovesNothing label) := by
    rintro s label s' ⟨h, hdisciplined⟩ hnext
    rw [← Returns.refundsReturned_iff h hdisciplined.refunds hnext,
      ← Returns.goodsMoved_iff h hdisciplined.goods hnext,
      ← Returns.receiptsAccepted_iff h hdisciplined.receipts hnext]
    exact ⟨fun h => ⟨h.refunds, h.goods, h.receipts⟩, fun h => ⟨h.1, h.2.1, h.2.2⟩⟩
  refine Lts.Run.restrict_iff_guard (I := fun s => s.History ∧ s.Disciplined)
    (fun s label s' h hnext hcond => ⟨h.1.next hnext, (hstep s label s' h hnext).2 hcond⟩) hstep
    ⟨.start, ?_, ?_, ?_⟩
  · simp [Returns.RefundsReturned]
  · simp [Returns.GoodsMoved]
  · simp [Returns.ReceiptsAccepted]

/-- A return on its way to the warehouse is accepted by an inspection. -/
def inspectInTransit : List ReturnLabel :=
  [⟨.createReturnOrder "20260718" 7 { reason := "damaged" }, true⟩,
    ⟨.updateReturnStatus ⟨"7", some 7⟩ "pickup_scheduled", true⟩,
    ⟨.updateReturnStatus ⟨"7", some 7⟩ "in_transit_return", true⟩,
    ⟨.markReturnInspected ⟨"7", some 7⟩ true, true⟩]

/-- **It is refunded** and has not been in the warehouse. -/
theorem inspectInTransit_refunded :
    ¬ ∀ labels s, returnSystem.Run {} labels s → s.Disciplined := by
  intro h
  have hread : (Lts.runNext Returns.next {} inspectInTransit).map
      (fun s => (s.rows.map ReturnRow.status,
        s.past.flatMap fun rows => rows.map ReturnRow.status)) =
      some ([.refunded], [.inTransitReturn, .pickupScheduled, .requested]) := by
    decide +kernel
  obtain ⟨s, hs, hread⟩ := Lts.exists_run_of_map hread
  obtain ⟨hrows, hpast⟩ := Prod.mk.inj hread
  obtain ⟨ret, hret, hrefunded⟩ := List.mem_map.1 (hrows ▸ List.mem_singleton_self _)
  obtain ⟨rows, hrows', ret', hret', -, hreturned⟩ := (h _ s hs).refunds ret hret hrefunded
  have hmem : ReturnStatus.returnedToWarehouse ∈
      s.past.flatMap fun rows => rows.map ReturnRow.status :=
    List.mem_flatMap.2 ⟨rows, hrows', List.mem_map.2 ⟨ret', hret', hreturned⟩⟩
  rw [hpast] at hmem
  exact absurd hmem (by decide)

end Tms

end OmsWmsTms
