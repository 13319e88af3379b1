import OmsWmsTms.Oms.Lifecycle
import OmsWmsTms.Txn.Outline

/-!
# Concurrent calls of `update_order_status`

A call validates the transition from the status that it has read, and writes the new status by
primary key.  Another call may commit between the two.

* `StatusCall` : a call with its arguments.
* `CommitOnTime` : the commit of a call finds the order as the call has read it, or in the status
  that it writes, or cancels an order that can still be cancelled.
* `safe_updateOrderStatus` : what a call commits, whatever the others do.
* `statusRun_iff` : a run of any number of calls keeps the lifecycle exactly when every commit is on
  time.
-/

namespace OmsWmsTms

namespace Oms

open Txn (Prog Local Contract Safe)

/-- A call of `update_order_status`. -/
structure StatusCall where
  /-- The clock. -/
  now : ℤ
  /-- The order. -/
  orderId : IdArg
  /-- The new status. -/
  target : String

/-- The program of a call. -/
def StatusCall.prog (call : StatusCall) : OmsProg OrderDict :=
  updateOrderStatus call.now call.orderId call.target

/-- A state of concurrent calls. -/
abbrev StatusState (P : Type) := Txn.State P OmsKey OmsRow ServiceError OrderDict

/-- The calls at their start. -/
def statusStart {P : Type} (d : OmsDb) (calls : P → StatusCall) : StatusState P :=
  .start d fun p => (calls p).prog

/-- The order that a call has read: the answer to the first query of its open transaction. -/
def readOrder (l : Local OmsKey OmsRow) : Option Order :=
  l.observed.getLast?.bind fun o => o.rows.findSome? fun item => item.2.order?

/-- When a call commits, the status of its order is the one that it has read, or the one that it
writes, or it cancels an order that is not in a terminal status. -/
def CommitOnTime {P : Type} (calls : P → StatusCall) (s : StatusState P) : Txn.Label P → Prop
  | .run p _ => ∀ id order read, (∃ next, (s.procs p).prog = .commit next) →
      (calls p).orderId.uuid? = some id → orderAt s.db (.order id) = some order →
      readOrder (s.procs p).loc = some read →
      order.status = read.status ∨ statusMap (calls p).target = some order.status ∨
        (calls p).target = "cancelled" ∧ ¬ Terminal order.status
  | .fail _ => True

/-! ### What a call commits -/

/-- Orders stay orders. -/
def OrdersStay (d d' : OmsDb) : Prop :=
  ∀ key, orderAt d key ≠ none → orderAt d' key ≠ none

/-- The transaction of a call when it commits: it has read the order, along an edge it writes the
new status, and a log under a free key. -/
structure StatusWrites (call : StatusCall) (l : Local OmsKey OmsRow) (d : OmsDb) (id : Uuid)
    (read : Order) (status : OrderStatus) : Prop where
  id_eq : call.orderId.uuid? = some id
  read_eq : readOrder l = some read
  target_eq : call.target = statusReverse status
  edge : Edge read.status status
  pending : ∃ order logId log, l.pending = [(.order id, .order (setStatus call.now status order)),
    (.statusLog logId, .statusLog log)] ∧ d.get? (.statusLog logId) = none

/-- The contract of a call. -/
def statusContract (call : StatusCall) : Contract OmsKey OmsRow ServiceError where
  rely := OrdersStay
  guar l d _ := ∃ id read status, StatusWrites call l d id read status
  exc _ _ _ := True
  mayFail := True

instance (call : StatusCall) : (statusContract call).Preordered where
  refl _ _ h := h
  trans _ _ _ h h' key hkey := h' key (h key hkey)

theorem orderAt_ne_none_iff {d : OmsDb} {key : OmsKey} :
    orderAt d key ≠ none ↔ ∃ order, d.get? key = some (.order order) := by
  constructor
  · intro h
    obtain ⟨order, horder⟩ := Option.ne_none_iff_exists'.1 h
    exact ⟨order, get?_of_orderAt horder⟩
  · rintro ⟨order, h⟩
    simp [orderAt, h, OmsRow.order?]

/-- After its commit a call only reads. -/
theorem safe_afterCommit (call : StatusCall) (id : Uuid) (l : Local OmsKey OmsRow) (d : OmsDb) :
    Safe (statusContract call) (fun _ _ _ => True)
      ((refreshOrder id).bind fun order => orderToDict order order.totalAmount) l d :=
  Safe.reads ((reads_refreshOrder id).bind fun _ => reads_orderToDict _ _)
    (I := fun _ _ => True) (fun _ _ _ _ _ => trivial) (fun _ _ _ _ _ => trivial)
    (fun _ _ _ _ => trivial) (fun _ _ _ _ _ _ => trivial) trivial

/-- **What a call commits**, whatever the other calls do. -/
theorem safe_updateOrderStatus (call : StatusCall) (d : OmsDb) :
    Safe (statusContract call) (fun _ _ _ => True) call.prog .start d := by
  unfold StatusCall.prog updateOrderStatus toUuid
  cases hid : call.orderId.uuid? with
  | none => exact fun _ _ => trivial
  | some id =>
    intro d₁ henv₁
    simp only [Prog.ret_bind, Prog.pure_eq, Prog.bind_eq, Txn.overlay_nil, Local.start,
      findSome?_select_order]
    cases hread : orderAt d₁ (.order id) with
    | none => exact fun _ _ => trivial
    | some read =>
      simp only
      cases hvalid : validateTransition (statusReverse read.status) call.target with
      | error e => exact fun _ _ => trivial
      | ok _ =>
        obtain ⟨status, hstatus, htarget⟩ :=
          exists_statusMap_of_mem_allowed (validateTransition_eq_ok_iff.1 hvalid)
        have hedge := edge_of_validateTransition hvalid
        rw [hstatus, Option.getD_some] at hedge ⊢
        -- the `UPDATE` finds an order, and locks it
        intro d₂ henv₂
        refine ⟨fun _ => fun _ _ => trivial, fun row hrow => ⟨fun _ => ?_, fun h => by cases h⟩⟩
        have hstay := henv₂.1 (.order id) (by rw [hread]; exact Option.some_ne_none _)
        obtain ⟨order, horder⟩ := orderAt_ne_none_iff.1 hstay
        obtain rfl : row = .order order := Option.some.inj (hrow.symm.trans horder)
        -- the `INSERT` of the log locks its key
        intro logId d₃ henv₃
        refine ⟨fun hfree => ?_, fun row' _ => fun _ _ => trivial⟩
        intro d₄ henv₄
        refine ⟨⟨id, read, status, hid, ?_, htarget.symm, hedge, order, logId, _, rfl, ?_⟩,
          safe_afterCommit call id _ _, fun _ => fun _ _ => trivial⟩
        · simp [readOrder, Local.see, Local.write, findSome?_select_order, hread]
        · have hlocked := henv₄.2 (.statusLog logId) (by simp [Local.locks, Local.see, Local.write])
          rw [hlocked]
          rw [Txn.get?_overlay_of_notMem (by simp [Local.see, Local.write])] at hfree
          exact hfree

/-! ### Runs -/

section Run

variable {call : StatusCall} {l : Local OmsKey OmsRow} {d : OmsDb} {id : Uuid} {read : Order}
  {status : OrderStatus}

/-- The orders after the commit of a call. -/
theorem StatusWrites.orderAt (h : StatusWrites call l d id read status) : ∃ order : Order,
    order.status = status ∧ ∀ key, orderAt (Txn.overlay d l.pending) key =
      if .order id = key then some order else orderAt d key := by
  obtain ⟨order, logId, log, hpending, hfree⟩ := h.pending
  refine ⟨setStatus call.now status order, rfl, fun key => ?_⟩
  rw [hpending]
  change Oms.orderAt ((d.set _ _).set _ _) key = _
  rw [orderAt_set]
  split_ifs with hlog horder horder
  · subst hlog
    cases horder
  · subst hlog
    rw [Oms.orderAt, hfree]
    rfl
  · rw [orderAt_set, if_pos horder]
    rfl
  · rw [orderAt_set, if_neg horder]

/-- A commit keeps the lifecycle exactly when it finds a status from which the new one can be
entered, or the new one. -/
theorem StatusWrites.lifecycleStep_iff (h : StatusWrites call l d id read status) :
    LifecycleStep d (Txn.overlay d l.pending) ↔ ∀ order, Oms.orderAt d (.order id) = some order →
      order.status = read.status ∨ order.status = status ∨
        status = .cancelled ∧ ¬ Terminal order.status := by
  obtain ⟨order', hstatus, horders⟩ := h.orderAt
  -- which statuses lead to the new one, given that the one that was read does
  have hedge (order : Order) : status = order.status ∨ Edge order.status status ↔
      order.status = read.status ∨ order.status = status ∨
        status = .cancelled ∧ ¬ Terminal order.status := by
    rw [edge_iff_of_edge h.edge, eq_comm]
    tauto
  constructor
  · intro hstep order horder
    obtain ⟨order'', horder'', hcases⟩ := hstep _ order horder
    rw [horders, if_pos rfl] at horder''
    cases horder''
    rw [hstatus] at hcases
    exact (hedge order).1 hcases
  · intro hall key order horder
    by_cases hkey : .order id = key
    · subst hkey
      refine ⟨order', by rw [horders, if_pos rfl], ?_⟩
      rw [hstatus]
      exact (hedge order).2 (hall order horder)
    · exact ⟨order, by rw [horders, if_neg hkey]; exact horder, .inl rfl⟩

variable {P : Type} [DecidableEq P]

/-- What holds of all calls in every state of a run. -/
def StatusInv (calls : P → StatusCall) (s : StatusState P) : Prop :=
  Txn.Exclusive s ∧
    Txn.AllSafe (fun p => statusContract (calls p)) (fun _ _ _ _ => True) s

omit [DecidableEq P] in
theorem compatible_status (calls : P → StatusCall) :
    Txn.Compatible fun p => statusContract (calls p) := by
  rintro p q - l d ⟨id, read, status, h⟩ key hkey
  obtain ⟨order, -, horders⟩ := h.orderAt
  rw [horders]
  split_ifs
  · exact Option.some_ne_none _
  · exact hkey

theorem statusInv_step {calls : P → StatusCall} {s s' : StatusState P} {label : Txn.Label P}
    (hs : StatusInv calls s) (h : Txn.system.step s label s') : StatusInv calls s' :=
  ⟨Txn.exclusive_step hs.1 h,
    Txn.allSafe_step (compatible_status calls) (fun _ => trivial) hs.1 hs.2 h⟩

omit [DecidableEq P] in
theorem statusInv_start (d : OmsDb) (calls : P → StatusCall) :
    StatusInv calls (statusStart d calls) :=
  ⟨Txn.exclusive_start _ _, fun p => safe_updateOrderStatus (calls p) d⟩

/-- **A step keeps the lifecycle exactly when its commit is on time.** -/
theorem statusStep_iff {calls : P → StatusCall} {s s' : StatusState P} {label : Txn.Label P}
    (hs : StatusInv calls s) (h : Txn.system.step s label s') :
    LifecycleStep s.db s'.db ↔ CommitOnTime calls s label := by
  cases label with
  | fail p =>
    obtain ⟨next, -, rfl⟩ := h
    exact ⟨fun _ => trivial, fun _ => .refl _⟩
  | run p n =>
    obtain ⟨-, rfl⟩ := h
    by_cases hcommit : ∃ next, (s.procs p).prog = .commit next
    · obtain ⟨next, hprog⟩ := hcommit
      obtain ⟨id, read, status, hwrites⟩ := hs.2.guar hprog
      rw [Txn.State.update, Txn.Proc.next_commit hprog, hwrites.lifecycleStep_iff]
      have htarget (order : Order) :
          statusMap (calls p).target = some order.status ↔ order.status = status := by
        rw [hwrites.target_eq, statusMap_statusReverse, Option.some_inj, eq_comm]
      have hcancel : (calls p).target = "cancelled" ↔ status = .cancelled := by
        rw [hwrites.target_eq]
        cases status <;> decide
      constructor
      · intro hall id' order read' _ hid horder hread
        rw [hwrites.id_eq] at hid
        cases hid
        rw [hwrites.read_eq] at hread
        cases hread
        rw [htarget, hcancel]
        exact hall order horder
      · intro hontime order horder
        have := hontime id order read ⟨next, hprog⟩ hwrites.id_eq horder hwrites.read_eq
        rwa [htarget, hcancel] at this
    · rcases Txn.Proc.next_db s.db n (s.procs p) with hdb | ⟨next, hprog, -⟩
      · rw [Txn.State.update, hdb]
        exact ⟨fun _ _ _ _ h => absurd h hcommit, fun _ => .refl _⟩
      · exact absurd ⟨next, hprog⟩ hcommit

/-- **A run of any number of calls keeps the lifecycle at every step exactly when every commit is on
time**, and then a terminal status that has been committed is never replaced. -/
theorem statusRun_iff (d : OmsDb) (calls : P → StatusCall) (labels : List (Txn.Label P))
    (s : StatusState P) :
    ((Txn.system.restrict fun s _ s' => LifecycleStep s.db s'.db).Run (statusStart d calls) labels s
      ↔ (Txn.system.guard (CommitOnTime calls)).Run (statusStart d calls) labels s) ∧
    ((Txn.system.guard (CommitOnTime calls)).Run (statusStart d calls) labels s →
      ∀ key order, orderAt d key = some order → Terminal order.status →
        ∃ order', orderAt s.db key = some order' ∧ order'.status = order.status) := by
  have hiff : (Txn.system.restrict fun s _ s' => LifecycleStep s.db s'.db).Run
      (statusStart d calls) labels s ↔
        (Txn.system.guard (CommitOnTime calls)).Run (statusStart d calls) labels s :=
    Lts.Run.restrict_iff_guard (I := StatusInv calls)
      (fun _ _ _ hs hstep _ => statusInv_step hs hstep)
      (fun _ _ _ hs hstep => statusStep_iff hs hstep) (statusInv_start d calls)
  refine ⟨hiff, fun hrun key order horder hterminal => ?_⟩
  have hpath : StatusPath d s.db :=
    (hiff.2 hrun).relation (R := fun s s' => StatusPath s.db s'.db) (fun s => .refl s.db)
      (fun s t u (h : StatusPath s.db t.db) (h' : StatusPath t.db u.db) => h.trans h')
      fun _ _ _ hstep => hstep.2.statusPath
  obtain ⟨order', horder', hpath⟩ := hpath key order horder
  exact ⟨order', horder', eq_of_terminal hterminal hpath⟩

end Run

/-! ### Three calls -/

/-- A draft. -/
def draftOrder : Order := { cancelledOrder with status := .pending }

/-- The cancelled order, and a draft beside it. -/
def besideDb : OmsDb := cancelledDb.set (.order 2) (.order { draftOrder with id := 2 })

/-- The draft is confirmed, and cancelled; the cancelled order is confirmed. -/
def threeCalls : Fin 3 → StatusCall
  | 0 => ⟨6, ⟨"2", some 2⟩, "confirmed"⟩
  | 1 => ⟨7, ⟨"2", some 2⟩, "cancelled"⟩
  | 2 => ⟨9, ⟨"1", some 1⟩, "confirmed"⟩

/-- A statement of a call that finds its order as `CommitOnTime` asks. -/
def onTime (s : StatusState (Fin 3)) (step : Fin 3 × ℕ) : Option (StatusState (Fin 3)) :=
  if s.Unblocked step.1 ∧ ∀ id ∈ (threeCalls step.1).orderId.uuid?,
      ∀ order ∈ orderAt s.db (.order id), ∀ read ∈ readOrder (s.procs step.1).loc,
        order.status = read.status ∨ statusMap (threeCalls step.1).target = some order.status ∨
          (threeCalls step.1).target = "cancelled" ∧ ¬ Terminal order.status then
    some (s.update step.1 ((s.procs step.1).next s.db step.2))
  else none

/-- Two calls read the draft; one confirms it and the other one cancels it then.  The third call is
refused. -/
def draftTwice : List (Fin 3 × ℕ) :=
  [(0, 0), (1, 0), (0, 0), (0, 8), (0, 0), (0, 0), (2, 0), (1, 0), (1, 9), (1, 0), (1, 0), (2, 0)]

/-- **Two commits on one draft**, the second of which has read an older status and cancels: every step
keeps the lifecycle, and the cancelled order stays cancelled. -/
theorem besideDb_keeps_lifecycle : ∃ labels s,
    (Txn.system.restrict fun s _ s' => LifecycleStep s.db s'.db).Run
      (statusStart besideDb threeCalls) labels s ∧
    (s.procs 0).loc.commits.length = 1 ∧ (s.procs 1).loc.commits.length = 1 ∧
    (orderAt s.db (.order 2)).map Order.status = some .cancelled ∧
    ∃ order', orderAt s.db (.order 1) = some order' ∧ order'.status = .cancelled := by
  have hschedule : ((Lts.runNext onTime (statusStart besideDb threeCalls) draftTwice).map fun s =>
      ((s.procs 0).loc.commits.length, (s.procs 1).loc.commits.length,
        (orderAt s.db (.order 2)).map Order.status)) = some (1, 1, some .cancelled) := by
    decide +kernel
  obtain ⟨s, hrun, hs⟩ := Lts.exists_run_of_map hschedule
  simp only [Prod.mk.injEq] at hs
  have hguard : (Txn.system.guard (CommitOnTime threeCalls)).Run (statusStart besideDb threeCalls)
      (draftTwice.map fun step => .run step.1 step.2) s := by
    refine hrun.map fun s step s' hstep => ?_
    unfold Lts.ofNext onTime at hstep
    obtain ⟨⟨hfree, hon⟩, hs'⟩ := Option.ite_none_right_eq_some.1 hstep
    cases hs'
    exact ⟨⟨hfree, rfl⟩, fun id order read _ hid horder hread => hon id hid order horder read hread⟩
  have hiff := statusRun_iff besideDb threeCalls
    (draftTwice.map fun step => .run step.1 step.2) s
  exact ⟨_, s, hiff.1.2 hguard, hs.1, hs.2.1, hs.2.2,
    hiff.2 hguard (.order 1) cancelledOrder rfl (by decide)⟩

/-! ### A draft that is cancelled and confirmed -/

/-- The draft alone. -/
def draftDb : OmsDb := Dict.empty.set (.order 1) (.order draftOrder)

/-- One call cancels the draft, another one confirms it. -/
def cancelAndConfirm : Bool → StatusCall
  | true => ⟨6, ⟨"1", some 1⟩, "cancelled"⟩
  | false => ⟨7, ⟨"1", some 1⟩, "confirmed"⟩

/-- Both read the draft; the first commits, and then the second. -/
def readBoth : List (Bool × ℕ) :=
  [(true, 0), (false, 0), (true, 0), (true, 8), (true, 0), (true, 0)]

/-- The rest of the second call. -/
def commitSecond : List (Bool × ℕ) := [(false, 0), (false, 9), (false, 0), (false, 0)]

/-- **A cancelled order comes back to life**: the calls commit the statuses `cancelled` and
`confirmed`, one after the other. -/
theorem draftDb_cancelled_then_confirmed : ∃ s s',
    Txn.system.Run (statusStart draftDb cancelAndConfirm)
      (readBoth.map fun step => .run step.1 step.2) s ∧
    Txn.system.Run s (commitSecond.map fun step => .run step.1 step.2) s' ∧
    (orderAt s.db (.order 1)).map Order.status = some .cancelled ∧
    (orderAt s'.db (.order 1)).map Order.status = some .confirmed ∧
    Terminal .cancelled ∧ ¬ Edge .cancelled .confirmed := by
  have hstatuses : ((statusStart draftDb cancelAndConfirm).schedule readBoth).bind (fun s =>
      (s.schedule commitSecond).map fun s' => ((orderAt s.db (.order 1)).map Order.status,
        (orderAt s'.db (.order 1)).map Order.status)) =
      some (some .cancelled, some .confirmed) := by decide +kernel
  obtain ⟨s, hs, h⟩ := Option.bind_eq_some_iff.1 hstatuses
  obtain ⟨s', hs', h⟩ := Option.map_eq_some_iff.1 h
  rw [Prod.mk.injEq] at h
  exact ⟨s, s', Txn.State.run_schedule hs, Txn.State.run_schedule hs', h.1, h.2, by decide,
    by decide⟩

end Oms

end OmsWmsTms
