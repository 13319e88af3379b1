import OmsWmsTms.Core.Errors
import OmsWmsTms.Data.OrderBy

/-!
# The order state machine

`ORDER_STATES` and its companions in `src/oms/service.py`.  The state machine is written over the
names of the schema, in which a pending order is a `draft`; the status column holds `OrderStatus`.

* `orderStates` : `ORDER_STATES`.
* `validateTransition` : `validate_transition`.
* `Edge` : the transitions of the state machine, read through `STATUS_MAP`; `Terminal` : the
  statuses without one.
* `edge_of_validateTransition` : a transition that is validated is an edge.
* `edge_iff_of_edge` : two edges to one status start at one status, unless they cancel the order.
-/

namespace OmsWmsTms

namespace Oms

/-- `OrderStatus`. -/
inductive OrderStatus
  | pending | confirmed | processing | picking | completed | cancelled | failed
deriving DecidableEq

/-- The value of a status. -/
def OrderStatus.value : OrderStatus → String
  | pending => "pending"
  | confirmed => "confirmed"
  | processing => "processing"
  | picking => "picking"
  | completed => "completed"
  | cancelled => "cancelled"
  | failed => "failed"

/-- `ORDER_STATES`. -/
def orderStates : String → Option (List String)
  | "draft" => some ["confirmed", "cancelled"]
  | "confirmed" => some ["processing", "cancelled"]
  | "processing" => some ["picking", "cancelled"]
  | "picking" => some ["completed", "cancelled"]
  | "completed" => some []
  | "cancelled" => some []
  | "failed" => some []
  | _ => none

/-- `STATUS_MAP`. -/
def statusMap : String → Option OrderStatus
  | "draft" => some .pending
  | "confirmed" => some .confirmed
  | "processing" => some .processing
  | "picking" => some .picking
  | "completed" => some .completed
  | "cancelled" => some .cancelled
  | "failed" => some .failed
  | _ => none

/-- `STATUS_REVERSE`. -/
def statusReverse : OrderStatus → String
  | .pending => "draft"
  | .confirmed => "confirmed"
  | .processing => "processing"
  | .picking => "picking"
  | .completed => "completed"
  | .cancelled => "cancelled"
  | .failed => "failed"

/-- `ORDER_STATES.get(current, set())`. -/
def allowed (current : String) : List String := (orderStates current).getD []

/-- `validate_transition`. -/
def validateTransition (current target : String) : Except ServiceError Unit :=
  if target ∈ allowed current then .ok ()
  else
    let transitions :=
      if allowed current = [] then "none (terminal state)"
      else ", ".intercalate (orderBy (· ≤ ·) (allowed current))
    .error (.validation s!"Cannot transition from '{current}' to '{target}'"
      (some s!"Allowed transitions from '{current}': {transitions}"))

/-! ### The state machine on the status column -/

@[simp] theorem statusMap_statusReverse (s : OrderStatus) :
    statusMap (statusReverse s) = some s := by
  cases s <;> rfl

/-- An edge of the state machine. -/
def Edge (s t : OrderStatus) : Prop := statusReverse t ∈ allowed (statusReverse s)

instance (s t : OrderStatus) : Decidable (Edge s t) :=
  inferInstanceAs (Decidable (_ ∈ _))

/-- A status without an outgoing edge. -/
def Terminal (s : OrderStatus) : Prop := allowed (statusReverse s) = []

instance (s : OrderStatus) : Decidable (Terminal s) := inferInstanceAs (Decidable (_ = _))

/-- A terminal status is one that no edge leaves. -/
theorem terminal_iff {s : OrderStatus} : Terminal s ↔ ∀ t, ¬ Edge s t := by
  constructor
  · intro h t hedge
    rw [Edge, show allowed (statusReverse s) = [] from h] at hedge
    cases hedge
  · intro h
    by_contra hne
    -- a status that is not terminal can be cancelled
    have : Edge s .cancelled := by revert hne; cases s <;> decide
    exact h _ this

/-- Every target that is allowed is a name of `STATUS_MAP`. -/
theorem exists_statusMap_of_mem_allowed {s : OrderStatus} {target : String}
    (h : target ∈ allowed (statusReverse s)) :
    ∃ t, statusMap target = some t ∧ statusReverse t = target := by
  have hcases : target = "confirmed" ∨ target = "processing" ∨ target = "picking" ∨
      target = "completed" ∨ target = "cancelled" := by
    cases s <;> simp [allowed, orderStates, statusReverse] at h <;> tauto
  rcases hcases with rfl | rfl | rfl | rfl | rfl
  · exact ⟨.confirmed, rfl, rfl⟩
  · exact ⟨.processing, rfl, rfl⟩
  · exact ⟨.picking, rfl, rfl⟩
  · exact ⟨.completed, rfl, rfl⟩
  · exact ⟨.cancelled, rfl, rfl⟩

theorem validateTransition_eq_ok_iff {current target : String} :
    validateTransition current target = .ok () ↔ target ∈ allowed current := by
  unfold validateTransition
  split_ifs with h
  · simp [h]
  · simp [h]

/-- **A validated transition is an edge**, to the status that is written. -/
theorem edge_of_validateTransition {s : OrderStatus} {target : String}
    (h : validateTransition (statusReverse s) target = .ok ()) :
    Edge s ((statusMap target).getD .pending) := by
  have hmem := validateTransition_eq_ok_iff.1 h
  obtain ⟨t, ht, rfl⟩ := exists_statusMap_of_mem_allowed hmem
  rw [ht]
  exact hmem

/-- **A status other than `cancelled` is entered from one status only.** -/
theorem edge_iff_of_edge {s s' t : OrderStatus} (h : Edge s t) :
    Edge s' t ↔ s' = s ∨ t = .cancelled ∧ ¬ Terminal s' := by
  revert h
  cases s <;> cases t <;> cases s' <;> decide

end Oms

end OmsWmsTms
