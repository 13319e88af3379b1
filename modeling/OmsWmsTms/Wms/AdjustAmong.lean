import OmsWmsTms.Wms.NoLostUpdate

/-!
# An adjustment among other programs

One call of `adjust_inventory` runs concurrently with programs of which only the way in which they
change rows is known.

* `writerContract` : the contract of a program that changes rows along a relation.
* `Among` : what holds in every state of a run; `among_step` keeps it.
* `Among.commit` : what the call commits.
-/

namespace OmsWmsTms

namespace Wms

open Txn (Contract Safe Keeps)

/-- The contract of a program that changes rows along a relation. -/
def writerContract (rel : WmsRow → WmsRow → Prop) : Contract WmsKey WmsRow ServiceError where
  rely := Keeps Steady
  guar _ := Keeps rel
  exc _ _ _ := True
  mayFail := True

instance (rel : WmsRow → WmsRow → Prop) : (writerContract rel).Preordered where
  refl := .refl
  trans _ _ _ h h' := h.trans h'

section Among

variable {Q A : Type}

/-- Programs that change rows along a relation. -/
def Writers (rel : WmsRow → WmsRow → Prop) (d : WmsDb) (others : Q → WmsProg A) : Prop :=
  ∀ q, Safe (writerContract rel) (fun _ _ _ => True) (others q) .start d

/-- Calls of `adjust_inventory` advance the versions of the rows that they change. -/
theorem writers_adjust (rt : Runtime) (d : WmsDb) (calls : Q → AdjustCall)
    (answer : InventoryDict → A) :
    Writers Advances d fun q => ((calls q).prog rt).map answer := by
  intro q
  have hsafe : Safe (adjustContract rt (calls q).now (calls q).data) (fun _ _ _ => True)
      ((calls q).prog rt) .start d :=
    (safe_adjustInventory rt (calls q).now (calls q).data d).mono fun _ _ _ _ => trivial
  refine Safe.map (Q := fun _ => True) (hsafe.weaken (fun _ _ h => h) (fun l d h => ?_)
    (fun _ _ _ _ => trivial) fun h => h)
  obtain ⟨-, -, ⟨c⟩⟩ := h
  exact c.keeps_advances

/-- A call of `adjust_inventory` and other programs. -/
def among (rt : Runtime) (call : AdjustCall) (answer : InventoryDict → A) (others : Q → WmsProg A) :
    Option Q → WmsProg A
  | none => (call.prog rt).map answer
  | some q => others q

/-- Their contracts. -/
def amongContract (rt : Runtime) (call : AdjustCall) (rel : WmsRow → WmsRow → Prop) :
    Option Q → Contract WmsKey WmsRow ServiceError
  | none => adjustContract rt call.now call.data
  | some _ => writerContract rel

instance (rt : Runtime) (call : AdjustCall) (rel : WmsRow → WmsRow → Prop) (p : Option Q) :
    (amongContract rt call rel p).Preordered :=
  match p with
  | none => inferInstanceAs (adjustContract rt call.now call.data).Preordered
  | some _ => inferInstanceAs (writerContract rel).Preordered

/-- A state of the call and the other programs. -/
abbrev AmongState (Q A : Type) := Txn.State (Option Q) WmsKey WmsRow ServiceError A

/-- What holds of the programs in every state of a run. -/
structure Among (rt : Runtime) (call : AdjustCall) (rel : WmsRow → WmsRow → Prop)
    (s : AmongState Q A) : Prop where
  exclusive : Txn.Exclusive s
  safe : Txn.AllSafe (amongContract rt call rel) (fun p _ l _ => p = none → adjustPost l) s

variable {rt : Runtime} {call : AdjustCall} {rel : WmsRow → WmsRow → Prop} {d : WmsDb}
  {answer : InventoryDict → A} {others : Q → WmsProg A} {s s' : AmongState Q A}
  {label : Txn.Label (Option Q)}

theorem among_start (hothers : Writers rel d others) :
    Among rt call rel (.start d (among rt call answer others)) where
  exclusive := Txn.exclusive_start _ _
  safe p := by
    cases p with
    | none =>
      exact ((safe_adjustInventory rt call.now call.data d).mono fun _ _ _ h _ => h).map
        (Q := fun l => none = none → adjustPost l)
    | some q => exact (hothers q).mono fun _ _ _ _ h => (nomatch h)

/-- When the call commits. -/
theorem Among.commit (hs : Among rt call rel s) {next : Bool → WmsProg A}
    (hprog : (s.procs none).prog = .commit next) :
    (s.procs none).loc.commits = [] ∧ (s.procs none).loc.rollbacks < maxRetries ∧
      Nonempty (AdjustCommit rt call.now call.data (s.procs none).loc s.db) :=
  hs.safe.guar hprog

variable [DecidableEq Q]

theorem among_step (hrel : ∀ row row', rel row row' → Steady row row')
    (hs : Among rt call rel s) (h : Txn.system.step s label s') : Among rt call rel s' where
  exclusive := Txn.exclusive_step hs.exclusive h
  safe := by
    refine Txn.allSafe_step (fun p q _ l d hguar => ?_) (fun p => ?_) hs.exclusive hs.safe h
    · have hsteady : Keeps Steady d (Txn.overlay d l.pending) := by
        cases p with
        | none =>
          obtain ⟨-, -, ⟨c⟩⟩ := hguar
          exact c.keeps_advances.mono fun _ _ => Advances.steady
        | some _ => exact Keeps.mono hguar hrel
      cases q <;> exact hsteady
    · cases p <;> trivial

/-- A step changes rows along the relation. -/
theorem Among.keeps (hadvances : ∀ row row', Advances row row' → rel row row')
    [Std.Refl rel] (hs : Among rt call rel s) (h : Txn.system.step s label s') :
    Keeps rel s.db s'.db := by
  rcases Txn.system_db h with hdb | ⟨p, next, n, hprog, hdb, -⟩
  · rw [hdb]
    exact .refl _
  · rw [hdb]
    cases p with
    | none =>
      obtain ⟨-, -, ⟨c⟩⟩ := hs.commit hprog
      exact c.keeps_advances.mono hadvances
    | some q => exact hs.safe.guar hprog

end Among

end Wms

end OmsWmsTms
