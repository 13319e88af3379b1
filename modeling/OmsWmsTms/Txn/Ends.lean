import OmsWmsTms.Txn.Writes

/-!
# How a call ends

The weakest precondition of a program that runs alone, with a postcondition for what it returns and
one for the exceptions it raises.  An exception loses the writes of the open transaction, so its
postcondition is about the committed rows.

* `Ends post exc p d w` : the program returns with `post`, or raises with the committed rows in
  `exc`.
* `ends_bind` and the lemmas after it : the rules for composed programs and for statements.
* `Ends.run` : a call on a database.
-/

namespace OmsWmsTms

namespace Txn

variable {K R E A B : Type} [DecidableEq K] {exc : Dict K R → Prop}

/-- From the committed rows `d` and the rows `w` that the transaction sees, the program returns with
`post`, or raises with the committed rows in `exc`. -/
def Ends (post : A → Dict K R → Dict K R → Prop) (exc : Dict K R → Prop) :
    Prog K R E A → Dict K R → Dict K R → Prop
  | .ret a, d, w => post a d w
  | .throw _, d, _ => exc d
  | .fresh next, d, w => ∀ n, Ends post exc (next n) d w
  | .select query next, d, w => Ends post exc (next (select query w)) d w
  | .update key guard change next, d, w =>
    (w.get? key = none → Ends post exc (next false) d w) ∧ ∀ row, w.get? key = some row →
      (guard row = true → Ends post exc (next true) d (w.set key (change row))) ∧
      (guard row = false → Ends post exc (next false) d w)
  | .insert key row next, d, w =>
    (w.get? key = none → Ends post exc (next true) d (w.set key row)) ∧
    (w.get? key ≠ none → Ends post exc (next false) d w)
  | .commit next, d, w => Ends post exc (next true) w w ∧ Ends post exc (next false) d d
  | .rollback next, d, _ => Ends post exc next d d

section Rules

variable {post post' : A → Dict K R → Dict K R → Prop} {p : Prog K R E A} {d w : Dict K R}

theorem Ends.mono (h : Ends post exc p d w) (hpost : ∀ a d w, post a d w → post' a d w) :
    Ends post' exc p d w := by
  induction p generalizing d w with
  | ret a => exact hpost a d w h
  | throw e => exact h
  | fresh next ih => exact fun n => ih n (h n)
  | select query next ih => exact ih _ h
  | update key guard change next ih =>
    exact ⟨fun hnone => ih _ (h.1 hnone), fun row hrow =>
      ⟨fun hg => ih _ ((h.2 row hrow).1 hg), fun hg => ih _ ((h.2 row hrow).2 hg)⟩⟩
  | insert key row next ih => exact ⟨fun hnone => ih _ (h.1 hnone), fun hsome => ih _ (h.2 hsome)⟩
  | commit next ih => exact ⟨ih _ h.1, ih _ h.2⟩
  | rollback next ih => exact ih h

/-- **Programs in sequence.** -/
theorem ends_bind {postB : B → Dict K R → Dict K R → Prop} {f : A → Prog K R E B} :
    Ends postB exc (p.bind f) d w ↔ Ends (fun a d w => Ends postB exc (f a) d w) exc p d w := by
  induction p generalizing d w with
  | ret a => rfl
  | throw e => rfl
  | fresh next ih => exact forall_congr' fun n => ih n
  | select query next ih => exact ih _
  | update key guard change next ih =>
    exact and_congr (imp_congr_right fun _ => ih _) (forall_congr' fun row =>
      imp_congr_right fun _ => and_congr (imp_congr_right fun _ => ih _)
        (imp_congr_right fun _ => ih _))
  | insert key row next ih =>
    exact and_congr (imp_congr_right fun _ => ih _) (imp_congr_right fun _ => ih _)
  | commit next ih => exact and_congr (ih _) (ih _)
  | rollback next ih => exact ih

/-- **Programs without a commit**: what their writes preserve; an exception finds the committed rows
as they were. -/
theorem Ends.writes {ok : K → Option R → R → Prop} (hp : Writes False ok p) {I : Dict K R → Prop}
    (hI : ∀ w key row, I w → ok key (w.get? key) row → I (w.set key row)) (hd : exc d)
    (hw : I w) : Ends (fun _ d' w' => d = d' ∧ I w') exc p d w := by
  induction p generalizing w with
  | ret a => exact ⟨rfl, hw⟩
  | throw e => exact hd
  | fresh next ih => exact fun n => ih n (hp n) hw
  | select query next ih => exact ih _ (hp _) hw
  | update key guard change next ih =>
    refine ⟨fun _ => ih _ (hp.2 _) hw, fun row hrow =>
      ⟨fun hg => ih _ (hp.2 _) (hI w key _ hw ?_), fun _ => ih _ (hp.2 _) hw⟩⟩
    rw [hrow]
    exact hp.1 row hg
  | insert key row next ih =>
    refine ⟨fun hnone => ih _ (hp.2 _) (hI w key _ hw ?_), fun _ => ih _ (hp.2 _) hw⟩
    rw [hnone]
    exact hp.1
  | commit next => exact hp.1.elim
  | rollback next => exact hp.1.elim

end Rules

/-! ### Statements -/

section Statements

variable {d w : Dict K R}

@[simp] theorem ends_ret {post : A → Dict K R → Dict K R → Prop} {a : A} :
    Ends post exc (.ret a : Prog K R E A) d w ↔ post a d w := Iff.rfl

@[simp] theorem ends_throw {post : A → Dict K R → Dict K R → Prop} {e : E} :
    Ends post exc (.throw e : Prog K R E A) d w ↔ exc d := Iff.rfl

@[simp] theorem ends_query {post : List (K × R) → Dict K R → Dict K R → Prop} {q : Query K R} :
    Ends post exc (Prog.query q : Prog K R E _) d w ↔ post (select q w) d w := Iff.rfl

theorem ends_ofExcept {post : A → Dict K R → Dict K R → Prop} {x : Except E A} (hd : exc d)
    (h : ∀ a, x = .ok a → post a d w) : Ends post exc (Prog.ofExcept x : Prog K R E A) d w := by
  cases x with
  | error e => exact hd
  | ok a => exact h a rfl

theorem ends_commitOr {post : Unit → Dict K R → Dict K R → Prop} {e : E} (hd : exc d)
    (h : post () w w) : Ends post exc (Prog.commitOr e : Prog K R E Unit) d w := ⟨h, hd⟩

theorem ends_insertOr {post : Unit → Dict K R → Dict K R → Prop} {e : E} {key : K} {row : R}
    (hd : exc d) (h : w.get? key = none → post () d (w.set key row)) :
    Ends post exc (Prog.insertOr e key row : Prog K R E Unit) d w := ⟨h, fun _ => hd⟩

theorem ends_updateOr {post : Unit → Dict K R → Dict K R → Prop} {e : E} {key : K}
    {change : R → R} (hd : exc d)
    (h : ∀ row, w.get? key = some row → post () d (w.set key (change row))) :
    Ends post exc (Prog.updateOr e key change : Prog K R E Unit) d w :=
  ⟨fun _ => hd, fun row hrow => ⟨fun _ => h row hrow, fun hg => by cases hg⟩⟩

end Statements

/-! ### Runs -/

section Run

variable {post : A → Dict K R → Dict K R → Prop} {p : Prog K R E A} {d w : Dict K R}

theorem Ends.exec (h : Ends post exc p d w) (ids : ℕ → ℕ) :
    (∀ a, (p.exec ⟨d, w, ids⟩).1 = .ok a →
      post a (p.exec ⟨d, w, ids⟩).2.committed (p.exec ⟨d, w, ids⟩).2.working) ∧
    ∀ e, (p.exec ⟨d, w, ids⟩).1 = .error e → exc (p.exec ⟨d, w, ids⟩).2.committed := by
  induction p generalizing d w ids with
  | ret a =>
    refine ⟨fun a' ha => ?_, fun e he => by cases he⟩
    cases ha
    exact h
  | throw e =>
    refine ⟨fun a ha => ?_, fun _ _ => h⟩
    cases ha
  | fresh next ih => exact ih _ (h _) _
  | select query next ih => exact ih _ h _
  | update key guard change next ih =>
    cases hget : w.get? key with
    | none =>
      rw [Prog.exec_update_none (s := ⟨d, w, ids⟩) hget]
      exact ih _ (h.1 hget) _
    | some row =>
      rw [Prog.exec_update_some (s := ⟨d, w, ids⟩) hget]
      split
      · rename_i hg
        exact ih _ ((h.2 row hget).1 hg) _
      · rename_i hg
        exact ih _ ((h.2 row hget).2 (Bool.eq_false_iff.2 hg)) _
  | insert key row next ih =>
    cases hget : w.get? key with
    | none =>
      rw [Prog.exec_insert_none (s := ⟨d, w, ids⟩) hget]
      exact ih _ (h.1 hget) _
    | some row' =>
      rw [Prog.exec_insert_some (s := ⟨d, w, ids⟩) hget]
      exact ih _ (h.2 (by rw [hget]; exact Option.some_ne_none _)) _
  | commit next ih => exact ih true h.1 ids
  | rollback next ih => exact ih h _

/-- **A call on a database** returns with `post`, or raises with the committed rows in `exc`. -/
theorem Ends.run (h : Ends post exc p d d) (ids : ℕ → ℕ) :
    (∀ a, (p.run ids d).1 = .ok a → ∃ w, post a (p.run ids d).2 w) ∧
    ∀ e, (p.run ids d).1 = .error e → exc (p.run ids d).2 :=
  ⟨fun a ha => ⟨_, (h.exec ids).1 a ha⟩, (h.exec ids).2⟩

end Run

end Txn

end OmsWmsTms
