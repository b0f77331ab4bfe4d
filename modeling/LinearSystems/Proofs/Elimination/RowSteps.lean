import Mathlib
import LinearSystems.Proofs.Elimination.Solutions

/-!
# Single steps in any order

The passes are made of seven kinds of steps, the row operations and the eliminations.  Here they are
performed one by one, in any order and at any place of a tableau, which need be no echelon form.
A step that would scale a row by zero or use a row against itself loses an equation; every other
step keeps the row space (`RowStep.rowSpace_perform`), and one that fails leaves everything as it
was.  So **no sequence of the others changes the solutions** (`RowStep.solutionSet_performAll`).

The early returns are harmless because the elimination that does not happen adds no multiple.  The
overwritten entries are harmless because the arithmetic is exact: the number that is written is the
one that stood there.
-/

namespace LinearSystems

variable {K : Type} {m d : Nat}

/-- A single step of an elimination. -/
inductive RowStep (K : Type) (m d : Nat) where
  | swap (first second : Fin m)
  | scale (scalar : K) (row : Fin m)
  | addMultiple (scalar : K) (source target : Fin m)
  | eliminateIn (column : Fin d) (source target : Fin m)
  | eliminateBelow (row : Fin m) (column : Fin d)
  | eliminateAbove (row : Fin m) (column : Fin d)
  | scalePivotToOne (row : Fin m) (column : Fin d)

namespace RowStep

/-- The step does not scale by zero and does not use a row against itself. -/
def IsReversible [Zero K] : RowStep K m d → Prop
  | scale scalar _ => scalar ≠ 0
  | addMultiple _ source target => source ≠ target
  | eliminateIn _ source target => source ≠ target
  | swap .. | eliminateBelow .. | eliminateAbove .. | scalePivotToOne .. => True

variable [Scalar K]

/-- What the step makes of a tableau. -/
def apply (tolerance : K) (t : Tableau K m d) : RowStep K m d → Except (Fault K) (Tableau K m d)
  | swap first second => .ok (t.swap first second)
  | scale scalar row => .ok (t.scale scalar row)
  | addMultiple scalar source target => .ok (t.addMultiple scalar source target)
  | eliminateIn column source target => .ok (t.eliminateIn tolerance column source target)
  | eliminateBelow row column => .ok (t.eliminateBelow tolerance row column)
  | eliminateAbove row column => .ok (t.eliminateAbove tolerance row column)
  | scalePivotToOne row column => t.scalePivotToOne tolerance row column

/-- The answer of a step, and the elimination after it.  A step that fails leaves it as it was. -/
def perform (e : Elimination K m d) (step : RowStep K m d) :
    Except (Fault K) Unit × Elimination K m d :=
  match step.apply e.tolerance e.tableau with
  | .error fault => (.error fault, e)
  | .ok t => (.ok (), { e with tableau := t })

/-- The elimination after these steps, one after the other and whether or not they fail. -/
def performAll (e : Elimination K m d) (steps : List (RowStep K m d)) : Elimination K m d :=
  steps.foldl (fun e step => (perform e step).2) e

theorem tolerance_perform (e : Elimination K m d) (step : RowStep K m d) :
    (perform e step).2.tolerance = e.tolerance := by
  rw [perform]
  split <;> rfl

/-! ## In exact arithmetic -/

variable {τ : ℚ}

theorem rowSpace_apply (hτ : 0 < τ) {t u : Tableau ℚ m d} {step : RowStep ℚ m d}
    (hstep : step.IsReversible) (h : step.apply τ t = .ok u) : u.rowSpace = t.rowSpace := by
  cases step with
  | swap first second =>
      obtain rfl := Except.ok.inj h
      exact Tableau.rowSpace_swap first second t
  | scale scalar row =>
      obtain rfl := Except.ok.inj h
      exact Tableau.rowSpace_scale hstep row t
  | addMultiple scalar source target =>
      obtain rfl := Except.ok.inj h
      exact Tableau.rowSpace_addMultiple scalar hstep t
  | eliminateIn column source target =>
      obtain rfl := Except.ok.inj h
      exact Tableau.rowSpace_eliminateIn hτ column hstep t
  | eliminateBelow row column =>
      obtain rfl := Except.ok.inj h
      exact Tableau.rowSpace_eliminateBelow hτ row column t
  | eliminateAbove row column =>
      obtain rfl := Except.ok.inj h
      exact Tableau.rowSpace_eliminateAbove hτ row column t
  | scalePivotToOne row column => exact Tableau.rowSpace_scalePivotToOne hτ h

/-- **A step keeps the row space**, whether or not it fails. -/
theorem rowSpace_perform {e : Elimination ℚ m d} (hτ : 0 < e.tolerance) {step : RowStep ℚ m d}
    (hstep : step.IsReversible) :
    (perform e step).2.tableau.rowSpace = e.tableau.rowSpace := by
  rw [perform]
  split
  · rfl
  · next t happly => exact rowSpace_apply hτ hstep happly

theorem rowSpace_performAll {steps : List (RowStep ℚ m d)}
    (hsteps : ∀ step ∈ steps, step.IsReversible) {e : Elimination ℚ m d} (hτ : 0 < e.tolerance) :
    (performAll e steps).tableau.rowSpace = e.tableau.rowSpace := by
  induction steps generalizing e with
  | nil => rfl
  | cons step steps ih =>
      obtain ⟨hstep, hsteps⟩ := List.forall_mem_cons.1 hsteps
      calc (performAll e (step :: steps)).tableau.rowSpace
          = (performAll (perform e step).2 steps).tableau.rowSpace := rfl
        _ = (perform e step).2.tableau.rowSpace :=
            ih hsteps (hτ.trans_eq (tolerance_perform e step).symm)
        _ = e.tableau.rowSpace := rowSpace_perform hτ hstep

/-- **No sequence of steps changes the solutions**, in any order and from any state, whether or not
the steps in it fail. -/
theorem solutionSet_performAll (e : Elimination ℚ m d) (hτ : 0 < e.tolerance)
    (steps : List (RowStep ℚ m d)) (hsteps : ∀ step ∈ steps, step.IsReversible) :
    solutionSet (performAll e steps).tableau.rows (performAll e steps).tableau.offsets =
      solutionSet e.tableau.rows e.tableau.offsets := by
  have hspace := rowSpace_performAll hsteps hτ
  exact (Tableau.solutions_mk _ _).symm.trans
    ((Tableau.solutions_eq_of_rowSpace_eq hspace).trans (Tableau.solutions_mk _ _))

/-- Two equations in which the second column is eliminated upwards before the rows change places.
The third step finds a pivot that reads as zero and fails, and the solution stays. -/
theorem solutionSet_performAll_of_failing_step :
    ∃ (e : Elimination ℚ 2 2) (steps : List (RowStep ℚ 2 2)),
      e.tableau = ⟨Grid.ofFn ![![2, 1], ![0.25, 1]], Vector.ofFn ![5, 1.5]⟩ ∧ e.tolerance = 0.5 ∧
      steps = [eliminateAbove 1 1, swap 0 1, scalePivotToOne 0 0, scale (-2) 0,
        scalePivotToOne 1 0] ∧
      (perform (performAll e (steps.take 2)) (scalePivotToOne 0 0)).1.toOption = none ∧
      (performAll e steps).tableau.line = ![(![-0.5, -2], -3), (![1, 0], 2)] ∧
      solutionSet (performAll e steps).tableau.rows (performAll e steps).tableau.offsets =
        solutionSet e.tableau.rows e.tableau.offsets := by
  refine ⟨⟨⟨Grid.ofFn ![![2, 1], ![0.25, 1]], Vector.ofFn ![5, 1.5]⟩, 0.5, [], none⟩,
    [eliminateAbove 1 1, swap 0 1, scalePivotToOne 0 0, scale (-2) 0, scalePivotToOne 1 0],
    rfl, rfl, rfl, by decide +kernel, by decide +kernel, ?_⟩
  exact solutionSet_performAll _ (by norm_num) _ (by simp [IsReversible])

end RowStep

end LinearSystems
