import Mathlib
import LinearSystems.Proofs.Elimination.RowSpace

/-!
# Solutions and the row space

A point solves a system when every equation holds at it.  How far a line is from holding at a point
is linear in the line (`Line.residual`), so the solutions depend on the row space only
(`Tableau.solutions_eq_of_rowSpace_eq`), and so does the null space of the coefficients
(`Tableau.ker_eq_of_rowSpace_eq`).
-/

namespace LinearSystems

variable {m n d : Nat}

/-- The table as a matrix. -/
def Grid.toMatrix (g : Grid ℚ m d) : Matrix (Fin m) (Fin d) ℚ := Matrix.of g.entry

/-- The points `x` with `A x = b`. -/
def solutionSet (A : Grid ℚ m d) (b : Vector ℚ m) : Set (Fin d → ℚ) :=
  {x | A.toMatrix.mulVec x = b.get}

namespace Line

/-- The equation holds at the point. -/
def Holds (l : Line ℚ d) (x : Fin d → ℚ) : Prop := l.1 ⬝ᵥ x = l.2

/-- The left side of the equation at the point, as a function of the line. -/
def leftSide (x : Fin d → ℚ) : Line ℚ d →ₗ[ℚ] ℚ where
  toFun l := l.1 ⬝ᵥ x
  map_add' l l' := add_dotProduct l.1 l'.1 x
  map_smul' c l := smul_dotProduct c l.1 x

/-- By how much the left side exceeds the offset at the point. -/
def residual (x : Fin d → ℚ) : Line ℚ d →ₗ[ℚ] ℚ := leftSide x - LinearMap.snd ℚ (Fin d → ℚ) ℚ

theorem residual_apply (x : Fin d → ℚ) (l : Line ℚ d) : residual x l = l.1 ⬝ᵥ x - l.2 :=
  rfl

theorem holds_iff {l : Line ℚ d} {x : Fin d → ℚ} : l.Holds x ↔ residual x l = 0 := by
  rw [residual_apply, sub_eq_zero]
  exact Iff.rfl

end Line

namespace Tableau

/-- The points at which every line holds. -/
def solutions (t : Tableau ℚ m d) : Set (Fin d → ℚ) := {x | ∀ i, (t.line i).Holds x}

theorem solutions_mk (A : Grid ℚ m d) (b : Vector ℚ m) :
    solutions ⟨A, b⟩ = solutionSet A b := by
  ext x
  constructor
  · intro h
    funext i
    exact h i
  · intro h i
    exact congrFun h i

theorem mem_solutions_iff {t : Tableau ℚ m d} {x : Fin d → ℚ} :
    x ∈ t.solutions ↔ t.rowSpace ≤ LinearMap.ker (Line.residual x) := by
  rw [rowSpace_le_iff]
  exact forall_congr' fun i => Line.holds_iff.trans LinearMap.mem_ker.symm

theorem solutions_eq_of_rowSpace_eq {t : Tableau ℚ m d} {u : Tableau ℚ n d}
    (h : t.rowSpace = u.rowSpace) : t.solutions = u.solutions := by
  ext x
  rw [mem_solutions_iff, mem_solutions_iff, h]

theorem mem_ker_iff {t : Tableau ℚ m d} {x : Fin d → ℚ} :
    x ∈ LinearMap.ker t.rows.toMatrix.mulVecLin ↔
      t.rowSpace ≤ LinearMap.ker (Line.leftSide x) := by
  rw [rowSpace_le_iff, LinearMap.mem_ker]
  exact funext_iff

theorem ker_eq_of_rowSpace_eq {t : Tableau ℚ m d} {u : Tableau ℚ n d}
    (h : t.rowSpace = u.rowSpace) :
    LinearMap.ker t.rows.toMatrix.mulVecLin = LinearMap.ker u.rows.toMatrix.mulVecLin := by
  ext x
  rw [mem_ker_iff, mem_ker_iff, h]

end Tableau

end LinearSystems
