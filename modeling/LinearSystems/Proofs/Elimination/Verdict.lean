import Mathlib
import LinearSystems.Proofs.Elimination.RankTest
import LinearSystems.Proofs.Elimination.ReducedSystem
import LinearSystems.Proofs.Elimination.SmallTolerance

/-!
# The verdict at small tolerances

In reduced form the verdict can be read off the offsets of the rows without a pivot and the number
of pivots (`Tableau.describes_classify`).  For all small tolerances the two passes reach that form
and keep the solutions, so **the verdict counts the solutions of the system itself, and the reported
solution is its solution** (`Elimination.solve_classifies`).

How small is small depends on the system: no bound is stated.
-/

namespace LinearSystems

open Filter Topology

variable {m d : Nat}

/-- The kind is the right one for this set of solutions. -/
def SolutionKind.Describes : SolutionKind → Set (Fin d → ℚ) → Prop
  | .inconsistent, points => points = ∅
  | .unique, points => ∃ x, points = {x}
  | .infinite, points => points.Nontrivial

/-- The three kinds of sets exclude each other. -/
theorem SolutionKind.Describes.eq_iff {kind : SolutionKind} {points : Set (Fin d → ℚ)}
    (h : kind.Describes points) :
    (kind = .inconsistent ↔ points = ∅) ∧ (kind = .unique ↔ ∃ x, points = {x}) ∧
      (kind = .infinite ↔ points.Nontrivial) := by
  cases kind with
  | inconsistent =>
      obtain rfl : points = ∅ := h
      simp
  | unique =>
      obtain ⟨x, rfl⟩ := h
      simp
  | infinite =>
      have hnontrivial : points.Nontrivial := h
      have hnonempty : points ≠ ∅ := hnontrivial.nonempty.ne_empty
      have hmany : ¬ ∃ x, points = {x} := fun ⟨_, hx⟩ => hnontrivial.ne_singleton hx
      simp [hnontrivial, hnonempty, hmany]

namespace Tableau

variable {τ : ℚ}

/-- After cleaning an offset is significant or zero. -/
theorem le_abs_offset_clean_iff_ne_zero (hτ : 0 < τ) (t : Tableau ℚ m d) (i : Fin m) :
    τ ≤ |(t.clean τ).offset i| ↔ (t.clean τ).offset i ≠ 0 := by
  constructor
  · intro hle hzero
    rw [hzero, abs_zero] at hle
    exact absurd hτ (not_lt.2 hle)
  · intro hne
    rw [le_abs_offset_clean_iff hτ]
    by_contra hsmall
    apply hne
    rw [offset_clean, if_pos]
    exact Scalar.isSmall_rat_iff.2 (not_le.1 hsmall)

theorem isConsistent_gaussJordan_iff (hτ : 0 < τ) {t : Tableau ℚ m d}
    (hreduced : (t.gaussJordan τ).rows.IsReduced (Sweep.pivots τ t)) :
    (t.gaussJordan τ).isConsistent τ = true ↔
      ∀ i : Fin m, (Sweep.pivots τ t).length ≤ i → (t.gaussJordan τ).offset i = 0 := by
  have hrow (i : Fin m) : (∀ j, (t.gaussJordan τ).entry i j = 0) ↔
      (Sweep.pivots τ t).length ≤ i :=
    hreduced.row_eq_zero_iff
  have hoffset (i : Fin m) : τ ≤ |(t.gaussJordan τ).offset i| ↔ (t.gaussJordan τ).offset i ≠ 0 :=
    le_abs_offset_clean_iff_ne_zero hτ _ i
  have hfalse : (t.gaussJordan τ).isConsistent τ = false ↔
      ∃ i, (∀ j, (t.gaussJordan τ).entry i j = 0) ∧ τ ≤ |(t.gaussJordan τ).offset i| :=
    isConsistent_clean_eq_false_iff hτ _
  rw [← Bool.not_eq_false, hfalse]
  simp only [hrow, hoffset, not_exists, not_and, not_not]

/-- **In reduced form the verdict describes the solutions**, and a unique one is the pivot point. -/
theorem describes_classify (hτ : 0 < τ) {t : Tableau ℚ m d}
    (hreduced : (t.gaussJordan τ).rows.IsReduced (Sweep.pivots τ t)) :
    ((t.gaussJordan τ).classify τ (Sweep.pivots τ t).length).Describes
        (t.gaussJordan τ).solutions ∧
      ((t.gaussJordan τ).classify τ (Sweep.pivots τ t).length = .unique →
        (t.gaussJordan τ).solutions =
          {(pivotPoint (Sweep.pivots τ t) (t.gaussJordan τ).offsets).get}) := by
  have hconsistent := isConsistent_gaussJordan_iff hτ hreduced
  have hpoints : (t.gaussJordan τ).solutions =
      solutionSet (t.gaussJordan τ).rows (t.gaussJordan τ).offsets :=
    solutions_mk _ _
  have hlength := hreduced.length_add_length_freeColumns
  rw [hpoints, classify]
  cases hcase : (t.gaussJordan τ).isConsistent τ with
  | false =>
      have hempty : solutionSet (t.gaussJordan τ).rows (t.gaussJordan τ).offsets = ∅ := by
        rw [← Set.not_nonempty_iff_eq_empty, hreduced.nonempty_solutionSet_iff]
        intro hrest
        rw [hconsistent.2 hrest] at hcase
        cases hcase
      exact ⟨hempty, fun hkind => SolutionKind.noConfusion hkind⟩
  | true =>
      have hrest := hconsistent.1 hcase
      by_cases hlt : (Sweep.pivots τ t).length < d
      · simp only [Bool.not_true, Bool.false_eq_true, if_false, hlt, if_true]
        have hmany := hreduced.nontrivial_solutionSet hrest hlt
        exact ⟨hmany, fun hkind => SolutionKind.noConfusion hkind⟩
      · have hfull : (Sweep.pivots τ t).length = d := by omega
        have hsingle := hreduced.solutionSet_eq_singleton hrest hfull
        simp only [Bool.not_true, Bool.false_eq_true, if_false, hlt]
        exact ⟨⟨_, hsingle⟩, fun _ => hsingle⟩

end Tableau

/-- What holds for all small tolerances holds up to some positive one. -/
theorem exists_forall_of_eventually {P : ℚ → Prop} (h : ∀ᶠ τ in 𝓝[>] (0 : ℚ), P τ) :
    ∃ τ₀ : ℚ, 0 < τ₀ ∧ ∀ τ, 0 < τ → τ ≤ τ₀ → P τ := by
  obtain ⟨τ₀, hτ₀, hP⟩ := ((nhdsGT_basis_Ioc (0 : ℚ)).eventually_iff).1 h
  exact ⟨τ₀, hτ₀, fun τ hpos hle => hP ⟨hpos, hle⟩⟩

namespace Elimination

/-- For all small tolerances the report describes the solutions of the system it is about. -/
theorem eventually_describes (A : Grid ℚ m d) (b : Vector ℚ m) : ∀ᶠ τ in 𝓝[>] (0 : ℚ),
    (outcome τ ⟨A, b⟩).kind.Describes (solutionSet A b) ∧
      ((outcome τ ⟨A, b⟩).kind = .unique → solutionSet A b =
        {(pivotPoint (outcome τ ⟨A, b⟩).pivots (outcome τ ⟨A, b⟩).offsets).get}) := by
  filter_upwards [self_mem_nhdsWithin, Tableau.eventually_isReduced_gaussJordan ⟨A, b⟩,
    Tableau.eventually_solutions_gaussJordan ⟨A, b⟩] with τ hτ hreduced hsolutions
  have hdescribes := Tableau.describes_classify hτ hreduced
  rw [hsolutions, Tableau.solutions_mk] at hdescribes
  exact hdescribes

/-- **The verdict counts the solutions, for all small tolerances**, and the solution that is
reported with the verdict `unique` is the solution. -/
theorem solve_classifies (hd : 0 < d) (A : Grid ℚ m d) (b : Vector ℚ m) :
    ∃ τ₀ : ℚ, 0 < τ₀ ∧ ∀ τ, 0 < τ → τ ≤ τ₀ →
      ∃ s r, LinearSystem.ofArrays A b τ = .ok s ∧ (ofSystem s).solve.1 = .ok r ∧
        (r.kind = .inconsistent ↔ solutionSet A b = ∅) ∧
        (r.kind = .unique ↔ ∃ x, solutionSet A b = {x}) ∧
        (r.kind = .infinite ↔ (solutionSet A b).Nontrivial) ∧
        (r.kind = .unique →
          ∃ x, r.solution = some (Vec.column x τ) ∧ solutionSet A b = {x}) := by
  apply exists_forall_of_eventually
  filter_upwards [self_mem_nhdsWithin, eventually_describes A b] with τ hτ houtcome
  obtain ⟨hdescribes, hunique⟩ := houtcome
  obtain ⟨hinconsistent, hone, hmany⟩ := hdescribes.eq_iff
  exact ⟨_, _, LinearSystem.ofArrays_eq_ok hd A b hτ, solve_ofSystem hd hτ, hinconsistent, hone,
    hmany, fun hkind => ⟨_, if_pos hkind, hunique hkind⟩⟩

/-- Two crossing lines: every small tolerance gives the verdict `unique`. -/
theorem solve_classifies_crossing_lines :
    ∃ τ₀ : ℚ, 0 < τ₀ ∧ ∀ τ, 0 < τ → τ ≤ τ₀ →
      ∃ s r, LinearSystem.ofArrays (Grid.ofFn ![![1, 1], ![1, -1]]) (Vector.ofFn ![3, -1]) τ =
          .ok s ∧ (ofSystem s).solve.1 = .ok r ∧ r.kind = .unique ∧
        r.solution = some (Vec.column ![1, 2] τ) := by
  have hpoints : solutionSet (Grid.ofFn ![![1, 1], ![1, -1]]) (Vector.ofFn ![3, -1]) =
      {![1, 2]} := by
    ext x
    have hfirst : (Grid.ofFn ![![1, 1], ![1, -1]]).toMatrix.mulVec x 0 = x 0 + x 1 := by
      simp [Grid.toMatrix, Matrix.mulVec, dotProduct, Fin.sum_univ_two]
    have hsecond : (Grid.ofFn ![![1, 1], ![1, -1]]).toMatrix.mulVec x 1 = x 0 - x 1 := by
      simp [Grid.toMatrix, Matrix.mulVec, dotProduct, Fin.sum_univ_two, sub_eq_add_neg]
    constructor
    · intro hx
      have hsum : x 0 + x 1 = 3 := hfirst.symm.trans (congrFun hx 0)
      have hdifference : x 0 - x 1 = -1 := hsecond.symm.trans (congrFun hx 1)
      funext i
      match i with
      | 0 => show x 0 = 1; linarith
      | 1 => show x 1 = 2; linarith
    · rintro rfl
      funext i
      match i with
      | 0 => exact hfirst.trans (by decide +kernel)
      | 1 => exact hsecond.trans (by decide +kernel)
  obtain ⟨τ₀, hτ₀, hsolve⟩ := solve_classifies (d := 2) (by decide)
    (Grid.ofFn ![![1, 1], ![1, -1]]) (Vector.ofFn ![3, -1])
  refine ⟨τ₀, hτ₀, fun τ hτ hle => ?_⟩
  obtain ⟨s, r, hbuilt, hreport, -, hone, -, hsolution⟩ := hsolve τ hτ hle
  have hkind : r.kind = .unique := hone.2 ⟨_, hpoints⟩
  obtain ⟨x, hx, hsingle⟩ := hsolution hkind
  rw [hpoints] at hsingle
  obtain rfl := Set.singleton_injective hsingle
  exact ⟨s, r, hbuilt, hreport, hkind, hx⟩

end Elimination

end LinearSystems
