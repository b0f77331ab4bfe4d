import Mathlib
import LinearSystems.Proofs.Answers
import LinearSystems.Proofs.Elimination.Growth
import LinearSystems.Proofs.Parametrization.ExactReading

/-!
# When the numbers of a report are finite

The numbers that an elimination answers with are read off its reduced tableau, so a finite tableau
gives a finite report (`Elimination.exists_conclude_eq_ok`).  A tableau that overflowed on the way
gives no report at all, or one whose matrix or offsets are not finite: **finite numbers come out
exactly if the two passes end in finite numbers** (`Elimination.isFinite_iff_no_overflow`).

They do whenever the exponents, doubled once for each pivot, stay within the range of the floats.
They need not: `Elimination.overflow_of_finite_system`.
-/

namespace LinearSystems

open FloatingPoint

/-- No number of the tableau is infinite or undefined. -/
structure Tableau.IsFinite {K : Type} [Scalar K] {m d : Nat} (t : Tableau K m d) : Prop where
  entry : ∀ i j, Scalar.isFinite (t.entry i j) = true
  offset : ∀ i, Scalar.isFinite (t.offset i) = true

/-- No number of the report is infinite or undefined. -/
structure Report.IsFinite {K : Type} [Scalar K] {m d : Nat} (r : Report K m d) : Prop where
  tableau : Tableau.IsFinite ⟨r.rows, r.offsets⟩
  answer : r.HasFiniteAnswer

variable {m d : Nat}

/-- What is read off finite numbers is finite. -/
theorem isFinite_of_isRead {t : Tableau Float m d} (ht : t.IsFinite) {x : Vector Float d}
    (hx : IsRead t.rows t.offsets x) (j : Fin d) : Scalar.isFinite (x.get j) = true := by
  obtain ⟨pivots, rfl | ⟨f, rfl⟩⟩ := hx
  · exact (isExactly_pivotPoint ht.offset j).1
  · exact (isExactly_freeDirection ht.entry f j).1

namespace Elimination

/-- **A finite tableau is answered.** -/
theorem exists_conclude_eq_ok {e : Elimination Float m d} (hd : 0 < d)
    (hτ : Tolerance.require e.tolerance = .ok e.tolerance) (ht : e.tableau.IsFinite)
    (pivots : List (Pivot m d)) : ∃ r, e.conclude pivots = .ok r := by
  cases hconclude : e.conclude pivots with
  | ok r => exact ⟨r, rfl⟩
  | error fault =>
      obtain ⟨x, hread, hx⟩ := exists_ofComponents_eq_error hconclude
      rw [Vec.ofComponents_eq_ok_of_finite hd hτ (isFinite_of_isRead ht hread)] at hx
      cases hx

theorem isFinite_of_afterPasses_isFinite {s : LinearSystem Float} (hd : 0 < s.dimensions)
    (hτ : Tolerance.require s.tolerance = .ok s.tolerance) (hpos : 0 < s.tolerance)
    (h : (afterPasses s.tolerance ⟨s.coefficients, s.offsets⟩).tableau.IsFinite) :
    ∃ r, (ofSystem s).solve.1 = .ok r ∧ r.IsFinite := by
  obtain ⟨r, hr⟩ := exists_conclude_eq_ok
    (e := afterPasses s.tolerance ⟨s.coefficients, s.offsets⟩) hd hτ h
    (Sweep.pivots s.tolerance ⟨s.coefficients, s.offsets⟩)
  have hconcludes := concludes_of_eq_ok hr
  refine ⟨r, (solve_ofSystem_eq_conclude hpos).trans hr, ?_, hasFiniteAnswer_of_conclude_eq_ok hr⟩
  rw [hconcludes.rows, hconcludes.offsets]
  exact h

/-- **Finite numbers come out exactly if the two passes end in finite numbers.**  A solve fails with
undefined or infinite entries of its answer and in no other way, and the answer that is given is
always finite.  Whatever the numbers, the passes end in finite ones if the entries and offsets are
at most `2 ^ E`, the tolerance is at least `2 ^ -T` and `E + T + 1`, doubled once for each equation
or once for each unknown, is at most `T + 1024`. -/
theorem isFinite_iff_no_overflow (s : LinearSystem Float) (hd : 0 < s.dimensions)
    (hτ : Tolerance.require s.tolerance = .ok s.tolerance) :
    (∃ done pivots, (ofSystem s).triangular.reduced = .ok (done, pivots) ∧
      ((∃ r, (ofSystem s).solve.1 = .ok r ∧ r.IsFinite) ↔ done.tableau.IsFinite)) ∧
    (∀ fault, (ofSystem s).solve.1 = .error fault →
      ∃ undefined infinite, fault = .nonFinite "elements" undefined infinite) ∧
    (∀ r, (ofSystem s).solve.1 = .ok r → r.HasFiniteAnswer) ∧
    ∀ E T : Nat, (∀ i, (Tableau.line ⟨s.coefficients, s.offsets⟩ i).IsBounded E) →
      AtLeast T s.tolerance → 2 ^ min s.equationCount s.dimensions * (E + T + 1) ≤ T + 1024 →
      ∃ r, (ofSystem s).solve.1 = .ok r ∧ r.IsFinite := by
  have hpos : 0 < s.tolerance := pos_of_require_eq_ok hτ
  refine ⟨⟨_, _, reduced_triangular_ofSystem hpos, ?_, ?_⟩, fun fault hfault => ?_,
    fun r hr => ?_, fun E T hbound hT hrange => ?_⟩
  · rintro ⟨r, hr, hfinite⟩
    have hconcludes := concludes_of_solve_eq_ok hpos hr
    have htableau := hfinite.tableau
    rw [hconcludes.rows, hconcludes.offsets] at htableau
    exact htableau
  · exact isFinite_of_afterPasses_isFinite hd hτ hpos
  · -- The system has an unknown and its tolerance was accepted, so only entries can be refused.
    rw [solve_ofSystem_eq_conclude hpos] at hfault
    obtain ⟨x, -, hx⟩ := exists_ofComponents_eq_error hfault
    rcases Vec.ofComponents_eq_error hx with ⟨hzero, -⟩ | hentries | ⟨htolerance, -⟩
    · exact absurd hzero hd.ne'
    · exact hentries
    · exact absurd (hτ.symm.trans htolerance) nofun
  · rw [solve_ofSystem_eq_conclude hpos] at hr
    exact hasFiniteAnswer_of_conclude_eq_ok hr
  · have hmax : growth E T (min s.equationCount s.dimensions) ≤ 1023 := by
      rw [growth]
      omega
    have hline := Tableau.isBounded_gaussJordan hT hmax hbound
    apply isFinite_of_afterPasses_isFinite hd hτ hpos
    exact ⟨fun i j => ((hline i).1 j).isFinite, fun i => (hline i).2.isFinite⟩

/-- Two lines with entries up to four and the tolerance `0.5`: `4 * (2 + 1 + 1)` is at most
`1025`. -/
theorem isFinite_iff_no_overflow_of_small_entries :
    ∃ s, LinearSystem.ofArrays (Grid.ofFn ![![2, 1], ![1, 4]]) (Vector.ofFn ![3, -1])
        (0.5 : Float) = .ok s ∧ 0 < s.dimensions ∧
      Tolerance.require s.tolerance = .ok s.tolerance ∧
      ∃ r, (ofSystem s).solve.1 = .ok r ∧ r.IsFinite := by
  refine ⟨_, rfl, by decide, rfl, ?_⟩
  exact (isFinite_iff_no_overflow _ (by decide) rfl).2.2.2 2 1 (by decide +kernel)
    ⟨by decide +kernel, by decide +kernel, by decide +kernel⟩ (by decide +kernel)

/-- Two systems of finite numbers.  Eliminating with the first row of one overflows and leaves
undefined offsets, so the solve fails although the system has the solution `(0, 1)`; with a third
equation that has no solution the same happens, and the report that is given holds the undefined
offsets. -/
theorem overflow_of_finite_system :
    (∃ s fault, LinearSystem.ofArrays (Grid.ofFn ![![1, 1e308], ![-2, 1e308]])
        (Vector.ofFn ![1e308, 1e308]) (1e-9 : Float) = .ok s ∧
      (∀ i j, Scalar.isFinite (s.coefficients.entry i j) = true) ∧
      (∀ i, Scalar.isFinite (s.offsets.get i) = true) ∧
      (ofSystem s).solve.1 = .error fault) ∧
    ∃ s r, LinearSystem.ofArrays (Grid.ofFn ![![1, 1e308, 0], ![-2, 1e308, 0], ![0, 0, 0]])
        (Vector.ofFn ![1e308, 1e308, 1]) (1e-9 : Float) = .ok s ∧
      (∀ i j, Scalar.isFinite (s.coefficients.entry i j) = true) ∧
      (∀ i, Scalar.isFinite (s.offsets.get i) = true) ∧
      (ofSystem s).solve.1 = .ok r ∧ ∃ i, Scalar.isFinite (r.offsets.get i) = false := by
  constructor
  · obtain ⟨s, hs, hentries, hoffsets, hfails⟩ := exists_eq_ok_of_any
      (x := LinearSystem.ofArrays (Grid.ofFn ![![1, 1e308], ![-2, 1e308]])
        (Vector.ofFn ![1e308, 1e308]) (1e-9 : Float))
      (P := fun s => (∀ i j, Scalar.isFinite (s.coefficients.entry i j) = true) ∧
        (∀ i, Scalar.isFinite (s.offsets.get i) = true) ∧
        (ofSystem s).solve.1.toOption.isNone = true) (by decide +kernel)
    obtain ⟨fault, hfault⟩ := exists_eq_error_of_isNone hfails
    exact ⟨s, fault, hs, hentries, hoffsets, hfault⟩
  · obtain ⟨s, hs, hentries, hoffsets, hreport⟩ := exists_eq_ok_of_any
      (x := LinearSystem.ofArrays (Grid.ofFn ![![1, 1e308, 0], ![-2, 1e308, 0], ![0, 0, 0]])
        (Vector.ofFn ![1e308, 1e308, 1]) (1e-9 : Float))
      (P := fun s => (∀ i j, Scalar.isFinite (s.coefficients.entry i j) = true) ∧
        (∀ i, Scalar.isFinite (s.offsets.get i) = true) ∧
        (ofSystem s).solve.1.toOption.any (fun r => decide
          (∃ i, Scalar.isFinite (r.offsets.get i) = false)) = true) (by decide +kernel)
    obtain ⟨r, hr, hundefined⟩ := exists_solve_eq_ok hreport
    exact ⟨s, r, hs, hentries, hoffsets, hr, hundefined⟩

end Elimination

end LinearSystems
