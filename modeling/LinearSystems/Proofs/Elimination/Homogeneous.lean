import Mathlib
import LinearSystems.Proofs.Construction
import LinearSystems.Proofs.Elimination.PivotGuard

/-!
# Homogeneous systems

Beside offsets that vanish every row operation leaves offsets that vanish: zero times anything is
zero or undefined, and so is a sum of such values.  An undefined offset is not significant, so **a
homogeneous system is never reported inconsistent**, and what is read off its offsets is either
refused as undefined or is zero (`Elimination.homogeneous_answer_eq_zero`).

Infinities and undefined values that the rows run into are no exception, as
`Elimination.homogeneous_answer_of_undefined_offset` shows.
-/

namespace LinearSystems

variable {K : Type} [Scalar K] {m d : Nat} {τ : K}

open LawfulVanishing Scalar

namespace Line

variable [LawfulVanishing K] {c : Fin d} {l source target : Line K d}

theorem vanishes_eliminate_snd (hsource : vanishes source.2 = true)
    (htarget : vanishes target.2 = true) : vanishes (eliminate τ c source target).2 = true := by
  rw [eliminate]
  split
  · exact htarget
  · exact vanishes_add_mul _ htarget hsource

theorem vanishes_normalize_snd (h : vanishes l.2 = true) : vanishes (normalize c l).2 = true :=
  vanishes_mul _ h

end Line

/-! ## Offsets that vanish -/

namespace Sweep

variable [LawfulVanishing K] {s : Sweep K m d}

theorem vanishes_offset_step (h : ∀ i, vanishes (s.tableau.offset i) = true) (i r : Fin m) :
    vanishes ((s.step τ i).tableau.offset r) = true := by
  cases hfound : s.tableau.findPivot τ i s.next with
  | none =>
      rw [step_of_none hfound, Tableau.offset_clearBlock]
      exact h r
  | some q =>
      rw [Tableau.offset_eq_line, line_step_of_some hfound]
      split
      · exact Line.vanishes_eliminate_snd (h q.1) (h _)
      · split
        · exact h q.1
        · exact h r

theorem vanishes_offset_foldl (rows : List (Fin m))
    (h : ∀ i, vanishes (s.tableau.offset i) = true) (i : Fin m) :
    vanishes ((rows.foldl (step τ) s).tableau.offset i) = true := by
  induction rows generalizing s with
  | nil => exact h i
  | cons r rows ih => exact ih (vanishes_offset_step h r)

end Sweep

namespace Tableau

variable [LawfulVanishing K] {t : Tableau K m d}

theorem vanishes_offset_normalizeAt (h : ∀ i, vanishes (t.offset i) = true) (p : Pivot m d)
    (i : Fin m) : vanishes ((t.normalizeAt τ p).offset i) = true := by
  rw [offset_eq_line, line_normalizeAt]
  split
  · exact Line.vanishes_eliminate_snd (h p.1) (h i)
  · split
    · exact Line.vanishes_normalize_snd (h p.1)
    · exact h i

theorem vanishes_offset_backSubstitute (pivots : List (Pivot m d))
    (h : ∀ i, vanishes (t.offset i) = true) (i : Fin m) :
    vanishes ((t.backSubstitute τ pivots).offset i) = true := by
  induction pivots generalizing t with
  | nil => exact h i
  | cons p pivots ih => exact ih (vanishes_offset_normalizeAt h p)

theorem vanishes_offset_gaussJordan (h : ∀ i, vanishes (t.offset i) = true) (i : Fin m) :
    vanishes ((t.gaussJordan τ).offset i) = true := by
  rw [gaussJordan, offset_clean]
  split
  · exact vanishes_zero
  · exact vanishes_offset_backSubstitute _ (Sweep.vanishes_offset_foldl _ h) i

omit [LawfulVanishing K] in
/-- The clean-up leaves no other zero than the plain one. -/
theorem offset_gaussJordan_eq_zero_or [LawfulCleaning K] (hτ : 0 < τ)
    (h : ∀ i, vanishes (t.offset i) = true) (i : Fin m) :
    (t.gaussJordan τ).offset i = 0 ∨ isNaN ((t.gaussJordan τ).offset i) = true := by
  have hkept := vanishes_offset_gaussJordan (τ := τ) h i
  rw [gaussJordan, offset_clean] at hkept ⊢
  split
  · exact Or.inl rfl
  · next hlarge =>
      -- A zero is small, so what the clean-up left alone is undefined.
      rw [if_neg hlarge, vanishes, Bool.or_eq_true] at hkept
      exact Or.inr (hkept.resolve_left fun hzero =>
        hlarge (LawfulCleaning.isSmall_of_beq_zero hτ hzero))

/-- Undefined offsets do not speak against consistency. -/
theorem isConsistent_of_vanishes (hτ : 0 < τ) (h : ∀ i, vanishes (t.offset i) = true) :
    t.isConsistent τ = true := by
  have hrow (i : Fin m) : isSignificant τ (t.offset i) = false :=
    isSignificant_of_vanishes hτ (h i)
  simp [isConsistent, hrow]

omit [LawfulVanishing K] in
theorem classify_ne_of_isConsistent (h : t.isConsistent τ = true) (n : Nat) :
    t.classify τ n ≠ .inconsistent := by
  by_cases hn : n < d <;> simp [classify, h, hn]

end Tableau

/-! ## Answers -/

/-- A point that is read off offsets which are zero or undefined, and that is not refused, is the
origin. -/
theorem toList_eq_replicate_of_pivotPoint {b : Vector K m}
    (hb : ∀ i, b.get i = 0 ∨ isNaN (b.get i) = true) {pivots : List (Pivot m d)} {x : Vec K}
    (hx : Vec.ofComponents (pivotPoint pivots b) τ = .ok x) : x.toList = List.replicate d 0 := by
  obtain ⟨rfl, hadmissible, -⟩ := Vec.ofComponents_eq_ok_iff.1 hx
  refine List.eq_replicate_iff.2 ⟨Vector.length_toList, fun y hy => ?_⟩
  have hfinite : isNaN y = false := by
    have hboth := hadmissible.finite y hy
    rw [isFinite, Bool.and_eq_true, Bool.not_eq_true'] at hboth
    exact hboth.1
  -- A coordinate is an offset, which is not undefined, or it is free and zero.
  change y ∈ (pivotPoint pivots b).toList at hy
  rw [pivotPoint, Vector.toList_ofFn] at hy
  obtain ⟨j, rfl⟩ := List.mem_ofFn.1 hy
  cases hrow : pivotRow? pivots j with
  | none => rfl
  | some i =>
      simp only [hrow] at hfinite ⊢
      exact (hb i).resolve_right (Bool.eq_false_iff.1 hfinite)

namespace Elimination

/-- **A homogeneous system is never reported inconsistent.**  Whatever the passes make of the rows,
the tableau that they leave is consistent; and if the solve answers, it answers with zero as the only
solution or as the base point. -/
theorem homogeneous_answer_eq_zero [LawfulCleaning K] {s : LinearSystem K} (hτ : 0 < s.tolerance)
    (hb : ∀ i, (s.offsets.get i == 0) = true) :
    (∃ done pivots, (ofSystem s).triangular.reduced = .ok (done, pivots) ∧
      done.tableau.isConsistent s.tolerance = true) ∧
    ∀ r, (ofSystem s).solve.1 = .ok r →
      (∃ x, r.kind = .unique ∧ r.solution = some x ∧
        x.toList = List.replicate s.dimensions 0) ∨
      ∃ q, r.kind = .infinite ∧ r.parametrization = some q ∧
        q.basePoint.toList = List.replicate s.dimensions 0 := by
  have hstart (i : Fin s.equationCount) :
      vanishes ((⟨s.coefficients, s.offsets⟩ : Tableau K _ _).offset i) = true :=
    Bool.or_eq_true_iff.2 (Or.inl (hb i))
  have hconsistent := Tableau.isConsistent_of_vanishes hτ
    (Tableau.vanishes_offset_gaussJordan (τ := s.tolerance) hstart)
  have hoffsets := Tableau.offset_gaussJordan_eq_zero_or hτ hstart
  refine ⟨⟨_, _, reduced_triangular_ofSystem hτ, hconsistent⟩, fun r hr => ?_⟩
  rw [solve_ofSystem_eq_conclude hτ] at hr
  rcases conclude_eq_ok_cases hr with ⟨hkind, -⟩ | ⟨x, -, hx, rfl⟩ | ⟨q, -, hq, rfl⟩
  · exact absurd hkind (Tableau.classify_ne_of_isConsistent hconsistent _)
  · exact Or.inl ⟨x, rfl, rfl, toList_eq_replicate_of_pivotPoint hoffsets hx⟩
  · have hbase := (Parametrization.columns_of_ofReduced_eq_ok hq).1
    exact Or.inr ⟨q, rfl, rfl, toList_eq_replicate_of_pivotPoint hoffsets hbase⟩

/-- In binary floating point: the first pivot is so small that the multiplier for the second row is
infinite, and zero times it is undefined.  The second offset stays undefined, and the base point is
zero. -/
theorem homogeneous_answer_of_undefined_offset :
    ∃ s, LinearSystem.ofArrays (Grid.ofFn ![![1e-200, 0], ![1e200, 0]]) (Vector.ofFn ![0, 0])
        (1e-250 : Float) = .ok s ∧
      ∃ r, (ofSystem s).solve.1 = .ok r ∧ r.offsets.toList.map Scalar.isNaN = [false, true] ∧
        ∃ q, r.kind = .infinite ∧ r.parametrization = some q ∧
          q.basePoint.toList = List.replicate s.dimensions 0 := by
  obtain ⟨s, hs, hτ, hb, hreport⟩ := exists_eq_ok_of_any
    (x := LinearSystem.ofArrays (Grid.ofFn ![![1e-200, 0], ![1e200, 0]]) (Vector.ofFn ![0, 0])
      (1e-250 : Float))
    (P := fun s => 0 < s.tolerance ∧ (∀ i, (s.offsets.get i == 0) = true) ∧
      (ofSystem s).solve.1.toOption.any (fun r => decide
        (r.kind = .infinite ∧ r.offsets.toList.map Scalar.isNaN = [false, true])) = true)
    (by decide +kernel)
  obtain ⟨r, hsolve, hkind, hoffsets⟩ := exists_solve_eq_ok hreport
  refine ⟨s, hs, r, hsolve, hoffsets, ?_⟩
  rcases (homogeneous_answer_eq_zero hτ hb).2 r hsolve with ⟨x, hunique, -⟩ | hq
  · rw [hkind] at hunique
    cases hunique
  · exact hq

end Elimination

end LinearSystems
