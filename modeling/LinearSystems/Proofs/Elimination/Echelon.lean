import Mathlib
import LinearSystems.Proofs.Elimination.Vanishing
import LinearSystems.Proofs.Exact

/-!
# What exact elimination leaves below the staircase

In exact arithmetic a line is a vector, and elimination adds a multiple of the source to the target
(`Line.eliminate_eq_add`).  Only zero vanishes there, so every column without a pivot is zero below
the staircase after the triangular pass, at every positive tolerance (`Sweep.entry_run_eq_zero`).

**Nothing is said about the columns with a pivot.**  There an entry below the tolerance is skipped
and stays; `Tableau.ResidueFree` is the case in which none is left.
-/

namespace LinearSystems

variable {m d : Nat}

namespace Line

/-- The multiple of the source that elimination adds to the target. -/
def factor (τ : ℚ) (c : Fin d) (source target : Line ℚ d) : ℚ :=
  if isSkipped τ c source target then 0 else -target.1 c / source.1 c

variable {τ : ℚ} {c : Fin d} {source target : Line ℚ d}

theorem isSkipped_iff :
    isSkipped τ c source target = true ↔ |target.1 c| < τ ∨ |source.1 c| < τ := by
  simp [isSkipped]

theorem eliminate_eq_add (hτ : 0 < τ) (c : Fin d) (source target : Line ℚ d) :
    eliminate τ c source target = target + factor τ c source target • source := by
  by_cases hskip : isSkipped τ c source target = true
  · rw [eliminate, factor, if_pos hskip, if_pos hskip, zero_smul, add_zero]
  · have hsource : source.1 c ≠ 0 := by
      intro h
      apply hskip
      rw [isSkipped_iff, h, abs_zero]
      exact Or.inr hτ
    rw [eliminate, factor, if_neg hskip, if_neg hskip]
    refine Prod.ext ?_ rfl
    funext j
    by_cases hj : j = c
    · subst hj
      simp [hsource]
    · simp [hj]

theorem eliminate_apply (hτ : 0 < τ) (c : Fin d) (source target : Line ℚ d) (j : Fin d) :
    (eliminate τ c source target).1 j =
      target.1 j + factor τ c source target * source.1 j := by
  rw [eliminate_eq_add hτ]
  rfl

/-- Where the source is zero the target keeps its entry. -/
theorem eliminate_apply_of_eq_zero (hτ : 0 < τ) {j : Fin d} (hj : source.1 j = 0) :
    (eliminate τ c source target).1 j = target.1 j := by
  rw [eliminate_apply hτ, hj, mul_zero, add_zero]

/-- A significant source leaves nothing significant in the column. -/
theorem abs_eliminate_apply_lt (hτ : 0 < τ) (hsource : τ ≤ |source.1 c|) :
    |(eliminate τ c source target).1 c| < τ := by
  rw [eliminate]
  split
  · next hskip => exact (isSkipped_iff.1 hskip).resolve_right (not_lt.2 hsource)
  · simpa using hτ

/-- Nothing at all is left of an entry that was significant, or zero from the start. -/
theorem eliminate_apply_eq_zero (hsource : τ ≤ |source.1 c|)
    (htarget : target.1 c = 0 ∨ τ ≤ |target.1 c|) :
    (eliminate τ c source target).1 c = 0 := by
  rw [eliminate]
  split
  · next hskip =>
      have hsmall := (isSkipped_iff.1 hskip).resolve_right (not_lt.2 hsource)
      exact htarget.resolve_right (not_le.2 hsmall)
  · exact if_pos rfl

theorem normalize_eq_smul {l : Line ℚ d} (h : l.1 c ≠ 0) :
    normalize c l = (1 / l.1 c) • l := by
  refine Prod.ext ?_ (mul_comm _ _)
  funext j
  by_cases hj : j = c
  · subst hj
    simp [normalize, h]
  · simp [normalize, hj, mul_comm]

theorem clear_apply_of_le {l : Line ℚ d} {start stop : Nat} {j : Fin d} (h : stop ≤ j) :
    (l.clear start stop).1 j = l.1 j :=
  if_neg fun hcleared => absurd hcleared.2 (not_lt.2 h)

end Line

/-- Nothing is left below the pivots in their own columns. -/
def Tableau.ResidueFree (pivots : List (Pivot m d)) (t : Tableau ℚ m d) : Prop :=
  ∀ p ∈ pivots, ∀ i, p.1 < i → t.entry i p.2 = 0

namespace Sweep

variable {τ : ℚ}

/-- A column that is zero from some row down stays zero there. -/
theorem entry_runFrom_eq_zero {j : Fin d} {k : Nat} (hk : k ≤ m) (s : Sweep ℚ m d)
    (hzero : ∀ r : Fin m, k ≤ r → s.tableau.entry r j = 0) (r : Fin m) (hr : k ≤ r) :
    (runFrom τ k s).tableau.entry r j = 0 := by
  rw [← Scalar.vanishes_rat_iff]
  apply vanishes_entry_runFrom hk s _ r hr
  intro r hr
  exact Scalar.vanishes_rat_iff.2 (hzero r hr)

/-- Below the staircase the triangular pass leaves zero in every column without a pivot. -/
theorem entry_run_eq_zero (t : Tableau ℚ m d) {i : Fin m} {j : Fin d}
    (hbelow : BelowPivots (pivots τ t) i j) (hcolumn : j ∉ (pivots τ t).map Prod.snd) :
    (run τ t).tableau.entry i j = 0 :=
  Scalar.vanishes_rat_iff.1 (vanishes_entry_run t hbelow hcolumn)

/-- Without residue everything below the staircase is zero. -/
theorem entry_run_eq_zero_of_residueFree (t : Tableau ℚ m d)
    (hresidue : (run τ t).tableau.ResidueFree (pivots τ t)) {i : Fin m} {j : Fin d}
    (hbelow : BelowPivots (pivots τ t) i j) : (run τ t).tableau.entry i j = 0 := by
  by_cases hcolumn : j ∈ (pivots τ t).map Prod.snd
  · obtain ⟨p, hp, rfl⟩ := List.mem_map.1 hcolumn
    exact hresidue p hp i (hbelow p hp le_rfl)
  · exact entry_run_eq_zero t hbelow hcolumn

end Sweep

end LinearSystems
