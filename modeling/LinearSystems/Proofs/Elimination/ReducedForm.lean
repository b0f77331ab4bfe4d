import Mathlib
import LinearSystems.Proofs.Elimination.Echelon
import LinearSystems.Proofs.Elimination.Passes

/-!
# The reduced pass and the reduced row-echelon form

`Grid.IsReduced` states the reduced row-echelon form with respect to a list of pivots.  Starting
from a tableau without residue the two passes reach it at every tolerance up to one
(`Tableau.isReduced_gaussJordan`).

The last step sets what is below the tolerance to zero, so before it the pivots only have to be
*settled*: one at the pivot, and anything below the tolerance elsewhere in its column
(`Tableau.isReduced_clean_iff`).
-/

namespace LinearSystems

variable {m d : Nat}

/-- Reduced row-echelon form with these pivots. -/
structure Grid.IsReduced (g : Grid ℚ m d) (pivots : List (Pivot m d)) : Prop
    extends IsStaircase pivots where
  one : ∀ p ∈ pivots, g.entry p.1 p.2 = 1
  column : ∀ p ∈ pivots, ∀ i, i ≠ p.1 → g.entry i p.2 = 0
  left : ∀ p ∈ pivots, ∀ j, j < p.2 → g.entry p.1 j = 0
  rest : ∀ i : Fin m, pivots.length ≤ i → ∀ j, g.entry i j = 0

/-- In reduced form the zero rows are those from the number of pivots on. -/
theorem Grid.IsReduced.row_eq_zero_iff {g : Grid ℚ m d} {pivots : List (Pivot m d)}
    (h : g.IsReduced pivots) {i : Fin m} :
    (∀ j, g.entry i j = 0) ↔ pivots.length ≤ i := by
  constructor
  · intro hzero
    by_contra hlt
    obtain ⟨p, hp, rfl⟩ := h.exists_of_lt (not_le.1 hlt)
    have hone : g.entry p.1 p.2 = 1 := h.one p hp
    rw [hzero] at hone
    exact zero_ne_one hone
  · exact h.rest i

/-- In reduced form nothing but zero stands below the staircase. -/
theorem Grid.IsReduced.entry_of_belowPivots {g : Grid ℚ m d} {pivots : List (Pivot m d)}
    (h : g.IsReduced pivots) {i : Fin m} {j : Fin d} (hbelow : BelowPivots pivots i j) :
    g.entry i j = 0 := by
  rcases lt_or_ge i.val pivots.length with hi | hi
  · obtain ⟨p, hp, rfl⟩ := h.exists_of_lt hi
    exact h.left p hp j (not_le.1 fun hle => lt_irrefl p.1 (hbelow p hp hle))
  · exact h.rest i hi j

theorem Grid.IsReduced.isClearBelow {g : Grid ℚ m d} {pivots : List (Pivot m d)}
    (h : g.IsReduced pivots) {τ : ℚ} (hτ : 0 < τ) : g.IsClearBelow τ pivots := by
  intro i j hbelow _
  rw [h.entry_of_belowPivots hbelow]
  exact Scalar.isSignificant_rat_zero hτ

/-- A reader of a reduced table finds the pivots that it is reduced with. -/
theorem Grid.IsReduced.pivots_eq {g : Grid ℚ m d} {pivots : List (Pivot m d)}
    (h : g.IsReduced pivots) {τ : ℚ} (hτ : 0 < τ) (hτ1 : τ ≤ 1) : g.pivots τ = pivots := by
  rw [h.pivots_eq_iff (h.isClearBelow hτ)]
  intro p hp
  rw [h.one p hp, Scalar.isSignificant_rat_iff, abs_one]
  exact hτ1

theorem Sweep.le_abs_of_mem_pivots {τ : ℚ} (hτ : 0 < τ) (t : Tableau ℚ m d) {p : Pivot m d}
    (hp : p ∈ pivots τ t) : τ ≤ |(run τ t).tableau.entry p.1 p.2| :=
  Scalar.isSignificant_rat_iff.1 (isSignificant_of_mem_pivots hτ t hp)

namespace Tableau

variable {τ : ℚ} {pivots : List (Pivot m d)}

/-! ## What one pivot changes -/

/-- A column that is zero below the staircase stays so. -/
theorem entry_normalizeAt_eq_zero {t : Tableau ℚ m d} {q : Pivot m d} (hq : q ∈ pivots)
    {j : Fin d} (hzero : ∀ i, BelowPivots pivots i j → t.entry i j = 0) {i : Fin m}
    (hi : BelowPivots pivots i j) : (t.normalizeAt τ q).entry i j = 0 := by
  rw [← Scalar.vanishes_rat_iff]
  exact vanishes_entry_normalizeAt hq (fun i hi => Scalar.vanishes_rat_iff.2 (hzero i hi)) hi

theorem entry_backSubstitute_eq_zero {j : Fin d} {done : List (Pivot m d)}
    (hdone : ∀ q ∈ done, q ∈ pivots) {t : Tableau ℚ m d}
    (hzero : ∀ i, BelowPivots pivots i j → t.entry i j = 0) {i : Fin m}
    (hi : BelowPivots pivots i j) : (t.backSubstitute τ done).entry i j = 0 := by
  rw [← Scalar.vanishes_rat_iff]
  exact vanishes_entry_backSubstitute hdone
    (fun i hi => Scalar.vanishes_rat_iff.2 (hzero i hi)) hi

/-- After both passes the columns without a pivot are zero below the staircase. -/
theorem entry_backSubstitute_run_eq_zero (t : Tableau ℚ m d) {i : Fin m} {j : Fin d}
    (hbelow : BelowPivots (Sweep.pivots τ t) i j) (hj : j ∉ (Sweep.pivots τ t).map Prod.snd) :
    ((Sweep.run τ t).tableau.backSubstitute τ (Sweep.pivots τ t)).entry i j = 0 :=
  entry_backSubstitute_eq_zero (fun _ hq => hq) (fun _ hi => Sweep.entry_run_eq_zero t hi hj) hbelow

/-- The rows that are not listed keep their lines. -/
theorem line_backSubstitute_of_lt {i : Fin m} (hi : ∀ p ∈ pivots, p.1 < i) (t : Tableau ℚ m d) :
    (t.backSubstitute τ pivots).line i = t.line i := by
  induction pivots generalizing t with
  | nil => rfl
  | cons p pivots ih =>
      have htail := ih (fun q hq => hi q (List.mem_cons_of_mem p hq)) (t.normalizeAt τ p)
      rw [line_normalizeAt_of_lt τ t p (hi p List.mem_cons_self)] at htail
      exact htail

/-! ## Without residue -/

/-- The listed pivots are one, and what else stands in their columns is below the tolerance. -/
def Settled (τ : ℚ) (pivots : List (Pivot m d)) (t : Tableau ℚ m d) : Prop :=
  ∀ p ∈ pivots, t.entry p.1 p.2 = 1 ∧ ∀ i, i ≠ p.1 → |t.entry i p.2| < τ

/-- Where the pivot row has a zero beside its pivot, the column stays as it is. -/
theorem entry_normalizeAt_of_eq_zero (hτ : 0 < τ) {t : Tableau ℚ m d} {q : Pivot m d} {j : Fin d}
    (hsource : t.entry q.1 j = 0) (hne : j ≠ q.2) (i : Fin m) :
    (t.normalizeAt τ q).entry i j = t.entry i j := by
  rw [entry_eq_line, line_normalizeAt]
  split
  · exact Line.eliminate_apply_of_eq_zero hτ hsource
  · split
    · next heq =>
        subst heq
        change (if j = q.2 then 1 else t.entry q.1 j * (1 / t.entry q.1 q.2)) = _
        rw [if_neg hne, hsource, zero_mul]
    · rfl

/-- A pivot with zeros below it is settled by its own turn. -/
theorem settled_normalizeAt_self (hτ : 0 < τ) {t : Tableau ℚ m d} {q : Pivot m d}
    (hpivot : τ ≤ |t.entry q.1 q.2|) (hzero : ∀ i, q.1 < i → t.entry i q.2 = 0) :
    Settled τ [q] (t.normalizeAt τ q) := by
  intro p hp
  obtain rfl := List.mem_singleton.1 hp
  constructor
  · rw [entry_eq_line, line_normalizeAt, if_neg (lt_irrefl p.1), if_pos rfl]
    exact if_pos rfl
  · intro i hi
    rw [entry_eq_line, line_normalizeAt]
    split
    · exact Line.abs_eliminate_apply_lt hτ hpivot
    · next hlt =>
        have hlt' : p.1 < i := lt_of_le_of_ne (not_lt.1 hlt) (Ne.symm hi)
        rw [← entry_eq_line, hzero i hlt', abs_zero]
        exact hτ

theorem settled_normalizeAt (hτ : 0 < τ) (h : IsStaircase pivots) {t : Tableau ℚ m d}
    (hzero : ∀ i j, BelowPivots pivots i j → t.entry i j = 0) {done : List (Pivot m d)}
    (hdone : ∀ p ∈ done, p ∈ pivots) {q : Pivot m d} (hq : q ∈ pivots)
    (hbefore : ∀ p ∈ done, p.1 < q.1) (hpivot : τ ≤ |t.entry q.1 q.2|)
    (hsettled : Settled τ done t) : Settled τ (done ++ [q]) (t.normalizeAt τ q) := by
  intro p hp
  rcases List.mem_append.1 hp with hp | hp
  · have hsource : t.entry q.1 p.2 = 0 :=
      hzero q.1 p.2 (h.belowPivots_of_fst_lt (hdone p hp) (hbefore p hp))
    have hne : p.2 ≠ q.2 := ((h.fst_lt_iff (hdone p hp) hq).1 (hbefore p hp)).ne
    simp only [entry_normalizeAt_of_eq_zero hτ hsource hne]
    exact hsettled p hp
  · refine settled_normalizeAt_self hτ hpivot ?_ p hp
    intro i hi
    exact hzero i q.2 (h.belowPivots_of_fst_lt hq hi)

/-- Starting without residue, the reduced pass settles every pivot. -/
theorem settled_backSubstitute (hτ : 0 < τ) (h : IsStaircase pivots) {done rest : List (Pivot m d)}
    (hsplit : pivots = done ++ rest) {t : Tableau ℚ m d}
    (hzero : ∀ i j, BelowPivots pivots i j → t.entry i j = 0)
    (hpivot : ∀ p ∈ rest, τ ≤ |t.entry p.1 p.2|) (hsettled : Settled τ done t) :
    Settled τ pivots (t.backSubstitute τ rest) := by
  induction rest generalizing done t with
  | nil =>
      rw [List.append_nil] at hsplit
      rw [hsplit]
      exact hsettled
  | cons q rest ih =>
      have hmem (p : Pivot m d) (hp : p ∈ done ++ q :: rest) : p ∈ pivots := hsplit ▸ hp
      have hq : q ∈ pivots := hmem q (by simp)
      have hcolumns := h.increasing
      rw [hsplit, List.map_append, List.map_cons, List.pairwise_append, List.pairwise_cons]
        at hcolumns
      have hbefore (p : Pivot m d) (hp : p ∈ done) : p.1 < q.1 :=
        (h.fst_lt_iff (hmem p (by simp [hp])) hq).2
          (hcolumns.2.2 p.2 (List.mem_map_of_mem hp) q.2 List.mem_cons_self)
      have hafter (p : Pivot m d) (hp : p ∈ rest) : q.1 < p.1 :=
        (h.fst_lt_iff hq (hmem p (by simp [hp]))).2
          (hcolumns.2.1.1 p.2 (List.mem_map_of_mem hp))
      have hsplit' : pivots = (done ++ [q]) ++ rest := by
        rw [hsplit, List.append_assoc, List.singleton_append]
      -- The turn of `q` keeps the zeros below the staircase and the pivots still to come.
      refine ih hsplit' ?_ ?_ ?_
      · intro i j hi
        exact entry_normalizeAt_eq_zero hq (fun i hi => hzero i j hi) hi
      · intro p hp
        rw [entry_normalizeAt_of_lt τ t q (hafter p hp)]
        exact hpivot p (List.mem_cons_of_mem q hp)
      · exact settled_normalizeAt hτ h hzero (fun p hp => hmem p (by simp [hp])) hq hbefore
          (hpivot q List.mem_cons_self) hsettled

/-! ## After cleaning -/

theorem rows_entry (t : Tableau ℚ m d) (i : Fin m) (j : Fin d) :
    t.rows.entry i j = t.entry i j :=
  rfl

/-- Cleaning leaves zero exactly where the entry was below the tolerance. -/
theorem entry_clean_eq_zero_iff (hτ : 0 < τ) (t : Tableau ℚ m d) (i : Fin m) (j : Fin d) :
    (t.clean τ).entry i j = 0 ↔ |t.entry i j| < τ := by
  rw [entry_clean, ite_eq_left_iff, Scalar.isSmall_rat_iff]
  constructor
  · intro h
    by_contra hlarge
    rw [h hlarge, abs_zero] at hlarge
    exact hlarge hτ
  · intro h hlarge
    exact absurd h hlarge

/-- Cleaning does not change which offsets are significant. -/
theorem le_abs_offset_clean_iff (hτ : 0 < τ) (t : Tableau ℚ m d) (i : Fin m) :
    τ ≤ |(t.clean τ).offset i| ↔ τ ≤ |t.offset i| := by
  rw [offset_clean]
  split
  · next hsmall =>
      rw [abs_zero]
      exact iff_of_false (not_le.2 hτ) (not_le.2 (Scalar.isSmall_rat_iff.1 hsmall))
  · rfl

theorem entry_clean_of_le {t : Tableau ℚ m d} {i : Fin m} {j : Fin d} (h : τ ≤ |t.entry i j|) :
    (t.clean τ).entry i j = t.entry i j := by
  rw [entry_clean, if_neg]
  rw [Scalar.isSmall_rat_iff]
  exact not_lt.2 h

/-- With nothing below the staircase outside the pivot columns, a tableau cleans up to reduced form
exactly when its pivots are settled. -/
theorem isReduced_clean_iff (hτ : 0 < τ) (hτ1 : τ ≤ 1) (h : IsStaircase pivots)
    {t : Tableau ℚ m d} (hzero : ∀ i j, BelowPivots pivots i j → j ∉ pivots.map Prod.snd →
      t.entry i j = 0) : (t.clean τ).rows.IsReduced pivots ↔ Settled τ pivots t := by
  constructor
  · intro hreduced p hp
    constructor
    · have hone := hreduced.one p hp
      rw [rows_entry, entry_clean] at hone
      split at hone
      · exact absurd hone.symm one_ne_zero
      · exact hone
    · intro i hi
      exact (entry_clean_eq_zero_iff hτ t i p.2).1 (hreduced.column p hp i hi)
  · intro hsettled
    have hcolumn (p : Pivot m d) (hp : p ∈ pivots) (i : Fin m) (hi : i ≠ p.1) :
        (t.clean τ).rows.entry i p.2 = 0 :=
      (entry_clean_eq_zero_iff hτ t i p.2).2 ((hsettled p hp).2 i hi)
    have hbelow (i : Fin m) (j : Fin d) (hi : BelowPivots pivots i j) :
        (t.clean τ).rows.entry i j = 0 := by
      by_cases hj : j ∈ pivots.map Prod.snd
      · obtain ⟨p, hp, rfl⟩ := List.mem_map.1 hj
        exact hcolumn p hp i (hi p hp le_rfl).ne'
      · rw [rows_entry, entry_clean_eq_zero_iff hτ, hzero i j hi hj, abs_zero]
        exact hτ
    refine ⟨h, ?_, hcolumn, ?_, ?_⟩
    · intro p hp
      have hone : t.entry p.1 p.2 = 1 := (hsettled p hp).1
      rw [rows_entry, entry_clean_of_le, hone]
      rw [hone, abs_one]
      exact hτ1
    · intro p hp j hj
      exact hbelow p.1 j (h.belowPivots_of_lt hp hj)
    · intro i hi j
      exact hbelow i j (h.belowPivots_of_length_le hi j)

/-- A triangular form without residue is reduced by the second pass. -/
theorem isReduced_backSubstitute (hτ : 0 < τ) (hτ1 : τ ≤ 1) (h : IsStaircase pivots)
    {t : Tableau ℚ m d} (hzero : ∀ i j, BelowPivots pivots i j → t.entry i j = 0)
    (hpivot : ∀ p ∈ pivots, τ ≤ |t.entry p.1 p.2|) :
    ((t.backSubstitute τ pivots).clean τ).rows.IsReduced pivots := by
  rw [isReduced_clean_iff hτ hτ1 h]
  · exact settled_backSubstitute hτ h (List.nil_append pivots).symm hzero hpivot
      fun p hp => absurd hp List.not_mem_nil
  · intro i j hi _
    exact entry_backSubstitute_eq_zero (fun _ hq => hq) (fun i hi => hzero i j hi) hi

/-- **Without residue the two passes reach the reduced row-echelon form**, at every tolerance up to
one. -/
theorem isReduced_gaussJordan (hτ : 0 < τ) (hτ1 : τ ≤ 1) {t : Tableau ℚ m d}
    (hresidue : (Sweep.run τ t).tableau.ResidueFree (Sweep.pivots τ t)) :
    (t.gaussJordan τ).rows.IsReduced (Sweep.pivots τ t) :=
  isReduced_backSubstitute hτ hτ1 (Sweep.isStaircase_pivots hτ t)
    (fun _ _ hbelow => Sweep.entry_run_eq_zero_of_residueFree t hresidue hbelow)
    fun _ hp => Sweep.le_abs_of_mem_pivots hτ t hp

end Tableau

end LinearSystems
