import Mathlib
import LinearSystems.Proofs.Elimination.Echelon

/-!
# Row spaces

The row space of a system is spanned by its equations, each a row of coefficients with its offset.
The elementary row operations keep it (`Tableau.rowSpace_swap`, `Tableau.rowSpace_scale`,
`Tableau.rowSpace_addMultiple`), and so does dropping a line that follows from the others
(`Tableau.rowSpace_eq_of_selection`).  Elimination is made of row operations: whatever is eliminated
with a line gets a multiple of this line added.  So the reduced pass keeps the row space
(`Tableau.rowSpace_backSubstitute`).

The triangular pass also sets a block to zero, which keeps the row space only if the block was zero
(`Sweep.rowSpace_step`).  That is a hypothesis here: at a given tolerance it can fail.
-/

namespace LinearSystems

variable {m n d : Nat}

namespace Tableau

/-- All combinations of the lines: the row space of the coefficients with the offsets beside
them. -/
def rowSpace (t : Tableau ℚ m d) : Submodule ℚ (Line ℚ d) := Submodule.span ℚ (Set.range t.line)

theorem line_mem_rowSpace (t : Tableau ℚ m d) (i : Fin m) : t.line i ∈ t.rowSpace :=
  Submodule.subset_span (Set.mem_range_self i)

theorem rowSpace_le_iff {t : Tableau ℚ m d} {S : Submodule ℚ (Line ℚ d)} :
    t.rowSpace ≤ S ↔ ∀ i, t.line i ∈ S := by
  rw [rowSpace, Submodule.span_le]
  exact Set.range_subset_iff

/-- Systems of which each follows from the other have the same row space. -/
theorem rowSpace_eq_iff {t : Tableau ℚ m d} {u : Tableau ℚ n d} :
    t.rowSpace = u.rowSpace ↔
      (∀ i, t.line i ∈ u.rowSpace) ∧ ∀ i, u.line i ∈ t.rowSpace := by
  rw [← rowSpace_le_iff, ← rowSpace_le_iff]
  exact le_antisymm_iff

/-- One line is scaled by a number that is not zero, and multiples of it are added to others. -/
theorem rowSpace_eq_of_line_eq {t u : Tableau ℚ m d} {p : Fin m} {a : ℚ} (ha : a ≠ 0)
    (hpivot : u.line p = a • t.line p)
    (hother : ∀ i, i ≠ p → ∃ c : ℚ, u.line i = t.line i + c • t.line p) :
    u.rowSpace = t.rowSpace := by
  have hback : t.line p = a⁻¹ • u.line p := by
    rw [hpivot, inv_smul_smul₀ ha]
  rw [rowSpace_eq_iff]
  constructor
  · intro i
    by_cases hi : i = p
    · rw [hi, hpivot]
      exact Submodule.smul_mem _ _ (t.line_mem_rowSpace p)
    · obtain ⟨c, hc⟩ := hother i hi
      rw [hc]
      exact Submodule.add_mem _ (t.line_mem_rowSpace i)
        (Submodule.smul_mem _ _ (t.line_mem_rowSpace p))
  · intro i
    have hp : t.line p ∈ u.rowSpace := by
      rw [hback]
      exact Submodule.smul_mem _ _ (u.line_mem_rowSpace p)
    by_cases hi : i = p
    · rw [hi]
      exact hp
    · obtain ⟨c, hc⟩ := hother i hi
      have hline : t.line i = u.line i - c • t.line p := by
        rw [hc, add_sub_cancel_right]
      rw [hline]
      exact Submodule.sub_mem _ (u.line_mem_rowSpace i) (Submodule.smul_mem _ _ hp)

/-- Reordering the lines, and dropping some that follow from the others, keeps the row space. -/
theorem rowSpace_eq_of_selection {t : Tableau ℚ m d} {u : Tableau ℚ n d} {place : Fin n → Fin m}
    (hselected : ∀ i, u.line i = t.line (place i)) (hdropped : ∀ i, t.line i ∈ u.rowSpace) :
    u.rowSpace = t.rowSpace := by
  rw [rowSpace_eq_iff]
  refine ⟨fun i => ?_, hdropped⟩
  rw [hselected]
  exact t.line_mem_rowSpace _

/-! ## Elementary row operations -/

theorem exchange_exchange (a b i : Fin m) : exchange a b (exchange a b i) = i := by
  unfold exchange
  split_ifs <;> simp_all

theorem rowSpace_swap (a b : Fin m) (t : Tableau ℚ m d) : (t.swap a b).rowSpace = t.rowSpace := by
  apply rowSpace_eq_of_selection (line_swap a b t)
  intro i
  rw [← exchange_exchange a b i, ← line_swap]
  exact (t.swap a b).line_mem_rowSpace _

theorem line_scale (c : ℚ) (r : Fin m) (t : Tableau ℚ m d) (i : Fin m) :
    (t.scale c r).line i = if i = r then c • t.line i else t.line i := by
  refine Prod.ext (funext fun j => ?_) ?_
  · show (t.scale c r).entry i j = _
    rw [entry_scale]
    split
    · exact mul_comm _ _
    · rfl
  · show (t.scale c r).offset i = _
    rw [offset_scale]
    split
    · exact mul_comm _ _
    · rfl

theorem rowSpace_scale {c : ℚ} (hc : c ≠ 0) (r : Fin m) (t : Tableau ℚ m d) :
    (t.scale c r).rowSpace = t.rowSpace := by
  refine rowSpace_eq_of_line_eq (p := r) hc ?_ fun i hi => ⟨0, ?_⟩
  · rw [line_scale, if_pos rfl]
  · rw [line_scale, if_neg hi, zero_smul, add_zero]

theorem line_addMultiple (c : ℚ) (s r : Fin m) (t : Tableau ℚ m d) (i : Fin m) :
    (t.addMultiple c s r).line i = if i = r then t.line i + c • t.line s else t.line i := by
  refine Prod.ext (funext fun j => ?_) ?_
  · show (t.addMultiple c s r).entry i j = _
    rw [entry_addMultiple]
    split <;> rfl
  · show (t.addMultiple c s r).offset i = _
    rw [offset_addMultiple]
    split <;> rfl

theorem rowSpace_addMultiple (c : ℚ) {s r : Fin m} (hsr : s ≠ r) (t : Tableau ℚ m d) :
    (t.addMultiple c s r).rowSpace = t.rowSpace := by
  refine rowSpace_eq_of_line_eq (p := s) one_ne_zero ?_ fun i _ => ?_
  · rw [line_addMultiple, if_neg hsr, one_smul]
  · by_cases hi : i = r
    · exact ⟨c, by rw [line_addMultiple, if_pos hi]⟩
    · exact ⟨0, by rw [line_addMultiple, if_neg hi, zero_smul, add_zero]⟩

/-! ## Elimination -/

variable {τ : ℚ}

theorem rowSpace_eliminateBelow (hτ : 0 < τ) (r : Fin m) (c : Fin d) (t : Tableau ℚ m d) :
    (t.eliminateBelow τ r c).rowSpace = t.rowSpace := by
  refine rowSpace_eq_of_line_eq (p := r) one_ne_zero ?_ fun i _ => ?_
  · rw [line_eliminateBelow, if_neg (lt_irrefl r), one_smul]
  · by_cases hi : r < i
    · exact ⟨_, by rw [line_eliminateBelow, if_pos hi, Line.eliminate_eq_add hτ]⟩
    · exact ⟨0, by rw [line_eliminateBelow, if_neg hi, zero_smul, add_zero]⟩

theorem rowSpace_eliminateAbove (hτ : 0 < τ) (r : Fin m) (c : Fin d) (t : Tableau ℚ m d) :
    (t.eliminateAbove τ r c).rowSpace = t.rowSpace := by
  refine rowSpace_eq_of_line_eq (p := r) one_ne_zero ?_ fun i _ => ?_
  · rw [line_eliminateAbove, if_neg (lt_irrefl r), one_smul]
  · by_cases hi : i < r
    · exact ⟨_, by rw [line_eliminateAbove, if_pos hi, Line.eliminate_eq_add hτ]⟩
    · exact ⟨0, by rw [line_eliminateAbove, if_neg hi, zero_smul, add_zero]⟩

theorem rowSpace_eliminateIn (hτ : 0 < τ) (c : Fin d) {s r : Fin m} (hsr : s ≠ r)
    (t : Tableau ℚ m d) : (t.eliminateIn τ c s r).rowSpace = t.rowSpace := by
  refine rowSpace_eq_of_line_eq (p := s) one_ne_zero ?_ fun i _ => ?_
  · rw [line_eliminateIn_of_ne τ c s t hsr, one_smul]
  · by_cases hi : i = r
    · exact ⟨_, by rw [line_eliminateIn, if_pos hi, Line.eliminate_eq_add hτ, hi]⟩
    · exact ⟨0, by rw [line_eliminateIn_of_ne τ c s t hi, zero_smul, add_zero]⟩

theorem rowSpace_scalePivotToOne (hτ : 0 < τ) {r : Fin m} {c : Fin d} {t u : Tableau ℚ m d}
    (h : t.scalePivotToOne τ r c = .ok u) : u.rowSpace = t.rowSpace := by
  obtain ⟨hpivot, rfl⟩ := scalePivotToOne_eq_ok_iff.1 h
  have hne : (t.line r).1 c ≠ 0 := by
    intro hzero
    rw [← Bool.not_eq_true, Scalar.isZero_rat_iff, entry_eq_line, hzero, abs_zero] at hpivot
    exact hpivot hτ
  refine rowSpace_eq_of_line_eq (p := r) (one_div_ne_zero hne) ?_ fun i hi => ⟨0, ?_⟩
  · rw [line_scaleToOne, if_pos rfl, Line.normalize_eq_smul hne]
  · rw [line_scaleToOne, if_neg hi, zero_smul, add_zero]

theorem rowSpace_normalizeAt (hτ : 0 < τ) {t : Tableau ℚ m d} {p : Pivot m d}
    (hpivot : τ ≤ |t.entry p.1 p.2|) : (t.normalizeAt τ p).rowSpace = t.rowSpace := by
  have hne : (t.line p.1).1 p.2 ≠ 0 := by
    intro h
    rw [entry_eq_line, h, abs_zero] at hpivot
    exact absurd hτ (not_lt.2 hpivot)
  refine rowSpace_eq_of_line_eq (p := p.1) (one_div_ne_zero hne) ?_ fun i hi => ?_
  · rw [line_normalizeAt, if_neg (lt_irrefl p.1), if_pos rfl, Line.normalize_eq_smul hne]
  · by_cases hlt : i < p.1
    · exact ⟨_, by rw [line_normalizeAt, if_pos hlt, Line.eliminate_eq_add hτ]⟩
    · exact ⟨0, by rw [line_normalizeAt, if_neg hlt, if_neg hi, zero_smul, add_zero]⟩

theorem rowSpace_backSubstitute (hτ : 0 < τ) {pivots : List (Pivot m d)}
    (hrows : pivots.Pairwise fun p q => p.1 < q.1) {t : Tableau ℚ m d}
    (hpivots : ∀ p ∈ pivots, τ ≤ |t.entry p.1 p.2|) :
    (t.backSubstitute τ pivots).rowSpace = t.rowSpace := by
  induction pivots generalizing t with
  | nil => rfl
  | cons p pivots ih =>
      obtain ⟨hp, hrows⟩ := List.pairwise_cons.1 hrows
      have htail : ∀ q ∈ pivots, τ ≤ |(t.normalizeAt τ p).entry q.1 q.2| := by
        intro q hq
        rw [entry_normalizeAt_of_lt τ t p (hp q hq)]
        exact hpivots q (List.mem_cons_of_mem p hq)
      exact (ih hrows htail).trans (rowSpace_normalizeAt hτ (hpivots p List.mem_cons_self))

/-! ## The triangular pass -/

/-- Every entry that elimination would skip as insignificant is zero. -/
def ZeroOrSignificant (τ : ℚ) (t : Tableau ℚ m d) : Prop :=
  ∀ r j, |t.entry r j| < τ → t.entry r j = 0

/-- Setting insignificant entries to zero changes nothing. -/
theorem clearBlock_eq_self {t : Tableau ℚ m d} (hzero : t.ZeroOrSignificant τ)
    {row start stop : Nat} (hsmall : ∀ (i : Fin m) (j : Fin d), row ≤ i → start ≤ j → j < stop →
      Scalar.isSignificant τ (t.entry i j) = false) : t.clearBlock row start stop = t := by
  apply ext_line
  intro i
  refine Prod.ext (funext fun j => ?_) (offset_clearBlock _ _ _ t i)
  show (t.clearBlock row start stop).entry i j = t.entry i j
  rw [entry_clearBlock, ite_eq_right_iff]
  rintro ⟨hi, hstart, hstop⟩
  exact (hzero i j (Scalar.isSignificant_rat_eq_false_iff.1 (hsmall i j hi hstart hstop))).symm

end Tableau

namespace Sweep

variable {τ : ℚ} {s : Sweep ℚ m d} {i : Fin m}

/-- A step that finds no pivot sets to zero what was zero. -/
theorem tableau_step_of_none (hzero : s.tableau.ZeroOrSignificant τ)
    (h : s.tableau.findPivot τ i s.next = none) : (s.step τ i).tableau = s.tableau := by
  rw [step_of_none h]
  apply Tableau.clearBlock_eq_self hzero
  exact fun r j hr hj _ => Tableau.findPivot_eq_none_iff.1 h r j hr hj

/-- The columns that a step skips on its way to a pivot were zero. -/
theorem tableau_step_of_zeroOrSignificant (hzero : s.tableau.ZeroOrSignificant τ) {p : Fin m}
    {c : Fin d} (h : s.tableau.findPivot τ i s.next = some (p, c)) :
    (s.step τ i).tableau = (s.tableau.swap i p).eliminateBelow τ i c := by
  have hskipped : s.tableau.clearBlock i s.next c = s.tableau := by
    apply Tableau.clearBlock_eq_self hzero
    intro r j hr hj hjc
    exact (Tableau.findPivot_eq_some_iff.1 h).2.2 j (Fin.lt_def.2 hjc) hj r hr
  rw [tableau_step_of_some h, hskipped]

/-- A step keeps the row space if every insignificant entry is zero. -/
theorem rowSpace_step (hτ : 0 < τ) (hzero : s.tableau.ZeroOrSignificant τ) :
    (s.step τ i).tableau.rowSpace = s.tableau.rowSpace := by
  cases h : s.tableau.findPivot τ i s.next with
  | none => rw [tableau_step_of_none hzero h]
  | some q =>
      obtain ⟨p, c⟩ := q
      rw [tableau_step_of_zeroOrSignificant hzero h, Tableau.rowSpace_eliminateBelow hτ,
        Tableau.rowSpace_swap]

end Sweep

end LinearSystems
