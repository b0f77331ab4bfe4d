import Mathlib
import LinearSystems.Proofs.Elimination.ReducedForm

/-!
# Residue in the pivot columns

The triangular pass skips an entry below the tolerance, so such an entry can stay below a pivot in
the pivot's own column.  The reduced pass adds multiples of its row to the rows above, and what it
carries up may no longer be small.

`Tableau.eraseResidue` takes the residue away.  The reduced pass computes the same with and without
it outside the pivot columns (`Tableau.agreeOn_backSubstitute`), and without it ends in reduced
form.  **The report is therefore in reduced row-echelon form exactly when it does not show the
residue** (`Elimination.isReduced_iff_residue_hidden`), which fails already for two equations
(`Elimination.residue_shows`).
-/

namespace LinearSystems

variable {K : Type} {m d : Nat}

namespace Line

variable [Scalar K] {τ : K} {c j : Fin d} {source source' target target' : Line K d}

/-- One entry after elimination depends on two entries of each line. -/
theorem eliminate_apply_congr (hsource : source.1 c = source'.1 c)
    (htarget : target.1 c = target'.1 c) (hsourceAt : source.1 j = source'.1 j)
    (htargetAt : target.1 j = target'.1 j) :
    (eliminate τ c source target).1 j = (eliminate τ c source' target').1 j := by
  have hskip : isSkipped τ c source target = isSkipped τ c source' target' := by
    rw [isSkipped, isSkipped, hsource, htarget]
  rw [eliminate, eliminate, hskip]
  split
  · exact htargetAt
  · simp only [hsource, htarget, hsourceAt, htargetAt]

theorem normalize_apply_congr (hpivot : source.1 c = source'.1 c)
    (hentry : source.1 j = source'.1 j) : (normalize c source).1 j = (normalize c source').1 j := by
  simp only [normalize, hpivot, hentry]

end Line

/-- Residue below the listed pivots cannot reach this place as long as the pivots in `rest` are
still to come: the column has no pivot, or its pivot is to come and stands in this row or below. -/
def Untainted (pivots rest : List (Pivot m d)) (i : Fin m) (j : Fin d) : Prop :=
  j ∉ pivots.map Prod.snd ∨ ∃ p ∈ rest, p.2 = j ∧ i ≤ p.1

namespace Tableau

/-! ## The reduced pass with and without residue -/

/-- The two tableaux have the same entries at the places that satisfy `visible`. -/
def AgreeOn (visible : Fin m → Fin d → Prop) (t u : Tableau K m d) : Prop :=
  ∀ i j, visible i j → t.entry i j = u.entry i j

/-- The tableau with zeros below the listed pivots, in their columns. -/
def eraseResidue [Zero K] (pivots : List (Pivot m d)) (t : Tableau K m d) : Tableau K m d :=
  ofFn (fun i j => if ∃ p ∈ pivots, p.2 = j ∧ p.1 < i then 0 else t.entry i j) t.offset

theorem entry_eraseResidue [Zero K] (pivots : List (Pivot m d)) (t : Tableau K m d) (i : Fin m)
    (j : Fin d) :
    (t.eraseResidue pivots).entry i j =
      if ∃ p ∈ pivots, p.2 = j ∧ p.1 < i then 0 else t.entry i j := by
  simp [eraseResidue]

section AnyScalar

variable [Scalar K] {τ : K} {pivots : List (Pivot m d)}

theorem agreeOn_normalizeAt {q : Pivot m d} {rest : List (Pivot m d)}
    (hrest : ∀ p ∈ rest, q.1 < p.1) {t u : Tableau K m d}
    (hagree : AgreeOn (Untainted pivots (q :: rest)) t u) :
    AgreeOn (Untainted pivots rest) (t.normalizeAt τ q) (u.normalizeAt τ q) := by
  intro i j hij
  have hpivot (r : Fin m) (hr : r ≤ q.1) : t.entry r q.2 = u.entry r q.2 :=
    hagree r q.2 (Or.inr ⟨q, List.mem_cons_self, rfl, hr⟩)
  have htarget : t.entry i j = u.entry i j := by
    apply hagree
    rcases hij with hplain | ⟨p, hp, hpj, hip⟩
    · exact Or.inl hplain
    · exact Or.inr ⟨p, List.mem_cons_of_mem q hp, hpj, hip⟩
  have hsource : t.entry q.1 j = u.entry q.1 j := by
    apply hagree
    rcases hij with hplain | ⟨p, hp, hpj, -⟩
    · exact Or.inl hplain
    · exact Or.inr ⟨p, List.mem_cons_of_mem q hp, hpj, (hrest p hp).le⟩
  rw [entry_eq_line, entry_eq_line, line_normalizeAt, line_normalizeAt]
  split
  · next hlt =>
      exact Line.eliminate_apply_congr (hpivot q.1 le_rfl) (hpivot i hlt.le) hsource htarget
  · split
    · exact Line.normalize_apply_congr (hpivot q.1 le_rfl) hsource
    · exact htarget

/-- Tableaux that differ by residue only still agree outside the pivot columns once the reduced pass
is through. -/
theorem agreeOn_backSubstitute {rest : List (Pivot m d)}
    (hrows : rest.Pairwise fun p q => p.1 < q.1) {t u : Tableau K m d}
    (hagree : AgreeOn (Untainted pivots rest) t u) :
    AgreeOn (Untainted pivots []) (t.backSubstitute τ rest) (u.backSubstitute τ rest) := by
  induction rest generalizing t u with
  | nil => exact hagree
  | cons q rest ih =>
      obtain ⟨hq, hrows⟩ := List.pairwise_cons.1 hrows
      exact ih hrows (agreeOn_normalizeAt hq hagree)

end AnyScalar

variable {τ : ℚ} {pivots : List (Pivot m d)}

theorem agreeOn_eraseResidue (h : IsStaircase pivots) (t : Tableau ℚ m d) :
    AgreeOn (Untainted pivots pivots) t (t.eraseResidue pivots) := by
  intro i j hij
  rw [entry_eraseResidue, if_neg]
  rintro ⟨p, hp, rfl, hpi⟩
  rcases hij with hplain | ⟨q, hq, hqp, hiq⟩
  · exact hplain (List.mem_map_of_mem hp)
  · obtain rfl := h.eq_of_snd_eq hq hp hqp
    exact lt_irrefl _ (hpi.trans_le hiq)

/-- What the reduced pass makes of the triangular form once its residue is erased. -/
def withoutResidue (τ : ℚ) (t : Tableau ℚ m d) : Tableau ℚ m d :=
  (((Sweep.run τ t).tableau.eraseResidue (Sweep.pivots τ t)).backSubstitute τ
    (Sweep.pivots τ t)).clean τ

theorem isReduced_withoutResidue (hτ : 0 < τ) (hτ1 : τ ≤ 1) (t : Tableau ℚ m d) :
    (t.withoutResidue τ).rows.IsReduced (Sweep.pivots τ t) := by
  have hstairs : IsStaircase (Sweep.pivots τ t) := Sweep.isStaircase_pivots hτ t
  apply isReduced_backSubstitute hτ hτ1 hstairs
  · intro i j hbelow
    rw [entry_eraseResidue]
    split
    · rfl
    · next hplain =>
        apply Sweep.entry_run_eq_zero t hbelow
        intro hj
        obtain ⟨p, hp, hpj⟩ := List.mem_map.1 hj
        exact hplain ⟨p, hp, hpj, hbelow p hp hpj.le⟩
  · intro p hp
    rw [entry_eraseResidue, if_neg]
    · exact Sweep.le_abs_of_mem_pivots hτ t hp
    · rintro ⟨q, hq, hqp, hlt⟩
      obtain rfl := hstairs.eq_of_snd_eq hq hp hqp
      exact lt_irrefl _ hlt

/-- Outside the pivot columns the residue is never seen. -/
theorem entry_gaussJordan_eq_withoutResidue (hτ : 0 < τ) (t : Tableau ℚ m d) (i : Fin m)
    {j : Fin d} (hj : j ∉ (Sweep.pivots τ t).map Prod.snd) :
    (t.gaussJordan τ).entry i j = (t.withoutResidue τ).entry i j := by
  have hstairs : IsStaircase (Sweep.pivots τ t) := Sweep.isStaircase_pivots hτ t
  have hagree := agreeOn_backSubstitute (τ := τ) (Sweep.pairwise_fst_pivots hτ t)
    (agreeOn_eraseResidue hstairs (Sweep.run τ t).tableau) i j (Or.inl hj)
  rw [gaussJordan, withoutResidue, entry_clean, entry_clean, hagree]

/-- Outside the pivot columns nothing is left below the staircase. -/
theorem entry_gaussJordan_eq_zero (hτ : 0 < τ) (t : Tableau ℚ m d) {i : Fin m} {j : Fin d}
    (hbelow : BelowPivots (Sweep.pivots τ t) i j) (hj : j ∉ (Sweep.pivots τ t).map Prod.snd) :
    (t.gaussJordan τ).entry i j = 0 := by
  rw [gaussJordan, entry_clean_eq_zero_iff hτ, entry_backSubstitute_run_eq_zero t hbelow hj,
    abs_zero]
  exact hτ

/-- **The two passes end in reduced form exactly when the residue does not show.** -/
theorem isReduced_gaussJordan_iff (hτ : 0 < τ) (hτ1 : τ ≤ 1) (t : Tableau ℚ m d) :
    (t.gaussJordan τ).rows.IsReduced (Sweep.pivots τ t) ↔
      (t.gaussJordan τ).rows = (t.withoutResidue τ).rows := by
  have hreduced := isReduced_withoutResidue hτ hτ1 t
  constructor
  · intro hshown
    apply Grid.ext_entry
    intro i j
    by_cases hj : j ∈ (Sweep.pivots τ t).map Prod.snd
    · -- Two tables reduced with the same pivots have the same pivot columns.
      obtain ⟨p, hp, rfl⟩ := List.mem_map.1 hj
      by_cases hi : i = p.1
      · subst hi
        rw [hshown.one p hp, hreduced.one p hp]
      · rw [hshown.column p hp i hi, hreduced.column p hp i hi]
    · exact entry_gaussJordan_eq_withoutResidue hτ t i hj
  · intro hsame
    rw [hsame]
    exact hreduced

end Tableau

namespace Elimination

/-- **When the report is in reduced row-echelon form.**  At every tolerance up to one the pivots
form a staircase and the columns without a pivot are zero below it.  The form is reached exactly
when the matrix is the one of the same elimination without residue, for instance if none is left. -/
theorem isReduced_iff_residue_hidden {s : LinearSystem ℚ} (hd : 0 < s.dimensions)
    (hτ : 0 < s.tolerance) (hτ1 : s.tolerance ≤ 1) :
    ∃ r, (ofSystem s).solve.1 = .ok r ∧ IsStaircase r.pivots ∧
      (∀ i j, BelowPivots r.pivots i j → j ∉ r.pivots.map Prod.snd → r.rows.entry i j = 0) ∧
      (r.rows.IsReduced r.pivots ↔
        r.rows = (Tableau.withoutResidue s.tolerance ⟨s.coefficients, s.offsets⟩).rows) ∧
      ((Sweep.run s.tolerance ⟨s.coefficients, s.offsets⟩).tableau.ResidueFree r.pivots →
        r.rows.IsReduced r.pivots) := by
  refine ⟨_, solve_ofSystem hd hτ, Sweep.isStaircase_pivots hτ _, ?_,
    Tableau.isReduced_gaussJordan_iff hτ hτ1 _, Tableau.isReduced_gaussJordan hτ hτ1⟩
  exact fun i j hbelow hj => Tableau.entry_gaussJordan_eq_zero hτ _ hbelow hj

/-- At tolerance `1/8` the entry `1/16` is left below the first pivot.  The second pivot carries it
up into that pivot, which the report shows as `15/16`. -/
theorem residue_shows :
    ∃ s, LinearSystem.ofArrays (Grid.ofFn ![![1, 1], ![1 / 16, 1]]) (Vector.ofFn ![1, 1])
        (1 / 8 : ℚ) = .ok s ∧
      ∃ r, (ofSystem s).solve.1 = .ok r ∧ r.rows.toLists = [[15 / 16, 0], [0, 1]] ∧
        r.pivots.map (fun p => (p.1.val, p.2.val)) = [(0, 0), (1, 1)] ∧
        ¬ r.rows.IsReduced r.pivots := by
  have hτ : (0 : ℚ) < 1 / 8 := by norm_num
  refine ⟨_, LinearSystem.ofArrays_eq_ok (by decide) _ _ hτ, _, solve_ofSystem (by decide) hτ,
    by decide +kernel, by decide +kernel, ?_⟩
  intro hreduced
  have hfirst := hreduced.one ((0 : Fin 2), (0 : Fin 2)) (by decide +kernel)
  revert hfirst
  decide +kernel

/-- The same entry below a first pivot that stands alone in its row: nothing is carried up. -/
theorem residue_hidden_beside_lone_pivot :
    ∃ s, LinearSystem.ofArrays (Grid.ofFn ![![2, 0], ![1 / 16, 1]]) (Vector.ofFn ![1, 1])
        (1 / 8 : ℚ) = .ok s ∧
      ∃ r, (ofSystem s).solve.1 = .ok r ∧ r.rows.IsReduced r.pivots := by
  have hτ : (0 : ℚ) < 1 / 8 := by norm_num
  have hτ1 : (1 / 8 : ℚ) ≤ 1 := by norm_num
  have hbuilt := LinearSystem.ofArrays_eq_ok (d := 2) (by decide)
    (Grid.ofFn ![![2, 0], ![1 / 16, 1]]) (Vector.ofFn ![1, 1]) hτ
  refine ⟨_, hbuilt, ?_⟩
  obtain ⟨r, hsolve, -, -, hiff, -⟩ := isReduced_iff_residue_hidden (s := ⟨2, 2,
    Grid.ofFn ![![2, 0], ![1 / 16, 1]], Vector.ofFn ![1, 1], 1 / 8, _⟩) Nat.two_pos hτ hτ1
  refine ⟨r, hsolve, hiff.2 ?_⟩
  rw [solve_ofSystem Nat.two_pos hτ] at hsolve
  obtain rfl := Except.ok.inj hsolve
  apply Grid.ext_entry
  decide +kernel

end Elimination

end LinearSystems
