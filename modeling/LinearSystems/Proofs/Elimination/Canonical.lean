import Mathlib
import LinearSystems.Proofs.Elimination.Verdict

/-!
# The reduced form is determined by the row space

In reduced form a column has a pivot exactly if every null vector that vanishes right of this column
vanishes in it too.  So the null space determines the pivot columns, with them the directions of the
free columns, and with these the rows: **two reduced tables with one null space have the same
pivots and the same rows above the zero rows** (`Grid.IsReduced.columns_eq`,
`Grid.IsReduced.entry_eq`).  The pivot point is determined by the solutions
(`Grid.IsReduced.pivotPoint_eq`).

A reduced table without small entries is left alone by both passes
(`Tableau.gaussJordan_eq_clean`).  Together: for all small tolerances systems with one row space get
the same report, and the reported system is its own reduced form
(`Elimination.same_report_of_rowSpace_eq`).
-/

namespace LinearSystems

open Filter Topology

variable {m n d : Nat}

/-! ## Uniqueness -/

namespace Grid.IsReduced

variable {g : Grid ℚ m d} {pivots : List (Pivot m d)} {g' : Grid ℚ n d} {pivots' : List (Pivot n d)}

/-- A null vector that vanishes right of a pivot column vanishes in it. -/
theorem apply_eq_zero_of_right (h : g.IsReduced pivots) {p : Pivot m d} (hp : p ∈ pivots)
    {x : Fin d → ℚ} (hx : g.toMatrix.mulVec x = 0) (hright : ∀ j, p.2 < j → x j = 0) :
    x p.2 = 0 := by
  have hother (j : Fin d) (hj : j ≠ p.2) : g.entry p.1 j * x j = 0 := by
    rcases lt_or_gt_of_ne hj with hlt | hgt
    · rw [h.left p hp j hlt, zero_mul]
    · rw [hright j hgt, mul_zero]
  calc x p.2
      = g.entry p.1 p.2 * x p.2 := by rw [h.one p hp, one_mul]
    _ = ∑ j, g.entry p.1 j * x j := (Fintype.sum_eq_single p.2 hother).symm
    _ = g.toMatrix.mulVec x p.1 := rfl
    _ = 0 := congrFun hx p.1

/-- The direction of a free column vanishes right of the column. -/
theorem freeDirection_eq_zero_of_lt (h : g.IsReduced pivots) {f : Fin d}
    (hf : f ∉ pivots.map Prod.snd) {j : Fin d} (hj : f < j) :
    (freeDirection pivots g f).get j = 0 := by
  by_cases hcolumn : j ∈ pivots.map Prod.snd
  · obtain ⟨p, hp, rfl⟩ := List.mem_map.1 hcolumn
    rw [get_freeDirection_of_mem h.toIsStaircase hf hp, h.left p hp f hj, neg_zero]
  · exact get_freeDirection_of_notMem hcolumn hj.ne'

theorem mem_columns_of_mem (h : g.IsReduced pivots) (h' : g'.IsReduced pivots')
    (hker : LinearMap.ker g.toMatrix.mulVecLin = LinearMap.ker g'.toMatrix.mulVecLin) {j : Fin d}
    (hj : j ∈ pivots.map Prod.snd) : j ∈ pivots'.map Prod.snd := by
  by_contra hfree
  -- Its direction would be a null vector that ends with a one in a pivot column.
  have hnull : (freeDirection pivots' g' j).get ∈ LinearMap.ker g.toMatrix.mulVecLin := by
    rw [hker, LinearMap.mem_ker]
    exact h'.mulVec_freeDirection hfree
  obtain ⟨p, hp, rfl⟩ := List.mem_map.1 hj
  have hzero := h.apply_eq_zero_of_right hp (LinearMap.mem_ker.1 hnull) fun j hj =>
    h'.freeDirection_eq_zero_of_lt hfree hj
  rw [get_freeDirection_self] at hzero
  exact one_ne_zero hzero

variable (h : g.IsReduced pivots) (h' : g'.IsReduced pivots')
  (hker : LinearMap.ker g.toMatrix.mulVecLin = LinearMap.ker g'.toMatrix.mulVecLin)

include h h' hker

/-- **The null space determines the pivot columns.** -/
theorem columns_eq : pivots.map Prod.snd = pivots'.map Prod.snd :=
  h.increasing.eq_of_mem_iff h'.increasing fun _ =>
    ⟨h.mem_columns_of_mem h' hker, h'.mem_columns_of_mem h hker.symm⟩

theorem length_eq : pivots.length = pivots'.length := by
  have hlength := congrArg List.length (h.columns_eq h' hker)
  rwa [List.length_map, List.length_map] at hlength

theorem freeColumns_eq : freeColumns pivots = freeColumns pivots' := by
  have hcolumns := h.columns_eq h' hker
  apply List.filter_congr
  intro j _
  rw [Bool.eq_iff_iff, Option.isNone_iff_eq_none, Option.isNone_iff_eq_none,
    pivotRow?_eq_none_iff, pivotRow?_eq_none_iff, hcolumns]

theorem snd_getElem_eq {k : Nat} (hk : k < pivots.length) (hk' : k < pivots'.length) :
    pivots[k].2 = pivots'[k].2 := by
  have hget := List.getElem_of_eq (h.columns_eq h' hker) (i := k) (by rwa [List.length_map])
  rwa [List.getElem_map, List.getElem_map] at hget

/-- The pivots as pairs of numbers. -/
theorem places_eq : pivots.map (fun p => (p.1.val, p.2.val)) =
    pivots'.map fun p => (p.1.val, p.2.val) := by
  apply List.ext_getElem
  · rw [List.length_map, List.length_map, h.length_eq h' hker]
  · intro k hk hk'
    rw [List.length_map] at hk hk'
    rw [List.getElem_map, List.getElem_map, h.row k hk, h'.row k hk',
      h.snd_getElem_eq h' hker hk hk']

/-- **The null space determines the directions.** -/
theorem freeDirection_eq {f : Fin d} (hf : f ∉ pivots.map Prod.snd) :
    (freeDirection pivots g f).get = (freeDirection pivots' g' f).get := by
  have hcolumns := h.columns_eq h' hker
  have hf' : f ∉ pivots'.map Prod.snd := hcolumns ▸ hf
  have hnull : (freeDirection pivots' g' f).get ∈ LinearMap.ker g.toMatrix.mulVecLin := by
    rw [hker, LinearMap.mem_ker]
    exact h'.mulVec_freeDirection hf'
  have hzero : (freeDirection pivots g f).get - (freeDirection pivots' g' f).get = 0 := by
    apply h.eq_zero_of_mulVec_eq_zero
    · rw [Matrix.mulVec_sub, h.mulVec_freeDirection hf]
      exact sub_eq_zero.2 (LinearMap.mem_ker.1 hnull).symm
    · intro j hj
      rw [Pi.sub_apply]
      by_cases hjf : j = f
      · rw [hjf, get_freeDirection_self, get_freeDirection_self, sub_self]
      · rw [get_freeDirection_of_notMem hj hjf, get_freeDirection_of_notMem (hcolumns ▸ hj) hjf,
          sub_self]
  exact sub_eq_zero.1 hzero

omit h' hker in
/-- In the pivot columns the row of a pivot is a unit vector. -/
theorem entry_of_mem_columns {p : Pivot m d} (hp : p ∈ pivots) {j : Fin d}
    (hj : j ∈ pivots.map Prod.snd) : g.entry p.1 j = if j = p.2 then 1 else 0 := by
  obtain ⟨q, hq, rfl⟩ := List.mem_map.1 hj
  split
  · next heq =>
      obtain rfl := h.eq_of_snd_eq hq hp heq
      exact h.one q hq
  · next hne => exact h.entry_of_notMem hp hq fun heq => hne (congrArg Prod.snd heq)

/-- **The null space determines the rows above the zero rows.** -/
theorem entry_eq {i : Fin m} {i' : Fin n} (hrow : i.val = i'.val) (hi : i.val < pivots.length) :
    g.entry i = g'.entry i' := by
  have hcolumns := h.columns_eq h' hker
  have hi' : i'.val < pivots'.length := by
    rw [← hrow, ← h.length_eq h' hker]
    exact hi
  have hp : pivots[i.val] ∈ pivots := List.getElem_mem hi
  have hq : pivots'[i'.val] ∈ pivots' := List.getElem_mem hi'
  have hpi : pivots[i.val].1 = i := Fin.ext (h.row i hi)
  have hqi : pivots'[i'.val].1 = i' := Fin.ext (h'.row i' hi')
  have hpq : pivots[i.val].2 = pivots'[i'.val].2 := by
    simp only [← hrow]
    exact h.snd_getElem_eq h' hker hi _
  rw [← hpi, ← hqi]
  funext j
  by_cases hj : j ∈ pivots.map Prod.snd
  · rw [h.entry_of_mem_columns hp hj, h'.entry_of_mem_columns hq (hcolumns ▸ hj), hpq]
  · have hdirection := congrFun (h.freeDirection_eq h' hker hj) pivots[i.val].2
    rw [get_freeDirection_of_mem h.toIsStaircase hj hp, hpq,
      get_freeDirection_of_mem h'.toIsStaircase (hcolumns ▸ hj) hq] at hdirection
    exact neg_injective hdirection

/-- **The solutions determine the pivot point.** -/
theorem pivotPoint_eq {b : Vector ℚ m} {b' : Vector ℚ n}
    (hsame : solutionSet g b = solutionSet g' b') (hne : (solutionSet g b).Nonempty) :
    (pivotPoint pivots b).get = (pivotPoint pivots' b').get := by
  have hcolumns := h.columns_eq h' hker
  have hbase := h.mulVec_pivotPoint (h.nonempty_solutionSet_iff.1 hne)
  have hbase' : (pivotPoint pivots' b').get ∈ solutionSet g b := by
    rw [hsame]
    exact h'.mulVec_pivotPoint (h'.nonempty_solutionSet_iff.1 (hsame ▸ hne))
  have hzero : (pivotPoint pivots b).get - (pivotPoint pivots' b').get = 0 := by
    apply h.eq_zero_of_mulVec_eq_zero
    · rw [Matrix.mulVec_sub, hbase, hbase', sub_self]
    · intro j hj
      rw [Pi.sub_apply, get_pivotPoint_of_notMem hj, get_pivotPoint_of_notMem (hcolumns ▸ hj),
        sub_self]
  exact sub_eq_zero.1 hzero

end Grid.IsReduced

/-- The kind is determined by the set of solutions. -/
theorem SolutionKind.Describes.unique {kind kind' : SolutionKind} {points : Set (Fin d → ℚ)}
    (h : kind.Describes points) (h' : kind'.Describes points) : kind = kind' := by
  cases kind' with
  | inconsistent => exact h.eq_iff.1.2 h'
  | unique => exact h.eq_iff.2.1.2 h'
  | infinite => exact h.eq_iff.2.2.2 h'

/-- What is read off two reduced tables with the same solutions is the same parametrization. -/
theorem Parametrization.read_eq {τ : ℚ} (hτ : 0 < τ) (hτ1 : τ ≤ 1) {g : Grid ℚ m d}
    {g' : Grid ℚ n d} {pivots : List (Pivot m d)} {pivots' : List (Pivot n d)}
    (h : g.IsReduced pivots) (h' : g'.IsReduced pivots')
    (hker : LinearMap.ker g.toMatrix.mulVecLin = LinearMap.ker g'.toMatrix.mulVecLin)
    {b : Vector ℚ m} {b' : Vector ℚ n} (hsame : solutionSet g b = solutionSet g' b')
    (hne : (solutionSet g b).Nonempty) : read τ g b = read τ g' b' := by
  have hdirections : (freeColumns pivots').map
        (fun f => Vec.column (freeDirection pivots g f).get τ) =
      (freeColumns pivots').map fun f => Vec.column (freeDirection pivots' g' f).get τ := by
    apply List.map_congr_left
    intro f hf
    rw [← h.freeColumns_eq h' hker] at hf
    rw [h.freeDirection_eq h' hker (mem_freeColumns.1 hf)]
  rw [read, read, h.pivots_eq hτ hτ1, h'.pivots_eq hτ hτ1, h.pivotPoint_eq h' hker hsame hne,
    h.freeColumns_eq h' hker, hdirections]

/-! ## A reduced system is left alone -/

theorem Line.eliminate_eq_self {τ : ℚ} (hτ : 0 < τ) {c : Fin d} (source : Line ℚ d)
    {target : Line ℚ d} (h : target.1 c = 0) : eliminate τ c source target = target := by
  rw [eliminate, if_pos]
  rw [isSkipped_iff, h, abs_zero]
  exact Or.inl hτ

theorem Line.normalize_eq_self {c : Fin d} {l : Line ℚ d} (h : l.1 c = 1) : normalize c l = l := by
  rw [normalize_eq_smul (h ▸ one_ne_zero), h, div_one, one_smul]

namespace Tableau

variable {τ : ℚ} {t : Tableau ℚ m d} {pivots : List (Pivot m d)}

theorem swap_self (i : Fin m) (t : Tableau ℚ m d) : t.swap i i = t := by
  apply ext_line
  intro r
  rw [line_swap, exchange]
  split
  · next hr => rw [hr]
  · rfl

theorem eliminateBelow_eq_self (hτ : 0 < τ) (h : t.rows.IsReduced pivots) {p : Pivot m d}
    (hp : p ∈ pivots) : t.eliminateBelow τ p.1 p.2 = t := by
  apply ext_line
  intro i
  rw [line_eliminateBelow]
  split
  · next hlt => exact Line.eliminate_eq_self hτ _ (h.column p hp i hlt.ne')
  · rfl

theorem normalizeAt_eq_self (hτ : 0 < τ) (h : t.rows.IsReduced pivots) {p : Pivot m d}
    (hp : p ∈ pivots) : t.normalizeAt τ p = t := by
  apply ext_line
  intro i
  rw [line_normalizeAt]
  split
  · next hlt => exact Line.eliminate_eq_self hτ _ (h.column p hp i hlt.ne)
  · split
    · next heq =>
        rw [heq]
        exact Line.normalize_eq_self (h.one p hp)
    · rfl

theorem backSubstitute_eq_self (hτ : 0 < τ) (h : t.rows.IsReduced pivots)
    {listed : List (Pivot m d)} (hlisted : ∀ p ∈ listed, p ∈ pivots) :
    t.backSubstitute τ listed = t := by
  induction listed with
  | nil => rfl
  | cons p listed ih =>
      show (t.normalizeAt τ p).backSubstitute τ listed = t
      rw [normalizeAt_eq_self hτ h (hlisted p List.mem_cons_self)]
      exact ih fun q hq => hlisted q (List.mem_cons_of_mem p hq)

/-- The search of the triangular pass finds the pivot of the row in its place. -/
theorem findPivot_of_isReduced (hτ : 0 < τ) (hτ1 : τ ≤ 1) (h : t.rows.IsReduced pivots)
    {i : Fin m} (hi : i.val < pivots.length) {start : Nat} (hstart : Separates pivots i start) :
    t.findPivot τ i start = some (i, pivots[i.val].2) := by
  have hrow : pivots[i.val].1 = i := Fin.ext (h.row i hi)
  have hone : t.entry i pivots[i.val].2 = 1 := by
    have hpivot := h.one _ (List.getElem_mem hi)
    rwa [hrow] at hpivot
  refine findPivot_eq_some_iff.2 ⟨⟨hstart.after i hi le_rfl, le_rfl, ?_⟩, ?_, ?_⟩
  · rw [hone, Scalar.isSignificant_rat_iff, abs_one]
    exact hτ1
  · exact fun r hr hir => absurd hir (not_le.2 (Fin.lt_def.1 hr))
  · intro j hj hle r hir
    apply h.isClearBelow hτ r j
    · intro q hq hqj
      have hqi : q.1 < pivots[i.val].1 :=
        (h.fst_lt_iff hq (List.getElem_mem hi)).2 (hqj.trans_lt hj)
      rw [hrow] at hqi
      exact hqi.trans_le (Fin.le_def.2 hir)
    · apply hstart.notMem hle
      intro l hl hil
      rcases Nat.eq_or_lt_of_le hil with rfl | hlt
      · exact hj
      · exact hj.trans (h.snd_lt_of_lt hi hl hlt)

theorem findPivot_of_length_le (hτ : 0 < τ) (h : t.rows.IsReduced pivots) {i : Fin m}
    (hi : pivots.length ≤ i) (start : Nat) : t.findPivot τ i start = none := by
  apply findPivot_eq_none_iff.2
  intro r j hr _
  rw [← rows_entry, h.rest r (hi.trans hr)]
  exact Scalar.isSignificant_rat_zero hτ

end Tableau

namespace Sweep

variable {τ : ℚ} {pivots : List (Pivot m d)}

theorem tableau_runFrom_eq_self (hτ : 0 < τ) (hτ1 : τ ≤ 1) {k : Nat} (hk : k ≤ m)
    {s : Sweep ℚ m d} (h : s.tableau.rows.IsReduced pivots)
    (hzero : s.tableau.ZeroOrSignificant τ) (hstart : Separates pivots k s.next) :
    (runFrom τ k s).tableau = s.tableau := by
  induction k, hk using rows_induction generalizing s with
  | done => rw [runFrom_self]
  | row i ih =>
      have hkeep : (s.step τ i).tableau = s.tableau ∧
          Separates pivots (i + 1) (s.step τ i).next := by
        rcases lt_or_ge i.val pivots.length with hi | hi
        · -- The row is exchanged with itself, and what it would eliminate is zero.
          have hfound := Tableau.findPivot_of_isReduced hτ hτ1 h hi hstart
          have hrow : pivots[i.val].1 = i := Fin.ext (h.row i hi)
          have hbelow := Tableau.eliminateBelow_eq_self hτ h (List.getElem_mem hi)
          rw [hrow] at hbelow
          rw [tableau_step_of_zeroOrSignificant hzero hfound, Tableau.swap_self,
            next_step_of_some hfound]
          exact ⟨hbelow, h.separates_succ hi⟩
        · have hnone := Tableau.findPivot_of_length_le hτ h hi s.next
          have hnext : (s.step τ i).next = d := by
            rw [step_of_none hnone]
          rw [tableau_step_of_none hzero hnone, hnext]
          exact ⟨rfl, fun l hl _ => pivots[l].2.isLt,
            fun l hl hil => absurd (hi.trans (Nat.le_of_succ_le hil)) (not_le.2 hl)⟩
      obtain ⟨htableau, hnext⟩ := hkeep
      rw [runFrom_fin, ih (htableau.symm ▸ h) (htableau.symm ▸ hzero) hnext, htableau]

end Sweep

namespace Tableau

variable {τ : ℚ} {t : Tableau ℚ m d} {pivots : List (Pivot m d)}

/-- **A reduced tableau without small entries is only cleaned**, and its pivots are found again. -/
theorem gaussJordan_eq_clean (hτ : 0 < τ) (hτ1 : τ ≤ 1) (h : t.rows.IsReduced pivots)
    (hzero : t.ZeroOrSignificant τ) :
    Sweep.pivots τ t = pivots ∧ t.gaussJordan τ = t.clean τ := by
  have hrun : (Sweep.run τ t).tableau = t := by
    rw [Sweep.run_eq_runFrom]
    exact Sweep.tableau_runFrom_eq_self hτ hτ1 (Nat.zero_le m) h hzero (.zero pivots)
  have hpivots : Sweep.pivots τ t = pivots := by
    rw [← Sweep.pivots_run (Scalar.isSignificant_rat_zero hτ), hrun, h.pivots_eq hτ hτ1]
  refine ⟨hpivots, ?_⟩
  rw [gaussJordan, hrun, hpivots, backSubstitute_eq_self hτ h fun _ hp => hp]

theorem zeroOrSignificant_clean (hτ : 0 < τ) (t : Tableau ℚ m d) :
    (t.clean τ).ZeroOrSignificant τ := by
  intro i j hsmall
  rw [entry_clean_eq_zero_iff hτ]
  by_contra hlarge
  rw [entry_clean_of_le (not_lt.1 hlarge)] at hsmall
  exact hlarge hsmall

theorem clean_clean (τ : ℚ) (t : Tableau ℚ m d) : (t.clean τ).clean τ = t.clean τ := by
  have htwice (x : ℚ) : (if Scalar.isSmall τ (if Scalar.isSmall τ x then 0 else x) then 0
      else if Scalar.isSmall τ x then 0 else x) = if Scalar.isSmall τ x then 0 else x := by
    by_cases hx : Scalar.isSmall τ x = true
    · rw [if_pos hx, ite_self]
    · rw [if_neg hx, if_neg hx]
  apply ext_line
  intro i
  refine Prod.ext (funext fun j => ?_) ?_
  · show ((t.clean τ).clean τ).entry i j = (t.clean τ).entry i j
    rw [entry_clean, entry_clean]
    exact htwice _
  · show ((t.clean τ).clean τ).offset i = (t.clean τ).offset i
    rw [offset_clean, offset_clean]
    exact htwice _

/-- **Reducing twice is reducing once**, wherever the reduced form is reached. -/
theorem gaussJordan_gaussJordan (hτ : 0 < τ) (hτ1 : τ ≤ 1)
    (h : (t.gaussJordan τ).rows.IsReduced pivots) :
    Sweep.pivots τ (t.gaussJordan τ) = pivots ∧
      (t.gaussJordan τ).gaussJordan τ = t.gaussJordan τ := by
  obtain ⟨hpivots, hclean⟩ := gaussJordan_eq_clean hτ hτ1 h (zeroOrSignificant_clean hτ _)
  exact ⟨hpivots, hclean.trans (clean_clean τ _)⟩

end Tableau

namespace Elimination

/-- The system of these arrays can be built and its solve gives this report. -/
def Reports (A : Grid ℚ m d) (b : Vector ℚ m) (τ : ℚ) (r : Report ℚ m d) : Prop :=
  ∃ equations, LinearSystem.ofArrays A b τ = .ok ⟨m, d, A, b, τ, equations⟩ ∧
    (ofSystem ⟨m, d, A, b, τ, equations⟩).solve.1 = .ok r

theorem reports_outcome (hd : 0 < d) {τ : ℚ} (hτ : 0 < τ) (A : Grid ℚ m d) (b : Vector ℚ m) :
    Reports A b τ (outcome τ ⟨A, b⟩) :=
  ⟨_, LinearSystem.ofArrays_eq_ok hd A b hτ, solve_ofSystem hd hτ⟩

/-- What the report says of its own system is what it says. -/
def Reproduces (τ : ℚ) (r : Report ℚ m d) : Prop :=
  ∃ again, Reports r.rows r.offsets τ again ∧ again.rows = r.rows ∧ again.offsets = r.offsets ∧
    again.pivots = r.pivots ∧ again.kind = r.kind

theorem reproduces_outcome (hd : 0 < d) {τ : ℚ} (hτ : 0 < τ) (hτ1 : τ ≤ 1) {t : Tableau ℚ m d}
    (h : (t.gaussJordan τ).rows.IsReduced (Sweep.pivots τ t)) : Reproduces τ (outcome τ t) := by
  obtain ⟨hpivots, hsame⟩ := Tableau.gaussJordan_gaussJordan hτ hτ1 h
  refine ⟨outcome τ (t.gaussJordan τ), reports_outcome hd hτ _ _, congrArg Tableau.rows hsame,
    congrArg Tableau.offsets hsame, hpivots, ?_⟩
  show ((t.gaussJordan τ).gaussJordan τ).classify τ (Sweep.pivots τ (t.gaussJordan τ)).length = _
  rw [hsame, hpivots]
  rfl

/-- Two reports say the same, on systems that may have different numbers of equations. -/
structure Agree (r : Report ℚ m d) (r' : Report ℚ n d) : Prop where
  kind : r.kind = r'.kind
  pivots : r.pivots.map (fun p => (p.1.val, p.2.val)) =
    r'.pivots.map fun p => (p.1.val, p.2.val)
  rows : ∀ (i : Fin m) (i' : Fin n), i.val = i'.val → i.val < r.rank →
    r.rows.entry i = r'.rows.entry i'
  rest : ∀ i : Fin m, r.rank ≤ i → ∀ j, r.rows.entry i j = 0
  rest' : ∀ i : Fin n, r'.rank ≤ i → ∀ j, r'.rows.entry i j = 0
  solution : r.solution = r'.solution
  parametrization : r.parametrization = r'.parametrization

theorem agree_outcome {τ : ℚ} (hτ : 0 < τ) (hτ1 : τ ≤ 1) {t : Tableau ℚ m d} {u : Tableau ℚ n d}
    (ht : (t.gaussJordan τ).rows.IsReduced (Sweep.pivots τ t))
    (hu : (u.gaussJordan τ).rows.IsReduced (Sweep.pivots τ u))
    (hspace : (t.gaussJordan τ).rowSpace = (u.gaussJordan τ).rowSpace) :
    Agree (outcome τ t) (outcome τ u) := by
  have hker := Tableau.ker_eq_of_rowSpace_eq hspace
  have hpoints := Tableau.solutions_eq_of_rowSpace_eq hspace
  have hdescribes := (Tableau.describes_classify hτ ht).1
  have hkind : (outcome τ t).kind = (outcome τ u).kind :=
    hdescribes.unique (hpoints ▸ (Tableau.describes_classify hτ hu).1)
  have hsame : solutionSet (t.gaussJordan τ).rows (t.gaussJordan τ).offsets =
      solutionSet (u.gaussJordan τ).rows (u.gaussJordan τ).offsets := by
    rw [← Tableau.solutions_mk, ← Tableau.solutions_mk]
    exact hpoints
  have hsolvable (hne : (outcome τ t).kind ≠ .inconsistent) :
      (solutionSet (t.gaussJordan τ).rows (t.gaussJordan τ).offsets).Nonempty := by
    rw [← Tableau.solutions_mk]
    exact Set.nonempty_iff_ne_empty.2 fun hempty => hne (hdescribes.eq_iff.1.2 hempty)
  refine ⟨hkind, ht.places_eq hu hker, fun i i' => ht.entry_eq hu hker, ht.rest, hu.rest, ?_, ?_⟩
  · show (if (outcome τ t).kind = .unique then _ else _) =
      if (outcome τ u).kind = .unique then _ else _
    rw [← hkind]
    split
    · next hunique =>
        rw [ht.pivotPoint_eq hu hker hsame (hsolvable (by rw [hunique]; nofun))]
    · rfl
  · show (if (outcome τ t).kind = .infinite then _ else _) =
      if (outcome τ u).kind = .infinite then _ else _
    rw [← hkind]
    split
    · next hinfinite =>
        rw [Parametrization.read_eq hτ hτ1 ht hu hker hsame (hsolvable (by rw [hinfinite]; nofun))]
    · rfl

/-- **Systems with one row space get the same report, for all small tolerances**, and what is
reported is its own reduced form. -/
theorem same_report_of_rowSpace_eq (hd : 0 < d) {A : Grid ℚ m d} {b : Vector ℚ m}
    {A' : Grid ℚ n d} {b' : Vector ℚ n}
    (hspace : Tableau.rowSpace ⟨A, b⟩ = Tableau.rowSpace ⟨A', b'⟩) :
    ∃ τ₀ : ℚ, 0 < τ₀ ∧ ∀ τ, 0 < τ → τ ≤ τ₀ →
      ∃ r r', Reports A b τ r ∧ Reports A' b' τ r' ∧ Agree r r' ∧ Reproduces τ r ∧
        Reproduces τ r' := by
  apply exists_forall_of_eventually
  have hsmall : ∀ᶠ τ in 𝓝[>] (0 : ℚ), τ ∈ Set.Ioc (0 : ℚ) 1 := Ioc_mem_nhdsGT one_pos
  filter_upwards [hsmall,
    Tableau.eventually_isReduced_gaussJordan ⟨A, b⟩,
    Tableau.eventually_isReduced_gaussJordan ⟨A', b'⟩,
    Tableau.eventually_rowSpace_gaussJordan ⟨A, b⟩,
    Tableau.eventually_rowSpace_gaussJordan ⟨A', b'⟩] with τ hτ hreduced hreduced' hkeep hkeep'
  have hreach : (Tableau.gaussJordan τ ⟨A, b⟩).rowSpace =
      (Tableau.gaussJordan τ ⟨A', b'⟩).rowSpace := hkeep.trans (hspace.trans hkeep'.symm)
  exact ⟨_, _, reports_outcome hd hτ.1 A b, reports_outcome hd hτ.1 A' b',
    agree_outcome hτ.1 hτ.2 hreduced hreduced' hreach,
    reproduces_outcome hd hτ.1 hτ.2 hreduced, reproduces_outcome hd hτ.1 hτ.2 hreduced'⟩

/-- A system of two equations of one line, and one equation of this line. -/
theorem same_report_of_repeated_line :
    ∃ τ₀ : ℚ, 0 < τ₀ ∧ ∀ τ, 0 < τ → τ ≤ τ₀ →
      ∃ r r', Reports (Grid.ofFn ![![1, 1], ![2, 2]]) (Vector.ofFn ![2, 4]) τ r ∧
        Reports (Grid.ofFn ![![3, 3]]) (Vector.ofFn ![6]) τ r' ∧ Agree r r' ∧ Reproduces τ r ∧
        Reproduces τ r' := by
  let t : Tableau ℚ 2 2 := ⟨Grid.ofFn ![![1, 1], ![2, 2]], Vector.ofFn ![2, 4]⟩
  let u : Tableau ℚ 1 2 := ⟨Grid.ofFn ![![3, 3]], Vector.ofFn ![6]⟩
  have hfirst : t.line 0 = (1 / 3 : ℚ) • u.line 0 := by decide +kernel
  have hsecond : t.line 1 = (2 / 3 : ℚ) • u.line 0 := by decide +kernel
  have honly : u.line 0 = (3 : ℚ) • t.line 0 := by decide +kernel
  have hspace : t.rowSpace = u.rowSpace := by
    rw [Tableau.rowSpace_eq_iff, Fin.forall_fin_two, Fin.forall_fin_one, hfirst, hsecond]
    refine ⟨⟨?_, ?_⟩, ?_⟩
    · exact Submodule.smul_mem _ _ (u.line_mem_rowSpace 0)
    · exact Submodule.smul_mem _ _ (u.line_mem_rowSpace 0)
    · rw [honly]
      exact Submodule.smul_mem _ _ (t.line_mem_rowSpace 0)
  exact same_report_of_rowSpace_eq (by decide) hspace

end Elimination

end LinearSystems
