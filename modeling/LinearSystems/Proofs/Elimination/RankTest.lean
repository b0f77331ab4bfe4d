import Mathlib
import LinearSystems.Proofs.Elimination.Residue

/-!
# The rank test on the augmented matrix

A system is eliminated twice: once with its offsets beside the rows, once with the offsets as the
last column of the matrix.  The second run places the pivots of the first, and one more in the last
column exactly when a row without a pivot ends with a significant offset
(`Sweep.length_pivots_augment`).

The verdict looks elsewhere, at the rows whose matrix part is zero.  **It is the verdict of the rank
test exactly when both places show a significant offset or neither does**
(`Elimination.inconsistent_iff_rank_lt_iff`).  Residue can part them:
`Elimination.residue_hides_a_row`.
-/

namespace LinearSystems

variable {K : Type} {m d : Nat}

/-- The table with one more column. -/
def Grid.augment (g : Grid K m d) (b : Vector K m) : Grid K m (d + 1) :=
  Grid.ofFn fun i => Fin.snoc (α := fun _ => K) (g.entry i) (b.get i)

/-! ## One run inside the other -/

/-- The wide line holds the narrow one, with its offset in the last column. -/
structure Line.Carries (wide : Line K (d + 1)) (narrow : Line K d) : Prop where
  entry : ∀ j : Fin d, wide.1 j.castSucc = narrow.1 j
  offset : wide.1 (Fin.last d) = narrow.2

/-- Every line of the wide tableau holds the one of the narrow tableau in that row. -/
def Tableau.Carries (wide : Tableau K m (d + 1)) (narrow : Tableau K m d) : Prop :=
  ∀ i, (wide.line i).Carries (narrow.line i)

namespace Line.Carries

theorem clear [Zero K] {wide : Line K (d + 1)} {narrow : Line K d} (h : wide.Carries narrow)
    (start : Nat) (stop : Fin d) : (wide.clear start stop).Carries (narrow.clear start stop) := by
  constructor
  · intro j
    simp only [Line.clear, h.entry, Fin.val_castSucc]
  · have hlast : ¬ (start ≤ (Fin.last d).val ∧ (Fin.last d).val < stop) := by
      rw [Fin.val_last]
      exact fun hcleared => lt_asymm hcleared.2 stop.isLt
    exact (if_neg hlast).trans h.offset

theorem eliminate [Scalar K] {τ : K} {source target : Line K d} {source' target' : Line K (d + 1)}
    (hsource : source'.Carries source) (htarget : target'.Carries target) (c : Fin d) :
    (Line.eliminate τ c.castSucc source' target').Carries (Line.eliminate τ c source target) := by
  have hskip : Line.isSkipped τ c.castSucc source' target' = Line.isSkipped τ c source target := by
    rw [Line.isSkipped, Line.isSkipped, hsource.entry, htarget.entry]
  rw [Line.eliminate, Line.eliminate, hskip]
  split
  · exact htarget
  · constructor
    · intro j
      simp only [Fin.castSucc_inj, hsource.entry, htarget.entry]
    · have hne : Fin.last d ≠ c.castSucc := (Fin.castSucc_lt_last c).ne'
      simp only [hne, if_false, hsource.entry, htarget.entry, hsource.offset, htarget.offset]

end Line.Carries

theorem Tableau.carries_augment (g : Grid K m d) (b c : Vector K m) :
    Tableau.Carries ⟨g.augment b, c⟩ ⟨g, b⟩ := by
  intro i
  constructor
  · intro j
    exact (Grid.entry_ofFn _ i j.castSucc).trans (Fin.snoc_castSucc (α := fun _ => K) _ _ j)
  · exact (Grid.entry_ofFn _ i (Fin.last d)).trans (Fin.snoc_last (α := fun _ => K) _ _)

namespace Tableau.Carries

variable [Scalar K] {τ : K} {wide : Tableau K m (d + 1)} {narrow : Tableau K m d} {row column : Nat}

/-- A pivot of the narrow tableau is the pivot of the wide one: the last column comes last. -/
theorem findPivot_of_some (h : wide.Carries narrow) {p : Fin m} {c : Fin d}
    (hfound : narrow.findPivot τ row column = some (p, c)) :
    wide.findPivot τ row column = some (p, c.castSucc) := by
  obtain ⟨⟨hcolumn, hrow, hsig⟩, hfirst, hbefore⟩ := findPivot_eq_some_iff.1 hfound
  refine findPivot_eq_some_iff.2 ⟨⟨hcolumn, hrow, ?_⟩, ?_, ?_⟩
  · rw [entry_eq_line, (h p).entry]
    exact hsig
  · intro i hi hrow
    rw [entry_eq_line, (h i).entry]
    exact hfirst i hi hrow
  · intro j hj hcolumn i hrow
    obtain ⟨j, rfl⟩ := Fin.exists_castSucc_eq.2 (hj.trans (Fin.castSucc_lt_last c)).ne
    rw [entry_eq_line, (h i).entry]
    exact hbefore j (Fin.castSucc_lt_castSucc_iff.1 hj) hcolumn i hrow

/-- Where the narrow tableau has no pivot left, the wide one can only find an offset. -/
theorem findPivot_isSome_of_none (h : wide.Carries narrow) (hcolumn : column ≤ d)
    (hnone : narrow.findPivot τ row column = none) :
    (wide.findPivot τ row column).isSome = true ↔
      ∃ i : Fin m, row ≤ i ∧ Scalar.isSignificant τ (narrow.offset i) = true := by
  rw [← Option.not_isNone, Bool.not_eq_true', ← Bool.not_eq_true, Option.isNone_iff_eq_none,
    findPivot_eq_none_iff]
  constructor
  · intro hfound
    by_contra hoffsets
    apply hfound
    intro i j hi hj
    rw [entry_eq_line]
    cases j using Fin.lastCases with
    | last =>
        rw [(h i).offset, ← Bool.not_eq_true]
        exact fun hsig => hoffsets ⟨i, hi, hsig⟩
    | cast j =>
        rw [(h i).entry]
        exact findPivot_eq_none_iff.1 hnone i j hi hj
  · rintro ⟨i, hi, hsig⟩ hnothing
    have hlast := hnothing i (Fin.last d) hi hcolumn
    rw [entry_eq_line, (h i).offset, ← offset_eq_line, hsig] at hlast
    cases hlast

/-- What the wide tableau finds there stands in the last column. -/
theorem eq_last_of_findPivot (h : wide.Carries narrow)
    (hnone : narrow.findPivot τ row column = none) {p : Fin m} {c : Fin (d + 1)}
    (hfound : wide.findPivot τ row column = some (p, c)) : c = Fin.last d := by
  obtain ⟨⟨hcolumn, hrow, hsig⟩, -, -⟩ := findPivot_eq_some_iff.1 hfound
  cases c using Fin.lastCases with
  | last => rfl
  | cast j =>
      rw [entry_eq_line, (h p).entry, ← entry_eq_line,
        findPivot_eq_none_iff.1 hnone p j hrow hcolumn] at hsig
      cases hsig

end Tableau.Carries

namespace Sweep

variable [Scalar K] {τ : K}

/-- One step of both runs, as long as the narrow one finds a pivot. -/
theorem carries_step {wide : Sweep K m (d + 1)} {narrow : Sweep K m d} {i p : Fin m} {c : Fin d}
    (h : wide.tableau.Carries narrow.tableau) (hnext : wide.next = narrow.next)
    (hfound : narrow.tableau.findPivot τ i narrow.next = some (p, c)) :
    (wide.step τ i).tableau.Carries (narrow.step τ i).tableau := by
  have hwide : wide.tableau.findPivot τ i wide.next = some (p, c.castSucc) := by
    rw [hnext]
    exact h.findPivot_of_some hfound
  intro r
  rw [line_step_of_some hwide, line_step_of_some hfound, hnext]
  split
  · exact ((h p).clear narrow.next c).eliminate ((h _).clear narrow.next c) c
  · split
    · exact (h p).clear narrow.next c
    · exact h r

/-- A pass that finds no pivot leaves the offsets alone. -/
theorem offset_runFrom_of_none {s : Sweep K m d} {i : Fin m}
    (h : s.tableau.findPivot τ i s.next = none) (r : Fin m) :
    (runFrom τ i s).tableau.offset r = s.tableau.offset r := by
  rw [Tableau.offset_eq_line, line_runFrom_of_none h]
  split <;> rfl

/-- A row past the pivots that the pass from row `k` on places ends with a significant offset. -/
def LeavesOffset (τ : K) (k : Nat) (s : Sweep K m d) : Prop :=
  ∃ i : Fin m, k + (pivotsFrom τ (rowsFrom m k) s).length ≤ i ∧
    Scalar.isSignificant τ ((runFrom τ k s).tableau.offset i) = true

theorem not_leavesOffset_self (s : Sweep K m d) : ¬ LeavesOffset τ m s := by
  rintro ⟨i, hi, -⟩
  exact absurd i.isLt (not_lt.2 (le_of_add_le_left hi))

theorem leavesOffset_fin_of_none {s : Sweep K m d} {i : Fin m}
    (h : s.tableau.findPivot τ i s.next = none) :
    LeavesOffset τ i s ↔
      ∃ r : Fin m, i.val ≤ r ∧ Scalar.isSignificant τ (s.tableau.offset r) = true := by
  unfold LeavesOffset
  rw [pivotsFrom_fin_of_none h]
  simp only [offset_runFrom_of_none h, List.length_nil, Nat.add_zero]

theorem leavesOffset_fin_of_some {s : Sweep K m d} {i p : Fin m} {c : Fin d}
    (h : s.tableau.findPivot τ i s.next = some (p, c)) :
    LeavesOffset τ i s ↔ LeavesOffset τ (i + 1) (s.step τ i) := by
  have hrow : i.val + ((pivotsFrom τ (rowsFrom m (i + 1)) (s.step τ i)).length + 1) =
      i.val + 1 + (pivotsFrom τ (rowsFrom m (i + 1)) (s.step τ i)).length := by
    omega
  unfold LeavesOffset
  rw [pivotsFrom_fin_of_some h, List.length_cons, hrow, runFrom_fin]

open Classical in
/-- Where the narrow run has no pivot left, the wide one places at most one more. -/
theorem length_pivotsFrom_of_none {wide : Sweep K m (d + 1)} {narrow : Sweep K m d} {i : Fin m}
    (h : wide.tableau.Carries narrow.tableau) (hnext : wide.next = narrow.next)
    (hcolumn : narrow.next ≤ d) (hnone : narrow.tableau.findPivot τ i narrow.next = none) :
    (pivotsFrom τ (rowsFrom m i) wide).length = if LeavesOffset τ i narrow then 1 else 0 := by
  have hlast := h.findPivot_isSome_of_none hcolumn hnone
  rw [← hnext, ← leavesOffset_fin_of_none hnone] at hlast
  cases hwide : wide.tableau.findPivot τ i wide.next with
  | none =>
      rw [hwide] at hlast
      rw [pivotsFrom_fin_of_none hwide, if_neg fun hleaves => Bool.noConfusion (hlast.2 hleaves)]
      rfl
  | some q =>
      obtain ⟨p, c⟩ := q
      have hc : c = Fin.last d := h.eq_last_of_findPivot hnone (hnext ▸ hwide)
      have hstep : d + 1 ≤ (wide.step τ i).next := by
        rw [next_step_of_some hwide, hc, Fin.val_last]
      rw [hwide] at hlast
      -- Past its last column the wide run places nothing any more.
      rw [pivotsFrom_fin_of_some hwide, pivotsFrom_of_exhausted hstep, if_pos (hlast.1 rfl)]
      rfl

open Classical in
/-- **The pivots of the wide run** from a row on: those of the narrow run, and one in the last
column if a row past them ends with a significant offset. -/
theorem length_pivotsFrom_of_carries {k : Nat} (hk : k ≤ m) {wide : Sweep K m (d + 1)}
    {narrow : Sweep K m d} (h : wide.tableau.Carries narrow.tableau)
    (hnext : wide.next = narrow.next) (hcolumn : narrow.next ≤ d) :
    (pivotsFrom τ (rowsFrom m k) wide).length =
      (pivotsFrom τ (rowsFrom m k) narrow).length + if LeavesOffset τ k narrow then 1 else 0 := by
  -- Both runs place the same pivots until the narrow one finds none; then the runs part.
  induction k, hk using rows_induction generalizing wide narrow with
  | done =>
      rw [rowsFrom_self, if_neg (not_leavesOffset_self narrow)]
      rfl
  | row i ih =>
      cases hfound : narrow.tableau.findPivot τ i narrow.next with
      | none =>
          rw [length_pivotsFrom_of_none h hnext hcolumn hfound, pivotsFrom_fin_of_none hfound,
            List.length_nil, Nat.zero_add]
      | some q =>
          obtain ⟨p, c⟩ := q
          have hwide : wide.tableau.findPivot τ i wide.next = some (p, c.castSucc) := by
            rw [hnext]
            exact h.findPivot_of_some hfound
          have hnext' : (wide.step τ i).next = (narrow.step τ i).next := by
            rw [next_step_of_some hwide, next_step_of_some hfound, Fin.val_castSucc]
          have hcolumn' : (narrow.step τ i).next ≤ d := by
            rw [next_step_of_some hfound]
            exact c.isLt
          have htail := ih (carries_step h hnext hfound) hnext' hcolumn'
          rw [pivotsFrom_fin_of_some hwide, pivotsFrom_fin_of_some hfound, List.length_cons,
            List.length_cons, htail, Nat.add_right_comm]
          simp only [leavesOffset_fin_of_some hfound]

/-- The run on the augmented matrix has one pivot more exactly if a row past the pivots ends with a
significant offset. -/
theorem length_pivots_augment (g : Grid K m d) (b c : Vector K m) :
    (pivots τ ⟨g, b⟩).length < (pivots τ ⟨g.augment b, c⟩).length ↔
      ∃ i : Fin m, (pivots τ ⟨g, b⟩).length ≤ i ∧
        Scalar.isSignificant τ ((run τ ⟨g, b⟩).tableau.offset i) = true := by
  classical
  have hcarries : Tableau.Carries (Sweep.mk ⟨g.augment b, c⟩ 0 []).tableau
      (Sweep.mk ⟨g, b⟩ 0 []).tableau := Tableau.carries_augment g b c
  have hlength := length_pivotsFrom_of_carries (τ := τ) (Nat.zero_le m) hcarries rfl (Nat.zero_le d)
  have hleaves : LeavesOffset τ 0 ⟨⟨g, b⟩, 0, []⟩ ↔
      ∃ i : Fin m, (pivots τ ⟨g, b⟩).length ≤ i ∧
        Scalar.isSignificant τ ((run τ ⟨g, b⟩).tableau.offset i) = true := by
    unfold LeavesOffset
    rw [Nat.zero_add, ← run_eq_runFrom]
    rfl
  change (pivots τ ⟨g.augment b, c⟩).length = (pivots τ ⟨g, b⟩).length + _ at hlength
  rw [hlength, ← hleaves]
  split
  · next hoffset => exact iff_of_true (Nat.lt_succ_self _) hoffset
  · next hoffset => exact iff_of_false (lt_irrefl _) hoffset

end Sweep

/-! ## Where the verdict looks -/

namespace Tableau

variable {τ : ℚ}

theorem isConsistent_eq_false_iff {t : Tableau ℚ m d} :
    t.isConsistent τ = false ↔ ∃ i, (∀ j, |t.entry i j| < τ) ∧ τ ≤ |t.offset i| := by
  simp [isConsistent]

/-- A cleaned tableau is inconsistent when a zero row has a significant offset. -/
theorem isConsistent_clean_eq_false_iff (hτ : 0 < τ) (t : Tableau ℚ m d) :
    (t.clean τ).isConsistent τ = false ↔
      ∃ i, (∀ j, (t.clean τ).entry i j = 0) ∧ τ ≤ |(t.clean τ).offset i| := by
  have hsmall (i : Fin m) (j : Fin d) :
      |(t.clean τ).entry i j| < τ ↔ (t.clean τ).entry i j = 0 := by
    constructor
    · intro h
      by_contra hne
      rw [entry_clean_eq_zero_iff hτ, not_lt] at hne
      rw [entry_clean_of_le hne] at h
      exact absurd h (not_lt.2 hne)
    · intro h
      rw [h, abs_zero]
      exact hτ
  simp only [isConsistent_eq_false_iff, hsmall]

theorem classify_eq_inconsistent_iff (t : Tableau ℚ m d) (n : Nat) :
    t.classify τ n = .inconsistent ↔ t.isConsistent τ = false := by
  unfold classify
  cases t.isConsistent τ with
  | false => simp
  | true => by_cases hn : n < d <;> simp [hn]

/-- The reduced pass leaves the rows from the number of pivots on to the cleaning. -/
theorem le_abs_offset_gaussJordan_iff (hτ : 0 < τ) (t : Tableau ℚ m d) {i : Fin m}
    (hi : (Sweep.pivots τ t).length ≤ i) :
    τ ≤ |(t.gaussJordan τ).offset i| ↔ τ ≤ |(Sweep.run τ t).tableau.offset i| := by
  have hrows (p : Pivot m d) (hp : p ∈ Sweep.pivots τ t) : p.1 < i :=
    Fin.lt_def.2 (((Sweep.isStaircase_pivots hτ t).lt_length hp).trans_le hi)
  rw [gaussJordan, le_abs_offset_clean_iff hτ, offset_eq_line,
    line_backSubstitute_of_lt hrows, ← offset_eq_line]

end Tableau

namespace Elimination

/-- The verdict looks at the zero rows of the report. -/
theorem outcome_kind_eq_inconsistent_iff {τ : ℚ} (hτ : 0 < τ) (t : Tableau ℚ m d) :
    (outcome τ t).kind = .inconsistent ↔
      ∃ i, (∀ j, (outcome τ t).rows.entry i j = 0) ∧ τ ≤ |(outcome τ t).offsets.get i| := by
  have hkind : (outcome τ t).kind = .inconsistent ↔ (t.gaussJordan τ).isConsistent τ = false :=
    Tableau.classify_eq_inconsistent_iff _ _
  rw [hkind]
  exact Tableau.isConsistent_clean_eq_false_iff hτ _

/-- The rank test looks at the rows from the rank on. -/
theorem outcome_rank_lt_iff {τ : ℚ} (hτ : 0 < τ) (A : Grid ℚ m d) (b c : Vector ℚ m) :
    (outcome τ ⟨A, b⟩).rank < (outcome τ ⟨A.augment b, c⟩).rank ↔
      ∃ i : Fin m, (outcome τ ⟨A, b⟩).rank ≤ i ∧ τ ≤ |(outcome τ ⟨A, b⟩).offsets.get i| := by
  refine (Sweep.length_pivots_augment A b c).trans ?_
  apply exists_congr
  intro i
  apply and_congr_right
  intro hi
  rw [Scalar.isSignificant_rat_iff]
  exact (Tableau.le_abs_offset_gaussJordan_iff hτ ⟨A, b⟩ hi).symm

/-- **When the verdict is the one of the rank test.**  The system is reported inconsistent when a
zero row of the report has a significant offset; the augmented matrix has the greater rank when a
row from the rank on has one.  In reduced form these are the same rows. -/
theorem inconsistent_iff_rank_lt_iff {s : LinearSystem ℚ} (hd : 0 < s.dimensions)
    (hτ : 0 < s.tolerance) (c : Vector ℚ s.equationCount) :
    ∃ r s' r', (ofSystem s).solve.1 = .ok r ∧
      LinearSystem.ofArrays (s.coefficients.augment s.offsets) c s.tolerance = .ok s' ∧
      (ofSystem s').solve.1 = .ok r' ∧
      ((r.kind = .inconsistent ↔ r.rank < r'.rank) ↔
        ((∃ i, (∀ j, r.rows.entry i j = 0) ∧ s.tolerance ≤ |r.offsets.get i|) ↔
          ∃ i : Fin s.equationCount, r.rank ≤ i ∧ s.tolerance ≤ |r.offsets.get i|)) ∧
      (r.rows.IsReduced r.pivots → (r.kind = .inconsistent ↔ r.rank < r'.rank)) := by
  have hverdict := outcome_kind_eq_inconsistent_iff hτ ⟨s.coefficients, s.offsets⟩
  have hrank := outcome_rank_lt_iff hτ s.coefficients s.offsets c
  refine ⟨_, _, _, solve_ofSystem hd hτ, LinearSystem.ofArrays_eq_ok (Nat.succ_pos _) _ c hτ,
    solve_ofSystem (Nat.succ_pos _) hτ, iff_congr hverdict hrank, ?_⟩
  intro hreduced
  refine hverdict.trans (Iff.trans ?_ hrank.symm)
  exact exists_congr fun i => and_congr_left fun _ => hreduced.row_eq_zero_iff

/-- At tolerance `1/8` the entry `1/16` below the first pivot makes the last row of the report
`4 0`, which is not read as a zero row: the system is reported as uniquely solvable. -/
theorem residue_hides_a_row :
    ∃ s r s' r', LinearSystem.ofArrays (Grid.ofFn ![![1, 0], ![1 / 16, 1], ![0, -64]])
        (Vector.ofFn ![0, 0, 1]) (1 / 8 : ℚ) = .ok s ∧
      (ofSystem s).solve.1 = .ok r ∧
      LinearSystem.ofArrays (Grid.ofFn ![![1, 0, 0], ![1 / 16, 1, 0], ![0, -64, 1]])
        (Vector.ofFn ![0, 0, 0]) (1 / 8 : ℚ) = .ok s' ∧
      (ofSystem s').solve.1 = .ok r' ∧
      r.rows.toLists = [[1, 0], [0, 1], [4, 0]] ∧ r.kind = .unique ∧ r.rank < r'.rank := by
  have hτ : (0 : ℚ) < 1 / 8 := by norm_num
  refine ⟨_, _, _, _, LinearSystem.ofArrays_eq_ok (by decide) _ _ hτ, solve_ofSystem (by decide) hτ,
    LinearSystem.ofArrays_eq_ok (by decide) _ _ hτ, solve_ofSystem (by decide) hτ, ?_⟩
  decide +kernel

/-- Two parallel lines: the verdict is the one of the rank test. -/
theorem inconsistent_of_parallel_lines :
    ∃ s r s' r', LinearSystem.ofArrays (Grid.ofFn ![![1, 1], ![2, 2]]) (Vector.ofFn ![1, 3])
        (1 / 8 : ℚ) = .ok s ∧
      (ofSystem s).solve.1 = .ok r ∧
      LinearSystem.ofArrays ((Grid.ofFn ![![1, 1], ![2, 2]]).augment (Vector.ofFn ![1, 3]))
        (Vector.ofFn ![0, 0]) (1 / 8 : ℚ) = .ok s' ∧
      (ofSystem s').solve.1 = .ok r' ∧ r.kind = .inconsistent ∧ r.rank < r'.rank := by
  have hτ : (0 : ℚ) < 1 / 8 := by norm_num
  have hbuilt := LinearSystem.ofArrays_eq_ok (d := 2) (by decide)
    (Grid.ofFn ![![1, 1], ![2, 2]]) (Vector.ofFn ![1, 3]) hτ
  obtain ⟨r, s', r', hsolve, haugmented, hsolve', hiff, -⟩ := inconsistent_iff_rank_lt_iff
    (s := ⟨2, 2, Grid.ofFn ![![1, 1], ![2, 2]], Vector.ofFn ![1, 3], 1 / 8, _⟩) Nat.two_pos hτ
    (Vector.ofFn ![0, 0])
  refine ⟨_, r, s', r', hbuilt, hsolve, haugmented, hsolve', ?_⟩
  rw [solve_ofSystem Nat.two_pos hτ] at hsolve
  obtain rfl := Except.ok.inj hsolve
  have hkind := hiff.2 (by decide +kernel)
  have hinconsistent : (outcome (1 / 8 : ℚ) ⟨Grid.ofFn ![![1, 1], ![2, 2]],
      Vector.ofFn ![1, 3]⟩).kind = .inconsistent := by
    decide +kernel
  exact ⟨hinconsistent, hkind.1 hinconsistent⟩

end Elimination

end LinearSystems
