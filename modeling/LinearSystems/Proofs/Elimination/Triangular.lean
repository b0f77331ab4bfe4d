import LinearSystems.Proofs.Elimination.Lines
import LinearSystems.Proofs.Elimination.Search

/-!
# The staircase of the triangular pass

`Sweep.pivots` lists the pivots as the triangular pass places them.  They stand in the first rows,
one in each, and their columns strictly increase.  When zero is not significant, a reader of the
finished tableau finds exactly these pivots row by row (`Sweep.pivots_run`): the column-first search
of this pass and the row-first search of the next one agree, whatever the arithmetic in between
does.
-/

namespace LinearSystems

variable {K : Type} {m d : Nat}

/-! ## Rows from a given one on -/

/-- The rows from `k` on, in order. -/
def rowsFrom (m k : Nat) : List (Fin m) := (List.finRange m).drop k

theorem rowsFrom_zero (m : Nat) : rowsFrom m 0 = List.finRange m :=
  List.drop_zero

theorem rowsFrom_self (m : Nat) : rowsFrom m m = [] := by
  simp [rowsFrom]

theorem rowsFrom_fin (i : Fin m) : rowsFrom m i = i :: rowsFrom m (i + 1) := by
  rw [rowsFrom, List.drop_eq_getElem_cons (by simp), List.getElem_finRange]
  rfl

theorem mem_rowsFrom {k : Nat} {i : Fin m} : i ∈ rowsFrom m k ↔ k ≤ i := by
  rw [rowsFrom, List.mem_drop_iff_getElem]
  constructor
  · rintro ⟨n, hn, rfl⟩
    simp
  · intro hk
    refine ⟨i.val - k, by simp; omega, ?_⟩
    rw [List.getElem_finRange]
    apply Fin.ext
    simp
    omega

/-- Induction over the rows that a pass still has to go through: what holds once all rows are done,
and of a row if it holds of the next one, holds from every row on. -/
@[elab_as_elim]
theorem rows_induction {motive : (k : Nat) → k ≤ m → Prop} (done : motive m le_rfl)
    (row : ∀ i : Fin m, motive (i + 1) i.isLt → motive i i.isLt.le) (k : Nat) (hk : k ≤ m) :
    motive k hk :=
  Nat.decreasingInduction (fun k hk ih => row ⟨k, hk⟩ ih) done hk

namespace Tableau

theorem exchange_self_left (a b : Fin m) : exchange a b a = b :=
  if_pos rfl

theorem exchange_of_lt {a b i : Fin m} (hab : a ≤ b) (h : i < a) : exchange a b i = i := by
  rw [exchange, if_neg h.ne, if_neg (h.trans_le hab).ne]

theorem le_exchange {a b i : Fin m} (hab : a ≤ b) (h : a ≤ i) : a ≤ exchange a b i := by
  rw [exchange]
  split
  · exact hab
  · split
    · exact le_rfl
    · exact h

/-- The pivot that is brought into place has kept its value. -/
theorem entry_swap_clearBlock [Zero K] (t : Tableau K m d) (i p : Fin m) (start : Nat)
    (c : Fin d) : ((t.clearBlock i start c).swap i p).entry i c = t.entry p c := by
  rw [entry_swap, exchange_self_left, entry_clearBlock, if_neg fun hc => lt_irrefl _ hc.2.2]

end Tableau

/-! ## One step -/

namespace Sweep

variable [Scalar K] {τ : K} {s : Sweep K m d} {i : Fin m}

theorem step_of_none (h : s.tableau.findPivot τ i s.next = none) :
    s.step τ i = ⟨s.tableau.clearBlock i s.next d, d, s.smallPivots⟩ := by
  rw [step, h]

theorem next_step_of_some {p : Fin m} {c : Fin d}
    (h : s.tableau.findPivot τ i s.next = some (p, c)) : (s.step τ i).next = c + 1 := by
  rw [step, h]

theorem tableau_step_of_some {p : Fin m} {c : Fin d}
    (h : s.tableau.findPivot τ i s.next = some (p, c)) :
    (s.step τ i).tableau =
      ((s.tableau.clearBlock i s.next c).swap i p).eliminateBelow τ i c := by
  rw [step, h]

theorem line_step_of_some {p : Fin m} {c : Fin d}
    (h : s.tableau.findPivot τ i s.next = some (p, c)) (r : Fin m) :
    (s.step τ i).tableau.line r =
      if i < r then ((s.tableau.line p).clear s.next c).eliminate τ c
        ((s.tableau.line (Tableau.exchange i p r)).clear s.next c)
      else if r = i then (s.tableau.line p).clear s.next c else s.tableau.line r := by
  have hp : i ≤ p := (Tableau.findPivot_eq_some_iff.1 h).1.2.1
  have hplaced {r : Fin m} (hr : i ≤ r) : ((s.tableau.clearBlock i s.next c).swap i p).line r =
      (s.tableau.line (Tableau.exchange i p r)).clear s.next c := by
    rw [Tableau.line_swap, Tableau.line_clearBlock,
      if_pos (Fin.le_def.1 (Tableau.le_exchange hp hr))]
  have hpivot := hplaced (le_refl i)
  rw [Tableau.exchange_self_left] at hpivot
  rw [tableau_step_of_some h, Tableau.line_eliminateBelow, hpivot]
  split
  · next hr => rw [hplaced hr.le]
  · next hr =>
      split
      · next hri => rw [hri, hpivot]
      · next hri =>
          have hlt : r < i := lt_of_le_of_ne (not_lt.1 hr) hri
          rw [Tableau.line_swap, Tableau.exchange_of_lt hp hlt, Tableau.line_clearBlock,
            if_neg (Nat.not_le.2 (Fin.lt_def.1 hlt))]

/-- The rows above are finished. -/
theorem line_step_of_lt {r : Fin m} (hr : r < i) :
    (s.step τ i).tableau.line r = s.tableau.line r := by
  cases h : s.tableau.findPivot τ i s.next with
  | none =>
      rw [step_of_none h, Tableau.line_clearBlock, if_neg (Nat.not_le.2 (Fin.lt_def.1 hr))]
  | some q => rw [line_step_of_some h, if_neg hr.asymm, if_neg hr.ne]

theorem findPivot_of_exhausted (hnext : d ≤ s.next) :
    s.tableau.findPivot τ i s.next = none :=
  Tableau.findPivot_eq_none_iff.2 fun _ j _ hj => absurd (hj.trans_lt j.isLt) (not_lt.2 hnext)

/-- Once every column has been passed, a step changes nothing. -/
theorem line_step_of_exhausted (hnext : d ≤ s.next) (r : Fin m) :
    (s.step τ i).tableau.line r = s.tableau.line r := by
  rw [step_of_none (findPivot_of_exhausted hnext), Tableau.line_clearBlock]
  split
  · rw [Line.clear]
    refine Prod.ext ?_ rfl
    funext j
    exact if_neg fun hj => absurd (hj.1.trans_lt hj.2) (not_lt.2 hnext)
  · rfl

/-! ## The pass from a given row on -/

/-- The pass over the rows from `k` on. -/
def runFrom (τ : K) (k : Nat) (s : Sweep K m d) : Sweep K m d := (rowsFrom m k).foldl (step τ) s

theorem run_eq_runFrom (τ : K) (t : Tableau K m d) : run τ t = runFrom τ 0 ⟨t, 0, []⟩ := by
  rw [run, runFrom, rowsFrom_zero]

theorem runFrom_self (τ : K) (s : Sweep K m d) : runFrom τ m s = s := by
  rw [runFrom, rowsFrom_self, List.foldl_nil]

theorem runFrom_fin (τ : K) (i : Fin m) (s : Sweep K m d) :
    runFrom τ i s = runFrom τ (i + 1) (s.step τ i) := by
  rw [runFrom, rowsFrom_fin, List.foldl_cons, runFrom]

theorem line_runFrom_of_lt {k : Nat} (hk : k ≤ m) {r : Fin m} (hr : r < k) (s : Sweep K m d) :
    (runFrom τ k s).tableau.line r = s.tableau.line r := by
  induction k, hk using rows_induction generalizing s with
  | done => rw [runFrom_self]
  | row i ih => rw [runFrom_fin, ih (Nat.lt_succ_of_lt hr), line_step_of_lt (Fin.lt_def.2 hr)]

theorem line_runFrom_of_exhausted {k : Nat} (hk : k ≤ m) (hnext : d ≤ s.next) (r : Fin m) :
    (runFrom τ k s).tableau.line r = s.tableau.line r := by
  induction k, hk using rows_induction generalizing s with
  | done => rw [runFrom_self]
  | row i ih =>
      have hnext' : d ≤ (s.step τ i).next := by
        rw [step_of_none (findPivot_of_exhausted hnext)]
      rw [runFrom_fin, ih hnext', line_step_of_exhausted hnext]

/-- Where the pass finds no pivot it clears what is left and stops. -/
theorem line_runFrom_of_none (h : s.tableau.findPivot τ i s.next = none) (r : Fin m) :
    (runFrom τ i s).tableau.line r =
      if i ≤ r then (s.tableau.line r).clear s.next d else s.tableau.line r := by
  have hnext : d ≤ (s.step τ i).next := by
    rw [step_of_none h]
  rw [runFrom_fin, line_runFrom_of_exhausted i.isLt hnext, step_of_none h, Tableau.line_clearBlock]
  rfl

/-- Where the pass finds a pivot, the line of the pivot is finished. -/
theorem line_runFrom_of_some {p : Fin m} {c : Fin d}
    (h : s.tableau.findPivot τ i s.next = some (p, c)) :
    (runFrom τ i s).tableau.line i = (s.tableau.line p).clear s.next c := by
  rw [runFrom_fin, line_runFrom_of_lt i.isLt (Nat.lt_succ_self i), line_step_of_some h,
    if_neg (lt_irrefl i), if_pos rfl]

/-! ## The pivots of the pass -/

/-- The pivots that the pass places over the listed rows. -/
def pivotsFrom (τ : K) : List (Fin m) → Sweep K m d → List (Pivot m d)
  | [], _ => []
  | i :: rows, s =>
    match s.tableau.findPivot τ i s.next with
    | none => pivotsFrom τ rows (s.step τ i)
    | some (_, c) => (i, c) :: pivotsFrom τ rows (s.step τ i)

/-- The pivots that the triangular pass places, in order. -/
def pivots (τ : K) (t : Tableau K m d) : List (Pivot m d) :=
  pivotsFrom τ (rowsFrom m 0) ⟨t, 0, []⟩

theorem pivotsFrom_of_exhausted (hnext : d ≤ s.next) (rows : List (Fin m)) :
    pivotsFrom τ rows s = [] := by
  induction rows generalizing s with
  | nil => rfl
  | cons i rows ih =>
      have hnone := findPivot_of_exhausted (τ := τ) (i := i) hnext
      rw [pivotsFrom, hnone]
      apply ih
      rw [step_of_none hnone]

theorem pivotsFrom_fin_of_none (h : s.tableau.findPivot τ i s.next = none) :
    pivotsFrom τ (rowsFrom m i) s = [] := by
  rw [rowsFrom_fin, pivotsFrom, h]
  apply pivotsFrom_of_exhausted
  rw [step_of_none h]

theorem pivotsFrom_fin_of_some {p : Fin m} {c : Fin d}
    (h : s.tableau.findPivot τ i s.next = some (p, c)) :
    pivotsFrom τ (rowsFrom m i) s =
      (i, c) :: pivotsFrom τ (rowsFrom m (i + 1)) (s.step τ i) := by
  rw [rowsFrom_fin, pivotsFrom, h]

/-- The pivots stand in the first rows, one in each. -/
theorem map_fst_pivotsFrom {k : Nat} (hk : k ≤ m) (s : Sweep K m d) :
    (pivotsFrom τ (rowsFrom m k) s).map Prod.fst =
      (rowsFrom m k).take (pivotsFrom τ (rowsFrom m k) s).length := by
  induction k, hk using rows_induction generalizing s with
  | done =>
      rw [rowsFrom_self]
      rfl
  | row i ih =>
      cases h : s.tableau.findPivot τ i s.next with
      | none => simp [pivotsFrom_fin_of_none h]
      | some q =>
          rw [pivotsFrom_fin_of_some h, List.map_cons, List.length_cons, ih, rowsFrom_fin,
            List.take_succ_cons]

/-! ## What the finished tableau shows -/

/-- The reader stops in the row of a step at the pivot of that step: the columns before it were
cleared, and the row is not touched again. -/
theorem leading?_runFrom (hzero : Scalar.isSignificant τ (0 : K) = false) {p : Fin m} {c : Fin d}
    (h : s.tableau.findPivot τ i s.next = some (p, c)) :
    (runFrom τ i s).tableau.rows.leading? τ i s.next = some c := by
  obtain ⟨⟨hnext, -, hsig⟩, -, -⟩ := Tableau.findPivot_eq_some_iff.1 h
  have hentry (j : Fin d) : (runFrom τ i s).tableau.rows.entry i j =
      if s.next ≤ j ∧ j < c then 0 else s.tableau.entry p j :=
    congrFun (congrArg Prod.fst (line_runFrom_of_some h)) j
  refine Grid.leading?_eq_some_iff.2 ⟨hnext, ?_, ?_⟩
  · rw [hentry, if_neg fun hc => lt_irrefl _ hc.2]
    exact hsig
  · intro j hj hstart
    rw [hentry, if_pos ⟨hstart, Fin.lt_def.1 hj⟩]
    exact hzero

theorem grid_pivotsFrom_runFrom (hzero : Scalar.isSignificant τ (0 : K) = false) {k : Nat}
    (hk : k ≤ m) (s : Sweep K m d) :
    (runFrom τ k s).tableau.rows.pivotsFrom τ (rowsFrom m k) s.next =
      pivotsFrom τ (rowsFrom m k) s := by
  induction k, hk using rows_induction generalizing s with
  | done =>
      rw [rowsFrom_self]
      rfl
  | row i ih =>
      cases h : s.tableau.findPivot τ i s.next with
      | none =>
          rw [pivotsFrom_fin_of_none h]
          apply Grid.pivotsFrom_eq_nil
          intro r hr j hj
          have hentry : (runFrom τ i s).tableau.entry r j = 0 := by
            rw [Tableau.entry_eq_line, line_runFrom_of_none h,
              if_pos (Fin.le_def.2 (mem_rowsFrom.1 hr))]
            exact if_pos ⟨hj, j.isLt⟩
          exact (congrArg _ hentry).trans hzero
      | some q =>
          obtain ⟨p, c⟩ := q
          rw [pivotsFrom_fin_of_some h, rowsFrom_fin, Grid.pivotsFrom, leading?_runFrom hzero h]
          have htail := ih (s.step τ i)
          rw [next_step_of_some h, ← runFrom_fin] at htail
          exact congrArg _ htail

/-- Read row by row, the finished tableau shows the pivots that the pass placed. -/
theorem pivots_run (hzero : Scalar.isSignificant τ (0 : K) = false) (t : Tableau K m d) :
    (run τ t).tableau.rows.pivots τ = pivots τ t := by
  rw [run_eq_runFrom, Grid.pivots, ← rowsFrom_zero]
  exact grid_pivotsFrom_runFrom hzero (Nat.zero_le m) ⟨t, 0, []⟩

end Sweep

end LinearSystems
