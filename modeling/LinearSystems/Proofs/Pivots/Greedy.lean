import LinearSystems.Proofs.Elimination.Triangular

/-!
# The pivots are chosen greedily

One step of the search takes the first row, from a given one on, that has a significant entry at or
right of a given column, and there the leftmost such entry (`Grid.nextPivot_eq_some_iff`).  Reading
the pivots of a table is this step over and over, each one starting behind the pivot of the one
before (`Grid.getElem?_pivots`).

So nothing significant is passed over: a list of pivots is *greedy* if none of the rows between two
neighbours has a significant entry right of the first one, nor has the row of the second one left of
it, nor any row below the last one.  **The pivots of a table are the only greedy list**
(`Grid.isGreedy_iff_eq_pivots`), whatever the table and the tolerance: no echelon form, no sign of
the tolerance and no law of the arithmetic is asked for.
-/

namespace LinearSystems

namespace Grid

variable {K : Type} {m d : Nat}

/-- The row and the column from which the `k`-th pivot of a list is searched: those behind the pivot
before it, and the corner of the table for the first one. -/
def searchStart (pivots : List (Pivot m d)) : Nat → Nat × Nat
  | 0 => (0, 0)
  | k + 1 => pivots[k]?.elim (0, 0) fun p => (p.1 + 1, p.2 + 1)

theorem searchStart_succ {pivots : List (Pivot m d)} {k : Nat} {p : Pivot m d}
    (h : pivots[k]? = some p) : searchStart pivots (k + 1) = (p.1.val + 1, p.2.val + 1) := by
  rw [searchStart, h]
  rfl

variable [Scalar K]

/-- The pivots increase in both coordinates, each of them is significant, and no search passes over a
significant entry: not in the rows between two neighbours, not left of a pivot in its row, and not
below the last one. -/
structure IsGreedy (τ : K) (g : Grid K m d) (pivots : List (Pivot m d)) : Prop where
  increasing : pivots.Pairwise fun p q => p.1 < q.1 ∧ p.2 < q.2
  significant : ∀ p ∈ pivots, Scalar.isSignificant τ (g.entry p.1 p.2) = true
  between : ∀ (k : Nat) (h : k < pivots.length) (i : Fin m) (j : Fin d),
    (searchStart pivots k).1 ≤ i → i < pivots[k].1 → (searchStart pivots k).2 ≤ j →
      Scalar.isSignificant τ (g.entry i j) = false
  leftOf : ∀ (k : Nat) (h : k < pivots.length) (j : Fin d),
    (searchStart pivots k).2 ≤ j → j < pivots[k].2 →
      Scalar.isSignificant τ (g.entry pivots[k].1 j) = false
  below : ∀ (i : Fin m) (j : Fin d), (searchStart pivots pivots.length).1 ≤ i →
    (searchStart pivots pivots.length).2 ≤ j → Scalar.isSignificant τ (g.entry i j) = false

variable {τ : K} {g h : Grid K m d} {row column : Nat}

/-! ## One step of the search -/

theorem nextPivot_eq_some_iff {p : Pivot m d} :
    g.nextPivot τ row column = some p ↔
      row ≤ p.1 ∧ g.leading? τ p.1 column = some p.2 ∧
        ∀ i < p.1, row ≤ i.val → g.leading? τ i column = none := by
  rw [nextPivot, ← Fin.findSome?_eq_findSome?_finRange, Fin.findSome?_eq_some_iff]
  simp only [ite_eq_right_iff, Option.map_eq_none_iff]
  constructor
  · rintro ⟨i, hi, hbefore⟩
    split at hi
    · next hrow =>
        obtain ⟨j, hj, rfl⟩ := Option.map_eq_some_iff.1 hi
        exact ⟨hrow, hj, hbefore⟩
    · cases hi
  · rintro ⟨hrow, hleading, hbefore⟩
    refine ⟨p.1, ?_, hbefore⟩
    rw [if_pos hrow, hleading]
    rfl

theorem nextPivot_eq_none_iff :
    g.nextPivot τ row column = none ↔
      ∀ i : Fin m, row ≤ i → g.leading? τ i column = none := by
  rw [nextPivot, ← Fin.findSome?_eq_findSome?_finRange, Fin.findSome?_eq_none_iff]
  simp only [ite_eq_right_iff, Option.map_eq_none_iff]

/-- A step depends on nothing above the row that it starts from. -/
theorem nextPivot_congr (same : ∀ i : Fin m, row ≤ i → g.entry i = h.entry i) (column : Nat) :
    g.nextPivot τ row column = h.nextPivot τ row column := by
  have hrows : (fun i : Fin m =>
        if row ≤ i.val then (g.leading? τ i column).map (i, ·) else none) =
      fun i : Fin m => if row ≤ i.val then (h.leading? τ i column).map (i, ·) else none := by
    funext i
    split
    · next hi =>
        have hleading : g.leading? τ i column = h.leading? τ i column :=
          leading?_congr (fun j => by rw [same i hi]) column
        rw [hleading]
    · rfl
  rw [nextPivot, nextPivot, hrows]

theorem nextPivot_rows (τ : K) (g : Grid K m d) (column : Nat) :
    g.nextPivot τ m column = none :=
  nextPivot_eq_none_iff.2 fun i hi => absurd i.isLt (not_lt.2 hi)

theorem nextPivot_of_leading? {i : Fin m} {j : Fin d} (hj : g.leading? τ i column = some j) :
    g.nextPivot τ i column = some (i, j) :=
  nextPivot_eq_some_iff.2 ⟨le_rfl, hj, fun _ hlt hle => absurd hle (not_le.2 hlt)⟩

/-- A row without a significant entry from the column on is passed over. -/
theorem nextPivot_of_none {i : Fin m} (hi : g.leading? τ i column = none) :
    g.nextPivot τ i column = g.nextPivot τ (i + 1) column := by
  cases hnext : g.nextPivot τ (i + 1) column with
  | none =>
      refine nextPivot_eq_none_iff.2 fun r hr => ?_
      rcases Nat.eq_or_lt_of_le hr with heq | hlt
      · rw [← Fin.ext heq]
        exact hi
      · exact nextPivot_eq_none_iff.1 hnext r hlt
  | some p =>
      obtain ⟨hrow, hleading, hbefore⟩ := nextPivot_eq_some_iff.1 hnext
      refine nextPivot_eq_some_iff.2 ⟨Nat.le_of_succ_le hrow, hleading, fun r hr hle => ?_⟩
      rcases Nat.eq_or_lt_of_le hle with heq | hlt
      · rw [← Fin.ext heq]
        exact hi
      · exact hbefore r hr hlt

/-- A step is one walk over the rows from the given one on. -/
theorem nextPivot_eq_findSome? (τ : K) (g : Grid K m d) (row column : Nat) :
    g.nextPivot τ row column =
      (rowsFrom m row).findSome? fun i => (g.leading? τ i column).map (i, ·) := by
  rcases Nat.le_total row m with hrow | hrow
  · induction row, hrow using rows_induction with
    | done =>
        rw [rowsFrom_self, nextPivot_rows]
        rfl
    | row i ih =>
        rw [rowsFrom_fin, List.findSome?_cons]
        cases hj : g.leading? τ i column with
        | none =>
            rw [nextPivot_of_none hj]
            exact ih
        | some j =>
            rw [nextPivot_of_leading? hj]
            rfl
  · have hnone : rowsFrom m row = [] := List.drop_eq_nil_of_le (by simpa using hrow)
    rw [hnone]
    exact nextPivot_eq_none_iff.2 fun i hi => absurd (hrow.trans hi) (not_le.2 i.isLt)

/-! ## Step after step -/

/-- The pivots from a place on are the next one and those behind it. -/
theorem pivotsFrom_eq_elim_nextPivot (τ : K) (g : Grid K m d) (hrow : row ≤ m) (column : Nat) :
    g.pivotsFrom τ (rowsFrom m row) column = (g.nextPivot τ row column).elim [] fun p =>
      p :: g.pivotsFrom τ (rowsFrom m (p.1 + 1)) (p.2 + 1) := by
  induction row, hrow using rows_induction with
  | done =>
      rw [rowsFrom_self, nextPivot_rows]
      rfl
  | row i ih =>
      rw [rowsFrom_fin, pivotsFrom]
      cases hj : g.leading? τ i column with
      | none =>
          rw [nextPivot_of_none hj]
          exact ih
      | some j =>
          rw [nextPivot_of_leading? hj]
          rfl

omit [Scalar K] in
theorem searchStart_fst_le (pivots : List (Pivot m d)) (k : Nat) :
    (searchStart pivots k).1 ≤ m := by
  cases k with
  | zero => exact Nat.zero_le m
  | succ k =>
      cases hk : pivots[k]? with
      | none =>
          rw [searchStart, hk]
          exact Nat.zero_le m
      | some p =>
          rw [searchStart_succ hk]
          exact p.1.isLt

/-- Behind the first pivots come those that are found from the place behind the last of them. -/
theorem drop_pivots (τ : K) (g : Grid K m d) {k : Nat} (hk : k ≤ (g.pivots τ).length) :
    (g.pivots τ).drop k = g.pivotsFrom τ (rowsFrom m (searchStart (g.pivots τ) k).1)
      (searchStart (g.pivots τ) k).2 := by
  induction k with
  | zero =>
      rw [List.drop_zero, searchStart, rowsFrom_zero]
      rfl
  | succ k ih =>
      have hget : (g.pivots τ)[k]? = some (g.pivots τ)[k] := List.getElem?_eq_getElem hk
      have hrest := ih (Nat.le_of_succ_le hk)
      rw [List.drop_eq_getElem_cons hk,
        pivotsFrom_eq_elim_nextPivot τ g (searchStart_fst_le _ k)] at hrest
      cases hnext : g.nextPivot τ (searchStart (g.pivots τ) k).1 (searchStart (g.pivots τ) k).2 with
      | none =>
          rw [hnext] at hrest
          cases hrest
      | some p =>
          rw [hnext] at hrest
          obtain ⟨hp, hrest⟩ := List.cons.inj hrest
          rw [searchStart_succ hget, hrest, hp]

/-- **Each pivot is the next one behind the pivot before it**, and behind the last one there is
none. -/
theorem getElem?_pivots (τ : K) (g : Grid K m d) {k : Nat} (hk : k ≤ (g.pivots τ).length) :
    (g.pivots τ)[k]? = g.nextPivot τ (searchStart (g.pivots τ) k).1
      (searchStart (g.pivots τ) k).2 := by
  rw [← List.head?_drop, drop_pivots τ g hk,
    pivotsFrom_eq_elim_nextPivot τ g (searchStart_fst_le _ k)]
  cases g.nextPivot τ (searchStart (g.pivots τ) k).1 (searchStart (g.pivots τ) k).2 <;> rfl

/-! ## Greedy lists -/

theorem isGreedy_pivots (τ : K) (g : Grid K m d) : g.IsGreedy τ (g.pivots τ) := by
  have hfound (k : Nat) (hk : k < (g.pivots τ).length) :
      g.nextPivot τ (searchStart (g.pivots τ) k).1 (searchStart (g.pivots τ) k).2 =
        some (g.pivots τ)[k] := by
    rw [← getElem?_pivots τ g hk.le, List.getElem?_eq_getElem hk]
  refine ⟨pairwise_pivots τ g, fun p hp => isSignificant_of_mem_pivots hp, ?_, ?_, ?_⟩
  · intro k hk i j hrow hi hcolumn
    obtain ⟨-, -, hbefore⟩ := nextPivot_eq_some_iff.1 (hfound k hk)
    exact leading?_eq_none_iff.1 (hbefore i hi hrow) j hcolumn
  · intro k hk j hcolumn hj
    obtain ⟨-, hleading, -⟩ := nextPivot_eq_some_iff.1 (hfound k hk)
    exact (leading?_eq_some_iff.1 hleading).2.2 j hj hcolumn
  · intro i j hrow hcolumn
    have hnone := getElem?_pivots τ g le_rfl
    rw [List.getElem?_eq_none le_rfl] at hnone
    exact leading?_eq_none_iff.1 (nextPivot_eq_none_iff.1 hnone.symm i hrow) j hcolumn

namespace IsGreedy

variable {pivots : List (Pivot m d)}

/-- A pivot stands at or behind the place that it is searched from. -/
theorem searchStart_le (h : g.IsGreedy τ pivots) {k : Nat} (hk : k < pivots.length) :
    (searchStart pivots k).1 ≤ pivots[k].1 ∧ (searchStart pivots k).2 ≤ pivots[k].2 := by
  cases k with
  | zero => exact ⟨Nat.zero_le _, Nat.zero_le _⟩
  | succ k =>
      rw [searchStart_succ (List.getElem?_eq_getElem (Nat.lt_of_succ_lt hk))]
      exact List.pairwise_iff_getElem.1 h.increasing k (k + 1) _ hk (Nat.lt_succ_self k)

/-- What a greedy list names next is what the search finds next. -/
theorem getElem?_eq_nextPivot (h : g.IsGreedy τ pivots) {k : Nat} (hk : k ≤ pivots.length) :
    pivots[k]? = g.nextPivot τ (searchStart pivots k).1 (searchStart pivots k).2 := by
  rcases Nat.eq_or_lt_of_le hk with rfl | hlt
  · rw [List.getElem?_eq_none le_rfl]
    refine (nextPivot_eq_none_iff.2 fun i hi => leading?_eq_none_iff.2 fun j hj => ?_).symm
    exact h.below i j hi hj
  · obtain ⟨hrow, hcolumn⟩ := h.searchStart_le hlt
    rw [List.getElem?_eq_getElem hlt]
    refine (nextPivot_eq_some_iff.2 ⟨hrow, leading?_eq_some_iff.2 ⟨hcolumn, ?_, ?_⟩, ?_⟩).symm
    · exact h.significant _ (List.getElem_mem hlt)
    · exact fun j hj hle => h.leftOf k hlt j hle hj
    · exact fun i hi hle => leading?_eq_none_iff.2 fun j hj => h.between k hlt i j hle hi hj

/-- A table has one greedy list at most: from the same beginning both go on alike. -/
theorem unique {others : List (Pivot m d)} (h : g.IsGreedy τ pivots)
    (h' : g.IsGreedy τ others) : pivots = others := by
  refine List.ext_getElem? fun k => ?_
  induction k with
  | zero =>
      rw [h.getElem?_eq_nextPivot (Nat.zero_le _), h'.getElem?_eq_nextPivot (Nat.zero_le _)]
      rfl
  | succ k ih =>
      cases hk : pivots[k]? with
      | none =>
          have hpivots : pivots.length ≤ k := List.getElem?_eq_none_iff.1 hk
          have hothers : others.length ≤ k := List.getElem?_eq_none_iff.1 (ih.symm.trans hk)
          rw [List.getElem?_eq_none (hpivots.trans (Nat.le_succ k)),
            List.getElem?_eq_none (hothers.trans (Nat.le_succ k))]
      | some p =>
          have hk' : others[k]? = some p := ih.symm.trans hk
          obtain ⟨hpivots, -⟩ := List.getElem?_eq_some_iff.1 hk
          obtain ⟨hothers, -⟩ := List.getElem?_eq_some_iff.1 hk'
          rw [h.getElem?_eq_nextPivot hpivots, h'.getElem?_eq_nextPivot hothers,
            searchStart_succ hk, searchStart_succ hk']

end IsGreedy

/-- **The pivots of a table are its only greedy list.** -/
theorem isGreedy_iff_eq_pivots {pivots : List (Pivot m d)} :
    g.IsGreedy τ pivots ↔ pivots = g.pivots τ := by
  constructor
  · exact fun h => h.unique (isGreedy_pivots τ g)
  · rintro rfl
    exact isGreedy_pivots τ g

end Grid

end LinearSystems
