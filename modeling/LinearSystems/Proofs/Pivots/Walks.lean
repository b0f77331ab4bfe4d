import LinearSystems.Proofs.Pivots.Arrays

/-!
# Reading the pivots of a table that changes meanwhile

The search can be read one pivot at a time while its reader writes to the table: `Grid.yielded` is
what the search names when it is resumed for the `k`-th time, on the table as it is then.

A reader that leaves the rows below the pivot that it was just given alone (`Grid.KeepsRowsBelow`)
changes nothing about what it is given next.  The search is resumed behind that pivot, so it only
looks at rows that no one has written to.  The invariant is that the rows from there on are those of
the first table; it is preserved by a step because the places to resume from go down
(`Grid.yielded_eq_getElem?`).  The walks over a table that act at each pivot are the other form of
such a reader (`Grid.scan_eq_foldlM`).
-/

namespace LinearSystems

namespace Grid

variable {K : Type} [Scalar K] {m d : Nat} {τ : K} {g h : Grid K m d}

/-- What the search names when it is resumed for the `k`-th time, `tables k` being the table then.
Once it has named nothing, it is over. -/
def yielded (τ : K) (tables : Nat → Grid K m d) : Nat → Option (Pivot m d)
  | 0 => (tables 0).nextPivot τ 0 0
  | k + 1 => (yielded τ tables k).bind fun p => (tables (k + 1)).nextPivot τ (p.1 + 1) (p.2 + 1)

/-- After each pivot, only rows at or above it are written to. -/
def KeepsRowsBelow (τ : K) (tables : Nat → Grid K m d) : Prop :=
  ∀ k p, yielded τ tables k = some p → ∀ i, p.1 < i → (tables (k + 1)).entry i = (tables k).entry i

/-- A step: behind a pivot, the next one is found in any table that has the same rows below it. -/
theorem nextPivot_behind {k : Nat} {p : Pivot m d} (hk : (g.pivots τ)[k]? = some p)
    (same : ∀ i, p.1 < i → h.entry i = g.entry i) :
    h.nextPivot τ (p.1 + 1) (p.2 + 1) = (g.pivots τ)[k + 1]? := by
  obtain ⟨hlength, -⟩ := List.getElem?_eq_some_iff.1 hk
  rw [getElem?_pivots τ g hlength, searchStart_succ hk]
  exact nextPivot_congr same _

/-- **A whole reading**: one pivot after the other, those of the table that it began with. -/
theorem yielded_eq_getElem? {tables : Nat → Grid K m d} (keeps : KeepsRowsBelow τ tables) (k : Nat) :
    yielded τ tables k = ((tables 0).pivots τ)[k]? := by
  -- The rows below the `k`-th pivot have not been written to before the search is resumed there.
  suffices hinvariant : yielded τ tables k = ((tables 0).pivots τ)[k]? ∧
      ∀ p, yielded τ tables k = some p →
        ∀ i, p.1 < i → (tables (k + 1)).entry i = (tables 0).entry i from hinvariant.1
  induction k with
  | zero =>
      exact ⟨(getElem?_pivots τ (tables 0) (Nat.zero_le _)).symm, keeps 0⟩
  | succ k ih =>
      obtain ⟨hk, hrows⟩ := ih
      cases hp : yielded τ tables k with
      | none =>
          rw [yielded, hp]
          have hlength : ((tables 0).pivots τ).length ≤ k :=
            List.getElem?_eq_none_iff.1 (hk.symm.trans hp)
          refine ⟨(List.getElem?_eq_none (hlength.trans (Nat.le_succ k))).symm, ?_⟩
          rintro p ⟨⟩
      | some p =>
          have hnext : yielded τ tables (k + 1) = ((tables 0).pivots τ)[k + 1]? := by
            rw [yielded, hp]
            exact nextPivot_behind (hk.symm.trans hp) (hrows p hp)
          refine ⟨hnext, fun q hq i hi => ?_⟩
          have hpq : p.1 < q.1 := by
            rw [yielded, hp] at hq
            exact (nextPivot_eq_some_iff.1 hq).1
          rw [keeps (k + 1) q hq i hi]
          exact hrows p hp i (hpq.trans hi)

end Grid

namespace Value

variable {m d : Nat}

/-- What the search in some values names when it is resumed for the `k`-th time. -/
def yielded (tolerance : Value) (tables : Nat → Value) :
    Nat → Except ArgumentFault (Option (Int × Value))
  | 0 => (tables 0).nextPivot (int 0) (int 0) tolerance
  | k + 1 => do
    match ← yielded tolerance tables k with
    | some (row, column) =>
      (tables (k + 1)).nextPivot (int (row + 1)) (← column.combine .add (int 1)) tolerance
    | .none => return .none

/-- Read from arrays, the pivots are those of their tables. -/
theorem yielded_grid (τ : Float) (tables : Nat → Grid Float m d) (hm : (m : Int) ≤ wordBound)
    (k : Nat) :
    yielded (float τ) (fun k => array (.ofGrid (tables k))) k =
      .ok ((Grid.yielded τ tables k).map fun p => (((p.1 : Nat) : Int), int (p.2 : Nat))) := by
  induction k with
  | zero => exact nextPivot_grid (tables 0) τ hm 0 0
  | succ k ih =>
      refine bind_eq_ok_iff.2 ⟨_, ih, ?_⟩
      rw [Grid.yielded]
      cases Grid.yielded τ tables k with
      | none => rfl
      | some p =>
          exact bind_eq_ok_iff.2 ⟨int (p.2 + 1 : Nat), rfl,
            nextPivot_grid (tables (k + 1)) τ hm (p.1 + 1) (p.2 + 1)⟩

end Value

namespace Grid

variable {m d : Nat}

/-- **The search is greedy, and nothing that is written above it changes it.**  Whatever the entries
and the tolerance are, finite or not, the pivots are greedy.  They are what is named one by one while
only rows at or above the pivot just named are written to, and what a walk meets whose action writes
to no others.  On an array, which has no more rows than a machine word counts, the search ends and
answers with them, read at once or one by one. -/
theorem isGreedy_pivots_and_undisturbed (g : Grid Float m d) (τ : Float) :
    g.IsGreedy τ (g.pivots τ) ∧
      (∀ tables : Nat → Grid Float m d, tables 0 = g → KeepsRowsBelow τ tables →
        ∀ k, yielded τ tables k = (g.pivots τ)[k]?) ∧
      (∀ (σ ε : Type) (view : σ → Grid Float m d) (act : σ → Pivot m d → Except ε σ),
        (∀ s p s', act s p = .ok s' → ∀ i, p.1 < i → (view s').entry i = (view s).entry i) →
          ∀ s, view s = g → scan τ view act (List.finRange m) 0 s = (do
            let last ← (g.pivots τ).foldlM act s
            return (last, g.pivots τ))) ∧
      ((m : Int) ≤ wordBound →
        (Value.array (.ofGrid g)).pivotsOf (.float τ) =
            .ok ((g.pivots τ).map fun p => (p.1.val, p.2.val)) ∧
          ∀ tables : Nat → Grid Float m d, tables 0 = g → KeepsRowsBelow τ tables →
            ∀ k, Value.yielded (.float τ) (fun k => .array (.ofGrid (tables k))) k =
              .ok ((g.pivots τ)[k]?.map fun p => (((p.1 : Nat) : Int), .int (p.2 : Nat)))) := by
  have hyielded (tables : Nat → Grid Float m d) (hfirst : tables 0 = g)
      (keeps : KeepsRowsBelow τ tables) (k : Nat) : yielded τ tables k = (g.pivots τ)[k]? := by
    rw [yielded_eq_getElem? keeps, hfirst]
  refine ⟨isGreedy_pivots τ g, hyielded, ?_, fun hm => ⟨Value.pivotsOf_grid g τ hm, ?_⟩⟩
  · rintro σ ε view act frame s rfl
    exact scan_eq_foldlM τ view act frame (List.pairwise_lt_finRange m) 0 s
  · intro tables hfirst keeps k
    rw [Value.yielded_grid τ tables hm, hyielded tables hfirst keeps]

/-- The first rows are overwritten with a constant. -/
def overwrite (n : Nat) (x : Float) (g : Grid Float m d) : Grid Float m d :=
  ofFn fun i j => if i.val < n then x else g.entry i j

theorem entry_overwrite {n : Nat} {i : Fin m} (hi : n ≤ i) (x : Float) (g : Grid Float m d) :
    (g.overwrite n x).entry i = g.entry i := by
  funext j
  rw [overwrite, entry_ofFn, if_neg (Nat.not_lt.2 hi)]

/-- A table that is not in echelon form, with entries that are no numbers. -/
def untidy : Grid Float 3 3 :=
  ofFn ![![0 / 0, 0.5, 1 / 0], ![0.125, 4, -0.125], ![2, 1, -1 / 0]]

/-- The same table while it is read: after each of its pivots the rows down to it are overwritten. -/
def untidyAt (k : Nat) : Grid Float 3 3 :=
  if k = 0 then untidy
  else if k = 1 then untidy.overwrite 1 7
  else (untidy.overwrite 1 7).overwrite 3 (0 / 0)

theorem isGreedy_and_undisturbed_untidy :
    untidy.IsGreedy 0.25 [(0, 1), (2, 2)] ∧
      (∀ k, yielded 0.25 untidyAt k = [(0, 1), (2, 2)][k]?) ∧
      scan (ε := Unit) 0.25 id (fun g p => .ok (g.overwrite (p.1 + 1) 7)) (List.finRange 3) 0
          untidy =
        .ok ((untidy.overwrite 1 7).overwrite 3 7, [(0, 1), (2, 2)]) ∧
      (Value.array (.ofGrid untidy)).pivotsOf (.float 0.25) = .ok [(0, 1), (2, 2)] ∧
      Value.yielded (.float 0.25) (fun k => .array (.ofGrid (untidyAt k))) 1 =
        .ok (some (2, .int 2)) := by
  have hpivots : untidy.pivots 0.25 = [(0, 1), (2, 2)] := by decide +kernel
  have hsecond : yielded 0.25 untidyAt 1 = some (2, 2) := by decide +kernel
  have keeps : KeepsRowsBelow 0.25 untidyAt := by
    rintro (_ | _ | k) p hp i hi
    · exact entry_overwrite (Nat.one_le_iff_ne_zero.2 (Nat.ne_zero_of_lt hi)) 7 untidy
    · obtain rfl := Option.some.inj (hsecond.symm.trans hp)
      exact absurd i.isLt (not_lt.2 hi)
    · rfl
  obtain ⟨hgreedy, hyielded, hscan, harray⟩ := isGreedy_pivots_and_undisturbed untidy 0.25
  obtain ⟨hall, hone⟩ := harray (by decide)
  rw [hpivots] at hgreedy hyielded hscan hall hone
  refine ⟨hgreedy, hyielded untidyAt rfl keeps, ?_, hall, hone untidyAt rfl keeps 1⟩
  refine hscan _ _ id _ ?_ untidy rfl
  rintro g p g' ⟨⟩ i hi
  exact entry_overwrite hi 7 g

end Grid

end LinearSystems
