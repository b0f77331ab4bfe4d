import LinearSystems.Proofs.Display.Cells
import LinearSystems.Proofs.Pivots.Greedy
import LinearSystems.Value.Pivots

/-!
# The pivots of an array

The search for pivots takes a table, a place and a tolerance of any sort.  On an array of floats, with
a plain float as the tolerance, it is the search in the table of its entries: it compares a part of a
row with the tolerance at once (`Value.leadingAt_float`), and the first place that is marked is the
leftmost significant entry (`Value.leadingAt_row`).  So **it always answers, and with the pivots of
the table** (`Value.pivotsOf_grid`), one step with the next of them (`Value.nextPivot_grid`).

A row has to be named by a machine word, as the rows of every array are.
-/

namespace LinearSystems

/-! ## Rows of floats beside one float -/

theorem flatMap_take_one_drop {α : Type} (l : List α) :
    (List.range l.length).flatMap (fun i => (l.drop i).take 1) = l := by
  induction l with
  | nil => rfl
  | cons x l ih =>
      rw [List.length_cons, List.range_succ_eq_map, List.flatMap_cons, List.flatMap_map]
      exact congrArg (x :: ·) ih

/-- An array with one axis already has its own extent. -/
theorem stretchEntries_self {α : Type} (l : List α) :
    stretchEntries [l.length] [l.length] l = l := by
  refine Eq.trans ?_ (flatMap_take_one_drop l)
  refine List.flatMap_congr fun i hi => ?_
  have hplace : (if l.length = 1 then 0 else i) = i := by
    have hlt : i < l.length := List.mem_range.1 hi
    split <;> omega
  show partAt [] l (if l.length = 1 then 0 else i) = _
  rw [hplace, partAt, entryCount, List.foldl_nil, Nat.mul_one]

/-- A single entry is repeated along the whole axis. -/
theorem stretchEntries_single {α : Type} (n : Nat) (x : α) :
    stretchEntries [n] [1] [x] = List.replicate n x := by
  have hparts : stretchEntries [n] [1] [x] = (List.range n).map fun _ => x :=
    List.flatMap_pure_eq_map (fun _ => x) (List.range n)
  rw [hparts, List.map_const', List.length_range]

theorem Tensor.zipWith_single {K L M : Type} (f : K → L → M) (xs : List K) (y : L) :
    (⟨[xs.length], xs⟩ : Tensor K).zipWith f ⟨[], [y]⟩ =
      .ok ⟨[xs.length], xs.map fun x => f x y⟩ := by
  have hentries : List.zipWith f (stretchEntries [xs.length] [xs.length] xs)
      (stretchEntries [xs.length] [1] [y]) = xs.map fun x => f x y := by
    rw [stretchEntries_self, stretchEntries_single]
    exact List.ext_getElem (by simp) fun i _ _ => by simp
  rw [← hentries]
  rfl

namespace Value

variable {m d : Nat}

/-- Some floats are compared with a plain one each on its own. -/
theorem compareBulk_floats_float (c : Comparison) (xs : List Float) (y : Float) :
    compareBulk c ⟨.float, ⟨[xs.length], xs.map float⟩, false⟩ ⟨.float, ⟨[], [float y]⟩, true⟩ =
      .ok ⟨.bool, ⟨[xs.length], xs.map fun x => bool (c.onNumbers (.float x) (.float y))⟩,
        false⟩ := by
  have hwiden : (xs.map float).map (ElementType.store .float) = xs.map float := List.map_map
  have hmarks : ((xs.map float).map fun x => compareElements c x (float y)).map bool =
      xs.map fun x => bool (c.onNumbers (.float x) (.float y)) := by
    rw [List.map_map, List.map_map]
    rfl
  have hzip := Tensor.zipWith_single (compareElements c) (xs.map float) (float y)
  rw [List.length_map] at hzip
  rw [← hmarks]
  show (do
    let flags ← (liftM ((⟨[xs.length], (xs.map float).map (ElementType.store .float)⟩ :
      Tensor Value).zipWith (compareElements c) ⟨[], [float y]⟩) :
        Except ArgumentFault (Tensor Bool))
    return (⟨.bool, flags.map bool, false⟩ : Bulk)) = _
  rw [hwiden, hzip]
  rfl

theorem toBulk_floats (xs : List Float) :
    (array ⟨[xs.length], xs⟩).toBulk = .ok ⟨.float, ⟨[xs.length], xs.map float⟩, false⟩ :=
  toBulk_array (⟨xs.toArray, rfl⟩ : Vector Float xs.length)

theorem compare_array_float (c : Comparison) (xs : List Float) (y : Float) :
    (array ⟨[xs.length], xs⟩).compare c (float y) =
      .ok (.bulk .bool [xs.length] (xs.map fun x => bool (c.onNumbers (.float x) (.float y)))) := by
  have hfloat : (float y).toBulk = .ok ⟨.float, ⟨[], [float y]⟩, true⟩ := rfl
  exact bind_eq_ok_iff.2 ⟨_, toBulk_floats xs, bind_eq_ok_iff.2 ⟨_, hfloat,
    bind_eq_ok_iff.2 ⟨_, compareBulk_floats_float c xs y, rfl⟩⟩⟩

/-- The comparison of some floats with a tolerance marks the significant ones, so its first mark is
at the first of them. -/
theorem leadingAt_float (xs : List Float) (τ : Float) :
    leadingAt xs (float τ) = .ok (xs.findIdx? (Scalar.isSignificant τ)) := by
  have hmarks : (xs.map Float.abs).map
        (fun x => bool (Comparison.atLeast.onNumbers (.float x) (.float τ))) =
      xs.map fun x => bool (Scalar.isSignificant τ x) := by
    rw [List.map_map]
    exact List.map_congr_left fun x _ => congrArg bool (onNumbers_atLeast x.abs τ)
  have hcompare := compare_array_float .atLeast (xs.map Float.abs) τ
  rw [List.length_map, hmarks] at hcompare
  have hfirst : ((xs.map fun x => bool (Scalar.isSignificant τ x)).zipIdx.find?
      fun p => p.1.isMarked).map Prod.snd = xs.findIdx? (Scalar.isSignificant τ) := by
    rw [← List.findIdx?_eq_fst_find?_zipIdx, List.findIdx?_map]
    rfl
  refine bind_eq_ok_iff.2 ⟨_, hcompare, ?_⟩
  rw [elements]
  exact congrArg Except.ok hfirst

/-! ## Rows of a table -/

/-- A row of a table from a column on. -/
theorem rowFrom_grid (g : Grid Float m d) (i : Fin m) (hi : fitsWord (i : Nat) = true) {c : Nat}
    (hc : c ≤ d) :
    (array (.ofGrid g)).rowFrom (i : Nat) (int c) = .ok ((g.row i).toList.drop c) := by
  have hplace : toPlace (i : Nat) = .ok (i : Nat) := if_pos hi
  have hstart : (int c).toPartStart d = .ok c := by
    show Except.ok (startPlace d c) = _
    rw [startPlace_natCast hc]
  rw [← partAt_grid g i]
  refine bind_eq_ok_iff.2 ⟨_, rfl, bind_eq_ok_iff.2 ⟨_, rfl, bind_eq_ok_iff.2 ⟨_, hplace, ?_⟩⟩⟩
  rw [position?_val]
  refine bind_eq_ok_iff.2 ⟨_, ?_, rfl⟩
  rw [hstart]
  rfl

/-- The first mark of the part of a row is the leftmost significant entry. -/
theorem findIdx?_row_drop (g : Grid Float m d) (τ : Float) (i : Fin m) (c : Nat) :
    ((g.row i).toList.drop c).findIdx? (Scalar.isSignificant τ) =
      (g.leading? τ i c).map fun j => j.val - c := by
  have hentry (k : Nat) (hk : k < ((g.row i).toList.drop c).length) :
      ∃ hd : c + k < d, ((g.row i).toList.drop c)[k] = g.entry i ⟨c + k, hd⟩ := by
    have hd : c + k < d := by
      rw [List.length_drop, Vector.length_toList] at hk
      omega
    exact ⟨hd, by simp [Grid.entry, Vector.get_eq_getElem]⟩
  cases hj : g.leading? τ i c with
  | none =>
      refine List.findIdx?_eq_none_iff.2 fun x hx => ?_
      obtain ⟨k, hk, rfl⟩ := List.mem_iff_getElem.1 hx
      obtain ⟨hd, hx⟩ := hentry k hk
      rw [hx]
      exact Grid.leading?_eq_none_iff.1 hj _ (Nat.le_add_right c k)
  | some j =>
      obtain ⟨hcj, hsignificant, hbefore⟩ := Grid.leading?_eq_some_iff.1 hj
      have hlength : j.val - c < ((g.row i).toList.drop c).length := by
        rw [List.length_drop, Vector.length_toList]
        omega
      refine List.findIdx?_eq_some_iff_getElem.2 ⟨hlength, ?_, fun k hk => ?_⟩
      · obtain ⟨hd, hx⟩ := hentry (j.val - c) hlength
        have hsame : (⟨c + (j.val - c), hd⟩ : Fin d) = j := Fin.ext (Nat.add_sub_cancel' hcj)
        rw [hx, hsame]
        exact hsignificant
      · obtain ⟨hd, hx⟩ := hentry k (hk.trans hlength)
        have hkj : c + k < j.val := Nat.add_lt_of_lt_sub' hk
        rw [hx, Bool.not_eq_true]
        exact hbefore _ hkj (Nat.le_add_right c k)

theorem leadingAt_row (g : Grid Float m d) (τ : Float) (i : Fin m) (c : Nat) :
    leadingAt ((g.row i).toList.drop c) (float τ) =
      .ok ((g.leading? τ i c).map fun j => j.val - c) := by
  rw [leadingAt_float, findIdx?_row_drop]

/-! ## Whole searches -/

/-- The pivots in some rows of an array. -/
theorem pivotsFrom_grid (g : Grid Float m d) (τ : Float) {rows : List (Fin m)}
    (hrows : ∀ i ∈ rows, fitsWord (i : Nat) = true) (c : Nat) :
    (array (.ofGrid g)).pivotsFrom (float τ) d (rows.map Fin.val) c =
      .ok ((g.pivotsFrom τ rows c).map fun p => (p.1.val, p.2.val)) := by
  induction rows generalizing c with
  | nil => rfl
  | cons i rows ih =>
      obtain ⟨hi, hrows⟩ := List.forall_mem_cons.1 hrows
      rw [List.map_cons, pivotsFrom]
      rcases Nat.lt_or_ge c d with hc | hc
      · rw [if_neg (Nat.not_le.2 hc)]
        refine bind_eq_ok_iff.2 ⟨_, rowFrom_grid g i hi hc.le,
          bind_eq_ok_iff.2 ⟨_, leadingAt_row g τ i c, ?_⟩⟩
        rw [Grid.pivotsFrom]
        cases hj : g.leading? τ i c with
        | none => exact ih hrows c
        | some j =>
            have hcj : c ≤ j := (Grid.leading?_eq_some_iff.1 hj).1
            have hplace : c + (j.val - c) = j := Nat.add_sub_cancel' hcj
            have htail := ih hrows (c + (j.val - c) + 1)
            refine bind_eq_ok_iff.2 ⟨_, htail, ?_⟩
            show Except.ok ((i.val, c + (j.val - c)) :: _) = _
            rw [hplace]
            rfl
      · rw [if_pos hc]
        have hnone : g.pivotsFrom τ (i :: rows) c = [] :=
          Grid.pivotsFrom_eq_nil fun r _ j hj => absurd (hc.trans hj) (not_le.2 j.isLt)
        rw [hnone]
        rfl

/-- The rows of a table are named by machine words where their number is one. -/
theorem fitsWord_row (hm : (m : Int) ≤ wordBound) (i : Fin m) : fitsWord (i : Nat) = true := by
  have hi : (i : Nat) < m := i.isLt
  unfold wordBound at hm
  rw [fitsWord_eq_true_iff]
  omega

/-- **The pivots of an array are those of its table.**  The search answers whatever the entries and
the tolerance are. -/
theorem pivotsOf_grid (g : Grid Float m d) (τ : Float) (hm : (m : Int) ≤ wordBound) :
    (array (.ofGrid g)).pivotsOf (float τ) =
      .ok ((g.pivots τ).map fun p => (p.1.val, p.2.val)) := by
  have hrows : List.range m = (List.finRange m).map Fin.val :=
    List.map_coe_finRange_eq_range.symm
  refine bind_eq_ok_iff.2 ⟨(m, d), rfl, ?_⟩
  show (array (.ofGrid g)).pivotsFrom (float τ) d (List.range m) 0 = _
  rw [hrows]
  exact pivotsFrom_grid g τ (fun i _ => fitsWord_row hm i) 0

/-- The next pivot in some rows of an array. -/
theorem pivotInRows_grid (g : Grid Float m d) (τ : Float) {rows : List (Fin m)}
    (hrows : ∀ i ∈ rows, fitsWord (i : Nat) = true) {c : Nat} (hc : c ≤ d) :
    (array (.ofGrid g)).pivotInRows (int c) (float τ) (rows.map fun i : Fin m => ((i : Nat) : Int)) =
      .ok ((rows.findSome? fun i => (g.leading? τ i c).map (i, ·)).map fun p =>
        (((p.1 : Nat) : Int), int (p.2 : Nat))) := by
  induction rows with
  | nil => rfl
  | cons i rows ih =>
      obtain ⟨hi, hrows⟩ := List.forall_mem_cons.1 hrows
      rw [List.map_cons, pivotInRows]
      refine bind_eq_ok_iff.2 ⟨_, rowFrom_grid g i hi hc,
        bind_eq_ok_iff.2 ⟨_, leadingAt_row g τ i c, ?_⟩⟩
      rw [List.findSome?_cons]
      cases hj : g.leading? τ i c with
      | none => exact ih hrows
      | some j =>
          have hcj : c ≤ j := (Grid.leading?_eq_some_iff.1 hj).1
          have hplace : (c : Int) + ((j.val - c : Nat) : Int) = (j : Nat) := by omega
          refine bind_eq_ok_iff.2 ⟨int ((c : Int) + ((j.val - c : Nat) : Int)), rfl, ?_⟩
          rw [hplace]
          rfl

theorem holds_atLeast_natCast (a b : Nat) :
    (int a).holds .atLeast (int b) = .ok (decide (b ≤ a)) := by
  have hle : (decide ((b : Int) < a) || (b : Int) == a) = decide (b ≤ a) := by
    rw [Bool.eq_iff_iff, Bool.or_eq_true, decide_eq_true_iff, beq_iff_eq, decide_eq_true_iff]
    omega
  rw [← hle]
  rfl

/-- A walk that starts at a row counted from the front meets the rows from there on. -/
theorem walkFrom_natCast (m row : Nat) :
    walkFrom m row = (rowsFrom m row).map fun i : Fin m => ((i : Nat) : Int) := by
  have hcount : ((m : Int) - row).toNat = m - row := by omega
  have hfront : ¬ (row : Int) < -(m : Int) := by omega
  rw [walkFrom, if_neg hfront, hcount]
  refine List.ext_getElem (by simp [rowsFrom]) fun k hk _ => ?_
  simp [rowsFrom]

/-- **One step of the search in an array is the one in its table.** -/
theorem nextPivot_grid (g : Grid Float m d) (τ : Float) (hm : (m : Int) ≤ wordBound)
    (row column : Nat) :
    (array (.ofGrid g)).nextPivot (int row) (int column) (float τ) =
      .ok ((g.nextPivot τ row column).map fun p => (((p.1 : Nat) : Int), int (p.2 : Nat))) := by
  refine bind_eq_ok_iff.2 ⟨(m, d), rfl, bind_eq_ok_iff.2 ⟨_, holds_atLeast_natCast column d, ?_⟩⟩
  rcases Nat.lt_or_ge column d with hc | hc
  · rw [decide_eq_false (Nat.not_le.2 hc)]
    refine bind_eq_ok_iff.2 ⟨(row : Int), rfl, ?_⟩
    rw [walkFrom_natCast, Grid.nextPivot_eq_findSome?]
    exact pivotInRows_grid g τ (fun i _ => fitsWord_row hm i) hc.le
  · have hnone : g.nextPivot τ row column = .none :=
      Grid.nextPivot_eq_none_iff.2 fun i _ => Grid.leading?_eq_none_iff.2 fun j hj =>
        absurd (hc.trans hj) (not_le.2 j.isLt)
    rw [decide_eq_true hc, hnone]
    rfl

end Value

end LinearSystems
