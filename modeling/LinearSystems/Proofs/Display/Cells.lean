import Mathlib
import LinearSystems.Proofs.Answers
import LinearSystems.Proofs.FloatingPoint.Order
import LinearSystems.Value.Format

/-!
# The cells of a display

Displays take their numbers out of arrays, item by item or place by place, compare them with the
tolerance and write them.  On arrays of floats each of these steps is the plain one: the items are the
entries (`Value.items_array`), what stands at a place is the entry there (`Value.itemAt_array`), and a
number is written by its digits once zero is added to it (`Display.numberText`).
-/

namespace LinearSystems

/-! ## Entries of arrays -/

/-- A place of an array with one axis is one entry. -/
theorem Selection.ofParts_place {d : Nat} (i : Fin d) :
    ofParts [d] [.place (i : Nat)] = .ok ⟨[], [(i : Nat)], .element⟩ := by
  have hoffset : AxisPart.offsetOf 0 d 1 (i : Nat) = .ok (i : Nat) := by
    simp [AxisPart.offsetOf]
  have hbase : [AxisPart.place 0 d 1 (i : Nat)].mapM AxisPart.placeOffset = .ok [(i : Nat)] := by
    rw [List.mapM_cons, AxisPart.placeOffset, hoffset]
    rfl
  -- There are no picks, so the only offset is the sum of that of the place and nothing.
  have hplaces : (⟨[], [0 + (i : Nat) + 0], .element⟩ : Selection) = ⟨[], [(i : Nat)], .element⟩ := by
    rw [Nat.zero_add]
    rfl
  rw [← hplaces]
  show (do
    let offsets ← [AxisPart.place 0 d 1 (i : Nat)].mapM AxisPart.placeOffset
    _) = _
  rw [hbase]
  rfl

namespace Value

variable {d : Nat}

theorem commonType_map_wordFloat (l : List Float) : commonType (l.map wordFloat) = .float := by
  cases l with
  | nil => rfl
  | cons x rest =>
      show (rest.map wordFloat).foldl (fun (t : ElementType) v => t.combine v.elementType)
        ElementType.float = ElementType.float
      induction rest with
      | nil => rfl
      | cons y rest ih => exact ih

theorem toBulk_array (v : Vector Float d) :
    (array (.ofVector v)).toBulk = .ok ⟨.float, ⟨[d], v.toList.map float⟩, false⟩ := by
  have hextents : (array (.ofVector v)).extents = .ok [d] := rfl
  have helements : (array (.ofVector v)).elements = v.toList.map wordFloat := by
    rw [elements]
    rfl
  rw [toBulk, hextents]
  show Except.ok _ = _
  rw [helements, commonType_map_wordFloat, List.map_map]
  rfl

theorem items_array (v : Vector Float d) :
    (array (.ofVector v)).items = .ok (v.toList.map wordFloat) := by
  refine congrArg Except.ok (List.ext_getElem ?_ fun i hi hi' => ?_)
  · simp [Tensor.slices, Tensor.ofVector]
  · rw [List.length_map, Vector.length_toList] at hi'
    have hpart : partAt [] v.toList i = [v[i]] := by
      simp [partAt, entryCount, List.take_one, List.head?_drop, hi']
    simp only [Tensor.slices, Tensor.ofVector, List.map_map, List.getElem_map, List.getElem_range,
      Function.comp_apply, hpart, Vector.getElem_toList]
    rfl

/-- The items that a display goes through. -/
theorem lift_items_eq_pure {v : Value} {items : List Value} (h : v.items = .ok items) :
    (liftM v.items : Except ArgumentFault (List Value)) = pure items := by
  rw [h]
  rfl

theorem entryCount_singleton (n : Nat) : entryCount [n] = n := by
  simp [entryCount]

/-- The parts of rows of one length, one after the other, are the rows. -/
theorem partAt_flatten {α : Type} {rows : List (List α)} (hrows : ∀ r ∈ rows, r.length = d)
    {i : Nat} (hi : i < rows.length) : partAt [d] rows.flatten i = rows[i] := by
  rw [partAt, entryCount_singleton]
  induction rows generalizing i with
  | nil => cases hi
  | cons r rows ih =>
      obtain ⟨rfl, hrows⟩ := List.forall_mem_cons.1 hrows
      cases i with
      | zero => simp
      | succ i =>
          have hdrop : (i + 1) * r.length = r.length + i * r.length := by
            rw [Nat.succ_mul, Nat.add_comm]
          rw [List.flatten_cons, hdrop, List.drop_length_add_append, List.getElem_cons_succ]
          exact ih hrows (Nat.lt_of_succ_lt_succ hi)

/-- A row is a part of the entries of its table. -/
theorem partAt_grid {m : Nat} (g : Grid Float m d) (i : Fin m) :
    partAt [d] g.toList i = (g.row i).toList := by
  have hrows : ∀ r ∈ g.rows.toList.map Vector.toList, r.length = d := by
    intro r hr
    obtain ⟨row, -, rfl⟩ := List.mem_map.1 hr
    exact Vector.length_toList
  have hlt : i.val < (g.rows.toList.map Vector.toList).length := by simp
  rw [Grid.toList, partAt_flatten hrows hlt]
  simp [Grid.row, Vector.get_eq_getElem]

/-- The items of a table are its rows. -/
theorem items_grid {m : Nat} (g : Grid Float m d) :
    (array (.ofGrid g)).items = .ok (g.rows.toList.map fun row => array (.ofVector row)) := by
  refine congrArg Except.ok (List.ext_getElem ?_ fun i hi hi' => ?_)
  · simp [Tensor.slices, Tensor.ofGrid]
  · have him : i < m := by simpa using hi'
    have hpart := partAt_grid g ⟨i, him⟩
    simp only [Tensor.slices, Tensor.ofGrid, List.map_map, List.getElem_map, List.getElem_range,
      Function.comp_apply, hpart]
    rfl

/-- An array is read at every place that fits a machine word. -/
theorem itemAt_array (v : Vector Float d) (i : Fin d) (hi : fitsWord (i : Nat) = true) :
    (array (.ofVector v)).itemAt (.int (i : Nat)) = .ok (wordFloat (v.get i)) := by
  have hpart : (int (i : Nat)).toIndexParts = .ok [.place (i : Nat)] := by
    have hplace : toPlace (i : Nat) = .ok (i : Nat) := if_pos hi
    simp only [toIndexParts, toIndexPart, hplace]
    rfl
  have hselection : (⟨[d], v.toList.map float⟩ : Tensor Value).selectionAt (.int (i : Nat)) =
      .ok ⟨[], [(i : Nat)], .element⟩ :=
    bind_eq_ok_iff.2 ⟨_, hpart, mapError_eq_ok_iff.2 (Selection.ofParts_place i)⟩
  have hread : (⟨[d], v.toList.map float⟩ : Tensor Value).readAt (.int (i : Nat)) =
      .ok ⟨[], [.float (v.get i)]⟩ := by
    refine bind_eq_ok_iff.2 ⟨_, hselection, ?_⟩
    simp [Tensor.select]
    rfl
  exact bind_eq_ok_iff.2 ⟨_, toBulk_array v, bind_eq_ok_iff.2 ⟨_, hread, rfl⟩⟩

theorem not_itemAt_array_eq_ok (v : Vector Float d) {i : Nat} (hi : fitsWord i = false) (x : Value) :
    (array (.ofVector v)).itemAt (.int i) ≠ .ok x := by
  intro h
  obtain ⟨b, -, h⟩ := bind_eq_ok_iff.1 h
  obtain ⟨t, h, -⟩ := bind_eq_ok_iff.1 h
  obtain ⟨s, h, -⟩ := bind_eq_ok_iff.1 h
  obtain ⟨parts, h, -⟩ := bind_eq_ok_iff.1 h
  obtain ⟨part, h, -⟩ := bind_eq_ok_iff.1 h
  obtain ⟨n, h, -⟩ := bind_eq_ok_iff.1 h
  unfold toPlace at h
  rw [hi] at h
  split at h
  · next hfits => cases hfits
  · split at h <;> cases h

/-! ## Comparisons -/

/-- Two floats are compared as arrays without axes when one of them comes from an array. -/
theorem compareBulk_floats (c : Comparison) (x y : Float) (p q : Bool) :
    compareBulk c ⟨.float, ⟨[], [float x]⟩, p⟩ ⟨.float, ⟨[], [float y]⟩, q⟩ =
      .ok ⟨.bool, ⟨[], [bool (c.onNumbers (.float x) (.float y))]⟩, false⟩ := by
  cases p <;> cases q <;> rfl

/-- What is at least a number is above it or equal to it. -/
theorem onNumbers_atLeast (x y : Float) :
    Comparison.atLeast.onNumbers (.float x) (.float y) = decide (y ≤ x) := by
  show (decide (y < x) || (y == x)) = _
  have hlt : decide (y < x) = (FloatingPoint.value y).lt (FloatingPoint.value x) :=
    Bool.eq_iff_iff.2 (decide_eq_true_iff.trans FloatingPoint.lt_iff)
  have hle : decide (y ≤ x) = (FloatingPoint.value y).le (FloatingPoint.value x) :=
    Bool.eq_iff_iff.2 (decide_eq_true_iff.trans FloatingPoint.le_iff)
  have hbeq : (y == x) = (FloatingPoint.value y).beq (FloatingPoint.value x) := rfl
  rw [hlt, hle, hbeq]
  unfold Float.Model.UnpackedFloat.lt Float.Model.UnpackedFloat.le Float.Model.UnpackedFloat.beq
  rcases (FloatingPoint.value y).compare (FloatingPoint.value x) with _ | _ | _ | _ <;> rfl

theorem holds_wordFloat_float (c : Comparison) (x y : Float) :
    (wordFloat x).holds c (float y) = .ok (c.onNumbers (.float x) (.float y)) := by
  have hx : (wordFloat x).toBulk = .ok ⟨.float, ⟨[], [float x]⟩, false⟩ := rfl
  have hy : (float y).toBulk = .ok ⟨.float, ⟨[], [float y]⟩, true⟩ := rfl
  refine bind_eq_ok_iff.2 ⟨wordBool (c.onNumbers (.float x) (.float y)), ?_, rfl⟩
  exact bind_eq_ok_iff.2 ⟨_, hx, bind_eq_ok_iff.2 ⟨_, hy,
    bind_eq_ok_iff.2 ⟨_, compareBulk_floats c x y false true, rfl⟩⟩⟩

end Value

/-! ## Numbers as texts -/

namespace Display

open Value

/-- A number is written as soon as its number of digits can be read. -/
theorem cellWith_wordFloat_eq_map (form : DigitNotation) (precision : Value) (x : Float) :
    cellWith form precision (wordFloat x) =
      (fun p => form.write p (x + 0)) <$> precision.toPrecision form.letter := by
  show writeWith form (wordFloat (x + 0)) precision = _
  unfold toPrecision writeWith
  cases precision.display with
  | error e => rfl
  | ok written =>
      show (do return form.write (← readPrecision "float" form.letter written) (x + 0)) =
        _ <$> readPrecision "float" form.letter written
      cases readPrecision "float" form.letter written <;> rfl

/-- A row of numbers is written as soon as their number of digits can be read. -/
theorem mapM_cellWith (form : DigitNotation) (precision : Value) {xs : List Float} (hne : xs ≠ []) :
    (xs.map wordFloat).mapM (cellWith form precision) =
      (fun p => xs.map fun x => form.write p (x + 0)) <$> precision.toPrecision form.letter := by
  rw [List.mapM_map]
  exact mapM_eq_map_of_ne_nil (g := fun p x => form.write p (x + 0))
    (fun x _ => cellWith_wordFloat_eq_map form precision x) hne

/-- The text of a number with so many significant digits, where their number can be read.  Adding zero
removes the sign of zero. -/
def numberText (precision : Value) (x : Float) : Except ArgumentFault String := do
  return Decimal.general (← precision.toPrecision 'g') (x + 0)

theorem cellWith_float (precision : Value) (x : Float) :
    cellWith .significant precision (float x) = numberText precision x := by
  show writeWith .significant (float (x + 0)) precision = _
  unfold numberText toPrecision writeWith
  cases precision.display <;> rfl

theorem cellWith_wordFloat (precision : Value) (x : Float) :
    cellWith .significant precision (wordFloat x) = numberText precision x := by
  show writeWith .significant (wordFloat (x + 0)) precision = _
  unfold numberText toPrecision writeWith
  cases precision.display <;> rfl

end Display

end LinearSystems
