import Mathlib
import LinearSystems.Proofs.Decimal.Texts
import LinearSystems.Proofs.Display.Cells

/-!
# Tables in columns

The cells of a table are words, and each is padded to the widest of the table, the offsets behind the bar
to the widest of their own.  So all lines of a table have one length and its bar stands at one offset
(`Display.length_row`), and padding and joining leave the words as they are: **a line split at its blanks
gives back the texts of its row, the bar and the text of its offset** (`Display.tables_aligned`), whatever
the numbers are and however long their texts.
-/

namespace LinearSystems

namespace Display

open Value

/-! ## Rows of cells -/

/-- What stands in a table: one word, without a bar. -/
structure IsCell (text : String) : Prop extends Text.IsWord text where
  noBar : '|' ∉ text.toList

theorem isCell_cell (p : Nat) (x : Float) : IsCell (cell (Decimal.general p) x) :=
  ⟨Decimal.isWord_general p _, Decimal.bar_notMem_general p _⟩

section Rows

variable {row : List String} {width : Nat}

/-- A row of cells as wide as the widest of the table. -/
theorem length_row (hne : row ≠ []) (h : ∀ t ∈ row, t.length ≤ width) :
    (Text.spaced (row.map (Text.padLeft width))).length = width + (row.length - 1) * (1 + width) := by
  obtain ⟨t, ts, rfl⟩ := List.exists_cons_of_ne_nil hne
  have hpadded : ∀ u ∈ (t :: ts).map (Text.padLeft width), u.length = width := by
    intro u hu
    obtain ⟨s, hs, rfl⟩ := List.mem_map.1 hu
    rw [Text.length_padLeft, max_eq_left (h s hs)]
  have hlength := Text.length_spaced hpadded
  rwa [List.length_map] at hlength

/-- The words of a row are its cells. -/
theorem words_row (h : ∀ t ∈ row, IsCell t) :
    Text.words (Text.spaced (row.map (Text.padLeft width))) = row := by
  rw [Text.words_spaced, List.flatMap_map]
  induction row with
  | nil => rfl
  | cons t ts ih =>
      obtain ⟨ht, hts⟩ := List.forall_mem_cons.1 h
      rw [List.flatMap_cons, Text.words_padLeft, ht.words, ih hts]
      rfl

/-- A mark that is in none of the cells is not in the row. -/
theorem notMem_row {mark : Char} (hmark : mark ≠ ' ') (h : ∀ t ∈ row, mark ∉ t.toList) :
    mark ∉ (Text.spaced (row.map (Text.padLeft width))).toList := by
  intro hmem
  obtain rfl | ⟨u, hu, hmem⟩ := Text.mem_spaced hmem
  · exact hmark rfl
  · obtain ⟨t, ht, rfl⟩ := List.mem_map.1 hu
    obtain rfl | hmem := Text.mem_padLeft hmem
    · exact hmark rfl
    · exact h t ht hmem

end Rows

/-! ## Lines with a bar -/

section Barred

variable {row : List String} {last : String} {width lastWidth : Nat}

/-- A row with one more cell behind a bar. -/
def barredLine (width lastWidth : Nat) (row : List String) (last : String) : String :=
  Text.spaced (row.map (Text.padLeft width)) ++ " | " ++ Text.padLeft lastWidth last

theorem length_barredLine (hne : row ≠ []) (h : ∀ t ∈ row, t.length ≤ width)
    (hlast : last.length ≤ lastWidth) :
    (barredLine width lastWidth row last).length =
      width + (row.length - 1) * (1 + width) + 3 + lastWidth := by
  rw [barredLine, String.length_append, String.length_append, length_row hne h, Text.length_padLeft,
    max_eq_left hlast]
  rfl

/-- The parts of the line, with the bar between two blanks. -/
theorem toList_barredLine (row : List String) (last : String) :
    (barredLine width lastWidth row last).toList =
      (Text.spaced (row.map (Text.padLeft width))).toList ++
        ' ' :: '|' :: ' ' :: (Text.padLeft lastWidth last).toList := by
  simp [barredLine]

theorem words_barredLine (h : ∀ t ∈ row, IsCell t) (hlast : IsCell last) :
    Text.words (barredLine width lastWidth row last) = row ++ ["|", last] := by
  have hrow : Text.words (Text.spaced (row.map (Text.padLeft width))) = row := words_row h
  have hcell : Text.words (Text.padLeft lastWidth last) = [last] := by
    rw [Text.words_padLeft, hlast.words]
  have hbar : Text.wordsOf ['|'] = [['|']] := rfl
  rw [Text.words] at hrow hcell ⊢
  rw [toList_barredLine, Text.wordsOf_append_cons rfl, ← List.singleton_append,
    Text.wordsOf_append_cons rfl, hbar, List.map_append, List.map_append, hrow, hcell]
  rfl

/-- The only bar of the line stands behind the row and a blank. -/
theorem getElem?_barredLine_eq_bar_iff (hne : row ≠ []) (h : ∀ t ∈ row, IsCell t ∧ t.length ≤ width)
    (hlast : IsCell last) (k : Nat) :
    (barredLine width lastWidth row last).toList[k]? = some '|' ↔
      k = width + (row.length - 1) * (1 + width) + 1 := by
  have hfront : '|' ∉ (Text.spaced (row.map (Text.padLeft width))).toList ++ [' '] := by
    rw [List.mem_append, not_or]
    exact ⟨notMem_row (by decide) fun t ht => (h t ht).1.noBar, by decide⟩
  have hback : '|' ∉ ' ' :: (Text.padLeft lastWidth last).toList := by
    rw [List.mem_cons, not_or]
    refine ⟨by decide, fun hmem => ?_⟩
    obtain hblank | hmem := Text.mem_padLeft hmem
    · exact absurd hblank (by decide)
    · exact hlast.noBar hmem
  rw [toList_barredLine, List.append_cons, Text.getElem?_eq_mark_iff hfront hback,
    List.length_append, String.length_toList, length_row hne fun t ht => (h t ht).2]
  rfl

theorem newline_notMem_barredLine (h : ∀ t ∈ row, IsCell t) (hlast : IsCell last) :
    '\n' ∉ (barredLine width lastWidth row last).toList := by
  have hcell {t : String} (ht : IsCell t) : '\n' ∉ t.toList := fun hmem => by
    cases ht.notBlank '\n' hmem
  rw [toList_barredLine, List.mem_append, not_or]
  refine ⟨notMem_row (by decide) fun t ht => hcell (h t ht), fun hmem => ?_⟩
  simp only [List.mem_cons, Char.reduceEq, false_or] at hmem
  obtain hblank | hmem := Text.mem_padLeft hmem
  · exact absurd hblank (by decide)
  · exact hcell hlast hmem

end Barred

/-! ## Tables of numbers -/

section Numbers

variable {m d : Nat} (A : Grid Float m d) (b : Vector Float m) (num : Float → String)

/-- The cells of a row, as texts. -/
def rowTexts (i : Fin m) : List String := List.ofFn fun j => cell num (A.entry i j)

theorem map_toLists : (A.toLists.map fun row => row.map (cell num)) = List.ofFn (rowTexts A num) := by
  refine List.ext_getElem (by simp [Grid.toLists]) fun i hi hi' => ?_
  refine List.ext_getElem (by simp [Grid.toLists, rowTexts]) fun j hj hj' => ?_
  simp [Grid.toLists, rowTexts, Grid.entry, Grid.row, Vector.get_eq_getElem]

theorem map_toList : b.toList.map (cell num) = List.ofFn fun i => cell num (b.get i) := by
  refine List.ext_getElem (by simp) fun i hi hi' => ?_
  simp [Vector.get_eq_getElem]

/-- The width of the cells of a table. -/
def tableWidth : Nat := Text.widest (List.ofFn (rowTexts A num)).flatten

/-- The width of the offsets. -/
def offsetWidth : Nat := Text.widest (List.ofFn fun i => cell num (b.get i))

theorem matrix_eq : matrix num A.toLists = Text.lines (List.ofFn fun i =>
    Text.spaced ((rowTexts A num i).map (Text.padLeft (tableWidth A num)))) := by
  rw [matrix, map_toLists, tableLines, List.map_ofFn]
  rfl

theorem augmented_eq : augmented num A.toLists b.toList = Text.lines (List.ofFn fun i =>
    barredLine (tableWidth A num) (offsetWidth b num) (rowTexts A num i) (cell num (b.get i))) := by
  rw [augmented, map_toLists, map_toList, augmentedLines]
  refine congrArg Text.lines (List.ext_getElem (by simp) fun i hi hi' => ?_)
  simp only [List.getElem_zipWith, List.getElem_ofFn]
  rfl

variable {A num} in
theorem length_le_tableWidth {i : Fin m} {t : String} (ht : t ∈ rowTexts A num i) :
    t.length ≤ tableWidth A num :=
  Text.length_le_widest (List.mem_flatten_of_mem (List.mem_ofFn.2 ⟨i, rfl⟩) ht)

variable {A} in
theorem isCell_of_mem_rowTexts (p : Nat) {i : Fin m} :
    ∀ t ∈ rowTexts A (Decimal.general p) i, IsCell t := by
  intro t ht
  obtain ⟨j, rfl⟩ := List.mem_ofFn.1 ht
  exact isCell_cell p _

theorem length_le_offsetWidth (i : Fin m) :
    (cell num (b.get i)).length ≤ offsetWidth b num :=
  Text.length_le_widest (List.mem_ofFn.2 ⟨i, rfl⟩)

end Numbers

section Layout

variable {m d : Nat} {precision : Value}

/-- A matrix is written as soon as its number of digits can be read. -/
theorem formatAt_eq_map (a : Mat Float) (precision : Value) :
    a.formatAt precision = (fun p => a.format (Decimal.general p)) <$> precision.toPrecision 'g' := by
  unfold Mat.formatAt
  cases precision.toPrecision 'g' <;> rfl

/-- The rows of a table are written as soon as the number of digits can be read. -/
theorem mapM_rows (form : DigitNotation) (hm : 0 < m) (hd : 0 < d) (A : Grid Float m d)
    (precision : Value) :
    (A.rows.toList.map fun row => array (.ofVector row)).mapM
        (fun row => do (← row.items).mapM (cellWith form precision)) =
      (fun p => A.toLists.map fun row => row.map fun x => form.write p (x + 0)) <$>
        precision.toPrecision form.letter := by
  have hrow (row : Vector Float d) :
      (do (← (array (.ofVector row)).items).mapM (cellWith form precision) :
          Except ArgumentFault (List String)) =
        (fun p => row.toList.map fun x => form.write p (x + 0)) <$>
          precision.toPrecision form.letter := by
    rw [items_array]
    exact mapM_cellWith form precision (List.ne_nil_of_length_pos (by simpa using hd))
  have hne : A.rows.toList ≠ [] := List.ne_nil_of_length_pos (by simpa using hm)
  rw [List.mapM_map]
  refine (mapM_eq_map_of_ne_nil (fun row _ => hrow row) hne).trans ?_
  simp only [Grid.toLists, List.map_map]
  rfl

/-- There is an entry, so an augmented matrix has widths. -/
theorem isEmpty_augmented (hm : 0 < m) (hd : 0 < d) (A : Grid Float m d) (b : Vector Float m)
    (num : Float → String) :
    ((A.toLists.map fun row => row.map (cell num)).flatten.isEmpty ||
      (b.toList.map (cell num)).isEmpty) = false := by
  have hcell : cell num (A.entry ⟨0, hm⟩ ⟨0, hd⟩) ∈ (List.ofFn (rowTexts A num)).flatten :=
    List.mem_flatten_of_mem (List.mem_ofFn.2 ⟨⟨0, hm⟩, rfl⟩) (List.mem_ofFn.2 ⟨⟨0, hd⟩, rfl⟩)
  have hoffset : cell num (b.get ⟨0, hm⟩) ∈ List.ofFn fun i => cell num (b.get i) :=
    List.mem_ofFn.2 ⟨⟨0, hm⟩, rfl⟩
  rw [map_toLists, map_toList, Bool.or_eq_false_iff, List.isEmpty_eq_false_iff,
    List.isEmpty_eq_false_iff]
  exact ⟨List.ne_nil_of_mem hcell, List.ne_nil_of_mem hoffset⟩

/-- An augmented matrix with an entry is written as soon as its number of digits can be read. -/
theorem augmentedAt_eq_map (hm : 0 < m) (hd : 0 < d) (A : Grid Float m d) (b : Vector Float m)
    (precision : Value) :
    augmentedAt (.array (.ofGrid A)) (.array (.ofVector b)) precision =
      (fun p => augmented (Decimal.general p) A.toLists b.toList) <$> precision.toPrecision 'g' := by
  have hb : b.toList ≠ [] := List.ne_nil_of_length_pos (by simpa using hm)
  have hleft : (A.rows.toList.map fun row => array (.ofVector row)).mapM
      (fun row => do (← row.items).mapM (cellWith .significant precision)) =
        (fun p => A.toLists.map fun row => row.map (cell (Decimal.general p))) <$>
          precision.toPrecision 'g' := mapM_rows .significant hm hd A precision
  have hright : (b.toList.map wordFloat).mapM (cellWith .significant precision) =
      (fun p => b.toList.map (cell (Decimal.general p))) <$> precision.toPrecision 'g' :=
    mapM_cellWith .significant precision hb
  unfold augmentedAt
  simp only [lift_items_eq_pure (items_grid A), lift_items_eq_pure (items_array b), pure_bind, hleft,
    hright]
  cases precision.toPrecision 'g' with
  | error e => rfl
  | ok p =>
      show (if _ then _ else _) = _
      rw [isEmpty_augmented hm hd]
      rfl

/-- **Tables are aligned, and their lines are read back.**  For every number of digits that can be read,
an augmented matrix and a matrix have a line for each row; the lines of a table have one length, the bar
stands at one offset and nowhere else, and the words of a line are the texts of its numbers in their
order, with the bar before that of the offset. -/
theorem tables_aligned (hm : 0 < m) (hd : 0 < d) (A : Grid Float m d) (b : Vector Float m) (τ : Float)
    {p : Nat} (hp : precision.toPrecision 'g' = .ok p) :
    (∃ (line : Fin m → String) (width bar : Nat),
      augmentedAt (.array (.ofGrid A)) (.array (.ofVector b)) precision =
        .ok (Text.lines (List.ofFn line)) ∧
      ∀ i, (line i).length = width ∧ '\n' ∉ (line i).toList ∧
        (∀ k, (line i).toList[k]? = some '|' ↔ k = bar) ∧
        Text.words (line i) = (List.ofFn fun j => cell (Decimal.general p) (A.entry i j)) ++
          ["|", cell (Decimal.general p) (b.get i)]) ∧
    ∃ (line : Fin m → String) (width : Nat),
      (⟨m, d, A, τ⟩ : Mat Float).formatAt precision = .ok (Text.lines (List.ofFn line)) ∧
      ∀ i, (line i).length = width ∧ '\n' ∉ (line i).toList ∧ '|' ∉ (line i).toList ∧
        Text.words (line i) = List.ofFn fun j => cell (Decimal.general p) (A.entry i j) := by
  let num := Decimal.general p
  have hne (i : Fin m) : rowTexts A num i ≠ [] :=
    List.ne_nil_of_length_pos (by simpa [rowTexts] using hd)
  have hcells (i : Fin m) : ∀ t ∈ rowTexts A num i, IsCell t ∧ t.length ≤ tableWidth A num :=
    fun t ht => ⟨isCell_of_mem_rowTexts p t ht, length_le_tableWidth ht⟩
  have hlast (i : Fin m) : IsCell (cell num (b.get i)) := isCell_cell p _
  have hlength (i : Fin m) : (rowTexts A num i).length = d := List.length_ofFn
  refine ⟨⟨fun i => barredLine (tableWidth A num) (offsetWidth b num) (rowTexts A num i)
      (cell num (b.get i)), tableWidth A num + (d - 1) * (1 + tableWidth A num) + 3 + offsetWidth b num,
      tableWidth A num + (d - 1) * (1 + tableWidth A num) + 1, ?_, fun i => ⟨?_, ?_, fun k => ?_, ?_⟩⟩,
    ⟨fun i => Text.spaced ((rowTexts A num i).map (Text.padLeft (tableWidth A num))),
      tableWidth A num + (d - 1) * (1 + tableWidth A num), ?_, fun i => ⟨?_, ?_, ?_, ?_⟩⟩⟩
  · rw [augmentedAt_eq_map hm hd, hp, ← augmented_eq]
    rfl
  · rw [length_barredLine (hne i) (fun t ht => (hcells i t ht).2) (length_le_offsetWidth b num i),
      hlength]
  · exact newline_notMem_barredLine (fun t ht => (hcells i t ht).1) (hlast i)
  · rw [getElem?_barredLine_eq_bar_iff (hne i) (hcells i) (hlast i), hlength]
  · exact words_barredLine (fun t ht => (hcells i t ht).1) (hlast i)
  · rw [formatAt_eq_map, hp, ← matrix_eq]
    rfl
  · rw [length_row (hne i) fun t ht => (hcells i t ht).2, hlength]
  · refine notMem_row (by decide) fun t ht hmem => ?_
    cases (hcells i t ht).1.notBlank _ hmem
  · exact notMem_row (by decide) fun t ht => (hcells i t ht).1.noBar
  · exact words_row fun t ht => (hcells i t ht).1

/-- Undefined and infinite values and long exponents are aligned and read back like any others. -/
theorem tables_aligned_of_undefined : ∃ (line : Fin 2 → String) (width bar : Nat),
    augmentedAt (.array (.ofGrid ⟨#v[#v[0 / 0, 1e-300], #v[-0.0, 2]]⟩))
        (.array (.ofVector #v[-1 / 0, 0.5])) (.int 6) = .ok (Text.lines (List.ofFn line)) ∧
      (∀ i, (line i).length = width ∧ (line i).toList[bar]? = some '|') ∧
      Text.words (line 0) = ["nan", "1e-300", "|", "-inf"] ∧
      Text.words (line 1) = ["0", "2", "|", "0.5"] := by
  have hp : (int 6).toPrecision 'g' = .ok 6 := by rfl
  obtain ⟨⟨line, width, bar, hshown, hline⟩, -⟩ := tables_aligned (by decide) (by decide)
    ⟨#v[#v[0 / 0, 1e-300], #v[-0.0, 2]]⟩ #v[-1 / 0, 0.5] 1e-9 hp
  refine ⟨line, width, bar, hshown, fun i => ⟨(hline i).1, ((hline i).2.2.1 bar).2 rfl⟩, ?_, ?_⟩
  · rw [(hline 0).2.2.2]
    decide +kernel
  · rw [(hline 1).2.2.2]
    decide +kernel

end Layout

end Display

end LinearSystems
