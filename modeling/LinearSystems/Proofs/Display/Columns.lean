import Mathlib
import LinearSystems.Proofs.Display.Parametric
import LinearSystems.Proofs.Display.Placement

/-!
# Columns between bars

In the column layout of a general solution every line has a name, a mark, and then the cell of the base
point and a lead and a cell for each direction.  Names, cells and leads have one width each on all lines:
a number has no more digits than the number of coordinates, cells are padded to the longest of all
columns, and what stands before a direction is as wide on the middle line, where it is a plus, a padded
tag and a times sign, as the blanks on the others.  So **every column stands at one offset on all lines,
and the lines have one length** (`Display.columns_aligned`).
-/

namespace LinearSystems

/-- A larger number has no fewer digits. -/
theorem Text.length_toString_mono {m n : Nat} (h : m ≤ n) :
    (toString m).length ≤ (toString n).length := by
  have hcount {m k : Nat} (hk : 0 < k) : (toString m).length ≤ k ↔ m < 10 ^ k := by
    rw [Nat.toString_eq_ofList_toDigits, String.length_ofList]
    exact Nat.length_toDigits_le_iff (by decide) hk
  have hpos : 0 < (toString n).length := by
    rw [Nat.toString_eq_ofList_toDigits, String.length_ofList]
    exact Nat.length_toDigits_pos
  exact (hcount hpos).2 (h.trans_lt ((hcount hpos).1 le_rfl))

namespace Display

open Value

/-! ## The layout of a line -/

def betweenBars (text : String) : String := "|" ++ text ++ "|"

@[simp] theorem length_betweenBars (text : String) :
    (betweenBars text).length = text.length + 2 := by
  have hbar : "|".length = 1 := rfl
  rw [betweenBars, String.length_append, String.length_append, hbar]
  omega

/-- The widths that all lines have in common. -/
structure ColumnLayout where
  nameWidth : Nat
  cellWidth : Nat
  tagWidth : Nat

namespace ColumnLayout

variable (layout : ColumnLayout)

/-- What stands before a direction: a tag with two characters on either side. -/
def leadWidth : Nat := layout.tagWidth + 4

/-- What one more direction takes up: a lead and a cell between bars, with a blank before each. -/
def blockWidth : Nat := layout.leadWidth + layout.cellWidth + 4

/-- The offset of a column: of the base point first, and then of the directions. -/
def cellOffset (column : Nat) : Nat := layout.nameWidth + 5 + column * layout.blockWidth

/-- The offset of what stands before a direction, which is behind the column before it. -/
def leadOffset (direction : Nat) : Nat := layout.cellOffset direction + layout.cellWidth + 3

/-- A line of the layout: what stands on it, and where. -/
structure IsLine (name mark : String) (cells leads : List String) (line : String) : Prop where
  name_length : name.length = layout.nameWidth
  cell_length : ∀ cell ∈ cells, cell.length = layout.cellWidth
  lead_length : ∀ lead ∈ leads, lead.length = layout.leadWidth
  name_standsAt : Text.StandsAt 0 (betweenBars name) line
  mark_standsAt : Text.StandsAt (layout.nameWidth + 3) mark line
  cell_standsAt : ∀ k cell, cells[k]? = some cell →
    Text.StandsAt (layout.cellOffset k) (betweenBars cell) line
  lead_standsAt : ∀ k lead, leads[k]? = some lead → Text.StandsAt (layout.leadOffset k) lead line
  length_eq : line.length = layout.cellOffset leads.length + layout.cellWidth + 2

end ColumnLayout

section Line

variable {layout : ColumnLayout} {name mark cell lead : String} {cells leads : List String}

/-- The front of a line, up to the cell of the base point. -/
def columnFront (name mark cell : String) : String :=
  betweenBars name ++ (" " ++ mark ++ (" " ++ betweenBars cell))

/-- What stands on a line for one direction. -/
def columnBlock (lead cell : String) : String := " " ++ lead ++ (" " ++ betweenBars cell)

theorem length_columnFront (hname : name.length = layout.nameWidth) (hmark : mark.length = 1)
    (hcell : cell.length = layout.cellWidth) :
    (columnFront name mark cell).length = layout.cellOffset 0 + layout.cellWidth + 2 := by
  have hblank : " ".length = 1 := rfl
  simp only [columnFront, String.length_append, length_betweenBars, hname, hmark, hcell, hblank,
    ColumnLayout.cellOffset]
  omega

theorem length_columnBlock (hlead : lead.length = layout.leadWidth)
    (hcell : cell.length = layout.cellWidth) :
    (columnBlock lead cell).length = layout.blockWidth := by
  have hblank : " ".length = 1 := rfl
  simp only [columnBlock, String.length_append, length_betweenBars, hlead, hcell, hblank,
    ColumnLayout.blockWidth]
  omega

/-- Behind the name and a blank stands the mark. -/
theorem mark_standsAt_columnFront (hname : name.length = layout.nameWidth) (mark cell : String) :
    Text.StandsAt (layout.nameWidth + 3) mark (columnFront name mark cell) := by
  have hblank : " ".length = 1 := rfl
  refine ⟨betweenBars name ++ " ", " " ++ betweenBars cell, ?_, ?_⟩
  · rw [String.length_append, length_betweenBars, hname, hblank]
  · simp only [columnFront, String.append_assoc]

/-- Behind the mark and a blank stands the cell of the base point. -/
theorem cell_standsAt_columnFront (hname : name.length = layout.nameWidth) (hmark : mark.length = 1)
    (cell : String) :
    Text.StandsAt (layout.cellOffset 0) (betweenBars cell) (columnFront name mark cell) := by
  have hblank : " ".length = 1 := rfl
  refine ⟨betweenBars name ++ " " ++ mark ++ " ", "", ?_, ?_⟩
  · simp only [String.length_append, length_betweenBars, hname, hmark, hblank,
      ColumnLayout.cellOffset, Nat.zero_mul]
  · simp only [columnFront, String.append_assoc, String.append_empty]

theorem lead_standsAt_columnBlock (lead cell : String) :
    Text.StandsAt 1 lead (columnBlock lead cell) :=
  ⟨" ", " " ++ betweenBars cell, rfl, rfl⟩

theorem cell_standsAt_columnBlock (lead cell : String) :
    Text.StandsAt (lead.length + 2) (betweenBars cell) (columnBlock lead cell) := by
  have hblank : " ".length = 1 := rfl
  refine ⟨" " ++ lead ++ " ", "", ?_, ?_⟩
  · simp only [String.length_append, hblank]
    omega
  · simp only [columnBlock, String.append_assoc, String.append_empty]

/-- A line is its front and a block for each direction. -/
theorem spaced_columns (name mark cell : String) (leads cells : List String) :
    Text.spaced (betweenBars name :: mark :: betweenBars cell ::
        (leads.zip cells).flatMap fun part => [part.1, betweenBars part.2]) =
      columnFront name mark cell ++ String.join (List.zipWith columnBlock leads cells) := by
  have hblocks : String.join (((leads.zip cells).flatMap fun part =>
      [part.1, betweenBars part.2]).map (" " ++ ·)) =
        String.join (List.zipWith columnBlock leads cells) := by
    rw [← List.map_uncurry_zip_eq_zipWith]
    induction leads.zip cells with
    | nil => rfl
    | cons part parts ih =>
        simp only [List.flatMap_cons, List.map_cons, List.cons_append, List.nil_append,
          String.join_cons, ih, Function.uncurry, columnBlock, String.append_assoc]
  simp only [Text.spaced_cons, List.map_cons, String.join_cons, hblocks, columnFront,
    String.append_assoc]

/-- The next column is a block further. -/
theorem cellOffset_succ (k : Nat) : layout.cellOffset (k + 1) =
    layout.cellOffset k + layout.cellWidth + 2 + (layout.leadWidth + 2) := by
  rw [ColumnLayout.cellOffset, ColumnLayout.cellOffset, Nat.succ_mul, ColumnLayout.blockWidth]
  omega

theorem length_of_mem_columnBlocks (hleads : ∀ l ∈ leads, l.length = layout.leadWidth)
    (hcells : ∀ c ∈ cells, c.length = layout.cellWidth) :
    ∀ block ∈ List.zipWith columnBlock leads cells, block.length = layout.blockWidth := by
  intro block hblock
  rw [← List.map_uncurry_zip_eq_zipWith] at hblock
  obtain ⟨⟨l, c⟩, hmem, rfl⟩ := List.mem_map.1 hblock
  obtain ⟨hl, hc⟩ := List.of_mem_zip hmem
  exact length_columnBlock (hleads l hl) (hcells c hc)

/-- What stands in the block of a direction stands behind the column before it. -/
theorem standsAt_of_columnBlock {front part : String} {k offset : Nat}
    (hfront : front.length = layout.cellOffset 0 + layout.cellWidth + 2)
    (hleads : ∀ l ∈ leads, l.length = layout.leadWidth)
    (hcells : ∀ c ∈ cells, c.length = layout.cellWidth) (hl : leads[k]? = some lead)
    (hc : cells[k]? = some cell) (h : Text.StandsAt offset part (columnBlock lead cell)) :
    Text.StandsAt (layout.cellOffset k + layout.cellWidth + 2 + offset) part
      (front ++ String.join (List.zipWith columnBlock leads cells)) := by
  have hk : (List.zipWith columnBlock leads cells)[k]? = some (columnBlock lead cell) := by
    rw [List.getElem?_zipWith, hl, hc]
  have hstands :=
    (Text.standsAt_join (length_of_mem_columnBlocks hleads hcells) hk h).prepend front
  have hoffset : layout.cellOffset 0 + layout.cellWidth + 2 + (k * layout.blockWidth + offset) =
      layout.cellOffset k + layout.cellWidth + 2 + offset := by
    simp only [ColumnLayout.cellOffset]
    omega
  rwa [hfront, hoffset] at hstands

/-- **Texts of the widths of a layout make up a line of it.** -/
theorem isLine_spaced (hname : name.length = layout.nameWidth) (hmark : mark.length = 1)
    (hcells : ∀ c ∈ cell :: cells, c.length = layout.cellWidth)
    (hleads : ∀ l ∈ leads, l.length = layout.leadWidth) (hcount : leads.length = cells.length) :
    layout.IsLine name mark (cell :: cells) leads
      (Text.spaced (betweenBars name :: mark :: betweenBars cell ::
        (leads.zip cells).flatMap fun part => [part.1, betweenBars part.2])) := by
  obtain ⟨hcell, hrest⟩ := List.forall_mem_cons.1 hcells
  have hfront := length_columnFront hname hmark hcell
  rw [spaced_columns]
  refine ⟨hname, hcells, hleads, (Text.standsAt_start _ _).append _,
    (mark_standsAt_columnFront hname mark cell).append _, fun k c hk => ?_, fun k l hk => ?_, ?_⟩
  · cases k with
    | zero =>
        obtain rfl : cell = c := by simpa using hk
        exact (cell_standsAt_columnFront hname hmark cell).append _
    | succ k =>
        rw [List.getElem?_cons_succ] at hk
        obtain ⟨hlt, -⟩ := List.getElem?_eq_some_iff.1 hk
        have hl := List.getElem?_eq_getElem (hcount ▸ hlt : k < leads.length)
        have hstands := standsAt_of_columnBlock hfront hleads hrest hl hk
          (cell_standsAt_columnBlock _ c)
        rwa [hleads _ (List.mem_of_getElem? hl), ← cellOffset_succ] at hstands
  · obtain ⟨hlt, -⟩ := List.getElem?_eq_some_iff.1 hk
    have hc := List.getElem?_eq_getElem (hcount ▸ hlt : k < cells.length)
    exact standsAt_of_columnBlock hfront hleads hrest hk hc (lead_standsAt_columnBlock l _)
  · rw [String.length_append, hfront, Text.length_join (length_of_mem_columnBlocks hleads hrest),
      List.length_zipWith, hcount, min_self]
    simp only [ColumnLayout.cellOffset]
    omega

end Line

/-! ## The lines of a display -/

section Lines

variable {d : Nat}

/-- The name of a variable is no longer than that of the last one. -/
theorem length_numbered_le (symbol : String) (i : Fin d) :
    (numbered symbol (i + 1)).length ≤ (numbered symbol d).length := by
  rw [numbered, numbered, String.length_append, String.length_append]
  exact Nat.add_le_add_left (Text.length_toString_mono i.isLt) _

/-- What stands before a direction: on the middle line a plus, the padded tag and a times sign, and
blanks elsewhere. -/
theorem length_lead (isMiddle : Bool) {tagWidth : Nat} {tag : String} (h : tag.length ≤ tagWidth) :
    (lead isMiddle tagWidth tag).length = tagWidth + 4 := by
  have hplus : "+ ".length = 2 := rfl
  have htimes : " *".length = 2 := rfl
  cases isMiddle with
  | true =>
      simp only [lead, if_pos, String.length_append, hplus, htimes, Text.length_padLeft, max_eq_left h]
      omega
  | false => simp [lead]

variable {cellWidth : Nat} {tags texts : List String} {text : String}

/-- The widths of a display: the last name is the longest, and so is the longest tag. -/
def columnLayout (symbol : String) (d cellWidth : Nat) (tags : List String) : ColumnLayout :=
  ⟨(numbered symbol d).length, cellWidth, Text.widest tags⟩

/-- A line of the display is one of the layout. -/
theorem isLine_columnLine (symbol : String) (i : Fin d)
    (hcells : ∀ t ∈ text :: texts, t.length ≤ cellWidth) (hcount : tags.length = texts.length) :
    (columnLayout symbol d cellWidth tags).IsLine
      (Text.padRight (numbered symbol d).length (numbered symbol (i + 1)))
      (if (i : Nat) == middle d then "=" else " ")
      ((text :: texts).map (Text.padLeft cellWidth))
      (tags.map (lead ((i : Nat) == middle d) (Text.widest tags)))
      (columnLine symbol d cellWidth tags i text texts) := by
  have hparts : columnLine symbol d cellWidth tags i text texts =
      Text.spaced (betweenBars (Text.padRight (numbered symbol d).length (numbered symbol (i + 1))) ::
        (if (i : Nat) == middle d then "=" else " ") :: betweenBars (Text.padLeft cellWidth text) ::
          ((tags.map (lead ((i : Nat) == middle d) (Text.widest tags))).zip
            (texts.map (Text.padLeft cellWidth))).flatMap fun part => [part.1, betweenBars part.2]) := by
    rw [List.zip_map, List.flatMap_map]
    rfl
  rw [hparts, List.map_cons]
  refine isLine_spaced ?_ ?_ ?_ ?_ ?_
  · rw [Text.length_padRight, max_eq_left (length_numbered_le symbol i)]
    rfl
  · split <;> rfl
  · rw [← List.map_cons]
    intro c hc
    obtain ⟨t, ht, rfl⟩ := List.mem_map.1 hc
    rw [Text.length_padLeft, max_eq_left (hcells t ht)]
    rfl
  · intro l hl
    obtain ⟨tag, htag, rfl⟩ := List.mem_map.1 hl
    exact length_lead _ (Text.length_le_widest htag)
  · rw [List.length_map, List.length_map, hcount]

end Lines

/-! ## Displays from values -/

section Values

variable {d : Nat} {base : Vector Float d} {vectors : List (Vector Float d)} {numbers : List Int}
  {symbol : String} {directions freeVariables decimals : Value}

/-- The cells of a column need the longest of all columns. -/
def columnWidth (num : Float → String) (base : Vector Float d) (vectors : List (Vector Float d)) : Nat :=
  Text.widest ((base :: vectors).map fun v => v.toList.map (cell num)).flatten

/-- The line for a coordinate. -/
def lineAt (num : Float → String) (symbol : String) (base : Vector Float d)
    (vectors : List (Vector Float d)) (numbers : List Int) (i : Fin d) : String :=
  columnLine symbol d (columnWidth num base vectors) (numbers.map (tagOf symbol)) i
    (cell num (base.get i)) ((componentsAt vectors i).map (cell num))

theorem columns_eq (num : Float → String) (symbol : String) (base : Vector Float d)
    (vectors : List (Vector Float d)) (numbers : List Int) :
    columns num symbol base.toList (vectors.map Vector.toList) numbers =
      Text.lines (List.ofFn (lineAt num symbol base vectors numbers)) := by
  refine congrArg Text.lines (List.ext_getElem (by simp [columnLines]) fun i hi hi' => ?_)
  have hd : i < d := by simpa using hi'
  simp only [columnLines, List.getElem_map, List.getElem_zipIdx, List.getElem_ofFn, lineAt,
    columnWidth, componentsAt, List.map_map, List.length_map, Vector.length_toList, List.map_cons,
    List.flatten_cons, Nat.zero_add, Vector.getElem_toList, Vector.get_eq_getElem]
  congr 1
  refine List.map_congr_left fun v _ => ?_
  simp [hd, cell]

theorem count_array (v : Vector Float d) :
    (liftM (array (.ofVector v)).count : Except ArgumentFault Nat) = .ok d := by
  rw [count, items_array]
  simp
  rfl

/-- The array that a column is read as. -/
def columnBulk (v : Vector Float d) : Bulk := ⟨.float, ⟨[d], v.toList.map float⟩, false⟩

theorem mapM_toBulk_arrays (vectors : List (Vector Float d)) :
    (arrays vectors).mapM toBulk = pure (vectors.map columnBulk) := by
  rw [arrays, List.mapM_map]
  exact mapM_eq_ok_map fun v _ => toBulk_array v

/-- The numbers of a column are written as soon as the number of places can be read. -/
theorem columnTexts_eq_map (hd : 0 < d) (decimals : Value) (v : Vector Float d) :
    columnTexts decimals (columnBulk v) =
      (fun p => v.toList.map (cell (Decimal.fixed p))) <$> decimals.toPrecision 'f' := by
  have hcolumn : (columnBulk v).toValue = array (.ofVector v) := by
    have hentries : (v.toList.map float).map elementFloat = v.toList := by
      rw [List.map_map]
      exact List.map_id _
    show array ⟨[d], (v.toList.map float).map elementFloat⟩ = _
    rw [hentries]
    rfl
  unfold columnTexts
  rw [hcolumn, items_array]
  exact mapM_cellWith .places decimals (List.ne_nil_of_length_pos (by simpa using hd))

theorem mapM_columnTexts_eq_map (hd : 0 < d) (decimals : Value) (base : Vector Float d)
    (vectors : List (Vector Float d)) :
    (columnBulk base :: vectors.map columnBulk).mapM (columnTexts decimals) =
      (fun p => (base :: vectors).map fun v => v.toList.map (cell (Decimal.fixed p))) <$>
        decimals.toPrecision 'f' := by
  rw [← List.map_cons, List.mapM_map]
  exact mapM_eq_map_of_ne_nil (g := fun p (v : Vector Float d) => v.toList.map (cell (Decimal.fixed p)))
    (fun v _ => columnTexts_eq_map hd decimals v) (List.cons_ne_nil base vectors)

/-- There is a cell in the columns, so they have a width. -/
theorem isEmpty_cells (hd : 0 < d) (num : Float → String) (base : Vector Float d)
    (vectors : List (Vector Float d)) :
    ((base :: vectors).map fun v => v.toList.map (cell num)).flatten.isEmpty = false := by
  have hcell : cell num (base.get ⟨0, hd⟩) ∈
      ((base :: vectors).map fun v => v.toList.map (cell num)).flatten :=
    List.mem_flatten_of_mem (List.mem_map_of_mem List.mem_cons_self)
      (List.mem_map_of_mem (by simp [Vector.get_eq_getElem]))
  exact List.isEmpty_eq_false_iff.2 (List.ne_nil_of_mem hcell)

/-- A free variable is named by the symbol and its number. -/
theorem mapM_tag_eq_pure (symbol : String) (numbers : List Int) :
    (numbers.map Value.int).mapM (fun n => do
      return symbol ++ (← n.display) : Value → Except ArgumentFault String) =
        pure (numbers.map (tagOf symbol)) := by
  rw [List.mapM_map]
  exact mapM_eq_ok_map fun n _ => rfl

/-- The text of what stands at a place of a column. -/
def placeText (decimals : Value) (place : Nat) (column : Value) : Except ArgumentFault String := do
  cellWith .places decimals (← column.itemAt (.int place))

section Written

variable {p : Nat} (hp : decimals.toPrecision 'f' = .ok p)
include hp

/-- A number is read and written at every place that fits a machine word. -/
theorem placeText_eq_ok (v : Vector Float d) {i : Fin d} (hi : fitsWord (i : Nat) = true) :
    placeText decimals i (.array (.ofVector v)) = .ok (cell (Decimal.fixed p) (v.get i)) := by
  have hp' : decimals.toPrecision DigitNotation.places.letter = .ok p := hp
  have hcell := cellWith_wordFloat_eq_map .places decimals (v.get i)
  rw [hp'] at hcell
  unfold placeText
  rw [itemAt_array v i hi]
  exact hcell

theorem mapM_placeText_eq_ok (vectors : List (Vector Float d)) {i : Fin d}
    (hi : fitsWord (i : Nat) = true) :
    (arrays vectors).mapM (placeText decimals i) =
      .ok ((componentsAt vectors i).map (cell (Decimal.fixed p))) := by
  rw [arrays, List.mapM_map, Function.comp_def, componentsAt, List.map_map, Function.comp_def]
  exact mapM_eq_ok_map fun v _ => placeText_eq_ok hp v hi

/-- The lines are written one after the other. -/
theorem mapM_columnLine_eq_ok (hfits : ∀ i : Fin d, fitsWord (i : Nat) = true) (symbol : String)
    (base : Vector Float d) (vectors : List (Vector Float d)) (numbers : List Int) :
    (List.range d).mapM (fun place => do
        let x ← placeText decimals place (.array (.ofVector base))
        let components ← (arrays vectors).mapM (placeText decimals place)
        return columnLine symbol d (columnWidth (Decimal.fixed p) base vectors)
          (numbers.map (tagOf symbol)) place x components) =
      .ok (List.ofFn (lineAt (Decimal.fixed p) symbol base vectors numbers)) := by
  rw [List.ofFn_eq_map, ← List.map_coe_finRange_eq_range, List.mapM_map, Function.comp_def]
  refine mapM_eq_ok_map fun i _ => ?_
  rw [placeText_eq_ok hp base (hfits i), mapM_placeText_eq_ok hp vectors (hfits i)]
  rfl

end Written

/-- **The columns are those of the numbers**, as soon as the number of places can be read. -/
theorem columnsAt_eq_map (hd : 0 < d) (hfits : ∀ i : Fin d, fitsWord (i : Nat) = true)
    (hcount : numbers.length = vectors.length) (hdirections : directions.items = .ok (arrays vectors))
    (hnumbers : freeVariables.items = .ok (numbers.map .int)) :
    columnsAt (.array (.ofVector base)) directions freeVariables (.text symbol) decimals =
      (fun p => columns (Decimal.fixed p) symbol base.toList (vectors.map Vector.toList) numbers) <$>
        decimals.toPrecision 'f' := by
  have hbase : (array (.ofVector base)).toBulk = pure (columnBulk base) := toBulk_array base
  have hsize : (liftM (array (.ofVector base)).count : Except ArgumentFault Nat) = pure d :=
    count_array base
  have hsymbol : (Value.text symbol).display = pure symbol := rfl
  have htake : (arrays vectors).take (numbers.map (tagOf symbol)).length = arrays vectors :=
    List.take_of_length_le (by simp [arrays, hcount])
  unfold columnsAt
  simp only [hsize, hsymbol, hbase, lift_items_eq_pure hdirections, mapM_toBulk_arrays, pure_bind,
    mapM_columnTexts_eq_map hd]
  cases hp : decimals.toPrecision 'f' with
  | error e => rfl
  | ok p =>
      have hlines := mapM_columnLine_eq_ok hp hfits symbol base vectors numbers
      show (if _ then _ else _) = Except.ok (columns _ symbol _ _ numbers)
      rw [if_neg (by rw [isEmpty_cells hd]; exact Bool.false_ne_true), columns_eq]
      simp only [lift_items_eq_pure hnumbers, mapM_tag_eq_pure, pure_bind, htake]
      exact congrArg (· >>= fun lines => pure (Text.lines lines)) hlines

/-- Columns are read at no place beyond a machine word. -/
theorem fitsWord_of_columnsAt_eq_ok {result : String}
    (h : columnsAt (.array (.ofVector base)) directions freeVariables (.text symbol) decimals =
      .ok result) (i : Fin d) : fitsWord (i : Nat) = true := by
  unfold columnsAt at h
  obtain ⟨size, hsize, h⟩ := bind_eq_ok_iff.1 h
  rw [count_array] at hsize
  obtain rfl := Except.ok.inj hsize
  obtain ⟨label, -, h⟩ := bind_eq_ok_iff.1 h
  obtain ⟨baseColumn, -, h⟩ := bind_eq_ok_iff.1 h
  obtain ⟨items, -, h⟩ := bind_eq_ok_iff.1 h
  obtain ⟨columns, -, h⟩ := bind_eq_ok_iff.1 h
  obtain ⟨texts, -, h⟩ := bind_eq_ok_iff.1 h
  split at h
  · cases h
  · obtain ⟨numbers, -, h⟩ := bind_eq_ok_iff.1 h
    obtain ⟨tags, -, h⟩ := bind_eq_ok_iff.1 h
    obtain ⟨lines, hlines, -⟩ := bind_eq_ok_iff.1 h
    -- The base point is read at every place.
    obtain ⟨hlength, hline⟩ := List.forall₂_iff_get.1 (forall₂_of_mapM_eq_ok hlines)
    rw [List.length_range] at hlength
    have hi := hline i (by rw [List.length_range]; exact i.isLt) (hlength ▸ i.isLt)
    rw [List.get_eq_getElem, List.getElem_range] at hi
    obtain ⟨text, htext, -⟩ := bind_eq_ok_iff.1 hi
    obtain ⟨x, hx, -⟩ := bind_eq_ok_iff.1 htext
    exact by_contra fun hfits => not_itemAt_array_eq_ok base (Bool.eq_false_iff.2 hfits) x hx

theorem length_cell_le_columnWidth (num : Float → String) {v : Vector Float d} (hv : v ∈ base :: vectors)
    (i : Fin d) : (cell num (v.get i)).length ≤ columnWidth num base vectors :=
  Text.length_le_widest (List.mem_flatten_of_mem
    (List.mem_map_of_mem (f := fun v : Vector Float d => v.toList.map (cell num)) hv)
    (List.mem_map_of_mem (by simp [Vector.get_eq_getElem])))

/-- The line for a coordinate is one of the layout. -/
theorem isLine_lineAt (num : Float → String) (symbol : String) (base : Vector Float d)
    (hcount : numbers.length = vectors.length) (i : Fin d) :
    (columnLayout symbol d (columnWidth num base vectors) (numbers.map (tagOf symbol))).IsLine
      (Text.padRight (numbered symbol d).length (numbered symbol (i + 1)))
      (if (i : Nat) == middle d then "=" else " ")
      ((base :: vectors).map fun v => Text.padLeft (columnWidth num base vectors) (cell num (v.get i)))
      (numbers.map fun n => lead ((i : Nat) == middle d)
        (Text.widest (numbers.map (tagOf symbol))) (tagOf symbol n))
      (lineAt num symbol base vectors numbers i) := by
  have hcells : ∀ t ∈ cell num (base.get i) :: (componentsAt vectors i).map (cell num),
      t.length ≤ columnWidth num base vectors := by
    refine List.forall_mem_cons.2 ⟨length_cell_le_columnWidth num List.mem_cons_self i, fun t ht => ?_⟩
    rw [componentsAt, List.map_map] at ht
    obtain ⟨v, hv, rfl⟩ := List.mem_map.1 ht
    exact length_cell_le_columnWidth num (List.mem_cons_of_mem base hv) i
  have htags : (numbers.map (tagOf symbol)).length = ((componentsAt vectors i).map (cell num)).length := by
    simp [componentsAt, hcount]
  have hline := isLine_columnLine symbol i hcells htags
  simpa only [componentsAt, lineAt, List.map_cons, List.map_map, Function.comp_def] using hline

/-- **All lines of the columns are of one layout.**  The text is had for every number of places that can be
read, and has one line for each coordinate.  Whatever the symbol, the numbers and their lengths, the lines
have one length, and on each of them the bars around the name, the cell of the base point and the cell of
each direction stand at the same offsets; the middle line alone has the equals sign and, before each
direction, a plus and the tag that scales it, where the others have blanks. -/
theorem columns_aligned (hd : 0 < d) (base : Vector Float d) (vectors : List (Vector Float d))
    (numbers : List Int) (hcount : numbers.length = vectors.length)
    (hdirections : directions.items = .ok (arrays vectors))
    (hnumbers : freeVariables.items = .ok (numbers.map .int)) (symbol : String) :
    ((∃ text, columnsAt (.array (.ofVector base)) directions freeVariables (.text symbol) decimals =
        .ok text) ↔
      (∃ p, decimals.toPrecision 'f' = .ok p) ∧ ∀ i : Fin d, fitsWord (i : Nat) = true) ∧
    ∀ text, columnsAt (.array (.ofVector base)) directions freeVariables (.text symbol) decimals =
        .ok text →
      ∃ (p : Nat) (layout : ColumnLayout) (line : Fin d → String),
        decimals.toPrecision 'f' = .ok p ∧ text = Text.lines (List.ofFn line) ∧
        ∀ i : Fin d, layout.IsLine
          (Text.padRight layout.nameWidth (numbered symbol (i + 1)))
          (if (i : Nat) = (d - 1) / 2 then "=" else " ")
          ((base :: vectors).map fun v =>
            Text.padLeft layout.cellWidth (Decimal.fixed p (v.get i + 0)))
          (numbers.map fun n => if (i : Nat) = (d - 1) / 2
            then "+ " ++ Text.padLeft layout.tagWidth (symbol ++ toString n) ++ " *"
            else Text.blanks layout.leadWidth)
          (line i) := by
  have hshown {p : Nat} (hp : decimals.toPrecision 'f' = .ok p)
      (hfits : ∀ i : Fin d, fitsWord (i : Nat) = true) :
      columnsAt (.array (.ofVector base)) directions freeVariables (.text symbol) decimals =
        .ok (Text.lines (List.ofFn (lineAt (Decimal.fixed p) symbol base vectors numbers))) := by
    rw [columnsAt_eq_map hd hfits hcount hdirections hnumbers, hp, ← columns_eq]
    rfl
  have hread {text : String} (h : columnsAt (.array (.ofVector base)) directions freeVariables
      (.text symbol) decimals = .ok text) : ∃ p, decimals.toPrecision 'f' = .ok p := by
    rw [columnsAt_eq_map hd (fitsWord_of_columnsAt_eq_ok h) hcount hdirections hnumbers] at h
    obtain ⟨p, hp, -⟩ := map_eq_ok_iff.1 h
    exact ⟨p, hp⟩
  constructor
  · exact ⟨fun ⟨_, h⟩ => ⟨hread h, fitsWord_of_columnsAt_eq_ok h⟩,
      fun ⟨⟨p, hp⟩, hfits⟩ => ⟨_, hshown hp hfits⟩⟩
  · intro text h
    obtain ⟨p, hp⟩ := hread h
    have htext := Except.ok.inj (h.symm.trans (hshown hp (fitsWord_of_columnsAt_eq_ok h)))
    refine ⟨p, columnLayout symbol d (columnWidth (Decimal.fixed p) base vectors)
      (numbers.map (tagOf symbol)), _, hp, htext, fun i => ?_⟩
    have hline := isLine_lineAt (Decimal.fixed p) symbol base hcount i
    simp only [lead, middle, beq_iff_eq] at hline
    exact hline

/-- The columns of a plane, whose middle line tells what scales its two directions. -/
theorem columns_aligned_of_plane : ∃ (layout : ColumnLayout) (line : Fin 3 → String),
    columnsAt (.array (.ofVector #v[1, 0, 0])) (.list (arrays [#v[-1, 1, 0], #v[-1, 0, 1]]))
      (.tuple [.int 2, .int 3]) (.text "v") (.int 1) = .ok (Text.lines (List.ofFn line)) ∧
    Text.lines (List.ofFn line) = Text.lines
      ["|v1|   | 1.0|        |-1.0|        |-1.0|",
        "|v2| = | 0.0| + v2 * | 1.0| + v3 * | 0.0|",
        "|v3|   | 0.0|        | 0.0|        | 1.0|"] ∧
    ∀ i, (line i).length = layout.cellOffset 2 + layout.cellWidth + 2 := by
  obtain ⟨text, htext, hshown⟩ : ∃ text,
      columnsAt (.array (.ofVector #v[1, 0, 0])) (.list (arrays [#v[-1, 1, 0], #v[-1, 0, 1]]))
        (.tuple [.int 2, .int 3]) (.text "v") (.int 1) = .ok text ∧ text = Text.lines
          ["|v1|   | 1.0|        |-1.0|        |-1.0|",
            "|v2| = | 0.0| + v2 * | 1.0| + v3 * | 0.0|",
            "|v3|   | 0.0|        | 0.0|        | 1.0|"] :=
    exists_eq_ok_of_any (by decide +kernel)
  obtain ⟨p, layout, line, -, hlines, hline⟩ := (columns_aligned (by decide) #v[1, 0, 0]
    [#v[-1, 1, 0], #v[-1, 0, 1]] [2, 3] rfl rfl rfl "v").2 text htext
  exact ⟨layout, line, hlines ▸ htext, hlines ▸ hshown, fun i => (hline i).length_eq⟩

end Values

end Display

end LinearSystems
