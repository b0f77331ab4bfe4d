import Mathlib
import LinearSystems.Proofs.Decimal.Texts
import LinearSystems.Proofs.Display.Parametric

/-!
# Displays as pieces

The parametric layout takes its numbers out of arrays while it writes them, and reads the number of digits
anew for each.  What it writes are the pieces of the line, one after the other
(`Display.parametricLineAt_eq_writeAll`), whatever the symbols are.  So a line that is returned is the text
of its pieces with all numbers written alike (`Display.lines_eq_textOf`), and which numbers stand in a
display is told by its pieces: in the parametric layout each has zero added to it
(`Display.exists_add_zero_of_mem_numbers`), and on the left side of an equation all are magnitudes
(`Display.exists_abs_of_mem_numbers`).
-/

namespace LinearSystems

namespace Piece

/-! ## Writing pieces -/

/-- The text of a piece; for a number the number of digits is read. -/
def writeAt (precision : Value) : Piece Float → Except ArgumentFault String
  | word s => .ok s
  | number x => (fun p => Decimal.general p x) <$> precision.toPrecision 'g'

/-- Pieces are written one after the other. -/
def writeAll (precision : Value) : List (Piece Float) → Except ArgumentFault String
  | [] => .ok ""
  | piece :: rest => do
    let s ← piece.writeAt precision
    return s ++ (← writeAll precision rest)

section Writing

variable {precision : Value} {pieces : List (Piece Float)} {text : String}

theorem writeAll_append (precision : Value) (front back : List (Piece Float)) :
    writeAll precision (front ++ back) = do
      let s ← writeAll precision front
      return s ++ (← writeAll precision back) := by
  induction front with
  | nil =>
      rw [List.nil_append, writeAll]
      cases writeAll precision back with
      | error e => rfl
      | ok s => exact congrArg Except.ok String.empty_append.symm
  | cons piece front ih =>
      rw [List.cons_append, writeAll, writeAll, ih]
      cases piece.writeAt precision with
      | error e => rfl
      | ok s =>
          cases writeAll precision front with
          | error e => rfl
          | ok t =>
              cases writeAll precision back with
              | error e => rfl
              | ok u => exact congrArg Except.ok String.append_assoc.symm

/-- What is written is the text of the pieces, with every number of digits that is read. -/
theorem textOf_of_writeAll_eq_ok {p : Nat} (hp : ∀ q, precision.toPrecision 'g' = .ok q → q = p)
    (h : writeAll precision pieces = .ok text) : text = textOf (Decimal.general p) pieces := by
  induction pieces generalizing text with
  | nil => exact (Except.ok.inj h).symm
  | cons piece rest ih =>
      obtain ⟨s, hpiece, h⟩ := bind_eq_ok_iff.1 h
      obtain ⟨t, hrest, h⟩ := bind_eq_ok_iff.1 h
      have hs : s = piece.text (Decimal.general p) := by
        cases piece with
        | word s => exact (Except.ok.inj hpiece).symm
        | number x =>
            obtain ⟨q, hq, rfl⟩ := map_eq_ok_iff.1 hpiece
            rw [hp q hq]
            rfl
      rw [← Except.ok.inj h, ih hrest, hs, textOf, textOf, List.map_cons, String.join_cons]

/-- A number whose zero has no sign. -/
theorem writeAt_plain (precision : Value) (x : Float) :
    writeAt precision (plain x) = Display.numberText precision x := by
  rw [plain, writeAt, Display.numberText]
  cases precision.toPrecision 'g' <;> rfl

/-- The pieces have a text unless there are none. -/
def HasText (precision : Value) (pieces : List (Piece Float)) : Prop :=
  ∀ text, writeAll precision pieces = .ok text → text.isEmpty = pieces.isEmpty

theorem HasText.append {front back : List (Piece Float)} (hfront : HasText precision front)
    (hback : HasText precision back) : HasText precision (front ++ back) := by
  intro text h
  rw [writeAll_append] at h
  obtain ⟨s, hs, h⟩ := bind_eq_ok_iff.1 h
  obtain ⟨t, ht, h⟩ := bind_eq_ok_iff.1 h
  obtain rfl := Except.ok.inj h
  have hjoin : (s ++ t).isEmpty = (s.isEmpty && t.isEmpty) := by
    rw [Bool.eq_iff_iff]
    simp
  rw [hjoin, hfront s hs, hback t ht]
  cases front <;> rfl

/-- Where there are no pieces a zero is written. -/
theorem HasText.writeAll_orZero (h : HasText precision pieces) :
    writeAll precision (if pieces.isEmpty then [word "0"] else pieces) =
      (fun text => if text.isEmpty then "0" else text) <$> writeAll precision pieces := by
  cases hpieces : pieces.isEmpty with
  | true =>
      rw [List.isEmpty_iff.1 hpieces]
      rfl
  | false =>
      rw [if_neg Bool.false_ne_true]
      cases htext : writeAll precision pieces with
      | error e => rfl
      | ok text =>
          show _ = Except.ok (if text.isEmpty then "0" else text)
          rw [h text htext, hpieces, if_neg Bool.false_ne_true]

end Writing

end Piece

namespace Display

open Value Piece

/-! ## The parametric layout -/

section Parametric

variable {τ : Float} {parameter : String} {precision : Value} {d : Nat} {i : Fin d}

/-- Behind the first direction a term stands first exactly when none stands before it. -/
theorem parameterTerms_cons (τ : Float) (parameter : String) (isFirst : Bool) (c : Float) (k : Nat)
    (rest : List (Float × Nat)) :
    parameterTerms τ parameter isFirst ((c, k) :: rest) =
      parameterTerms τ parameter isFirst [(c, k)] ++
        parameterTerms τ parameter (isFirst && Scalar.isSmall τ c) rest := by
  rw [parameterTerms, parameterTerms]
  cases Scalar.isSmall τ c with
  | true => simp [parameterTerms]
  | false => simp [parameterTerms]

theorem writeAll_magnitude (c : Float) :
    writeAll precision (Piece.magnitude τ Piece.plain c) = sizeText τ precision c := by
  show writeAll precision (if Scalar.isSmall τ (c.abs - 1) then [] else [plain c.abs]) = _
  rw [sizeText]
  split
  · rfl
  · rw [writeAll, writeAll, writeAt_plain]
    cases numberText precision c.abs with
    | error e => rfl
    | ok size => exact congrArg Except.ok String.append_empty

/-- The pieces of one term: its sign, its magnitude unless it counts as one, and its name. -/
theorem writeAll_parameterTerms_singleton (isFirst : Bool) (c : Float) (k : Nat) :
    writeAll precision (parameterTerms τ parameter isFirst [(c, k)]) =
      if Scalar.isSmall τ c then .ok "" else
        (fun size => Piece.sign isFirst (decide (c < 0)) ++ size ++ numbered parameter k) <$>
          sizeText τ precision c := by
  rw [parameterTerms]
  split
  · rfl
  · rw [parameterTerms, List.append_nil, Piece.term, List.cons_append, writeAll, writeAll_append,
      writeAll_magnitude]
    cases sizeText τ precision c with
    | error e => rfl
    | ok size =>
        have hjoin : Piece.sign isFirst (decide (c < 0)) ++ (size ++ (numbered parameter k ++ "")) =
            Piece.sign isFirst (decide (c < 0)) ++ size ++ numbered parameter k := by
          rw [String.append_empty, String.append_assoc]
        exact congrArg Except.ok hjoin

/-- A term is added as its pieces. -/
theorem addTerm_eq_writeAll (hi : fitsWord (i : Nat) = true) (v : Vector Float d) (k : Nat)
    (text : String) :
    addTerm (.float τ) (.text parameter) precision i text (.array (.ofVector v), k) =
      (text ++ ·) <$> writeAll precision (parameterTerms τ parameter text.isEmpty [(v.get i, k)]) := by
  rw [addTerm_eq_ite hi, writeAll_parameterTerms_singleton]
  split
  · exact congrArg Except.ok String.append_empty.symm
  · simp only [String.append_assoc]
    cases sizeText τ precision (v.get i) <;> rfl

/-- Only a term that is left out leaves the line as it is. -/
theorem isEmpty_append_term {s : String} {isFirst : Bool} {c : Float} {k : Nat} (text : String)
    (h : writeAll precision (parameterTerms τ parameter isFirst [(c, k)]) = .ok s) :
    (text ++ s).isEmpty = (text.isEmpty && Scalar.isSmall τ c) := by
  rw [writeAll_parameterTerms_singleton] at h
  split at h
  · next hsmall =>
      obtain rfl := Except.ok.inj h
      simp [hsmall]
  · next hlarge =>
      obtain ⟨size, -, rfl⟩ := map_eq_ok_iff.1 h
      simp [hlarge, numbered]

/-- The terms of a coordinate are added one after the other. -/
theorem foldlM_addTerm_eq_writeAll (hi : fitsWord (i : Nat) = true)
    (directions : List (Vector Float d)) (k : Nat) (text : String) :
    ((arrays directions).zipIdx k).foldlM (addTerm (.float τ) (.text parameter) precision i) text =
      (text ++ ·) <$> writeAll precision
        (parameterTerms τ parameter text.isEmpty ((componentsAt directions i).zipIdx k)) := by
  induction directions generalizing k text with
  | nil => exact congrArg Except.ok String.append_empty.symm
  | cons v directions ih =>
      rw [componentsAt, List.map_cons, List.zipIdx_cons, parameterTerms_cons, writeAll_append, arrays,
        List.map_cons, List.zipIdx_cons, List.foldlM_cons, addTerm_eq_writeAll hi]
      cases hterm : writeAll precision (parameterTerms τ parameter text.isEmpty [(v.get i, k)]) with
      | error e => rfl
      | ok s =>
          refine (ih (k + 1) (text ++ s)).trans ?_
          rw [isEmpty_append_term text hterm, componentsAt]
          cases writeAll precision (parameterTerms τ parameter (text.isEmpty && Scalar.isSmall τ (v.get i))
              ((directions.map fun v => v.get i).zipIdx (k + 1))) with
          | error e => rfl
          | ok t => exact congrArg Except.ok String.append_assoc

theorem hasText_parameterTerms (isFirst : Bool) (terms : List (Float × Nat)) :
    HasText precision (parameterTerms τ parameter isFirst terms) := by
  induction terms generalizing isFirst with
  | nil =>
      intro text h
      obtain rfl := Except.ok.inj h
      rfl
  | cons term rest ih =>
      obtain ⟨c, k⟩ := term
      rw [parameterTerms_cons]
      refine HasText.append (fun text h => ?_) (ih _)
      have hterm := isEmpty_append_term "" h
      rw [String.empty_append] at hterm
      cases hc : Scalar.isSmall τ c with
      | true => simp [hterm, parameterTerms, hc]
      | false => simp [hterm, parameterTerms, Piece.term, hc]

/-- The pieces of the base value: its number, or nothing when it counts as zero. -/
def basePieces (τ x : Float) : List (Piece Float) :=
  if Scalar.isSignificant τ x then [plain x] else []

theorem writeAll_basePieces (x : Float) :
    writeAll precision (basePieces τ x) = baseText τ precision x := by
  rw [basePieces, baseText]
  split
  · rw [writeAll, writeAll, writeAt_plain]
    cases numberText precision x with
    | error e => rfl
    | ok text => exact congrArg Except.ok String.append_empty
  · rfl

/-- A base value has a text unless it counts as zero. -/
theorem isEmpty_of_writeAll_basePieces {x : Float} {text : String}
    (h : writeAll precision (basePieces τ x) = .ok text) :
    text.isEmpty = !Scalar.isSignificant τ x := by
  rw [writeAll_basePieces, baseText] at h
  split at h
  · next hlarge =>
      obtain ⟨p, -, rfl⟩ := numberText_eq_ok_iff.1 h
      simpa [hlarge] using (Decimal.isWord_general p (x + 0)).ne_empty
  · next hsmall =>
      obtain rfl := Except.ok.inj h
      simp [hsmall]

theorem hasText_basePieces (x : Float) : HasText precision (basePieces τ x) := by
  intro text h
  rw [isEmpty_of_writeAll_basePieces h, basePieces]
  cases Scalar.isSignificant τ x <;> rfl

/-- **The line for a coordinate is written as its pieces.** -/
theorem parametricLineAt_eq_writeAll {directions : List (Vector Float d)}
    (hi : directions = [] ∨ fitsWord (i : Nat) = true) (symbol : String) (x : Float) :
    parametricLineAt (.list (arrays directions)) (.float τ) (.text symbol) (.text parameter) precision
        (wordFloat x, i) =
      writeAll precision
        (coordinateLine τ symbol parameter (i + 1) x (componentsAt directions i)) := by
  let terms (isFirst : Bool) : List (Piece Float) :=
    parameterTerms τ parameter isFirst ((componentsAt directions i).zipIdx 1)
  let all : List (Piece Float) := basePieces τ x ++ terms (!Scalar.isSignificant τ x)
  have hline : coordinateLine τ symbol parameter (i + 1) x (componentsAt directions i) =
      word (numbered symbol (i + 1) ++ " = ") :: if all.isEmpty then [word "0"] else all := rfl
  have hterms (text : String) :
      ((arrays directions).zipIdx 1).foldlM (addTerm (.float τ) (.text parameter) precision i) text =
        (text ++ ·) <$> writeAll precision (terms text.isEmpty) := by
    rcases hi with rfl | hi
    · exact congrArg Except.ok String.append_empty.symm
    · exact foldlM_addTerm_eq_writeAll hi directions 1 text
  have hall : HasText precision all := (hasText_basePieces x).append (hasText_parameterTerms _ _)
  rw [hline, writeAll, hall.writeAll_orZero, writeAll_append, parametricLineAt_eq_bind,
    ← writeAll_basePieces]
  simp only [hterms]
  cases hbase : writeAll precision (basePieces τ x) with
  | error e => rfl
  | ok base =>
      -- The terms come first exactly when the base value has no text.
      rw [← isEmpty_of_writeAll_basePieces hbase]
      show ((base ++ ·) <$> writeAll precision (terms base.isEmpty)) >>= _ = _
      cases writeAll precision (terms base.isEmpty) <;> rfl

/-- The lines that are returned are the texts of their pieces, all with one number of digits. -/
theorem lines_eq_textOf {base : Vector Float d} {directions : List (Vector Float d)}
    {symbol : String} {lines : List String} {p : Nat}
    (hp : ∀ q, precision.toPrecision 'g' = .ok q → q = p)
    (h : parametricAt (.array (.ofVector base)) (.list (arrays directions)) (.float τ) (.text symbol)
      (.text parameter) precision = .ok lines) :
    lines = (parametricLines τ symbol parameter base.toList (directions.map Vector.toList)).map
      (Piece.textOf (Decimal.general p)) := by
  obtain ⟨hlength, hlines⟩ := lines_of_parametricAt_eq_ok h
  refine List.ext_getElem (by simp [parametricLines, hlength]) fun i hi hi' => ?_
  obtain ⟨line, hget, hline⟩ := hlines ⟨i, hlength ▸ hi⟩
  obtain ⟨hi, rfl⟩ := List.getElem?_eq_some_iff.1 hget
  have hfits := fitsWord_of_parametricLineAt_eq_ok hline
  have hcomponents : (directions.map Vector.toList).map (·.getD i 0) =
      componentsAt directions ⟨i, hlength ▸ hi⟩ := by
    rw [componentsAt, List.map_map]
    refine List.map_congr_left fun v _ => ?_
    have hplace : i < d := hlength ▸ hi
    simp [Vector.get_eq_getElem, hplace]
  rw [parametricLineAt_eq_writeAll hfits, ← hcomponents] at hline
  rw [textOf_of_writeAll_eq_ok hp hline]
  simp only [parametricLines, List.getElem_map, List.getElem_zipIdx, Vector.getElem_toList,
    Nat.zero_add]
  rfl

end Parametric

/-! ## The numbers of a display -/

section Numbers

variable {τ x : Float}

/-- The number of a magnitude, if it is written. -/
theorem eq_of_mem_numbers_magnitude {f : Float → Float} {c : Float}
    (h : x ∈ numbers (Piece.magnitude τ (fun y => number (f y)) c)) : x = f c.abs := by
  have hnumbers : numbers (if Scalar.isSmall τ (c.abs - 1) then [] else [number (f c.abs)]) =
      if Scalar.isSmall τ (c.abs - 1) then [] else [f c.abs] := by
    split <;> rfl
  have hmem : x ∈ (if Scalar.isSmall τ (c.abs - 1) then [] else [f c.abs]) := hnumbers ▸ h
  split at hmem
  · cases hmem
  · exact List.mem_singleton.1 hmem

/-- Names and signs are no numbers. -/
theorem numbers_term (isFirst : Bool) (c : Float) (pieces : List (Piece Float)) (name : String) :
    numbers (Piece.term isFirst c pieces name) = numbers pieces := by
  simp [numbers, Piece.term, List.filterMap_append]

theorem numbers_append (front back : List (Piece Float)) :
    numbers (front ++ back) = numbers front ++ numbers back :=
  List.filterMap_append

/-- The zero that stands for a sum without terms is a word. -/
theorem numbers_orZero (pieces : List (Piece Float)) :
    numbers (if pieces.isEmpty then [word "0"] else pieces) = numbers pieces := by
  cases pieces <;> rfl

/-- On the left side of an equation every number is a magnitude. -/
theorem exists_abs_of_mem_numbers {symbol : String} {isFirst : Bool} {terms : List (Float × Nat)}
    (h : x ∈ numbers (sideTerms τ symbol isFirst terms)) : ∃ c : Float, x = c.abs := by
  induction terms generalizing isFirst with
  | nil => cases h
  | cons term rest ih =>
      rw [sideTerms] at h
      split at h
      · exact ih h
      · rw [numbers_append, numbers_term, List.mem_append] at h
        rcases h with h | h
        · exact ⟨_, eq_of_mem_numbers_magnitude (f := fun y => y) h⟩
        · exact ih h

theorem exists_add_zero_of_mem_numbers_parameterTerms {parameter : String} {isFirst : Bool}
    {terms : List (Float × Nat)} (h : x ∈ numbers (parameterTerms τ parameter isFirst terms)) :
    ∃ y, x = y + 0 := by
  induction terms generalizing isFirst with
  | nil => cases h
  | cons term rest ih =>
      rw [parameterTerms] at h
      split at h
      · exact ih h
      · rw [numbers_append, numbers_term, List.mem_append] at h
        rcases h with h | h
        · exact ⟨_, eq_of_mem_numbers_magnitude h⟩
        · exact ih h

/-- In the parametric layout every number has zero added to it. -/
theorem exists_add_zero_of_mem_numbers {symbol parameter : String} {k : Nat} {base : Float}
    {components : List Float}
    (h : x ∈ numbers (coordinateLine τ symbol parameter k base components)) : ∃ y, x = y + 0 := by
  have hpieces : x ∈ numbers (coordinatePieces τ parameter base components) := h
  rw [coordinatePieces, numbers_orZero, numbers_append, List.mem_append] at hpieces
  rcases hpieces with hbase | hterms
  · split at hbase
    · exact ⟨base, List.mem_singleton.1 hbase⟩
    · cases hbase
  · exact exists_add_zero_of_mem_numbers_parameterTerms hterms

end Numbers

end Display

end LinearSystems
