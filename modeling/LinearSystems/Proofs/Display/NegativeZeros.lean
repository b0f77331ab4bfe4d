import Mathlib
import LinearSystems.Proofs.Display.Columns
import LinearSystems.Proofs.Display.Pieces
import LinearSystems.Proofs.Display.Tables

/-!
# Which numbers read as negative zero

Matrices, augmented matrices and the parametric layout add zero to every number before its significant
digits are written, and significant digits never round a number to zero.  So nothing in them reads as a
negative zero, and neither does a term whose sign stands apart.

Two displays fall short of this.  An equation writes its offset as it is, so the offset of an equation
reads as a negative zero when it is one.  The columns add zero before the digits are cut off at a fixed
place, so the sign of a small negative number is left before zeros.  **Otherwise no display has a number
that reads as negative zero** (`Display.isNegativeZero_shown_iff`).
-/

namespace LinearSystems

namespace Display

open Value Decimal

section Tables

variable {m d : Nat} {precision : Value} {text : String}

/-- No word of a matrix reads as negative zero. -/
theorem not_isNegativeZero_of_mem_matrix {a : Mat Float} (h : a.formatAt precision = .ok text) :
    ∀ word ∈ Text.words text, ¬ IsNegativeZero word := by
  rw [formatAt_eq_map] at h
  obtain ⟨p, -, rfl⟩ := map_eq_ok_iff.1 h
  intro word hword
  rw [Mat.format, matrix_eq, Text.words_lines] at hword
  obtain ⟨line, hline, hword⟩ := List.mem_flatMap.1 hword
  obtain ⟨i, rfl⟩ := List.mem_ofFn.1 hline
  rw [words_row (isCell_of_mem_rowTexts p)] at hword
  obtain ⟨j, rfl⟩ := List.mem_ofFn.1 hword
  exact not_isNegativeZero_general_add_zero p _

/-- No word of an augmented matrix reads as negative zero. -/
theorem not_isNegativeZero_of_mem_augmented (hm : 0 < m) (hd : 0 < d) {A : Grid Float m d}
    {b : Vector Float m}
    (h : augmentedAt (.array (.ofGrid A)) (.array (.ofVector b)) precision = .ok text) :
    ∀ word ∈ Text.words text, ¬ IsNegativeZero word := by
  rw [augmentedAt_eq_map hm hd] at h
  obtain ⟨p, -, rfl⟩ := map_eq_ok_iff.1 h
  intro word hword
  rw [augmented_eq, Text.words_lines] at hword
  obtain ⟨line, hline, hword⟩ := List.mem_flatMap.1 hword
  obtain ⟨i, rfl⟩ := List.mem_ofFn.1 hline
  rw [words_barredLine (isCell_of_mem_rowTexts p) (isCell_cell p _)] at hword
  simp only [List.mem_append, List.mem_cons, List.not_mem_nil, or_false] at hword
  rcases hword with hword | rfl | rfl
  · obtain ⟨j, rfl⟩ := List.mem_ofFn.1 hword
    exact not_isNegativeZero_general_add_zero p _
  · decide
  · exact not_isNegativeZero_general_add_zero p _

end Tables

section Sums

variable {d : Nat} {precision : Value}

/-- A number of digits that agrees with the one that is read, if one is. -/
theorem exists_precision (precision : Value) :
    ∃ p, ∀ q, precision.toPrecision 'g' = .ok q → q = p := by
  cases precision.toPrecision 'g' with
  | error e => exact ⟨0, nofun⟩
  | ok p => exact ⟨p, fun q h => (Except.ok.inj h).symm⟩

/-- No number of the parametric layout reads as negative zero. -/
theorem not_isNegativeZero_of_mem_parametric {τ : Float} {symbol parameter : String} (p : Nat)
    {base : Vector Float d} {vectors : List (Vector Float d)} {line : List (Piece Float)}
    (hline : line ∈ parametricLines τ symbol parameter base.toList (vectors.map Vector.toList)) :
    ∀ x ∈ Piece.numbers line, ¬ IsNegativeZero (general p x) := by
  intro x hx
  obtain ⟨⟨y, i⟩, -, rfl⟩ := List.mem_map.1 hline
  obtain ⟨z, rfl⟩ := exists_add_zero_of_mem_numbers hx
  exact not_isNegativeZero_general_add_zero p z

theorem exists_pieces_of_formatAt_eq_ok {e : LinearEquation Float} {symbol : Value} {text : String}
    (h : e.formatAt symbol precision = .ok text) :
    ∃ p label, precision.toPrecision 'g' = .ok p ∧ text = Piece.textOf (general p) (e.pieces label) := by
  unfold LinearEquation.formatAt at h
  dsimp only at h
  split at h <;> obtain ⟨label, -, h⟩ := bind_eq_ok_iff.1 h
  all_goals
    obtain ⟨p, hp, h⟩ := bind_eq_ok_iff.1 h
    exact ⟨p, label, hp, (Except.ok.inj h).symm⟩

/-- The numbers of an equation: the magnitudes on its left side and its offset. -/
theorem numbers_pieces (e : LinearEquation Float) (label : String) :
    ∃ sizes, Piece.numbers (e.pieces label) = sizes ++ [e.offset] ∧
      ∀ x ∈ sizes, ∃ c : Float, x = c.abs := by
  refine ⟨Piece.numbers (sideTerms e.tolerance label true (e.normal.toList.zipIdx 1)), ?_,
    fun x hx => exists_abs_of_mem_numbers hx⟩
  rw [LinearEquation.pieces, numbers_append, numbers_orZero]
  rfl

end Sums

/-- **The numbers that read as negative zero.**  For every matrix, equation and general solution, and every
number of digits, no word of a matrix or an augmented matrix reads as negative zero, and no number of the
parametric layout does, with or without the minus before it.  On the left side of an equation neither
does; the offset reads as negative zero exactly when it is the negative zero.  In the columns a number
does exactly when it is negative and at most half a unit of the last place. -/
theorem isNegativeZero_shown_iff (precision : Value) :
    (∀ (a : Mat Float) (text : String), a.formatAt precision = .ok text →
      ∀ word ∈ Text.words text, ¬ IsNegativeZero word) ∧
    (∀ (m d : Nat) (A : Grid Float m d) (b : Vector Float m) (text : String), 0 < m → 0 < d →
      augmentedAt (.array (.ofGrid A)) (.array (.ofVector b)) precision = .ok text →
        ∀ word ∈ Text.words text, ¬ IsNegativeZero word) ∧
    (∀ (d : Nat) (base : Vector Float d) (vectors : List (Vector Float d)) (τ : Float)
      (symbol parameter : String) (lines : List String),
      parametricAt (.array (.ofVector base)) (.list (arrays vectors)) (.float τ) (.text symbol)
          (.text parameter) precision = .ok lines →
        let pieces := parametricLines τ symbol parameter base.toList (vectors.map Vector.toList)
        ∃ p, (∀ q, precision.toPrecision 'g' = .ok q → q = p) ∧
          lines = pieces.map (Piece.textOf (general p)) ∧
          (∀ line ∈ pieces, ∀ x ∈ Piece.numbers line, ¬ IsNegativeZero (general p x)) ∧
          ∀ v ∈ vectors, ∀ i, v.get i < 0 → ¬ IsNegativeZero ("-" ++ general p ((v.get i).abs + 0))) ∧
    (∀ (e : LinearEquation Float) (symbol : Value) (text : String),
      e.formatAt symbol precision = .ok text →
        ∃ p label sizes, precision.toPrecision 'g' = .ok p ∧
          text = Piece.textOf (general p) (e.pieces label) ∧
          Piece.numbers (e.pieces label) = sizes ++ [e.offset] ∧
          (∀ x ∈ sizes, ¬ IsNegativeZero (general p x)) ∧
          (∀ c ∈ e.normal.toList, c < 0 → ¬ IsNegativeZero ("-" ++ general p c.abs)) ∧
          (IsNegativeZero (general p e.offset) ↔ FloatingPoint.value e.offset = .zero .negative)) ∧
    ∀ (d : Nat) (base : Vector Float d) (vectors : List (Vector Float d)) (numbers : List Int)
      (symbol text : String), 0 < d → numbers.length = vectors.length →
      columnsAt (.array (.ofVector base)) (.list (arrays vectors)) (.list (numbers.map .int))
          (.text symbol) precision = .ok text →
        ∃ p, precision.toPrecision 'f' = .ok p ∧
          text = columns (fixed p) symbol base.toList (vectors.map Vector.toList) numbers ∧
          ∀ v ∈ base :: vectors, ∀ i, IsNegativeZero (cell (fixed p) (v.get i)) ↔
            Scalar.isFinite (v.get i) = true ∧ FloatingPoint.toRat (v.get i) < 0 ∧
              -(1 / 2) ≤ FloatingPoint.toRat (v.get i) * 10 ^ p := by
  refine ⟨fun a text h => not_isNegativeZero_of_mem_matrix h,
    fun m d A b text hm hd h => not_isNegativeZero_of_mem_augmented hm hd h, ?_, ?_, ?_⟩
  · intro d base vectors τ symbol parameter lines h pieces
    obtain ⟨p, hp⟩ := exists_precision precision
    refine ⟨p, hp, lines_eq_textOf hp h, fun line hline => not_isNegativeZero_of_mem_parametric p hline,
      fun v _ i hi => ?_⟩
    rw [general_abs_add_zero]
    exact not_isNegativeZero_minus_general hi p
  · intro e symbol text h
    obtain ⟨p, label, hp, rfl⟩ := exists_pieces_of_formatAt_eq_ok h
    obtain ⟨sizes, hnumbers, hsizes⟩ := numbers_pieces e label
    refine ⟨p, label, sizes, hp, rfl, hnumbers, fun x hx => ?_,
      fun c _ hc => not_isNegativeZero_minus_general hc p, isNegativeZero_general_iff p e.offset⟩
    obtain ⟨c, rfl⟩ := hsizes x hx
    exact not_isNegativeZero_general_abs p c
  · intro d base vectors numbers symbol text hd hcount h
    rw [columnsAt_eq_map hd (fitsWord_of_columnsAt_eq_ok h) hcount rfl rfl] at h
    obtain ⟨p, hp, rfl⟩ := map_eq_ok_iff.1 h
    exact ⟨p, hp, rfl, fun v _ i => isNegativeZero_fixed_add_zero_iff p (v.get i)⟩

/-- A matrix with a negative zero and a small negative number. -/
theorem isNegativeZero_shown_iff_of_small : ∃ text,
    (⟨1, 2, ⟨#v[#v[-0.0, -1e-7]]⟩, 1e-9⟩ : Mat Float).formatAt (.int 2) = .ok text ∧
      text = "     0 -1e-07" ∧ ∀ word ∈ Text.words text, ¬ IsNegativeZero word := by
  obtain ⟨text, h, htext⟩ : ∃ text,
      (⟨1, 2, ⟨#v[#v[-0.0, -1e-7]]⟩, 1e-9⟩ : Mat Float).formatAt (.int 2) = .ok text ∧
        text = "     0 -1e-07" := exists_eq_ok_of_any (by decide +kernel)
  exact ⟨text, h, htext, (isNegativeZero_shown_iff (.int 2)).1 _ text h⟩

/-- The offset of `v1 + v2 = -0`, and a coordinate of a point that is cut off in its column, read as
negative zeros. -/
theorem exists_isNegativeZero_shown :
    (∃ e, LinearEquation.line (.int 1) (.int 1) (.float (-0.0)) .none = .ok e ∧
      (e.formatAt (.text "v") (.int 6)).toOption = some "v1 + v2 = -0") ∧
    (columnsAt (.array (.ofVector #v[-1e-7])) (.list []) (.list []) (.text "v") (.int 6)).toOption =
      some "|v1| = |-0.000000|" ∧
    IsNegativeZero "-0" ∧ IsNegativeZero "-0.000000" :=
  ⟨exists_eq_ok_of_any (by decide +kernel), by decide +kernel, by simp [IsNegativeZero, IsZeros],
    by simp [IsNegativeZero, IsZeros]⟩

end Display

end LinearSystems
