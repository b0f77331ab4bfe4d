import Mathlib
import LinearSystems.Proofs.Decimal.Numerals
import LinearSystems.Proofs.Display.Placement

/-!
# The text of every float

Undefined and infinite values included, a float is written in one word without a bar
(`Decimal.isWord_general`, `Decimal.bar_notMem_general`).

Which texts read as a negative zero depends on the notation.  With significant digits a number other
than zero keeps a digit that is not zero, so it is the text of the negative zero alone
(`Decimal.isNegativeZero_general_iff`), and never that of a number once zero is added to it.  With a
fixed number of places a number is rounded to zero when it is at most half a unit of the last place
(`Decimal.isZeros_fixedMagnitude_iff`), and its minus stays: **the negative numbers so small read as
negative zero, whether or not zero is added first** (`Decimal.isNegativeZero_fixed_add_zero_iff`).
-/

namespace LinearSystems

namespace Fraction

variable {x : Fraction}

theorem toRat_ofBinary (m : Nat) (e : Int) : (ofBinary m e).toRat = m * 2 ^ e := by
  cases e with
  | ofNat e => simp [ofBinary, toRat]
  | negSucc e => simp [ofBinary, toRat, zpow_negSucc, div_eq_mul_inv]

/-- Halfway between zero and one is rounded to zero, which is even. -/
theorem roundHalfEven_eq_zero_iff (hx : 0 < x.denominator) :
    x.roundHalfEven = 0 ↔ x.toRat ≤ 1 / 2 := by
  have hcast : x.toRat ≤ 1 / 2 ↔ 2 * x.numerator ≤ x.denominator := by
    rw [toRat, div_le_div_iff₀ (Nat.cast_pos.2 hx) two_pos, one_mul, mul_comm]
    exact_mod_cast Iff.rfl
  have hdivision := Nat.div_add_mod x.numerator x.denominator
  have hbelow := Nat.mod_lt x.numerator hx
  rw [hcast, roundHalfEven, floor]
  rcases Nat.eq_zero_or_pos (x.numerator / x.denominator) with hzero | hpos
  · rw [hzero, Nat.mul_zero, Nat.zero_add] at hdivision
    rw [hzero]
    split
    · omega
    · split <;> omega
  · -- From one on nothing is rounded to zero.
    have hle : x.denominator ≤ x.numerator := (Nat.div_pos_iff.1 hpos).2
    split
    · omega
    · split <;> omega

end Fraction

namespace Decimal

/-! ## Words -/

/-- The characters that floats are written with: those of numbers, and the letters of `nan` and
`inf`. -/
def IsTextChar (c : Char) : Prop := IsNumeralChar c ∨ c ∈ ['n', 'a', 'i', 'f']

theorem IsTextChar.ne {c c' : Char} (h : IsTextChar c) (hdigit : c'.isDigit = false)
    (hmark : c' ∉ ['.', 'e', '+', '-', 'n', 'a', 'i', 'f']) : c ≠ c' := by
  rcases h with h | h
  · exact h.ne hdigit (by simp at hmark ⊢; tauto)
  · rintro rfl
    exact hmark (List.mem_append_right ['.', 'e', '+', '-'] h)

theorem IsTextChar.notBlank {c : Char} (h : IsTextChar c) : c.isWhitespace = false := by
  have hblanks : c ≠ ' ' ∧ c ≠ '\t' ∧ c ≠ '\r' ∧ c ≠ '\n' :=
    ⟨h.ne rfl (by decide), h.ne rfl (by decide), h.ne rfl (by decide), h.ne rfl (by decide)⟩
  simpa [Char.isWhitespace, and_assoc] using hblanks

section Specials

variable {finite : Nat → Int → List Char}

theorem toList_signed (negative : Bool) (magnitude : List Char) :
    (signed negative magnitude).toList = if negative then '-' :: magnitude else magnitude := by
  rw [signed, String.toList_ofList]

theorem isTextChar_of_mem_signed {negative : Bool} {magnitude : List Char}
    (h : ∀ c ∈ magnitude, IsTextChar c) {c : Char} (hc : c ∈ (signed negative magnitude).toList) :
    IsTextChar c := by
  rw [toList_signed] at hc
  split at hc
  · rcases List.mem_cons.1 hc with rfl | hc
    · exact Or.inl (Or.inr (by decide))
    · exact h c hc
  · exact h c hc

theorem isTextChar_of_mem_withSpecials (h : ∀ m e, IsMagnitude (finite m e)) (x : Binary64)
    {c : Char} (hc : c ∈ (withSpecials finite x).toList) : IsTextChar c := by
  have hwords : (∀ c ∈ "nan".toList, c ∈ ['n', 'a', 'i', 'f']) ∧
      ∀ c ∈ "inf".toList, c ∈ ['n', 'a', 'i', 'f'] := by simp
  cases x with
  | undefined => exact Or.inr (hwords.1 c hc)
  | infinite negative => exact isTextChar_of_mem_signed (fun c hc => Or.inr (hwords.2 c hc)) hc
  | finite negative m e =>
      exact isTextChar_of_mem_signed (fun c hc => Or.inl ((h m e).chars c hc)) hc

theorem signed_ne_empty {negative : Bool} {magnitude : List Char} (h : magnitude ≠ []) :
    signed negative magnitude ≠ "" := by
  rw [ne_eq, ← String.toList_eq_nil_iff, toList_signed]
  split
  · exact List.cons_ne_nil _ _
  · exact h

theorem withSpecials_ne_empty (h : ∀ m e, IsMagnitude (finite m e)) (x : Binary64) :
    withSpecials finite x ≠ "" := by
  cases x with
  | undefined => exact (by decide : "nan" ≠ "")
  | infinite negative => exact signed_ne_empty (by decide)
  | finite negative m e =>
      obtain ⟨d, rest, heq, -⟩ := (h m e).head
      exact signed_ne_empty (heq ▸ List.cons_ne_nil d rest)

end Specials

section General

variable (precision : Nat) (x : Float)

theorem isTextChar_of_mem_general {c : Char} (hc : c ∈ (general precision x).toList) :
    IsTextChar c :=
  isTextChar_of_mem_withSpecials (isMagnitude_generalMagnitude precision) _ hc

theorem isWord_general : Text.IsWord (general precision x) :=
  ⟨withSpecials_ne_empty (isMagnitude_generalMagnitude precision) _,
    fun _ hc => (isTextChar_of_mem_general precision x hc).notBlank⟩

theorem bar_notMem_general : '|' ∉ (general precision x).toList := fun hc =>
  (isTextChar_of_mem_general precision x hc).ne rfl (by decide) rfl

end General

/-! ## Negative zeros -/

/-- Nothing but zeros, and at most one point among them. -/
def IsZeros (cs : List Char) : Prop :=
  '0' ∈ cs ∧ cs.count '.' ≤ 1 ∧ ∀ c ∈ cs, c = '0' ∨ c = '.'

/-- A minus sign with nothing but zeros behind it, and at most one point among them. -/
def IsNegativeZero (text : String) : Prop :=
  text.toList.head? = some '-' ∧ IsZeros text.toList.tail

instance (cs : List Char) : Decidable (IsZeros cs) := inferInstanceAs (Decidable (_ ∧ _ ∧ _))

instance (text : String) : Decidable (IsNegativeZero text) := inferInstanceAs (Decidable (_ ∧ _))

theorem isNegativeZero_signed_iff {magnitude : List Char} (h : IsMagnitude magnitude)
    (negative : Bool) :
    IsNegativeZero (signed negative magnitude) ↔ negative = true ∧ IsZeros magnitude := by
  rw [IsNegativeZero, toList_signed]
  cases negative with
  | true => exact ⟨fun h => ⟨rfl, h.2⟩, fun h => ⟨rfl, h.2⟩⟩
  | false =>
      obtain ⟨⟨d, rest, rfl, hd⟩, -⟩ := h
      refine iff_of_false (fun h => ?_) fun h => Bool.noConfusion h.1
      obtain rfl : d = '-' := Option.some.inj h.1
      cases hd

/-- What is neither zero nor finite does not read as a negative zero. -/
theorem isNegativeZero_withSpecials_iff {finite : Nat → Int → List Char}
    (h : ∀ m e, IsMagnitude (finite m e)) (x : Binary64) :
    IsNegativeZero (withSpecials finite x) ↔ ∃ m e, x = .finite true m e ∧ IsZeros (finite m e) := by
  cases x with
  | undefined => exact iff_of_false (by rw [withSpecials]; decide) nofun
  | infinite negative =>
      refine iff_of_false ?_ nofun
      rw [withSpecials]
      cases negative <;> decide
  | finite negative m e =>
      rw [withSpecials, isNegativeZero_signed_iff (h m e)]
      constructor
      · rintro ⟨rfl, hzeros⟩
        exact ⟨m, e, rfl, hzeros⟩
      · rintro ⟨m', e', heq, hzeros⟩
        cases heq
        exact ⟨rfl, hzeros⟩

/-! ### Significant digits -/

theorem isZeros_generalMagnitude_iff (precision m : Nat) (e : Int) :
    IsZeros (generalMagnitude precision m e) ↔ m = 0 := by
  rcases Nat.eq_zero_or_pos m with rfl | hm
  · have hzero : generalMagnitude precision 0 e = ['0'] := if_pos rfl
    simp [hzero, IsZeros]
  · refine iff_of_false (fun hzeros => ?_) hm.ne'
    obtain ⟨d, hmem, hdigit, hne⟩ := exists_nonzero_digit hm e precision
    rcases hzeros.2.2 d hmem with rfl | rfl
    · exact hne rfl
    · cases hdigit

/-! ### A fixed number of places -/

section Places

variable {whole rest : List Char} {m : Nat} {e : Int}

theorem isMagnitude_append_fractionPart (hne : whole ≠ [])
    (hdigits : ∀ c ∈ whole ++ rest, c.isDigit = true) :
    IsMagnitude (whole ++ fractionPart rest) := by
  obtain ⟨hwhole, hrest⟩ := List.forall_mem_append.1 hdigits
  obtain ⟨d, more, rfl⟩ := List.exists_cons_of_ne_nil hne
  exact IsMagnitude.append ⟨⟨d, more, rfl, hwhole d List.mem_cons_self⟩,
    fun c hc => Or.inl (hwhole c hc)⟩ fun c => isNumeralChar_of_mem_fractionPart hrest

theorem mem_fractionPart_iff {c : Char} :
    c ∈ fractionPart rest ↔ (rest ≠ [] ∧ c = '.') ∨ c ∈ rest := by
  cases rest <;> simp [fractionPart]

theorem count_point_of_isDigit {cs : List Char} (h : ∀ c ∈ cs, c.isDigit = true) :
    cs.count '.' = 0 :=
  List.count_eq_zero.2 fun hmem => by cases h '.' hmem

theorem count_point_fractionPart_le (h : ∀ c ∈ rest, c.isDigit = true) :
    (fractionPart rest).count '.' ≤ 1 := by
  cases rest with
  | nil => exact Nat.zero_le 1
  | cons d more =>
      show ('.' :: d :: more).count '.' ≤ 1
      rw [List.count_cons_self, count_point_of_isDigit h]

/-- Digits with a point among them are zeros when the digits are. -/
theorem isZeros_append_fractionPart_iff (hne : whole ≠ [])
    (hdigits : ∀ c ∈ whole ++ rest, c.isDigit = true) :
    IsZeros (whole ++ fractionPart rest) ↔ ∀ c ∈ whole ++ rest, c = '0' := by
  obtain ⟨hwhole, hrest⟩ := List.forall_mem_append.1 hdigits
  constructor
  · rintro ⟨-, -, hall⟩ c hc
    have hmem : c ∈ whole ++ fractionPart rest := by
      rw [List.mem_append, mem_fractionPart_iff]
      exact (List.mem_append.1 hc).imp_right Or.inr
    exact (hall c hmem).resolve_right (by rintro rfl; cases hdigits '.' hc)
  · intro hall
    obtain ⟨d, more, rfl⟩ := List.exists_cons_of_ne_nil hne
    obtain rfl : d = '0' := hall d (List.mem_append_left _ List.mem_cons_self)
    refine ⟨List.mem_append_left _ List.mem_cons_self, ?_, fun c hc => ?_⟩
    · rw [List.count_append, count_point_of_isDigit hwhole, Nat.zero_add]
      exact count_point_fractionPart_le hrest
    · rw [List.mem_append, mem_fractionPart_iff] at hc
      rcases hc with hc | ⟨-, hc⟩ | hc
      · exact Or.inl (hall c (List.mem_append_left _ hc))
      · exact Or.inr hc
      · exact Or.inl (hall c (List.mem_append_right _ hc))

theorem forall_digitsOf_eq_zero_iff (n : Nat) : (∀ c ∈ digitsOf n, c = '0') ↔ n = 0 := by
  rcases Nat.eq_zero_or_pos n with rfl | hn
  · simp [digitsOf]
  · obtain ⟨d, rest, hdigits, hd⟩ := exists_digitsOf_eq_cons hn
    exact iff_of_false (fun h => hd (h d (hdigits ▸ List.mem_cons_self))) hn.ne'

/-- With all the places that the binary value has it is a whole number. -/
theorem one_le_mul_exactPlaces (hm : 0 < m) (e : Int) :
    1 ≤ (m : ℚ) * 2 ^ e * 10 ^ exactPlaces e := by
  have hcast : (1 : ℚ) ≤ m := Nat.one_le_cast.2 hm
  have hpowers : (1 : ℚ) ≤ 2 ^ e * 10 ^ exactPlaces e := by
    calc (1 : ℚ) ≤ 2 ^ (e + exactPlaces e) :=
          one_le_zpow₀ (by norm_num) (by unfold exactPlaces; omega)
      _ = 2 ^ e * 2 ^ exactPlaces e := by rw [zpow_add₀ (by norm_num), zpow_natCast]
      _ ≤ 2 ^ e * 10 ^ exactPlaces e := by gcongr; norm_num
  rw [mul_assoc]
  exact one_le_mul_of_one_le_of_one_le hcast hpowers

/-- Places that the binary value does not have change nothing about its being rounded to zero. -/
theorem mul_min_exactPlaces_le_half_iff (places m : Nat) (e : Int) :
    (m : ℚ) * 2 ^ e * 10 ^ min places (exactPlaces e) ≤ 1 / 2 ↔
      (m : ℚ) * 2 ^ e * 10 ^ places ≤ 1 / 2 := by
  rcases le_or_gt places (exactPlaces e) with hle | hlt
  · rw [min_eq_left hle]
  · rcases Nat.eq_zero_or_pos m with rfl | hm
    · simp
    · have hone := one_le_mul_exactPlaces hm e
      have hmore : (m : ℚ) * 2 ^ e * 10 ^ exactPlaces e ≤ m * 2 ^ e * 10 ^ places := by
        gcongr
        norm_num
      rw [min_eq_right hlt.le]
      exact iff_of_false (by linarith) (by linarith)

/-- The units of the last place that are written. -/
theorem roundHalfEven_scaleByTen_eq_zero_iff (places m : Nat) (e : Int) :
    ((Fraction.ofBinary m e).scaleByTen (min places (exactPlaces e) : Nat)).roundHalfEven = 0 ↔
      (m : ℚ) * 2 ^ e * 10 ^ places ≤ 1 / 2 := by
  have hdenominator := Fraction.denominator_scaleByTen_pos
    (Fraction.denominator_ofBinary_pos m e) (min places (exactPlaces e) : Nat)
  rw [Fraction.roundHalfEven_eq_zero_iff hdenominator, Fraction.toRat_scaleByTen,
    Fraction.toRat_ofBinary, zpow_natCast]
  exact mul_min_exactPlaces_le_half_iff places m e

theorem isDigit_of_mem_zeroPadded {width n : Nat} {c : Char}
    (h : c ∈ zeroPadded width (digitsOf n)) : c.isDigit = true := by
  rw [zeroPadded, List.mem_append, List.mem_replicate] at h
  rcases h with ⟨-, rfl⟩ | h
  · rfl
  · exact isDigit_of_mem_digitsOf h

theorem forall_zeroPadded_eq_zero_iff (width n : Nat) :
    (∀ c ∈ zeroPadded width (digitsOf n), c = '0') ↔ n = 0 := by
  rw [zeroPadded, List.forall_mem_append, forall_digitsOf_eq_zero_iff]
  exact and_iff_right fun c hc => (List.mem_replicate.1 hc).2

/-- The digits of a number with a fixed number of places, before and after the point. -/
theorem exists_fixedMagnitude_eq (places m : Nat) (e : Int) :
    ∃ whole rest, fixedMagnitude places m e = whole ++ fractionPart rest ∧ whole ≠ [] ∧
      (∀ c ∈ whole ++ rest, c.isDigit = true) ∧
      ((∀ c ∈ whole ++ rest, c = '0') ↔ (m : ℚ) * 2 ^ e * 10 ^ places ≤ 1 / 2) := by
  let known := min places (exactPlaces e)
  let units := ((Fraction.ofBinary m e).scaleByTen known).roundHalfEven
  let digits := zeroPadded (known + 1) (digitsOf units)
  have hlength : known + 1 ≤ digits.length := by
    simp only [digits, zeroPadded, List.length_append, List.length_replicate]
    omega
  have hsplit : digits.take (digits.length - known) ++
      (digits.drop (digits.length - known) ++ List.replicate (places - known) '0') =
      digits ++ List.replicate (places - known) '0' := by
    rw [← List.append_assoc, List.take_append_drop]
  refine ⟨digits.take (digits.length - known),
    digits.drop (digits.length - known) ++ List.replicate (places - known) '0', rfl, ?_, ?_, ?_⟩
  · intro hempty
    have hnone := congrArg List.length hempty
    rw [List.length_take, List.length_nil] at hnone
    omega
  · intro c hc
    rw [hsplit, List.mem_append, List.mem_replicate] at hc
    rcases hc with hc | ⟨-, rfl⟩
    · exact isDigit_of_mem_zeroPadded hc
    · rfl
  · rw [hsplit, List.forall_mem_append, ← roundHalfEven_scaleByTen_eq_zero_iff,
      ← forall_zeroPadded_eq_zero_iff (known + 1)]
    exact and_iff_left fun c hc => (List.mem_replicate.1 hc).2

theorem isMagnitude_fixedMagnitude (places m : Nat) (e : Int) :
    IsMagnitude (fixedMagnitude places m e) := by
  obtain ⟨whole, rest, heq, hne, hdigits, -⟩ := exists_fixedMagnitude_eq places m e
  exact heq ▸ isMagnitude_append_fractionPart hne hdigits

/-- **Only zeros are written for a number of at most half a unit of the last place.** -/
theorem isZeros_fixedMagnitude_iff (places m : Nat) (e : Int) :
    IsZeros (fixedMagnitude places m e) ↔ (m : ℚ) * 2 ^ e * 10 ^ places ≤ 1 / 2 := by
  obtain ⟨whole, rest, heq, hne, hdigits, hzeros⟩ := exists_fixedMagnitude_eq places m e
  rw [heq, isZeros_append_fractionPart_iff hne hdigits, hzeros]

end Places

/-! ### Floats -/

section Floats

open Float.Model Float.Model.UnpackedFloat FloatingPoint

variable {x : Float}

/-- A zero without its sign. -/
def unsignedZero : UnpackedFloat → UnpackedFloat
  | .zero _ => .zero .positive
  | u => u

/-- Adding zero takes the sign of zero, and changes nothing else. -/
theorem value_add_zero_eq (x : Float) : value (x + 0) = unsignedZero (value x) := by
  have hsum : value (x + 0) = unpack Format.binary64
      (pack Format.binary64 ((value x).add Format.binary64 (.zero .positive))) := rfl
  have hkept (u : UnpackedFloat) (hu : IsCanonical u) (h : magnitude u = 0) :
      unpack Format.binary64 (pack Format.binary64 u) = u :=
    unpack_pack_of_isCanonical hu (h.trans_le (by positivity))
  cases hx : value x with
  | finite s m e hm => exact Binary64.value_add_zero hx
  | notANumber => rw [hsum, hx]; exact hkept .notANumber trivial rfl
  | infinity s => rw [hsum, hx]; exact hkept (.infinity s) trivial rfl
  | zero s => rw [hsum, hx]; cases s <;> exact hkept (.zero .positive) trivial rfl

/-- Adding zero leaves no negative zero. -/
theorem value_add_zero_ne (x : Float) : value (x + 0) ≠ .zero .negative := by
  rw [value_add_zero_eq]
  cases value x <;> exact nofun

theorem ofFloat_eq_finite_zero_iff :
    (∃ e, Binary64.ofFloat x = .finite true 0 e) ↔ value x = .zero .negative := by
  rw [Binary64.ofFloat_eq]
  rcases value x with s | _ | s | ⟨s, m, e, hm⟩
  · simp [Binary64.ofUnpacked]
  · simp [Binary64.ofUnpacked]
  · cases s <;> simp [Binary64.ofUnpacked]
  · simp [Binary64.ofUnpacked, hm.ne']

/-- **With significant digits only the negative zero reads as one.** -/
theorem isNegativeZero_general_iff (precision : Nat) (x : Float) :
    IsNegativeZero (general precision x) ↔ value x = .zero .negative := by
  rw [general, isNegativeZero_withSpecials_iff (isMagnitude_generalMagnitude precision),
    ← ofFloat_eq_finite_zero_iff]
  simp only [isZeros_generalMagnitude_iff]
  constructor
  · rintro ⟨m, e, heq, rfl⟩
    exact ⟨e, heq⟩
  · rintro ⟨e, heq⟩
    exact ⟨0, e, heq, rfl⟩

theorem not_isNegativeZero_general_add_zero (precision : Nat) (x : Float) :
    ¬ IsNegativeZero (general precision (x + 0)) := by
  rw [isNegativeZero_general_iff]
  exact value_add_zero_ne x

/-- **With a fixed number of places the small negative numbers read as negative zero**, although zero
has been added to them. -/
theorem isNegativeZero_fixed_add_zero_iff (places : Nat) (x : Float) :
    IsNegativeZero (fixed places (x + 0)) ↔
      Scalar.isFinite x = true ∧ toRat x < 0 ∧ -(1 / 2) ≤ toRat x * 10 ^ places := by
  rw [fixed, isNegativeZero_withSpecials_iff (isMagnitude_fixedMagnitude places),
    Binary64.ofFloat_eq, value_add_zero_eq, isFinite_iff, toRat]
  simp only [isZeros_fixedMagnitude_iff]
  rcases value x with s | _ | s | ⟨_ | _, m, e, hm⟩
  · simp [Binary64.ofUnpacked, unsignedZero, UnpackedFloat.isFinite]
  · simp [Binary64.ofUnpacked, unsignedZero, UnpackedFloat.isFinite]
  · simp [Binary64.ofUnpacked, unsignedZero, exact_zero]
  · rw [exact_negative, neg_mul, neg_le_neg_iff]
    constructor
    · rintro ⟨m', e', heq, hsmall⟩
      cases heq
      exact ⟨rfl, neg_neg_of_pos (mul_zpow_pos hm e), hsmall⟩
    · rintro ⟨-, -, hsmall⟩
      exact ⟨m, e, rfl, hsmall⟩
  · refine iff_of_false ?_ fun h => absurd h.2.1 (not_lt.2 (mul_zpow_pos hm e).le)
    rintro ⟨m', e', heq, -⟩
    cases heq

/-! ### Signs that stand apart -/

theorem minus_append_signed (magnitude : List Char) :
    "-" ++ signed false magnitude = signed true magnitude := by
  rw [← String.toList_inj, String.toList_append, toList_signed, toList_signed]
  rfl

/-- A negative number is written as a minus and its magnitude. -/
theorem minus_append_general (hx : x < 0) (precision : Nat) :
    "-" ++ general precision x.abs = general precision x := by
  have hlt := lt_iff.1 hx
  rw [general, general, Binary64.ofFloat_eq, Binary64.ofFloat_eq, value_abs]
  cases hvalue : value x with
  | notANumber => rw [hvalue] at hlt; cases hlt
  | zero s => rw [hvalue] at hlt; cases s <;> cases hlt
  | infinity s =>
      rw [hvalue] at hlt
      cases s with
      | positive => cases hlt
      | negative => exact minus_append_signed "inf".toList
  | finite s m e hm =>
      rw [hvalue] at hlt
      cases s with
      | positive => cases hlt
      | negative => exact minus_append_signed (generalMagnitude precision m e)

/-- A magnitude behind a minus does not read as zero. -/
theorem not_isNegativeZero_minus_general (hx : x < 0) (precision : Nat) :
    ¬ IsNegativeZero ("-" ++ general precision x.abs) := by
  rw [minus_append_general hx, isNegativeZero_general_iff]
  intro hzero
  have hlt := lt_iff.1 hx
  rw [hzero] at hlt
  cases hlt

/-- Adding zero changes the text of a zero only. -/
theorem general_abs_add_zero (precision : Nat) (x : Float) :
    general precision (x.abs + 0) = general precision x.abs := by
  have hvalue : value (x.abs + 0) = value x.abs := by
    rw [value_add_zero_eq, value_abs]
    cases value x <;> rfl
  rw [general, general, Binary64.ofFloat_eq, Binary64.ofFloat_eq, hvalue]

theorem not_isNegativeZero_general_abs (precision : Nat) (x : Float) :
    ¬ IsNegativeZero (general precision x.abs) := by
  rw [isNegativeZero_general_iff, value_abs]
  cases value x <;> exact nofun

end Floats

end Decimal

end LinearSystems
