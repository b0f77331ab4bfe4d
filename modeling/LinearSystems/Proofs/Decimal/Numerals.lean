import Mathlib
import LinearSystems.Decimal.Notation
import LinearSystems.Proofs.FloatingPoint.ScaledFloats

/-!
# The texts of numbers

A finite number is written with digits, a point, an exponent and signs, and its magnitude begins with a
digit (`Decimal.IsMagnitude`).  So no letter but `e` and no blank stands in it, which is what lets a
number be found again in a line of text.

A number other than zero never reads as zero, however few digits are asked for: the exponent of the
first digit is estimated from the lengths of numerator and denominator and corrected by one comparison
(`Fraction.zpow_decimalExponent_le`), so at least one significant digit is left after rounding, and **a
digit that is not zero is written** (`Decimal.exists_nonzero_digit`).
-/

namespace LinearSystems

/-! ## Fractions -/

namespace Fraction

/-- The number that a fraction denotes. -/
def toRat (x : Fraction) : ℚ := x.numerator / x.denominator

variable {x : Fraction}

theorem denominator_ofBinary_pos (m : Nat) (e : Int) : 0 < (ofBinary m e).denominator := by
  cases e with
  | ofNat e => exact Nat.one_pos
  | negSucc e => exact Nat.pow_pos Nat.two_pos

theorem numerator_ofBinary_pos {m : Nat} (hm : 0 < m) (e : Int) :
    0 < (ofBinary m e).numerator := by
  cases e with
  | ofNat e => exact Nat.mul_pos hm (Nat.pow_pos Nat.two_pos)
  | negSucc e => exact hm

theorem toRat_scaleByTen (x : Fraction) (power : Int) :
    (x.scaleByTen power).toRat = x.toRat * 10 ^ power := by
  cases power with
  | ofNat e => simp [scaleByTen, toRat, mul_div_right_comm]
  | negSucc e => simp [scaleByTen, toRat, zpow_negSucc, div_eq_mul_inv, mul_assoc, mul_comm]

theorem denominator_scaleByTen_pos (hx : 0 < x.denominator) (power : Int) :
    0 < (x.scaleByTen power).denominator := by
  cases power with
  | ofNat e => exact hx
  | negSucc e => exact Nat.mul_pos hx (Nat.pow_pos (by decide))

theorem floor_pos_iff (hx : 0 < x.denominator) : 0 < x.floor ↔ 1 ≤ x.toRat := by
  rw [floor, Nat.div_pos_iff, toRat, one_le_div (Nat.cast_pos.2 hx), Nat.cast_le]
  exact and_iff_right hx

theorem floor_le_roundHalfEven (x : Fraction) : x.floor ≤ x.roundHalfEven := by
  unfold roundHalfEven
  dsimp only
  split
  · exact le_rfl
  · split
    · exact Nat.le_succ _
    · exact Nat.le_add_right _ _

/-! ### The exponent of the first digit -/

theorem lt_ten_pow_digitCount (n : Nat) : n < 10 ^ digitCount n :=
  (Nat.length_toDigits_le_iff (by decide) Nat.length_toDigits_pos).1 le_rfl

theorem ten_pow_le {n : Nat} (hn : 0 < n) : 10 ^ (digitCount n - 1) ≤ n := by
  rcases Nat.eq_zero_or_pos (digitCount n - 1) with hone | hmore
  · rw [hone]
    exact hn
  · by_contra hlt
    have hshort : digitCount n ≤ digitCount n - 1 :=
      (Nat.length_toDigits_le_iff (by decide) hmore).2 (not_le.1 hlt)
    omega

/-- **The estimate is never too large.**  The quotient of an `a`-digit and a `b`-digit number is at
least `10 ^ (a - b - 1)`, and `10 ^ (a - b)` is tried. -/
theorem zpow_decimalExponent_le (hn : 0 < x.numerator) (hd : 0 < x.denominator) :
    (10 : ℚ) ^ x.decimalExponent ≤ x.toRat := by
  have hten : (0 : ℚ) < 10 := by norm_num
  unfold decimalExponent
  dsimp only
  split
  · next hfits =>
      rw [floor_pos_iff (denominator_scaleByTen_pos hd _), toRat_scaleByTen, zpow_neg] at hfits
      rwa [← div_eq_mul_inv, one_le_div (zpow_pos hten _)] at hfits
  · have hnumerator : ((10 ^ (digitCount x.numerator - 1) : Nat) : ℚ) ≤ x.numerator :=
      Nat.cast_le.2 (ten_pow_le hn)
    have hdenominator : (x.denominator : ℚ) ≤ ((10 ^ digitCount x.denominator : Nat) : ℚ) :=
      Nat.cast_le.2 (lt_ten_pow_digitCount _).le
    have hcount : 0 < digitCount x.numerator := Nat.length_toDigits_pos
    have hsplit : (digitCount x.numerator : Int) - digitCount x.denominator - 1 =
        ((digitCount x.numerator - 1 : Nat) : Int) - digitCount x.denominator := by
      omega
    rw [toRat, hsplit, zpow_sub₀ hten.ne', zpow_natCast, zpow_natCast]
    push_cast at hnumerator hdenominator
    exact div_le_div₀ (Nat.cast_nonneg _) hnumerator (Nat.cast_pos.2 hd) hdenominator

end Fraction

namespace Decimal

/-! ## Lists of digits -/

theorem isDigit_of_mem_digitsOf {n : Nat} {c : Char} (h : c ∈ digitsOf n) : c.isDigit = true :=
  Nat.isDigit_of_mem_toDigits (by decide) (by decide) h

/-- A positive number does not begin with a zero. -/
theorem exists_digitsOf_eq_cons {n : Nat} (hn : 0 < n) :
    ∃ d rest, digitsOf n = d :: rest ∧ d ≠ '0' := by
  induction n using Nat.strong_induction_on with
  | _ n ih =>
      rw [digitsOf, Nat.toDigits_eq_if (by decide)]
      split
      · next hlt => exact ⟨_, [], rfl, by interval_cases n <;> decide⟩
      · next hge =>
          obtain ⟨d, rest, hdigits, hd⟩ := ih (n / 10) (by omega) (by omega)
          rw [digitsOf] at hdigits
          exact ⟨d, _, by rw [hdigits, List.cons_append], hd⟩

theorem dropTrailingZeros_cons {d : Char} (hd : d ≠ '0') (rest : List Char) :
    dropTrailingZeros (d :: rest) = d :: dropTrailingZeros rest := by
  have hstop : List.dropWhile (· == '0') [d] = [d] :=
    List.dropWhile_cons_of_neg (by simpa using hd)
  rw [dropTrailingZeros, dropTrailingZeros, List.reverse_cons, List.dropWhile_append, hstop]
  split
  · next hempty => rw [List.isEmpty_iff.1 hempty]; rfl
  · rw [List.reverse_append, List.reverse_singleton, List.singleton_append]

theorem mem_of_mem_dropTrailingZeros {digits : List Char} {c : Char}
    (h : c ∈ dropTrailingZeros digits) : c ∈ digits :=
  List.mem_reverse.1 ((List.dropWhile_sublist _).subset (List.mem_reverse.1 h))

/-! ## Characters of numbers -/

/-- The characters that finite numbers are written with. -/
def IsNumeralChar (c : Char) : Prop := c.isDigit = true ∨ c ∈ ['.', 'e', '+', '-']

/-- A written magnitude: it begins with a digit, and there are no other characters than those of
numbers. -/
structure IsMagnitude (text : List Char) : Prop where
  head : ∃ d rest, text = d :: rest ∧ d.isDigit = true
  chars : ∀ c ∈ text, IsNumeralChar c

variable {text digits : List Char} {c : Char}

theorem IsNumeralChar.ne {c' : Char} (h : IsNumeralChar c) (hdigit : c'.isDigit = false)
    (hmark : c' ∉ ['.', 'e', '+', '-']) : c ≠ c' := by
  rintro rfl
  rcases h with h | h
  · exact Bool.noConfusion (hdigit.symm.trans h)
  · exact hmark h

theorem IsMagnitude.append (h : IsMagnitude text) {more : List Char}
    (hmore : ∀ c ∈ more, IsNumeralChar c) : IsMagnitude (text ++ more) := by
  obtain ⟨⟨d, rest, rfl, hd⟩, hchars⟩ := h
  refine ⟨⟨d, rest ++ more, rfl, hd⟩, fun c hc => ?_⟩
  rcases List.mem_append.1 hc with hc | hc
  · exact hchars c hc
  · exact hmore c hc

theorem isNumeralChar_of_mem_fractionPart (hdigits : ∀ c ∈ digits, c.isDigit = true)
    (h : c ∈ fractionPart digits) : IsNumeralChar c := by
  cases digits with
  | nil => cases h
  | cons d rest =>
      rcases List.mem_cons.1 h with rfl | h
      · exact Or.inr (by decide)
      · exact Or.inl (hdigits c h)

theorem isNumeralChar_of_mem_exponentPart {exponent : Int} (h : c ∈ exponentPart exponent) :
    IsNumeralChar c := by
  rcases List.mem_cons.1 h with rfl | h
  · exact Or.inr (by decide)
  · rcases List.mem_cons.1 h with rfl | h
    · split <;> exact Or.inr (by decide)
    · rcases List.mem_append.1 h with h | h
      · obtain rfl := List.eq_of_mem_replicate h
        exact Or.inl (by decide)
      · exact Or.inl (isDigit_of_mem_digitsOf h)

/-! ## Digits with a point -/

section Written

variable {d : Char} {rest : List Char}

theorem isMagnitude_scientific (h : ∀ c ∈ d :: rest, c.isDigit = true) (exponent : Int) :
    IsMagnitude (scientific (d :: rest) exponent) := by
  have hfirst : IsMagnitude [d] :=
    ⟨⟨d, [], rfl, h d List.mem_cons_self⟩, fun c hc => Or.inl (h c (List.mem_singleton.1 hc ▸
      List.mem_cons_self))⟩
  exact (hfirst.append fun c => isNumeralChar_of_mem_fractionPart
    fun c hc => h c (List.mem_cons_of_mem d hc)).append fun c => isNumeralChar_of_mem_exponentPart

/-- The two parts of a number with a point. -/
theorem isMagnitude_positional (h : ∀ c ∈ d :: rest, c.isDigit = true) (exponent : Int) :
    IsMagnitude ((positional (d :: rest) exponent).1 ++
      fractionPart (positional (d :: rest) exponent).2) := by
  have hzero (k : Nat) : ∀ c ∈ List.replicate k '0', c.isDigit = true := by
    intro c hc
    rw [List.eq_of_mem_replicate hc]
    rfl
  cases exponent with
  | ofNat e =>
      have hwhole : ∀ c ∈ (positional (d :: rest) (.ofNat e)).1, c.isDigit = true := by
        intro c hc
        rcases List.mem_append.1 hc with hc | hc
        · exact h c (List.mem_of_mem_take hc)
        · exact hzero _ c hc
      refine IsMagnitude.append ⟨⟨d, _, rfl, h d List.mem_cons_self⟩, fun c hc => Or.inl (hwhole c hc)⟩
        fun c => isNumeralChar_of_mem_fractionPart fun c hc => h c (List.mem_of_mem_drop hc)
  | negSucc e =>
      refine IsMagnitude.append ⟨⟨'0', [], rfl, rfl⟩, fun c hc => Or.inl ?_⟩
        fun c => isNumeralChar_of_mem_fractionPart fun c hc => ?_
      · rw [List.mem_singleton.1 hc]
        rfl
      · rcases List.mem_append.1 hc with hc | hc
        · exact hzero _ c hc
        · exact h c hc

theorem mem_scientific (exponent : Int) : d ∈ scientific (d :: rest) exponent :=
  List.mem_append_left _ (List.mem_append_left _ List.mem_cons_self)

/-- The first digit is written in one of the two parts. -/
theorem mem_positional (exponent : Int) :
    d ∈ (positional (d :: rest) exponent).1 ++
      fractionPart (positional (d :: rest) exponent).2 := by
  cases exponent with
  | ofNat e => exact List.mem_append_left _ (List.mem_append_left _ List.mem_cons_self)
  | negSucc e =>
      have hmem : d ∈ List.replicate e '0' ++ d :: rest :=
        List.mem_append_right _ List.mem_cons_self
      refine List.mem_append_right _ ?_
      change d ∈ fractionPart (List.replicate e '0' ++ d :: rest)
      generalize List.replicate e '0' ++ d :: rest = digits at hmem ⊢
      cases digits with
      | nil => cases hmem
      | cons d' rest' => exact List.mem_cons_of_mem _ hmem

end Written

/-! ## Significant digits -/

section Significant

variable {m : Nat} {e : Int}

/-- The value is not rounded to zero, so its digits begin with one that is not zero. -/
theorem roundSignificant_eq_cons (hm : 0 < m) (e : Int) (precision : Nat) :
    ∃ d rest, (roundSignificant precision m e).1 = d :: rest ∧ d ≠ '0' ∧
      ∀ c ∈ d :: rest, c.isDigit = true := by
  let value := Fraction.ofBinary m e
  have hd : 0 < value.denominator := Fraction.denominator_ofBinary_pos m e
  have hpos : 0 < (value.scaleByTen (precision - value.decimalExponent)).roundHalfEven := by
    refine lt_of_lt_of_le ?_ (Fraction.floor_le_roundHalfEven _)
    rw [Fraction.floor_pos_iff (Fraction.denominator_scaleByTen_pos hd _),
      Fraction.toRat_scaleByTen, sub_eq_neg_add, zpow_add₀ (by norm_num), zpow_neg, ← mul_assoc,
      ← div_eq_mul_inv]
    refine one_le_mul_of_one_le_of_one_le ?_ ?_
    · rw [one_le_div (zpow_pos (by norm_num) _)]
      exact Fraction.zpow_decimalExponent_le (Fraction.numerator_ofBinary_pos hm e) hd
    · rw [zpow_natCast]
      exact one_le_pow₀ (by norm_num)
  obtain ⟨d, rest, hdigits, hne⟩ := exists_digitsOf_eq_cons hpos
  have hall : ∀ c ∈ d :: rest, c.isDigit = true := fun c hc =>
    isDigit_of_mem_digitsOf (hdigits.symm ▸ hc)
  unfold roundSignificant
  dsimp only
  split
  · refine ⟨d, rest.take precision, ?_, hne, fun c hc => hall c ?_⟩
    · rw [hdigits]
      rfl
    · rcases List.mem_cons.1 hc with rfl | hc
      · exact List.mem_cons_self
      · exact List.mem_cons_of_mem _ (List.mem_of_mem_take hc)
  · exact ⟨d, rest, hdigits, hne, hall⟩

/-- The digits that the general notation shows. -/
theorem exists_shown_eq_cons (hm : 0 < m) (e : Int) (precision : Nat) :
    ∃ d rest, dropTrailingZeros (roundSignificant precision m e).1 = d :: rest ∧ d ≠ '0' ∧
      ∀ c ∈ d :: rest, c.isDigit = true := by
  obtain ⟨d, rest, hdigits, hne, hall⟩ := roundSignificant_eq_cons hm e precision
  have hshown := dropTrailingZeros_cons hne rest
  refine ⟨d, dropTrailingZeros rest, by rw [hdigits, hshown], hne, fun c hc => hall c ?_⟩
  exact mem_of_mem_dropTrailingZeros (hshown.symm ▸ hc)

theorem isMagnitude_generalMagnitude (precision m : Nat) (e : Int) :
    IsMagnitude (generalMagnitude precision m e) := by
  unfold generalMagnitude
  split
  · refine ⟨⟨'0', [], rfl, rfl⟩, fun c hc => Or.inl ?_⟩
    rw [List.mem_singleton.1 hc]
    rfl
  · next hm =>
      obtain ⟨d, rest, hshown, -, hall⟩ := exists_shown_eq_cons (Nat.pos_of_ne_zero hm) e
        (min precision (exactDigits m e) - 1)
      dsimp only
      rw [hshown]
      split
      · exact isMagnitude_positional hall _
      · exact isMagnitude_scientific hall _

/-- **However few digits are asked for, a number other than zero is written with a digit that is not
zero.** -/
theorem exists_nonzero_digit (hm : 0 < m) (e : Int) (precision : Nat) :
    ∃ d ∈ generalMagnitude precision m e, d.isDigit = true ∧ d ≠ '0' := by
  obtain ⟨d, rest, hshown, hne, hall⟩ := exists_shown_eq_cons hm e
    (min precision (exactDigits m e) - 1)
  refine ⟨d, ?_, hall d List.mem_cons_self, hne⟩
  unfold generalMagnitude
  rw [if_neg hm.ne']
  dsimp only
  rw [hshown]
  split
  · exact mem_positional _
  · exact mem_scientific _

end Significant

end Decimal

/-! ## Floats -/

namespace Binary64

open Float.Model Float.Model.UnpackedFloat

/-- What a number denotes, from its sign, mantissa and exponent. -/
def ofUnpacked : UnpackedFloat → Binary64
  | .notANumber => undefined
  | .infinity s => infinite (s == .negative)
  | .zero s => finite (s == .negative) 0 (-1074)
  | .finite s m e _ => finite (s == .negative) m e

variable (b : BitVec Format.binary64.numBits)

theorem toNat_unpackMantissa : (unpackMantissa b).toNat = b.toNat % hiddenBit := by
  rw [unpackMantissa, BitVec.toNat_cast, BitVec.extractLsb_toNat]
  rfl

theorem toNat_unpackExponent : (unpackExponent b).toNat = b.toNat >>> 52 % 2048 := by
  rw [unpackExponent, BitVec.toNat_cast, BitVec.extractLsb_toNat]
  rfl

theorem beq_negative_unpackSign :
    (Sign.ofBitVec (unpackSign b) == .negative) = (b.toNat >>> 63 % 2 == 1) := by
  have hsign : (unpackSign b).toNat = b.toNat >>> 63 % 2 := by
    rw [unpackSign, BitVec.toNat_cast, BitVec.extractLsb_toNat]
    rfl
  rw [← hsign]
  generalize unpackSign b = s
  revert s
  decide

/-- The two decodings of 64 bits agree. -/
theorem ofBits_toNat : ofBits b.toNat = ofUnpacked (unpack Format.binary64 b) := by
  have hall : unpackExponent b = -1#11 ↔ b.toNat >>> 52 % 2048 = 2047 := by
    rw [← toNat_unpackExponent, ← BitVec.toNat_inj]
    rfl
  have hnone : unpackExponent b = 0#11 ↔ b.toNat >>> 52 % 2048 = 0 := by
    rw [← toNat_unpackExponent, ← BitVec.toNat_inj]
    rfl
  have hmantissa : unpackMantissa b = 0#52 ↔ b.toNat % hiddenBit = 0 := by
    rw [← toNat_unpackMantissa, ← BitVec.toNat_inj]
    rfl
  unfold ofBits UnpackedFloat.unpack
  dsimp only
  rw [← beq_negative_unpackSign]
  by_cases hexponent : unpackExponent b = -1#11
  · rw [if_pos (hall.1 hexponent), if_pos hexponent]
    by_cases hleast : unpackMantissa b = 0#52
    · rw [if_pos (hmantissa.1 hleast), if_pos hleast]
      rfl
    · rw [if_neg (mt hmantissa.2 hleast), if_neg hleast]
      rfl
  · rw [if_neg (mt hall.2 hexponent), if_neg hexponent]
    by_cases hleast : unpackExponent b = 0#11
    · rw [if_pos (hnone.1 hleast), if_pos hleast]
      by_cases hempty : unpackMantissa b = 0#52
      · rw [dif_pos hempty, hmantissa.1 hempty]
        rfl
      · rw [dif_neg hempty, ← toNat_unpackMantissa, hleast]
        rfl
    · rw [if_neg (mt hnone.2 hleast), if_neg hleast, ← toNat_unpackMantissa, ← toNat_unpackExponent,
        ofUnpacked, FloatingPoint.toNat_one_append]
      rfl

theorem ofFloat_eq (x : Float) : ofFloat x = ofUnpacked (FloatingPoint.value x) :=
  ofBits_toNat _

/-- Adding zero keeps every number but a negative zero. -/
theorem value_add_zero {x : Float} {s : Sign} {m : Nat} {e : Int} {hm : 0 < m}
    (hx : FloatingPoint.value x = .finite s m e hm) :
    FloatingPoint.value (x + 0) = .finite s m e hm := by
  have hsum : FloatingPoint.value (x + 0) = UnpackedFloat.unpack Format.binary64
      (UnpackedFloat.pack Format.binary64 ((FloatingPoint.value x).add Format.binary64
        (FloatingPoint.value 0))) := rfl
  have hzero : FloatingPoint.value 0 = .zero .positive := rfl
  have hkept := FloatingPoint.unpack_pack_value x
  rw [hx] at hkept
  rw [hsum, hx, hzero]
  exact hkept

end Binary64

namespace Decimal

open Float.Model.UnpackedFloat

/-- The text of a number: no other characters than those of numbers, and a digit that is not zero. -/
structure IsNumberText (text : String) : Prop where
  chars : ∀ c ∈ text.toList, IsNumeralChar c
  nonzero : ∃ d ∈ text.toList, d.isDigit = true ∧ d ≠ '0'

variable {x : Float} {s : Sign} {m : Nat} {e : Int} {hm : 0 < m}

/-- A number other than zero is written with the digits of its magnitude. -/
theorem general_add_zero (hx : FloatingPoint.value x = .finite s m e hm) (precision : Nat) :
    general precision (x + 0) = signed (s == .negative) (generalMagnitude precision m e) := by
  rw [general, Binary64.ofFloat_eq, Binary64.value_add_zero hx]
  rfl

theorem isNumberText_general (hx : FloatingPoint.value x = .finite s m e hm) (precision : Nat) :
    IsNumberText (general precision (x + 0)) := by
  have hmagnitude := isMagnitude_generalMagnitude precision m e
  obtain ⟨d, hmem, hd⟩ := exists_nonzero_digit hm e precision
  rw [general_add_zero hx, signed]
  split
  · refine ⟨fun c hc => ?_, d, ?_, hd⟩
    · rw [String.toList_ofList] at hc
      rcases List.mem_cons.1 hc with rfl | hc
      · exact Or.inr (by decide)
      · exact hmagnitude.chars c hc
    · rw [String.toList_ofList]
      exact List.mem_cons_of_mem _ hmem
  · rw [← String.toList_ofList (l := generalMagnitude precision m e)] at hmem hmagnitude
    exact ⟨hmagnitude.chars, d, hmem, hd⟩

/-- A magnitude is written without a sign. -/
theorem isMagnitude_general_abs (hx : FloatingPoint.value x = .finite s m e hm) (precision : Nat) :
    IsMagnitude (general precision (x.abs + 0)).toList := by
  have habs : FloatingPoint.value x.abs = .finite .positive m e hm := by
    rw [FloatingPoint.value_abs, hx]
    rfl
  have htext : (general precision (x.abs + 0)).toList = generalMagnitude precision m e := by
    rw [general_add_zero habs]
    exact String.toList_ofList
  rw [htext]
  exact isMagnitude_generalMagnitude precision m e

end Decimal

end LinearSystems
