import Mathlib
import LinearSystems.Proofs.FloatingPoint.ScaledFloats

/-!
# The error of an operation

A rounded mantissa is off by half a unit at most (`FloatingPoint.Represents.abs_sub_le`).  So a
finite sum, product or quotient of floats misses the exact one by at most the part `2 ^ -53` of it
and, where it underflows, by half of the least float (`FloatingPoint.isNear_toRat_add`,
`FloatingPoint.isNear_toRat_mul`, `FloatingPoint.isNear_toRat_div`).

Products and quotients overflow when the exact ones reach the number half a unit above the largest
float, and not before (`FloatingPoint.isFinite_mul_iff`, `FloatingPoint.isFinite_div_iff`).
-/

namespace LinearSystems

namespace FloatingPoint

open Float.Model Float.Model.UnpackedFloat

/-! ## Rounded mantissas -/

section Represents

variable {x : ExtendedMantissa} {q : ℚ} {n : Nat}

/-- **Rounding a mantissa to the nearest is off by half a unit at most.** -/
theorem Represents.abs_sub_le (h : Represents x q) : |(x.roundedMantissa : ℚ) - q| ≤ 1 / 2 := by
  obtain ⟨m, _ | _, _ | _⟩ := x <;>
    simp only [Represents, ExtendedMantissa.roundedMantissa, ExtendedMantissa.accuracy,
      Accuracy.roundToNearestEven] at h ⊢ <;>
    rw [abs_le]
  · constructor <;> linarith
  · constructor <;> linarith
  · rcases Nat.mod_two_eq_zero_or_one m with hm | hm <;> simp [hm] <;> constructor <;> linarith
  · push_cast
    constructor <;> linarith

/-- What lies in the middle above an odd mantissa is rounded up. -/
theorem Represents.roundedMantissa_le_iff (h : Represents x q) (hn : n % 2 = 1) :
    x.roundedMantissa ≤ n ↔ q < n + 1 / 2 := by
  obtain ⟨hlower, hupper⟩ := abs_le.1 h.abs_sub_le
  constructor
  · intro hle
    have hle' : (x.roundedMantissa : ℚ) ≤ n := Nat.cast_le.2 hle
    refine lt_of_le_of_ne (by linarith) ?_
    rintro rfl
    have hmiddle : Represents ⟨n, true, false⟩ ((n : ℚ) + 1 / 2) := rfl
    rw [h.unique hmiddle] at hle
    simp [ExtendedMantissa.roundedMantissa, ExtendedMantissa.accuracy,
      Accuracy.roundToNearestEven, hn] at hle
  · intro hlt
    have hrounded : (x.roundedMantissa : ℚ) < (n + 1 : Nat) := by
      push_cast
      linarith
    exact Nat.lt_succ_iff.1 (Nat.cast_lt.1 hrounded)

end Represents

/-! ## Signs -/

/-- The number with this sign and magnitude. -/
def signed : Sign → ℚ → ℚ
  | .positive, v => v
  | .negative, v => -v

section Signs

variable {s s' : Sign} {v v' : ℚ}

theorem exact_finite {m : Nat} {e : Int} (hm : 0 < m) :
    exact (.finite s m e hm) = signed s (m * 2 ^ e) := by
  cases s
  · exact exact_negative hm
  · rfl

theorem signed_mul : signed (s * s') (v * v') = signed s v * signed s' v' := by
  cases s <;> cases s'
  · exact (neg_mul_neg v v').symm
  · exact (neg_mul v v').symm
  · exact (mul_neg v v').symm
  · rfl

theorem signed_div : signed (s / s') (v / v') = signed s v / signed s' v' := by
  cases s <;> cases s'
  · exact (neg_div_neg_eq v v').symm
  · exact (neg_div v' v).symm
  · exact (div_neg v).symm
  · rfl

theorem abs_signed : |signed s v| = |v| := by
  cases s
  · exact abs_neg v
  · rfl

theorem abs_signed_sub_signed : |signed s v - signed s v'| = |v - v'| := by
  cases s
  · rw [signed, signed, neg_sub_neg, abs_sub_comm]
  · rfl

end Signs

/-! ## Rounded numbers -/

/-- The part of a number by which rounding to 53 bits is off at most. -/
def unitRoundoff : ℚ := 2 ^ (-53 : ℤ)

/-- Half of the least positive float. -/
def halfLeast : ℚ := 2 ^ (-1075 : ℤ)

theorem unitRoundoff_pos : 0 < unitRoundoff := two_zpow_pos _

theorem unitRoundoff_le : unitRoundoff ≤ 1 / 8 := by norm_num [unitRoundoff]

theorem unitRoundoff_mul : unitRoundoff * 2 ^ 53 = 1 := by norm_num [unitRoundoff]

theorem halfLeast_pos : 0 < halfLeast := two_zpow_pos _

/-- Half a unit above the largest finite float. -/
def overflowBound : ℚ := (2 ^ 53 - 1 / 2) * 2 ^ (971 : ℤ)

theorem le_overflowBound : 3 / 2 * 2 ^ 1023 ≤ overflowBound := by
  have hpow : ((2 ^ 52 : Nat) : ℚ) * 2 ^ (971 : ℤ) = 2 ^ 1023 := two_pow_mul_zpow (k := 971) rfl
  rw [overflowBound, ← hpow, ← mul_assoc]
  exact mul_le_mul_of_nonneg_right (by norm_num) (two_zpow_pos 971).le

theorem two_pow_lt_overflowBound {k : Nat} (hk : k ≤ 1023) : 2 ^ k < overflowBound := by
  refine lt_of_lt_of_le ?_ le_overflowBound
  refine (pow_le_pow_right₀ one_le_two hk).trans_lt (lt_mul_of_one_lt_left ?_ (by norm_num))
  positivity

theorem overflowBound_le : overflowBound ≤ 2 ^ 1024 := by
  have hpow : ((2 ^ 53 : Nat) : ℚ) * 2 ^ (971 : ℤ) = 2 ^ 1024 := two_pow_mul_zpow (k := 971) rfl
  rw [overflowBound, ← hpow]
  exact mul_le_mul_of_nonneg_right (by norm_num) (two_zpow_pos 971).le

/-- The number is the other one up to the error of one rounding. -/
def IsNear (p q : ℚ) : Prop := |p - q| ≤ |q| * unitRoundoff + halfLeast

theorem isNear_self (q : ℚ) : IsNear q q := by
  rw [IsNear, sub_self, abs_zero]
  exact add_nonneg (mul_nonneg (abs_nonneg q) unitRoundoff_pos.le) halfLeast_pos.le

section RoundsTo

variable {m : Nat} {e : Int} {a : Accuracy} {s : Sign} {v : ℚ} {u : UnpackedFloat}

theorem Writes.nonneg (h : Writes m e a v) : 0 ≤ v :=
  (mul_nonneg m.cast_nonneg (two_zpow_pos e).le).trans h.mul_le

/-- Half a unit of the exponent that is rounded to. -/
theorem Writes.half_unit_le (h : Writes m e a v) :
    2 ^ target m e * (1 / 2) ≤ v * unitRoundoff + halfLeast := by
  have hhalf : (2 : ℚ) ^ target m e * (1 / 2) = 2 ^ (target m e - 1) := by
    rw [zpow_sub_one₀ two_ne_zero, one_div]
  have hpart : 0 ≤ v * unitRoundoff := mul_nonneg h.nonneg unitRoundoff_pos.le
  rw [hhalf]
  rcases (show -1074 ≤ target m e from le_max_right _ _).eq_or_lt with hleast | hlarge
  · rw [← hleast]
    exact le_add_of_nonneg_left hpart
  · -- Above the least exponent the number has all 53 bits.
    have hfull : ¬ target m e ≤ target m e - 1 := by omega
    rw [h.target_le_iff, not_and, not_lt] at hfull
    have hbits := mul_le_mul_of_nonneg_right (hfull (by omega)) (two_zpow_pos (-53)).le
    rw [← zpow_add₀ two_ne_zero, add_neg_cancel_right] at hbits
    exact le_add_of_le_of_nonneg hbits halfLeast_pos.le

/-- **A rounded magnitude is off by one rounding at most.** -/
theorem RoundsTo.isNear (h : RoundsTo s v u) : IsNear (exact u) (signed s v) := by
  obtain ⟨m, e, a, hv, rfl⟩ := h
  have hsign : exact (roundWithAccuracy Format.binary64 s m e a) =
      signed s (magnitude (roundWithAccuracy Format.binary64 s m e a)) := by
    rw [roundWithAccuracy_eq s a hv.le_target]
    split
    · cases s <;> simp [signed, magnitude]
    · split <;> exact exact_finite _
  have hpos := two_zpow_pos (target m e)
  rw [IsNear, hsign, abs_signed_sub_signed, abs_signed, abs_of_nonneg hv.nonneg,
    magnitude_roundWithAccuracy s a hv.le_target]
  calc |((shifted m e a).roundedMantissa : ℚ) * 2 ^ target m e - v|
      = 2 ^ target m e * |((shifted m e a).roundedMantissa : ℚ) - v / 2 ^ target m e| := by
        rw [← abs_of_pos hpos, ← abs_mul, abs_of_pos hpos, mul_sub, mul_div_cancel₀ _ hpos.ne',
          mul_comm]
    _ ≤ 2 ^ target m e * (1 / 2) :=
        mul_le_mul_of_nonneg_left hv.represents_shifted.abs_sub_le hpos.le
    _ ≤ v * unitRoundoff + halfLeast := hv.half_unit_le

/-- **Rounding goes up to the threshold of an overflow from half a unit below it, and not
before.** -/
theorem RoundsTo.magnitude_lt_iff (h : RoundsTo s v u) :
    magnitude u < 2 ^ 1024 ↔ v < overflowBound := by
  obtain ⟨m, e, a, hv, rfl⟩ := h
  obtain ⟨hbits, hfull⟩ := mantissa_shifted a hv.le_target
  have hrepresents := hv.represents_shifted
  have hlower := mantissa_le_roundedMantissa (shifted m e a)
  have hupper := (roundedMantissa_le_ceiling (shifted m e a)).trans
    ((ceiling_le _).trans (Nat.succ_le_of_lt hbits))
  have htarget (t : Int) := hv.target_le_iff (t := t)
  have hthreshold : ((2 ^ 53 : Nat) : ℚ) * 2 ^ (971 : ℤ) = 2 ^ 1024 :=
    two_pow_mul_zpow (k := 971) rfl
  rw [magnitude_roundWithAccuracy s a hv.le_target]
  generalize target m e = t at *
  rcases lt_trichotomy t 971 with ht | rfl | ht
  · have hbound := ((htarget 970).1 (by omega)).2
    refine iff_of_true ?_ ?_
    · rw [← hthreshold]
      exact mul_lt_mul' (Nat.cast_le.2 hupper) (zpow_lt_zpow_right₀ one_lt_two ht)
        (two_zpow_pos t).le (by positivity)
    · exact (hbound.trans_eq (zpow_natCast 2 1023)).trans (two_pow_lt_overflowBound le_rfl)
  · rw [← hthreshold, mul_lt_mul_iff_left₀ (two_zpow_pos _), Nat.cast_lt, overflowBound,
      ← div_lt_iff₀ (two_zpow_pos _), Nat.lt_iff_le_pred (by decide),
      hrepresents.roundedMantissa_le_iff (by decide)]
    norm_num
  · have hmantissa := (hfull.resolve_right (by omega)).trans hlower
    have hbound := not_lt.1 fun hlt => ht.not_ge ((htarget 971).2 ⟨by norm_num, hlt⟩)
    refine iff_of_false (not_lt.2 ?_) (not_lt.2 ?_)
    · rw [← two_pow_mul_zpow (n := 52) (k := 972) (f := 972) rfl]
      exact mul_le_mul (Nat.cast_le.2 hmantissa) (zpow_le_zpow_right₀ one_le_two ht)
        (two_zpow_pos 972).le (Nat.cast_nonneg _)
    · exact overflowBound_le.trans ((zpow_natCast (2 : ℚ) 1024).symm.trans_le hbound)

theorem RoundsTo.nonneg (h : RoundsTo s v u) : 0 ≤ v := by
  obtain ⟨m, e, a, hv, -⟩ := h
  exact hv.nonneg

end RoundsTo

/-! ## Operations -/

/-- The number is zero, or it is rounded with its sign. -/
def IsRounded (q : ℚ) (u : UnpackedFloat) : Prop :=
  (q = 0 ∧ ∃ s, u = .zero s) ∨ ∃ s v, q = signed s v ∧ RoundsTo s v u

section Operations

variable {u v : UnpackedFloat} {q : ℚ}

namespace IsRounded

theorem isNear (h : IsRounded q u) : IsNear (exact u) q := by
  rcases h with ⟨rfl, s, rfl⟩ | ⟨s, v, rfl, h⟩
  · exact isNear_self 0
  · exact h.isNear

theorem isCanonical (h : IsRounded q u) : IsCanonical u ∧ u.isFinite = true := by
  rcases h with ⟨-, s, rfl⟩ | ⟨s, v, -, m, e, a, hv, rfl⟩
  · exact ⟨trivial, rfl⟩
  · exact ⟨isCanonical_roundWithAccuracy s a hv.le_target,
      isFinite_roundWithAccuracy s a hv.le_target⟩

theorem magnitude_lt_iff (h : IsRounded q u) : magnitude u < 2 ^ 1024 ↔ |q| < overflowBound := by
  rcases h with ⟨rfl, s, rfl⟩ | ⟨s, v, rfl, h⟩
  · rw [abs_zero]
    exact iff_of_true (show (0 : ℚ) < 2 ^ 1024 by positivity)
      (two_pow_lt_overflowBound (Nat.zero_le _) |>.trans' one_pos)
  · rw [abs_signed, abs_of_nonneg h.nonneg, h.magnitude_lt_iff]

end IsRounded

theorem isRounded_mul (hu : IsCanonical u) (hv : IsCanonical v) (hfu : u.isFinite = true)
    (hfv : v.isFinite = true) : IsRounded (exact u * exact v) (u.mul Format.binary64 v) := by
  rcases u with s | _ | s | ⟨s, m, e, hm⟩
  any_goals cases hfu
  all_goals rcases v with s' | _ | s' | ⟨s', m', e', hm'⟩
  any_goals cases hfv
  case finite.refl.finite.refl =>
    refine Or.inr ⟨_, _, ?_, roundsTo_mul hu hv⟩
    rw [exact_finite, exact_finite, signed_mul]
  all_goals exact Or.inl ⟨by simp, _, rfl⟩

theorem isRounded_div (hfu : u.isFinite = true) (hfv : v.isFinite = true) (hv : exact v ≠ 0) :
    IsRounded (exact u / exact v) (u.div Format.binary64 v) := by
  rcases v with s' | _ | s' | ⟨s', m', e', hm'⟩
  any_goals exact absurd rfl hv
  rcases u with s | _ | s | ⟨s, m, e, hm⟩
  any_goals cases hfu
  · exact Or.inl ⟨by simp, _, rfl⟩
  · refine Or.inr ⟨_, _, ?_, roundsTo_div hm hm'⟩
    rw [exact_finite, exact_finite, signed_div]

theorem isRounded_normalize (m e : Int) (s : Sign) :
    IsRounded (m * 2 ^ e) (normalize Format.binary64 m e s) := by
  rw [UnpackedFloat.normalize]
  split
  · next hneg =>
      have hlt : m < 0 := Int.compare_eq_lt.1 hneg
      obtain ⟨k, rfl⟩ : ∃ k : Nat, m = -k := ⟨(-m).toNat, by omega⟩
      rw [neg_neg, Int.toNat_natCast]
      refine Or.inr ⟨.negative, _, ?_, roundsTo_round .negative (by omega) rfl⟩
      rw [signed, Int.cast_neg, neg_mul, Int.cast_natCast]
  · next hzero =>
      obtain rfl : m = 0 := Int.compare_eq_eq.1 hzero
      exact Or.inl ⟨by simp, s, rfl⟩
  · next hpos =>
      have hlt : 0 < m := Int.compare_eq_gt.1 hpos
      obtain ⟨k, rfl⟩ : ∃ k : Nat, m = k := ⟨m.toNat, by omega⟩
      rw [Int.toNat_natCast]
      refine Or.inr ⟨.positive, _, ?_, roundsTo_round .positive (by omega) rfl⟩
      rw [signed, Int.cast_natCast]

/-- A sum with a zero is exact; the other ones are rounded. -/
theorem isNear_add (hfu : u.isFinite = true) (hfv : v.isFinite = true) :
    IsNear (exact (u.add Format.binary64 v)) (exact u + exact v) := by
  rcases u with s | _ | s | ⟨s, m, e, hm⟩
  any_goals cases hfu
  all_goals rcases v with s' | _ | s' | ⟨s', m', e', hm'⟩
  any_goals cases hfv
  · obtain ⟨t, ht⟩ : ∃ t, (UnpackedFloat.zero s).add Format.binary64 (.zero s') = .zero t := by
      cases s <;> cases s' <;> exact ⟨_, rfl⟩
    rw [ht, exact_zero, exact_zero, exact_zero, add_zero]
    exact isNear_self 0
  · rw [exact_zero, zero_add]
    exact isNear_self (exact (.finite s' m' e' hm'))
  · rw [exact_zero, add_zero]
    exact isNear_self (exact (.finite s m e hm))
  · rw [exact_finite_eq s (min_le_left e e'), exact_finite_eq s' (min_le_right e e'), ← add_mul,
      ← Int.cast_add]
    exact (isRounded_normalize _ _ _).isNear

end Operations

/-! ## Floats -/

section Floats

variable {x y z : Float} {q : ℚ} {u : UnpackedFloat}

/-- A rounded number is finite as a float when it does not overflow. -/
theorem IsRounded.isFinite_iff (h : IsRounded q u)
    (hz : value z = unpack Format.binary64 (pack Format.binary64 u)) :
    Scalar.isFinite z = true ↔ |q| < overflowBound := by
  rw [← h.magnitude_lt_iff, FloatingPoint.isFinite_iff, hz]
  obtain ⟨hcanonical, hfinite⟩ := h.isCanonical
  rcases unpack_pack_cases hcanonical hfinite with ⟨hkept, hlt⟩ | ⟨s, hinfinite, -, hle⟩
  · exact iff_of_true ((congrArg _ hkept).trans hfinite) hlt
  · rw [hinfinite]
    exact iff_of_false nofun hle.not_gt

/-- What overflows is infinite, not undefined. -/
theorem IsRounded.isNaN_eq_false (h : IsRounded q u)
    (hz : value z = unpack Format.binary64 (pack Format.binary64 u)) :
    Scalar.isNaN z = false := by
  show (value z).isNaN = false
  obtain ⟨hcanonical, hfinite⟩ := h.isCanonical
  rw [hz]
  rcases unpack_pack_cases hcanonical hfinite with ⟨hkept, -⟩ | ⟨s, hinfinite, -, -⟩
  · rw [hkept]
    cases u <;> first | rfl | cases hfinite
  · rw [hinfinite]
    rfl

theorem IsRounded.isNear_toRat (h : IsRounded q u)
    (hz : value z = unpack Format.binary64 (pack Format.binary64 u))
    (hfinite : Scalar.isFinite z = true) : IsNear (toRat z) q := by
  rw [toRat, value_eq_of_isFinite h.isCanonical.1 h.isCanonical.2 hz hfinite]
  exact h.isNear

theorem isRounded_value_mul (hx : Scalar.isFinite x = true) (hy : Scalar.isFinite y = true) :
    IsRounded (toRat x * toRat y) ((value x).mul Format.binary64 (value y)) :=
  isRounded_mul (isCanonical_value x) (isCanonical_value y) (FloatingPoint.isFinite_iff.1 hx)
    (FloatingPoint.isFinite_iff.1 hy)

theorem isRounded_value_div (hx : Scalar.isFinite x = true) (hy : Scalar.isFinite y = true)
    (hne : toRat y ≠ 0) :
    IsRounded (toRat x / toRat y) ((value x).div Format.binary64 (value y)) :=
  isRounded_div (FloatingPoint.isFinite_iff.1 hx) (FloatingPoint.isFinite_iff.1 hy) hne

/-- **A product overflows when the exact one reaches half a unit above the largest float.** -/
theorem isFinite_mul_iff (hx : Scalar.isFinite x = true) (hy : Scalar.isFinite y = true) :
    Scalar.isFinite (x * y) = true ↔ |toRat x * toRat y| < overflowBound :=
  (isRounded_value_mul hx hy).isFinite_iff rfl

theorem isFinite_div_iff (hx : Scalar.isFinite x = true) (hy : Scalar.isFinite y = true)
    (hne : toRat y ≠ 0) :
    Scalar.isFinite (x / y) = true ↔ |toRat x / toRat y| < overflowBound :=
  (isRounded_value_div hx hy hne).isFinite_iff rfl

theorem isNear_toRat_add (hx : Scalar.isFinite x = true) (hy : Scalar.isFinite y = true)
    (h : Scalar.isFinite (x + y) = true) : IsNear (toRat (x + y)) (toRat x + toRat y) := by
  rw [toRat, value_add hx hy h]
  exact isNear_add (FloatingPoint.isFinite_iff.1 hx) (FloatingPoint.isFinite_iff.1 hy)

theorem isNear_toRat_sub (hx : Scalar.isFinite x = true) (hy : Scalar.isFinite y = true)
    (h : Scalar.isFinite (x - y) = true) : IsNear (toRat (x - y)) (toRat x - toRat y) := by
  rw [sub_eq_add] at h ⊢
  have hsum := isNear_toRat_add hx (isFinite_neg hy) h
  rwa [toRat_neg, ← sub_eq_add_neg] at hsum

/-- **A finite product is off by one rounding at most.** -/
theorem isNear_toRat_mul (hx : Scalar.isFinite x = true) (hy : Scalar.isFinite y = true)
    (h : Scalar.isFinite (x * y) = true) : IsNear (toRat (x * y)) (toRat x * toRat y) :=
  (isRounded_value_mul hx hy).isNear_toRat rfl h

theorem isNear_toRat_div (hx : Scalar.isFinite x = true) (hy : Scalar.isFinite y = true)
    (hne : toRat y ≠ 0) (h : Scalar.isFinite (x / y) = true) :
    IsNear (toRat (x / y)) (toRat x / toRat y) :=
  (isRounded_value_div hx hy hne).isNear_toRat rfl h

end Floats

end FloatingPoint

end LinearSystems
