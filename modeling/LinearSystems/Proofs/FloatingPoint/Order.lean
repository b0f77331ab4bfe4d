import Mathlib
import LinearSystems.Proofs.FloatingPoint.Magnitude

/-!
# The order of floats

A finite float is read as the rational number it stands for (`FloatingPoint.toRat`), and finite
floats are compared as these numbers are (`FloatingPoint.lt_iff_toRat`).

Rounding keeps the order to every number that needs no rounding: a float below an exact sum is not
above the rounded one (`FloatingPoint.le_add_of_toRat_le`).  So a sum or a difference compares with
a third float as the exact one does, unless rounding has moved it onto that float
(`FloatingPoint.sub_lt_iff`, `FloatingPoint.lt_sub_iff`, `FloatingPoint.lt_add_iff`): it may land on
a bound, but it never crosses one.
-/

namespace LinearSystems

namespace FloatingPoint

open Float.Model Float.Model.UnpackedFloat

/-! ## The number that is meant -/

/-- The number with its sign; zero for what is none. -/
def exact : UnpackedFloat → ℚ
  | .finite s m e _ => (s.apply m : ℤ) * 2 ^ e
  | _ => 0

@[simp] theorem exact_zero (s : Sign) : exact (.zero s) = 0 := rfl

theorem exact_positive {m : Nat} {e : Int} (hm : 0 < m) :
    exact (.finite .positive m e hm) = m * 2 ^ e := rfl

theorem exact_negative {m : Nat} {e : Int} (hm : 0 < m) :
    exact (.finite .negative m e hm) = -(m * 2 ^ e) := by
  show ((-(m : ℤ) : ℤ) : ℚ) * 2 ^ e = _
  push_cast
  ring

theorem mul_zpow_pos {m : Nat} (hm : 0 < m) (e : Int) : 0 < (m : ℚ) * 2 ^ e :=
  mul_pos (Nat.cast_pos.2 hm) (zpow_pos (by norm_num) e)

@[simp] theorem exact_neg (u : UnpackedFloat) : exact u.neg = -exact u := by
  rcases u with _ | _ | _ | ⟨_ | _, m, e, hm⟩
  case finite.negative => exact (neg_eq_iff_eq_neg.2 (exact_negative hm)).symm
  case finite.positive => exact exact_negative hm
  all_goals exact neg_zero.symm

theorem abs_exact (u : UnpackedFloat) : |exact u| = magnitude u := by
  rcases u with _ | _ | _ | ⟨_ | _, m, e, hm⟩
  case finite.negative =>
    rw [exact_negative, abs_neg]
    exact abs_of_pos (mul_zpow_pos hm e)
  case finite.positive => exact abs_of_pos (mul_zpow_pos hm e)
  all_goals exact abs_zero

/-! ## Comparing -/

/-- Exponents first and mantissas then is the order of the numbers. -/
theorem compare_lex {m m' : Nat} {e e' : Int} (hm : m < 2 ^ 53) (hm' : m' < 2 ^ 53)
    (hle : -1074 ≤ e) (hle' : -1074 ≤ e') (hfull : 2 ^ 52 ≤ m ∨ e = -1074)
    (hfull' : 2 ^ 52 ≤ m' ∨ e' = -1074) :
    (compare e e').then (compare m m') = compare ((m : ℚ) * 2 ^ e) (m' * 2 ^ e') := by
  have hbelow (h : e < e' ∨ e = e' ∧ m < m') := mul_zpow_lt_of_lex hm hle hfull' h
  have habove (h : e' < e ∨ e' = e ∧ m' < m) := mul_zpow_lt_of_lex hm' hle' hfull h
  rcases lt_trichotomy e e' with he | rfl | he
  · rw [compare_lt_iff_lt.2 he, compare_lt_iff_lt.2 (hbelow (Or.inl he))]
    rfl
  · rw [compare_eq_iff_eq.2 rfl]
    show compare m m' = _
    rcases lt_trichotomy m m' with h | rfl | h
    · rw [compare_lt_iff_lt.2 h, compare_lt_iff_lt.2 (hbelow (Or.inr ⟨rfl, h⟩))]
    · rw [compare_eq_iff_eq.2 rfl, compare_eq_iff_eq.2 rfl]
    · rw [compare_gt_iff_gt.2 h, compare_gt_iff_gt.2 (habove (Or.inr ⟨rfl, h⟩))]
  · rw [compare_gt_iff_gt.2 he, compare_gt_iff_gt.2 (habove (Or.inl he))]
    rfl

theorem compare_neg_rat (a b : ℚ) : compare (-a) (-b) = (compare a b).swap := by
  rw [← Std.OrientedCmp.eq_swap]
  rcases lt_trichotomy b a with h | h | h
  · rw [compare_lt_iff_lt.2 h, compare_lt_iff_lt.2 (neg_lt_neg h)]
  · rw [h, compare_eq_iff_eq.2 rfl, compare_eq_iff_eq.2 rfl]
  · rw [compare_gt_iff_gt.2 h, compare_gt_iff_gt.2 (neg_lt_neg h)]

theorem isLE_compare_rat {a b : ℚ} : (compare a b).isLE = true ↔ a ≤ b :=
  Ordering.isLE_iff_ne_gt.trans compare_le_iff_le

/-- **Finite numbers are compared as what they stand for.** -/
theorem compare_eq_compare_exact {u v : UnpackedFloat} (hu : u.isFinite = true)
    (hv : v.isFinite = true) (hcu : IsCanonical u) (hcv : IsCanonical v) :
    u.compare v = some (compare (exact u) (exact v)) := by
  rcases u with s | _ | s | ⟨_ | _, m, e, hm⟩
  any_goals cases hu
  all_goals rcases v with s' | _ | s' | ⟨_ | _, m', e', hm'⟩
  any_goals cases hv
  all_goals simp only [exact_negative, exact_positive, exact_zero]
  · rw [compare_eq_iff_eq.2 rfl]
    rfl
  · rw [compare_gt_iff_gt.2 (neg_neg_of_pos (mul_zpow_pos hm' e'))]
    rfl
  · rw [compare_lt_iff_lt.2 (mul_zpow_pos hm' e')]
    rfl
  · rw [compare_lt_iff_lt.2 (neg_neg_of_pos (mul_zpow_pos hm e))]
    rfl
  · rw [compare_neg_rat, ← compare_lex hcu.1 hcv.1 hcu.2.1 hcv.2.1 hcu.2.2 hcv.2.2]
    rfl
  · rw [compare_lt_iff_lt.2
      ((neg_neg_of_pos (mul_zpow_pos hm e)).trans (mul_zpow_pos hm' e'))]
    rfl
  · rw [compare_gt_iff_gt.2 (mul_zpow_pos hm e)]
    rfl
  · rw [compare_gt_iff_gt.2
      ((neg_neg_of_pos (mul_zpow_pos hm' e')).trans (mul_zpow_pos hm e))]
    rfl
  · rw [← compare_lex hcu.1 hcv.1 hcu.2.1 hcv.2.1 hcu.2.2 hcv.2.2]
    rfl

/-! ## Rounding and the order -/

section Rounding

variable {m n : Nat} {e f : Int}

theorem mul_zpow_shifted_le (he : e ≤ target m e) :
    ((shifted m e .exact).mantissa : ℚ) * 2 ^ target m e ≤ m * 2 ^ e := by
  rw [mul_zpow_le_iff_left he, mantissa_shifted_eq]
  exact Nat.div_mul_le_self _ _

/-- A number with a smaller exponent than the rounded one has is below it. -/
theorem mul_zpow_lt_shifted (he : e ≤ target m e) (hn : n < 2 ^ 53) (hf : -1074 ≤ f)
    (h : f < target m e) :
    (n : ℚ) * 2 ^ f < (shifted m e .exact).mantissa * 2 ^ target m e :=
  mul_zpow_lt_of_lex hn hf (mantissa_shifted .exact he).2 (Or.inl h)

/-- Rounding does not go up beyond a number that is kept. -/
theorem magnitude_roundWithAccuracy_le_of_le (s : Sign) (he : e ≤ target m e) (hn : n < 2 ^ 53)
    (hf : -1074 ≤ f) (h : (m : ℚ) * 2 ^ e ≤ n * 2 ^ f) :
    magnitude (roundWithAccuracy Format.binary64 s m e .exact) ≤ n * 2 ^ f := by
  rcases lt_or_ge f (target m e) with hlt | hge
  · have hbelow := (mul_zpow_lt_shifted he hn hf hlt).trans_le (mul_zpow_shifted_le he)
    exact absurd h (not_le.2 hbelow)
  · -- On the exponent of the rounded number the other one has an integral mantissa.
    rw [magnitude_roundWithAccuracy s _ he, mul_zpow_le_iff_right hge]
    apply (roundedMantissa_le_ceiling _).trans
    apply ceiling_shift_le
    have hnat := (mul_zpow_le_iff_right (he.trans hge) m n).1 h
    have hpow : (f - e).toNat = (target m e - e).toNat + (f - target m e).toNat := by omega
    rw [hpow, Nat.pow_add] at hnat
    exact hnat.trans_eq (Nat.mul_left_comm _ _ _)

/-- Rounding does not go down beyond a number that is kept. -/
theorem le_magnitude_roundWithAccuracy (s : Sign) (he : e ≤ target m e) (hn : n < 2 ^ 53)
    (hf : -1074 ≤ f) (h : (n : ℚ) * 2 ^ f ≤ m * 2 ^ e) :
    n * 2 ^ f ≤ magnitude (roundWithAccuracy Format.binary64 s m e .exact) := by
  have hrounded := mantissa_le_roundedMantissa (shifted m e .exact)
  rw [magnitude_roundWithAccuracy s _ he]
  rcases lt_or_ge f (target m e) with hlt | hge
  · exact (mul_zpow_lt_shifted he hn hf hlt).le.trans (by gcongr)
  · rw [mul_zpow_le_iff_left hge]
    refine le_trans ?_ hrounded
    rw [mantissa_shifted_eq, Nat.le_div_iff_mul_le (by positivity)]
    have hnat := (mul_zpow_le_iff_left (he.trans hge) n m).1 h
    have hpow : (f - e).toNat = (f - target m e).toNat + (target m e - e).toNat := by omega
    rwa [hpow, Nat.pow_add, ← Nat.mul_assoc] at hnat

end Rounding

theorem exact_withSign_positive (u : UnpackedFloat) :
    exact (withSign .positive u) = magnitude u := by
  cases u <;> rfl

theorem exact_withSign_negative (u : UnpackedFloat) :
    exact (withSign .negative u) = -magnitude u := by
  cases u
  case finite m e hm => exact exact_negative hm
  all_goals exact neg_zero.symm

/-- Rounding gives a number of the sign that it is handed. -/
theorem withSign_roundWithAccuracy (s s' : Sign) {m : Nat} {e : Int} (he : e ≤ target m e) :
    withSign s (roundWithAccuracy Format.binary64 s' m e .exact) =
      roundWithAccuracy Format.binary64 s m e .exact := by
  rw [roundWithAccuracy_eq _ _ he, roundWithAccuracy_eq _ _ he]
  split
  · rfl
  · split <;> rfl

theorem magnitude_nonneg (u : UnpackedFloat) : 0 ≤ magnitude u := by
  rw [← abs_exact]
  exact abs_nonneg _

theorem eq_finite_of_exact_pos {u : UnpackedFloat} (h : 0 < exact u) :
    ∃ m e, ∃ hm : 0 < m, u = .finite .positive m e hm := by
  rcases u with _ | _ | _ | ⟨_ | _, m, e, hm⟩
  case finite.negative =>
    rw [exact_negative] at h
    exact absurd (mul_zpow_pos hm e) (by linarith)
  case finite.positive => exact ⟨m, e, hm, rfl⟩
  all_goals exact absurd h (lt_irrefl 0)

/-- `u` is `q` up to rounding that keeps the order to every number that is kept. -/
structure IsRounding (q : ℚ) (u : UnpackedFloat) : Prop where
  le : ∀ {z : UnpackedFloat}, IsCanonical z → q ≤ exact z → exact u ≤ exact z
  ge : ∀ {z : UnpackedFloat}, IsCanonical z → exact z ≤ q → exact z ≤ exact u

theorem isRounding_exact (u : UnpackedFloat) : IsRounding (exact u) u :=
  ⟨fun _ h => h, fun _ h => h⟩

theorem IsCanonical.neg {u : UnpackedFloat} (h : IsCanonical u) : IsCanonical u.neg := by
  cases u <;> exact h

theorem IsRounding.neg {q : ℚ} {u v : UnpackedFloat} (h : IsRounding q u)
    (hv : exact v = -exact u) : IsRounding (-q) v := by
  constructor
  · intro z hz hle
    have hge := h.ge hz.neg ((exact_neg z).trans_le (neg_le.1 hle))
    rw [exact_neg] at hge
    exact hv.trans_le (neg_le.1 hge)
  · intro z hz hge
    have hle := h.le hz.neg ((le_neg.1 hge).trans_eq (exact_neg z).symm)
    rw [exact_neg] at hle
    exact (le_neg.1 hle).trans_eq hv.symm

theorem exact_roundWithAccuracy_positive {m : Nat} {e : Int} (a : Accuracy)
    (he : e ≤ target m e) :
    exact (roundWithAccuracy Format.binary64 .positive m e a) =
      magnitude (roundWithAccuracy Format.binary64 .positive m e a) := by
  rw [roundWithAccuracy_eq _ _ he]
  split
  · rfl
  · split <;> rfl

theorem isRounding_roundWithAccuracy_positive {m : Nat} (hm : 0 < m) {e : Int}
    (he : e ≤ target m e) :
    IsRounding (m * 2 ^ e) (roundWithAccuracy Format.binary64 .positive m e .exact) := by
  have hexact := exact_roundWithAccuracy_positive .exact he
  constructor
  · intro z hz hle
    obtain ⟨n, f, hn, rfl⟩ := eq_finite_of_exact_pos ((mul_zpow_pos hm e).trans_le hle)
    rw [hexact]
    exact magnitude_roundWithAccuracy_le_of_le _ he hz.1 hz.2.1 hle
  · intro z hz hge
    rw [hexact]
    by_cases hpos : 0 < exact z
    · obtain ⟨n, f, hn, rfl⟩ := eq_finite_of_exact_pos hpos
      exact le_magnitude_roundWithAccuracy _ he hz.1 hz.2.1 hge
    · exact (not_lt.1 hpos).trans (magnitude_nonneg _)

theorem isRounding_roundWithAccuracy (s : Sign) {m : Nat} (hm : 0 < m) {e : Int}
    (he : e ≤ target m e) :
    IsRounding ((s.apply m : ℤ) * 2 ^ e) (roundWithAccuracy Format.binary64 s m e .exact) := by
  have hpositive := isRounding_roundWithAccuracy_positive hm he
  cases s
  · rw [Sign.apply, Int.cast_neg, neg_mul, Int.cast_natCast]
    apply hpositive.neg
    rw [← withSign_roundWithAccuracy .negative .positive he, exact_withSign_negative,
      ← exact_withSign_positive, withSign_roundWithAccuracy _ _ he]
  · exact hpositive

theorem isRounding_round (s : Sign) {m : Nat} (hm : 0 < m) (e : Int) :
    IsRounding ((s.apply m : ℤ) * 2 ^ e) (round Format.binary64 s m e) := by
  have hshift : ((s.apply m : ℤ) : ℚ) * 2 ^ e =
      (s.apply (m <<< (e - target m e).toNat : Nat) : ℤ) *
        2 ^ (e - (e - target m e).toNat) := by
    have hsame := shiftLeft_mul_zpow m e (e - target m e).toNat
    cases s
    · rw [Sign.apply, Sign.apply, Int.cast_neg, Int.cast_neg, neg_mul, neg_mul]
      exact congrArg Neg.neg hsame.symm
    · exact hsame.symm
  have hpos : 0 < m <<< (e - target m e).toNat := by
    rw [Nat.shiftLeft_eq]
    positivity
  rw [round_eq, hshift]
  exact isRounding_roundWithAccuracy s hpos (le_target_shiftLeft hm.ne' e)

theorem isRounding_normalize (m e : Int) (s : Sign) :
    IsRounding (m * 2 ^ e) (normalize Format.binary64 m e s) := by
  rcases lt_trichotomy m 0 with hm | rfl | hm
  · obtain ⟨k, rfl⟩ : ∃ k : Nat, m = -k := ⟨(-m).toNat, by omega⟩
    rw [UnpackedFloat.normalize, compare_lt_iff_lt.2 hm, neg_neg, Int.toNat_natCast]
    exact isRounding_round .negative (by omega) e
  · simpa [UnpackedFloat.normalize] using isRounding_exact (.zero s)
  · obtain ⟨k, rfl⟩ : ∃ k : Nat, m = k := ⟨m.toNat, by omega⟩
    rw [UnpackedFloat.normalize, compare_gt_iff_gt.2 hm, Int.toNat_natCast]
    exact isRounding_round .positive (by omega) e

/-- A number on a smaller exponent. -/
theorem exact_finite_eq (s : Sign) {m : Nat} {e g : Int} (hg : g ≤ e) (hm : 0 < m) :
    exact (.finite s m e hm) = (s.apply (m <<< (e - g).toNat : Nat) : ℤ) * 2 ^ g := by
  cases s
  · rw [exact_negative, mul_zpow_eq hg, ← Nat.shiftLeft_eq, Sign.apply, Int.cast_neg, neg_mul,
      Int.cast_natCast]
  · rw [exact_positive, mul_zpow_eq hg, ← Nat.shiftLeft_eq, Sign.apply, Int.cast_natCast]

/-- **A sum of finite numbers is rounded so that it keeps the order.** -/
theorem isRounding_add {u v : UnpackedFloat} (hu : u.isFinite = true) (hv : v.isFinite = true) :
    IsRounding (exact u + exact v) (u.add Format.binary64 v) := by
  rcases u with s | _ | s | ⟨s, m, e, hm⟩
  any_goals cases hu
  all_goals rcases v with s' | _ | s' | ⟨s', m', e', hm'⟩
  any_goals cases hv
  · rw [exact_zero, exact_zero, add_zero]
    show IsRounding 0 (if _ then _ else _)
    split <;> exact isRounding_exact (.zero _)
  · rw [exact_zero, zero_add]
    exact isRounding_exact (.finite s' m' e' hm')
  · rw [exact_zero, add_zero]
    exact isRounding_exact (.finite s m e hm)
  · rw [exact_finite_eq s (min_le_left e e'), exact_finite_eq s' (min_le_right e e'), ← add_mul,
      ← Int.cast_add]
    exact isRounding_normalize _ _ _

theorem apply_mul (s s' : Sign) (m n : Nat) :
    (s * s').apply (m * n : Nat) = s.apply m * s'.apply n := by
  cases s <;> cases s'
  · exact (Int.neg_mul_neg m n).symm
  · exact (Int.neg_mul m n).symm
  · exact (Int.mul_neg m n).symm
  · rfl

/-- **A product of finite numbers is rounded so that it keeps the order.** -/
theorem isRounding_mul {u v : UnpackedFloat} (hu : IsCanonical u) (hv : IsCanonical v)
    (hfu : u.isFinite = true) (hfv : v.isFinite = true) :
    IsRounding (exact u * exact v) (u.mul Format.binary64 v) := by
  rcases u with s | _ | s | ⟨s, m, e, hm⟩
  any_goals cases hfu
  all_goals rcases v with s' | _ | s' | ⟨s', m', e', hm'⟩
  any_goals cases hfv
  · rw [exact_zero, zero_mul]
    exact isRounding_exact (.zero _)
  · rw [exact_zero, zero_mul]
    exact isRounding_exact (.zero _)
  · rw [exact_zero, mul_zero]
    exact isRounding_exact (.zero _)
  · have hproduct : exact (.finite s m e hm) * exact (.finite s' m' e' hm') =
        ((s * s').apply (m * m' : Nat) : ℤ) * 2 ^ (e + e') := by
      rw [apply_mul, Int.cast_mul, zpow_add₀ (by norm_num)]
      exact mul_mul_mul_comm _ _ _ _
    rw [hproduct]
    exact isRounding_roundWithAccuracy _ (Nat.mul_pos hm hm')
      (le_target_mul hm.ne' hm'.ne' hu.2.2 hv.2.2)

/-- What needs no rounding is not rounded. -/
theorem IsRounding.exact_eq {q : ℚ} {u z : UnpackedFloat} (h : IsRounding q u)
    (hz : IsCanonical z) (hq : exact z = q) : exact u = q :=
  le_antisymm ((h.le hz hq.ge).trans_eq hq) (hq.ge.trans (h.ge hz hq.le))

/-! ## Overflow -/

theorem two_pow_mul_zpow {n k : Nat} {f : Int} (hf : f = k) :
    ((2 ^ n : Nat) : ℚ) * 2 ^ f = 2 ^ (n + k) := by
  rw [hf, zpow_natCast, Nat.cast_pow, Nat.cast_ofNat, ← pow_add]

theorem magnitude_lt {m : Nat} {e : Int} (hm : 0 < m) (s : Sign) (hbits : m < 2 ^ 53)
    (hmost : e ≤ 971) : magnitude (.finite s m e hm) < 2 ^ 1024 := by
  calc (m : ℚ) * 2 ^ e ≤ m * 2 ^ (971 : ℤ) := by gcongr; norm_num
    _ < ((2 ^ 53 : Nat) : ℚ) * 2 ^ (971 : ℤ) := by gcongr
    _ = 2 ^ 1024 := two_pow_mul_zpow (k := 971) rfl

theorem le_magnitude {m : Nat} {e : Int} (hm : 0 < m) (s : Sign) (hnormal : 2 ^ 52 ≤ m)
    (hlarge : 972 ≤ e) : 2 ^ 1024 ≤ magnitude (.finite s m e hm) := by
  calc (2 : ℚ) ^ 1024 = ((2 ^ 52 : Nat) : ℚ) * 2 ^ (972 : ℤ) :=
        (two_pow_mul_zpow (k := 972) rfl).symm
    _ ≤ m * 2 ^ (972 : ℤ) := by gcongr
    _ ≤ m * 2 ^ e := by gcongr; norm_num

/-- What has an exponent that does not fit is kept as infinite. -/
theorem unpack_pack_of_lt (s : Sign) {m : Nat} {e : Int} (hm : 0 < m) (he : 971 < e) :
    unpack Format.binary64 (pack Format.binary64 (.finite s m e hm)) = .infinity s := by
  have hbiased : 2 ^ Format.binary64.exponentBits ≤ (e + (Format.binary64.exponentBias : Int) +
      (Format.binary64.mantissaBitsWithoutImplicit : Int)).toNat + 1 := by
    rw [exponentBias_binary64]
    show 2 ^ 11 ≤ (e + 1023 + 52).toNat + 1
    omega
  rw [UnpackedFloat.pack]
  dsimp only
  rw [if_pos hbiased]
  cases s <;> rfl

/-- A canonical number is kept, or it is too large and becomes infinite. -/
theorem unpack_pack_cases {u : UnpackedFloat} (hu : IsCanonical u) (hfinite : u.isFinite = true) :
    unpack Format.binary64 (pack Format.binary64 u) = u ∧ magnitude u < 2 ^ 1024 ∨
      ∃ s, unpack Format.binary64 (pack Format.binary64 u) = .infinity s ∧
        u = withSign s u ∧ 2 ^ 1024 ≤ magnitude u := by
  rcases u with s | _ | s | ⟨s, m, e, hm⟩
  · cases hfinite
  · cases hfinite
  · exact Or.inl ⟨unpack_pack_of_isCanonical trivial (by norm_num [magnitude]),
      by norm_num [magnitude]⟩
  · obtain ⟨hbits, hleast, hfull⟩ := hu
    rcases lt_or_ge 971 e with hlt | hle
    · have hnormal : 2 ^ 52 ≤ m := hfull.resolve_right (by omega)
      exact Or.inr ⟨s, unpack_pack_of_lt s hm hlt, rfl, le_magnitude hm s hnormal hlt⟩
    · refine Or.inl ⟨?_, magnitude_lt hm s hbits hle⟩
      by_cases hnormal : 2 ^ 52 ≤ m
      · exact unpack_pack_of_normal s hm hbits hnormal hleast hle
      · obtain rfl := hfull.resolve_left hnormal
        exact unpack_pack_of_subnormal s hm (not_le.1 hnormal)

/-! ## Floats -/

/-- The number that a finite float stands for. -/
def toRat (x : Float) : ℚ := exact (value x)

section Floats

variable {x y z : Float}

theorem isCanonical_value (x : Float) : IsCanonical (value x) := isCanonical_unpack _

@[simp] theorem toRat_zero : toRat 0 = 0 := rfl

@[simp] theorem toRat_neg (x : Float) : toRat (-x) = -toRat x := by
  rw [toRat, value_neg, exact_neg, toRat]

theorem isFinite_abs (hx : Scalar.isFinite x = true) : Scalar.isFinite x.abs = true := by
  rw [isFinite_iff, value_abs]
  rw [isFinite_iff] at hx
  generalize value x = u at hx ⊢
  cases u <;> exact hx

theorem toRat_abs (x : Float) : toRat x.abs = |toRat x| := by
  rw [toRat, toRat, value_abs, exact_withSign_positive, abs_exact]

theorem compare_value (hx : Scalar.isFinite x = true) (hy : Scalar.isFinite y = true) :
    (value x).compare (value y) = some (compare (toRat x) (toRat y)) :=
  compare_eq_compare_exact (isFinite_iff.1 hx) (isFinite_iff.1 hy) (isCanonical_value x)
    (isCanonical_value y)

/-- **Finite floats are ordered like the numbers they stand for.** -/
theorem lt_iff_toRat (hx : Scalar.isFinite x = true) (hy : Scalar.isFinite y = true) :
    x < y ↔ toRat x < toRat y := by
  rw [lt_iff, UnpackedFloat.lt, compare_value hx hy, beq_iff_eq, Option.some_inj,
    compare_lt_iff_lt]

theorem le_iff_toRat (hx : Scalar.isFinite x = true) (hy : Scalar.isFinite y = true) :
    x ≤ y ↔ toRat x ≤ toRat y := by
  rw [le_iff, UnpackedFloat.le, compare_value hx hy, Option.any_some, isLE_compare_rat]

theorem beq_iff_toRat (hx : Scalar.isFinite x = true) (hy : Scalar.isFinite y = true) :
    (x == y) = true ↔ toRat x = toRat y := by
  show (value x).beq (value y) = true ↔ _
  rw [UnpackedFloat.beq, compare_value hx hy, beq_iff_eq, Option.some_inj, compare_eq_iff_eq]

theorem lt_iff_le_and_beq : x < y ↔ x ≤ y ∧ (x == y) = false := by
  have hbeq : (x == y) = (value x).beq (value y) := rfl
  rw [lt_iff, le_iff, hbeq, UnpackedFloat.lt, UnpackedFloat.le, UnpackedFloat.beq]
  rcases (value x).compare (value y) with _ | _ | _ | _ <;> decide

theorem not_le_of_lt (h : x < y) : ¬ y ≤ x := by
  intro hle
  have hnot := (lt_eq_false_of_le (le_iff.1 hle)).1
  rw [lt_iff.1 h] at hnot
  cases hnot

/-- What lies between two finite floats is finite. -/
theorem isFinite_of_le_of_le (hy : Scalar.isFinite y = true) (hz : Scalar.isFinite z = true)
    (hlower : y ≤ x) (hupper : x ≤ z) : Scalar.isFinite x = true := by
  rw [le_iff] at hlower hupper
  rw [isFinite_iff] at hy hz ⊢
  generalize value x = u at hlower hupper ⊢
  generalize value y = v at hy hlower
  generalize value z = w at hz hupper
  rcases u with (_ | _) | _ | _ | _
  · rcases v with _ | _ | _ | ⟨_ | _, _, _, _⟩ <;> first | cases hlower | cases hy
  · rcases w with _ | _ | _ | ⟨_ | _, _, _, _⟩ <;> first | cases hupper | cases hz
  · cases hupper
  · rfl
  · rfl

theorem magnitude_value_lt (hx : Scalar.isFinite x = true) : magnitude (value x) < 2 ^ 1024 := by
  have hfinite := isFinite_iff.1 hx
  rcases unpack_pack_cases (isCanonical_value x) hfinite with ⟨-, h⟩ | ⟨s, hs, -⟩
  · exact h
  · rw [unpack_pack_value x] at hs
    rw [hs] at hfinite
    cases hfinite

/-- An overflow is far beyond every finite float. -/
theorem abs_toRat_lt (hx : Scalar.isFinite x = true) {u : UnpackedFloat}
    (h : 2 ^ 1024 ≤ magnitude u) : |toRat x| < magnitude u := by
  rw [toRat, abs_exact]
  exact (magnitude_value_lt hx).trans_le h

/-- Packing keeps the order to finite floats, also where it makes a number infinite. -/
theorem le_unpack_pack {u : UnpackedFloat} (hu : IsCanonical u) (hfinite : u.isFinite = true)
    (hz : Scalar.isFinite z = true) (h : toRat z ≤ exact u) :
    (value z).le (unpack Format.binary64 (pack Format.binary64 u)) = true := by
  have hvalue := isFinite_iff.1 hz
  rcases unpack_pack_cases hu hfinite with ⟨hkept, -⟩ | ⟨s, hinfinite, hs, hlarge⟩
  · rw [hkept, UnpackedFloat.le,
      compare_eq_compare_exact hvalue hfinite (isCanonical_value z) hu]
    exact isLE_compare_rat.2 h
  · cases s
    · have hbound := abs_lt.1 (abs_toRat_lt hz hlarge)
      rw [hs, exact_withSign_negative] at h
      exact absurd hbound.1 (not_lt.2 h)
    · rw [hinfinite]
      generalize value z = w at hvalue ⊢
      rcases w with _ | _ | _ | ⟨_ | _, m, e, hm⟩ <;> first | rfl | cases hvalue

theorem unpack_pack_le {u : UnpackedFloat} (hu : IsCanonical u) (hfinite : u.isFinite = true)
    (hz : Scalar.isFinite z = true) (h : exact u ≤ toRat z) :
    (unpack Format.binary64 (pack Format.binary64 u)).le (value z) = true := by
  have hvalue := isFinite_iff.1 hz
  rcases unpack_pack_cases hu hfinite with ⟨hkept, -⟩ | ⟨s, hinfinite, hs, hlarge⟩
  · rw [hkept, UnpackedFloat.le,
      compare_eq_compare_exact hfinite hvalue hu (isCanonical_value z)]
    exact isLE_compare_rat.2 h
  · cases s
    · rw [hinfinite]
      generalize value z = w at hvalue ⊢
      rcases w with _ | _ | _ | ⟨_ | _, m, e, hm⟩ <;> first | rfl | cases hvalue
    · have hbound := abs_lt.1 (abs_toRat_lt hz hlarge)
      rw [hs, exact_withSign_positive] at h
      exact absurd hbound.2 (not_lt.2 h)

theorem isWithin_value (hx : Scalar.isFinite x = true) : IsWithin 1024 (value x) :=
  ⟨isFinite_iff.1 hx, (magnitude_value_lt hx).le⟩

/-- **A sum that is not below a float in exact arithmetic is not below it once it is rounded.** -/
theorem le_add_of_toRat_le (hx : Scalar.isFinite x = true) (hy : Scalar.isFinite y = true)
    (hz : Scalar.isFinite z = true) (h : toRat z ≤ toRat x + toRat y) : z ≤ x + y := by
  rw [le_iff]
  exact le_unpack_pack (isCanonical_add (isCanonical_value x) (isCanonical_value y))
    (isWithin_add (isWithin_value hx) (isWithin_value hy)).1 hz
    ((isRounding_add (isFinite_iff.1 hx) (isFinite_iff.1 hy)).ge (isCanonical_value z) h)

theorem add_le_of_le_toRat (hx : Scalar.isFinite x = true) (hy : Scalar.isFinite y = true)
    (hz : Scalar.isFinite z = true) (h : toRat x + toRat y ≤ toRat z) : x + y ≤ z := by
  rw [le_iff]
  exact unpack_pack_le (isCanonical_add (isCanonical_value x) (isCanonical_value y))
    (isWithin_add (isWithin_value hx) (isWithin_value hy)).1 hz
    ((isRounding_add (isFinite_iff.1 hx) (isFinite_iff.1 hy)).le (isCanonical_value z) h)

/-- **Rounding moves a sum onto a bound, but not across it.** -/
theorem add_lt_iff (hx : Scalar.isFinite x = true) (hy : Scalar.isFinite y = true)
    (hz : Scalar.isFinite z = true) :
    x + y < z ↔ toRat x + toRat y < toRat z ∧ (x + y == z) = false := by
  constructor
  · intro h
    refine ⟨?_, (lt_iff_le_and_beq.1 h).2⟩
    by_contra hnot
    exact not_le_of_lt h (le_add_of_toRat_le hx hy hz (not_lt.1 hnot))
  · rintro ⟨h, hne⟩
    exact lt_iff_le_and_beq.2 ⟨add_le_of_le_toRat hx hy hz h.le, hne⟩

theorem lt_add_iff (hx : Scalar.isFinite x = true) (hy : Scalar.isFinite y = true)
    (hz : Scalar.isFinite z = true) :
    z < x + y ↔ toRat z < toRat x + toRat y ∧ (z == x + y) = false := by
  constructor
  · intro h
    refine ⟨?_, (lt_iff_le_and_beq.1 h).2⟩
    by_contra hnot
    exact not_le_of_lt h (add_le_of_le_toRat hx hy hz (not_lt.1 hnot))
  · rintro ⟨h, hne⟩
    exact lt_iff_le_and_beq.2 ⟨le_add_of_toRat_le hx hy hz h.le, hne⟩

theorem unpacked_sub_eq_add (u v : UnpackedFloat) :
    u.sub Format.binary64 v = u.add Format.binary64 v.neg := by
  rcases u with s | _ | s | ⟨s, m, e, hm⟩ <;> rcases v with s' | _ | s' | ⟨_ | _, m', e', hm'⟩
  case finite.finite.negative =>
    show normalize _ (_ - -_) _ _ = normalize _ (_ + _) _ _
    rw [sub_neg_eq_add]
    rfl
  all_goals rfl

theorem sub_eq_add (x y : Float) : x - y = x + -y := by
  have hsum : x - y = ⟨.pack ((value x).sub Format.binary64 (value y))⟩ := rfl
  rw [hsum, unpacked_sub_eq_add, ← value_neg]
  rfl

theorem sub_lt_iff (hx : Scalar.isFinite x = true) (hy : Scalar.isFinite y = true)
    (hz : Scalar.isFinite z = true) :
    x - y < z ↔ toRat x - toRat y < toRat z ∧ (x - y == z) = false := by
  have h := add_lt_iff hx (isFinite_neg hy) hz
  rwa [toRat_neg, ← sub_eq_add, ← sub_eq_add_neg] at h

theorem lt_sub_iff (hx : Scalar.isFinite x = true) (hy : Scalar.isFinite y = true)
    (hz : Scalar.isFinite z = true) :
    z < x - y ↔ toRat z < toRat x - toRat y ∧ (z == x - y) = false := by
  have h := lt_add_iff hx (isFinite_neg hy) hz
  rwa [toRat_neg, ← sub_eq_add, ← sub_eq_add_neg] at h

/-! ### Without rounding -/

/-- The float is the number. -/
def IsExactly (x : Float) (q : ℚ) : Prop := Scalar.isFinite x = true ∧ toRat x = q

instance (x : Float) (q : ℚ) : Decidable (IsExactly x q) := inferInstanceAs (Decidable (_ ∧ _))

theorem isExactly_toRat (hx : Scalar.isFinite x = true) : IsExactly x (toRat x) := ⟨hx, rfl⟩

theorem isExactly_zero : IsExactly 0 0 := ⟨rfl, rfl⟩

theorem isExactly_one : IsExactly 1 1 := by
  refine ⟨rfl, ?_⟩
  show ((2 ^ 52 : Nat) : ℚ) * 2 ^ (-52 : ℤ) = 1
  norm_num

theorem IsExactly.neg {q : ℚ} (h : IsExactly x q) : IsExactly (-x) (-q) :=
  ⟨isFinite_neg h.1, by rw [toRat_neg, h.2]⟩

/-- What packs a number that a float stands for is that float. -/
theorem isExactly_of_unpack_pack {u : UnpackedFloat} (hu : IsCanonical u)
    (hfinite : u.isFinite = true) (hz : Scalar.isFinite z = true) (h : exact u = toRat z)
    (hx : value x = unpack Format.binary64 (pack Format.binary64 u)) : IsExactly x (toRat z) := by
  rcases unpack_pack_cases hu hfinite with ⟨hkept, -⟩ | ⟨s, -, -, hlarge⟩
  · rw [hkept] at hx
    exact ⟨isFinite_iff.2 (hx ▸ hfinite), by rw [toRat, hx, h]⟩
  · have hbound := abs_toRat_lt hz hlarge
    rw [← h, abs_exact] at hbound
    exact absurd hbound (lt_irrefl _)

/-- **A sum that a float stands for is computed without an error.** -/
theorem IsExactly.add {p q : ℚ} (hx : IsExactly x p) (hy : IsExactly y q)
    (hz : IsExactly z (p + q)) : IsExactly (x + y) (p + q) := by
  obtain ⟨hx, rfl⟩ := hx
  obtain ⟨hy, rfl⟩ := hy
  obtain ⟨hz, hsum⟩ := hz
  have hrounding := isRounding_add (isFinite_iff.1 hx) (isFinite_iff.1 hy)
  rw [← hsum]
  exact isExactly_of_unpack_pack (isCanonical_add (isCanonical_value x) (isCanonical_value y))
    (isWithin_add (isWithin_value hx) (isWithin_value hy)).1 hz
    ((hrounding.exact_eq (isCanonical_value z) hsum).trans hsum.symm) rfl

theorem IsExactly.mul {p q : ℚ} (hx : IsExactly x p) (hy : IsExactly y q)
    (hz : IsExactly z (p * q)) : IsExactly (x * y) (p * q) := by
  obtain ⟨hx, rfl⟩ := hx
  obtain ⟨hy, rfl⟩ := hy
  obtain ⟨hz, hproduct⟩ := hz
  have hrounding := isRounding_mul (isCanonical_value x) (isCanonical_value y)
    (isFinite_iff.1 hx) (isFinite_iff.1 hy)
  rw [← hproduct]
  exact isExactly_of_unpack_pack (isCanonical_mul (isCanonical_value x) (isCanonical_value y))
    (isWithin_mul (isCanonical_value x) (isCanonical_value y) (isWithin_value hx)
      (isWithin_value hy)).1 hz
    ((hrounding.exact_eq (isCanonical_value z) hproduct).trans hproduct.symm) rfl

theorem IsExactly.add_zero {q : ℚ} (h : IsExactly x q) : IsExactly (x + 0) q := by
  have hsum := h.add isExactly_zero (z := x) (by rwa [Rat.add_zero])
  rwa [Rat.add_zero] at hsum

/-- A magnitude reaches a tolerance as the number does. -/
theorem isSignificant_iff_toRat (hτ : Scalar.isFinite y = true) (hx : Scalar.isFinite x = true) :
    Scalar.isSignificant y x = true ↔ toRat y ≤ |toRat x| := by
  rw [Scalar.isSignificant, decide_eq_true_iff, ← toRat_abs]
  exact le_iff_toRat hτ (isFinite_abs hx)

theorem compare_eq_none {t u : UnpackedFloat} (h : t.compare u = none) :
    t = .notANumber ∨ u = .notANumber := by
  revert h
  rcases t with (_ | _) | _ | (_ | _) | ⟨_ | _, m, e, hm⟩ <;>
    rcases u with (_ | _) | _ | (_ | _) | ⟨_ | _, m', e', hm'⟩ <;>
    first
    | exact fun _ => Or.inl rfl
    | exact fun _ => Or.inr rfl
    | exact nofun

/-- A finite magnitude reaches a tolerance or stays below it. -/
theorem isSignificant_eq_not_isSmall {τ : Float} (hτ : 0 < τ) (hx : Scalar.isFinite x = true) :
    Scalar.isSignificant τ x = !Scalar.isSmall τ x := by
  have hle : Scalar.isSignificant τ x = (value τ).le (value x.abs) :=
    Bool.eq_iff_iff.2 (decide_eq_true_iff.trans le_iff)
  have hlt : Scalar.isSmall τ x = (value x.abs).lt (value τ) :=
    Bool.eq_iff_iff.2 (decide_eq_true_iff.trans lt_iff)
  rw [hle, hlt, UnpackedFloat.le, UnpackedFloat.lt, compare_swap (value τ)]
  cases horder : (value τ).compare (value x.abs) with
  | some order => cases order <;> rfl
  | none =>
      rcases compare_eq_none horder with hnone | hnone
      · rw [lt_iff, hnone] at hτ
        cases hτ
      · have hfinite := isFinite_iff.1 (isFinite_abs hx)
        rw [hnone] at hfinite
        cases hfinite

/-- A finite number that is not small is not zero. -/
theorem exists_value_of_isSmall_eq_false {τ : Float} (hτ : 0 < τ)
    (hx : Scalar.isFinite x = true) (hsmall : Scalar.isSmall τ x = false) :
    ∃ s m e hm, value x = .finite s m e hm := by
  have hfinite := isFinite_iff.1 hx
  cases hvalue : value x with
  | finite s m e hm => exact ⟨s, m, e, hm, rfl⟩
  | zero s =>
      have hzero : (x == 0) = true := by
        show (value x).beq (.zero .positive) = true
        rw [hvalue]
        cases s <;> rfl
      rw [isSmall_of_beq_zero hτ hzero] at hsmall
      cases hsmall
  | notANumber =>
      rw [hvalue] at hfinite
      cases hfinite
  | infinity s =>
      rw [hvalue] at hfinite
      cases hfinite

end Floats

end FloatingPoint

end LinearSystems
