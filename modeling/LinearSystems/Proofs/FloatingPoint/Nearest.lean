import Mathlib
import LinearSystems.Proofs.FloatingPoint.Order

/-!
# Rounding depends on the exact result

An operation hands over its result as a mantissa with an exponent and with the accuracy of the
mantissa, and there are many such ways to write one number.  The mantissa and the two bits that are
kept beside it stand for a number up to the half unit that it lies in
(`FloatingPoint.Represents`), so what is rounded, and to what exponent, depends on the exact result
only: two ways to write it are rounded to the same number (`FloatingPoint.RoundsTo.unique`).

Sums, products and quotients are the rounded exact ones (`FloatingPoint.roundsTo_mul`,
`FloatingPoint.roundsTo_div`, `FloatingPoint.roundsTo_round`).
-/

namespace LinearSystems

namespace FloatingPoint

open Float.Model Float.Model.UnpackedFloat

theorem two_zpow_pos (k : Int) : (0 : ℚ) < 2 ^ k := zpow_pos (by norm_num) k

/-! ## A mantissa with two more bits -/

/-- The bits beside the mantissa say in which half of the unit above it the number lies, and whether
it is one of the ends. -/
def Represents : ExtendedMantissa → ℚ → Prop
  | ⟨m, false, false⟩, q => q = m
  | ⟨m, false, true⟩, q => m < q ∧ q < m + 1 / 2
  | ⟨m, true, false⟩, q => q = m + 1 / 2
  | ⟨m, true, true⟩, q => m + 1 / 2 < q ∧ q < m + 1

section Represents

variable {x y : ExtendedMantissa} {q : ℚ}

theorem Represents.mantissa_le (h : Represents x q) : (x.mantissa : ℚ) ≤ q := by
  obtain ⟨m, _ | _, _ | _⟩ := x
  · exact (show q = m from h).ge
  · exact h.1.le
  · linarith [show q = m + 1 / 2 from h]
  · linarith [h.1]

theorem Represents.lt_mantissa_add_one (h : Represents x q) : q < x.mantissa + 1 := by
  obtain ⟨m, _ | _, _ | _⟩ := x
  · linarith [show q = m from h]
  · linarith [h.2]
  · linarith [show q = m + 1 / 2 from h]
  · exact h.2

/-- **The mantissa and its bits are determined by the number.** -/
theorem Represents.unique (hx : Represents x q) (hy : Represents y q) : x = y := by
  have hmantissa : x.mantissa = y.mantissa := by
    have hle : (x.mantissa : ℚ) < (y.mantissa + 1 : Nat) := by
      exact_mod_cast hx.mantissa_le.trans_lt hy.lt_mantissa_add_one
    have hge : (y.mantissa : ℚ) < (x.mantissa + 1 : Nat) := by
      exact_mod_cast hy.mantissa_le.trans_lt hx.lt_mantissa_add_one
    rw [Nat.cast_lt] at hle hge
    omega
  obtain ⟨m, r, s⟩ := x
  obtain ⟨n, r', s'⟩ := y
  obtain rfl : m = n := hmantissa
  cases r <;> cases s <;> cases r' <;> cases s' <;> simp only [Represents] at hx hy <;>
    first | rfl | (exfalso; linarith)

theorem Represents.shiftRightOne (h : Represents x q) : Represents x.shiftRightOne (q / 2) := by
  obtain ⟨m, r, s⟩ := x
  rcases Nat.even_or_odd' m with ⟨n, rfl | rfl⟩
  · have hhalf : 2 * n / 2 = n := by omega
    cases r <;> cases s <;>
      simp [Represents, ExtendedMantissa.shiftRightOne, hhalf] at h ⊢ <;>
      first | linarith | (constructor <;> linarith)
  · have hhalf : (2 * n + 1) / 2 = n := by omega
    cases r <;> cases s <;>
      simp [Represents, ExtendedMantissa.shiftRightOne, hhalf] at h ⊢ <;>
      first | linarith | (constructor <;> linarith)

/-- Bits that are shifted out are not forgotten as far as rounding is concerned. -/
theorem Represents.shiftRight (h : Represents x q) (n : Nat) :
    Represents (x >>> n) (q / 2 ^ n) := by
  induction n with
  | zero => rwa [pow_zero, div_one]
  | succ n ih =>
      rw [pow_succ, ← div_div]
      exact ih.shiftRightOne

theorem represents_exact (m : Nat) : Represents (.ofMantissaAndAccuracy m .exact) m := rfl

/-- A quotient of mantissas is handed over with its remainder compared to half the divisor. -/
theorem represents_quotient (m : Nat) {n : Nat} (hn : 0 < n) :
    Represents (.ofMantissaAndAccuracy (m / n) (accuracyOfFraction (m % n) n)) (m / n) := by
  have hpos : (0 : ℚ) < n := Nat.cast_pos.2 hn
  have hsplit : (m : ℚ) / n = (m / n : Nat) + (m % n : Nat) / (n : ℚ) := by
    rw [eq_comm, ← mul_div_cancel_left₀ ((m / n : Nat) : ℚ) hpos.ne', ← add_div]
    exact congrArg (· / (n : ℚ)) (by exact_mod_cast Nat.div_add_mod m n)
  have hbelow : ((m % n : Nat) : ℚ) / n < 1 := by
    rw [div_lt_one hpos]
    exact_mod_cast Nat.mod_lt m hn
  rw [hsplit]
  generalize m / n = d
  generalize m % n = r at hbelow
  rcases Nat.eq_zero_or_pos r with rfl | hr
  · rw [Nat.cast_zero, zero_div, add_zero]
    exact represents_exact d
  · have habove : (0 : ℚ) < (r : ℚ) / n := div_pos (Nat.cast_pos.2 hr) hpos
    rw [accuracyOfFraction, if_neg hr.ne']
    rcases lt_trichotomy (2 * r) n with h | h | h
    · have hhalf : (r : ℚ) / n < 1 / 2 := by
        rw [div_lt_div_iff₀ hpos two_pos, one_mul, mul_comm]
        exact_mod_cast h
      rw [compare_lt_iff_lt.2 h]
      exact ⟨by linarith, by linarith⟩
    · have hhalf : (r : ℚ) / n = 1 / 2 := by
        rw [div_eq_div_iff hpos.ne' two_ne_zero, one_mul, mul_comm]
        exact_mod_cast h
      rw [compare_eq_iff_eq.2 h]
      exact congrArg _ hhalf
    · have hhalf : 1 / 2 < (r : ℚ) / n := by
        rw [div_lt_div_iff₀ two_pos hpos, one_mul, mul_comm]
        exact_mod_cast h
      rw [compare_gt_iff_gt.2 h]
      exact ⟨by linarith, by linarith⟩

end Represents

/-! ## What is rounded -/

section RoundsTo

variable {m m' : Nat} {e e' k t : Int} {a a' : Accuracy} {v : ℚ} {s : Sign} {u u' : UnpackedFloat}

/-- **The exponent to which a number is rounded, by its magnitude.** -/
theorem target_le_iff (he : e ≤ target m e) (hlower : (m : ℚ) * 2 ^ e ≤ v)
    (hupper : v < (m + 1) * 2 ^ e) : target m e ≤ t ↔ -1074 ≤ t ∧ v < 2 ^ (t + 53) := by
  rw [target, max_le_iff, and_comm]
  refine and_congr_right fun ht => ⟨fun hlog => ?_, fun hv => ?_⟩
  · have hbits : ((m : ℚ) + 1) ≤ 2 ^ ((m.log2 : Int) + 1) := by
      exact_mod_cast Nat.succ_le_of_lt (Nat.lt_log2_self (n := m))
    calc v < (m + 1) * 2 ^ e := hupper
      _ ≤ 2 ^ ((m.log2 : Int) + 1) * 2 ^ e := mul_le_mul_of_nonneg_right hbits (two_zpow_pos e).le
      _ = 2 ^ ((m.log2 : Int) + 1 + e) := (zpow_add₀ (by norm_num) _ _).symm
      _ ≤ 2 ^ (t + 53) := zpow_le_zpow_right₀ (by norm_num) (by omega)
  · rcases eq_or_ne m 0 with rfl | hm
    · rw [target, Nat.log2_zero] at he
      rw [Nat.log2_zero]
      omega
    · have hlog : (2 : ℚ) ^ (m.log2 : Int) ≤ m := by
        exact_mod_cast Nat.log2_self_le hm
      have hlt : (2 : ℚ) ^ ((m.log2 : Int) + e) < 2 ^ (t + 53) := by
        rw [zpow_add₀ (by norm_num)]
        exact ((mul_le_mul_of_nonneg_right hlog (two_zpow_pos e).le).trans hlower).trans_lt hv
      have hexponent := (zpow_lt_zpow_iff_right₀ (by norm_num : (1 : ℚ) < 2)).1 hlt
      omega

/-- A mantissa with an exponent and an accuracy stands for a positive number, and the exponent is
not above the one to which it is rounded. -/
structure Writes (m : Nat) (e : Int) (a : Accuracy) (v : ℚ) : Prop where
  le_target : e ≤ target m e
  represents : Represents (.ofMantissaAndAccuracy m a) (v / 2 ^ e)

namespace Writes

theorem mul_le (h : Writes m e a v) : (m : ℚ) * 2 ^ e ≤ v := by
  have hle := h.represents.mantissa_le
  rwa [mantissa_ofMantissaAndAccuracy, le_div_iff₀ (two_zpow_pos e)] at hle

theorem lt_mul (h : Writes m e a v) : v < (m + 1) * 2 ^ e := by
  have hlt := h.represents.lt_mantissa_add_one
  rwa [mantissa_ofMantissaAndAccuracy, div_lt_iff₀ (two_zpow_pos e)] at hlt

theorem target_le_iff (h : Writes m e a v) : target m e ≤ t ↔ -1074 ≤ t ∧ v < 2 ^ (t + 53) :=
  FloatingPoint.target_le_iff h.le_target h.mul_le h.lt_mul

/-- What is left after the shift still stands for the number, on its new exponent. -/
theorem represents_shifted (h : Writes m e a v) :
    Represents (shifted m e a) (v / 2 ^ target m e) := by
  have hexponent : target m e = e + ((target m e - e).toNat : Int) := by
    have hle := h.le_target
    omega
  have hshift := h.represents.shiftRight (target m e - e).toNat
  rw [div_div, ← zpow_natCast, ← zpow_add₀ (by norm_num), ← hexponent] at hshift
  exact hshift

end Writes

/-- `u` is the positive number `v`, rounded, with a sign. -/
def RoundsTo (s : Sign) (v : ℚ) (u : UnpackedFloat) : Prop :=
  ∃ m e a, Writes m e a v ∧ u = roundWithAccuracy Format.binary64 s m e a

/-- **One number is rounded in one way, however it is written.** -/
theorem RoundsTo.unique (h : RoundsTo s v u) (h' : RoundsTo s v u') : u = u' := by
  obtain ⟨m, e, a, hv, rfl⟩ := h
  obtain ⟨m', e', a', hv', rfl⟩ := h'
  have htarget : target m e = target m' e' :=
    eq_of_forall_ge_iff fun t => hv.target_le_iff.trans hv'.target_le_iff.symm
  have hshifted := hv.represents_shifted
  rw [htarget] at hshifted
  rw [roundWithAccuracy_eq s a hv.le_target, roundWithAccuracy_eq s a' hv'.le_target, htarget,
    hshifted.unique hv'.represents_shifted]

/-! ## Operations -/

variable {n : Nat} {f : Int} {s' : Sign}

theorem writes_exact (he : e ≤ target m e) (hv : (m : ℚ) * 2 ^ e = v) : Writes m e .exact v := by
  refine ⟨he, ?_⟩
  rw [← hv, mul_div_cancel_right₀ _ (two_zpow_pos e).ne']
  exact represents_exact m

theorem roundsTo_round (s : Sign) (hm : m ≠ 0) (hv : (m : ℚ) * 2 ^ e = v) :
    RoundsTo s v (round Format.binary64 s m e) :=
  ⟨_, _, _, writes_exact (le_target_shiftLeft hm e) ((shiftLeft_mul_zpow m e _).trans hv),
    round_eq s m e⟩

theorem roundsTo_mul {hm : 0 < m} {hn : 0 < n} (hu : IsCanonical (.finite s m e hm))
    (hv : IsCanonical (.finite s' n f hn)) :
    RoundsTo (s * s') (m * 2 ^ e * (n * 2 ^ f))
      ((UnpackedFloat.finite s m e hm).mul Format.binary64 (.finite s' n f hn)) := by
  refine ⟨m * n, e + f, .exact,
    writes_exact (le_target_mul hm.ne' hn.ne' hu.2.2 hv.2.2) ?_, rfl⟩
  rw [zpow_add₀ (by norm_num), Nat.cast_mul]
  exact mul_mul_mul_comm _ _ _ _

theorem roundsTo_div (hm : 0 < m) (hn : 0 < n) :
    RoundsTo (s / s') (m * 2 ^ e / (n * 2 ^ f))
      ((UnpackedFloat.finite s m e hm).div Format.binary64 (.finite s' n f hn)) := by
  refine ⟨_, _, _, ⟨le_target_quotient hm.ne' hn.ne' e f, ?_⟩, div_finite_eq hm hn⟩
  have hle : quotientExponent m e n f ≤ e - f := min_le_left _ _
  generalize quotientExponent m e n f = g at hle ⊢
  have hshift : e = f + g + ((e - f - g).toNat : Int) := by omega
  have hvalue : (m : ℚ) * 2 ^ e / (n * 2 ^ f) / 2 ^ g =
      (m <<< (e - f - g).toNat : Nat) / (n : ℚ) := by
    rw [div_div, mul_assoc, ← zpow_add₀ (by norm_num)]
    conv_lhs => rw [hshift, zpow_add₀ (by norm_num), zpow_natCast, mul_left_comm,
      mul_comm (n : ℚ), mul_div_mul_left _ _ (two_zpow_pos _).ne']
    rw [Nat.shiftLeft_eq, Nat.cast_mul, Nat.cast_pow, Nat.cast_ofNat]
  rw [hvalue]
  exact represents_quotient _ hn

end RoundsTo

end FloatingPoint

end LinearSystems
