import Mathlib
import LinearSystems.Proofs.FloatingPoint

/-!
# Rounding

An operation on binary floating point computes a mantissa with an exponent and rounds it: bits are
shifted out until 53 are left or the exponent is the least one, and the mantissa is rounded to the
nearest.  What comes out is canonical (`FloatingPoint.isCanonical_roundWithAccuracy`), and a power
of two that bounds the exact result bounds the rounded one
(`FloatingPoint.magnitude_roundWithAccuracy_le`): powers of two are never rounded.

A canonical number that is not too large survives the way through the 64 bits
(`FloatingPoint.unpack_pack_of_isCanonical`).
-/

namespace LinearSystems

namespace FloatingPoint

open Float.Model Float.Model.UnpackedFloat

/-! ## Magnitudes -/

/-- The magnitude of a number; zero for what is none. -/
def magnitude : UnpackedFloat → ℚ
  | .finite _ m e _ => m * 2 ^ e
  | _ => 0

/-- A mantissa on a smaller exponent. -/
theorem mul_zpow_eq {e g : Int} (h : g ≤ e) (m : Nat) :
    (m : ℚ) * 2 ^ e = ((m * 2 ^ (e - g).toNat : Nat) : ℚ) * 2 ^ g := by
  obtain ⟨n, rfl⟩ := Int.exists_add_of_le h
  rw [add_sub_cancel_left, Int.toNat_natCast, zpow_add₀ (by norm_num), zpow_natCast]
  push_cast
  ring

/-- Magnitudes are compared on a common exponent. -/
theorem mul_zpow_le_iff {e f g : Int} (he : g ≤ e) (hf : g ≤ f) (m n : Nat) :
    (m : ℚ) * 2 ^ e ≤ n * 2 ^ f ↔ m * 2 ^ (e - g).toNat ≤ n * 2 ^ (f - g).toNat := by
  rw [mul_zpow_eq he, mul_zpow_eq hf, mul_le_mul_iff_left₀ (zpow_pos (by norm_num) g)]
  exact Nat.cast_le

theorem mul_zpow_le_iff_right {e f : Int} (h : e ≤ f) (m n : Nat) :
    (m : ℚ) * 2 ^ e ≤ n * 2 ^ f ↔ m ≤ n * 2 ^ (f - e).toNat := by
  rw [mul_zpow_le_iff le_rfl h, sub_self, Int.toNat_zero, Nat.pow_zero, Nat.mul_one]

theorem mul_zpow_le_iff_left {e f : Int} (h : f ≤ e) (m n : Nat) :
    (m : ℚ) * 2 ^ e ≤ n * 2 ^ f ↔ m * 2 ^ (e - f).toNat ≤ n := by
  rw [mul_zpow_le_iff h le_rfl, sub_self, Int.toNat_zero, Nat.pow_zero, Nat.mul_one]

/-- A mantissa that is not zero has at most the exponent of the power of two that bounds it. -/
theorem log2_add_le {m : Nat} (hm : m ≠ 0) {e k : Int} (h : (m : ℚ) * 2 ^ e ≤ 2 ^ k) :
    (m.log2 : Int) + e ≤ k := by
  have hlog : (2 : ℚ) ^ (m.log2 : Int) ≤ m := by
    rw [zpow_natCast]
    exact_mod_cast Nat.log2_self_le hm
  have hpow : (2 : ℚ) ^ ((m.log2 : Int) + e) ≤ 2 ^ k := by
    rw [zpow_add₀ (by norm_num)]
    exact (mul_le_mul_of_nonneg_right hlog (zpow_pos (by norm_num) e).le).trans h
  exact (zpow_le_zpow_iff_right₀ (by norm_num)).1 hpow

/-! ## Rounding -/

/-- What is left of the mantissa when bits are shifted out. -/
theorem mantissa_shift (x : ExtendedMantissa) (n : Nat) :
    (x >>> n).mantissa = x.mantissa / 2 ^ n := by
  induction n with
  | zero => exact (Nat.div_one _).symm
  | succ n ih =>
      show (x >>> n).mantissa / 2 = _
      rw [ih, Nat.div_div_eq_div_mul, Nat.pow_succ]

/-- The mantissa, counted one higher if anything was shifted out. -/
def ceiling (x : ExtendedMantissa) : Nat := x.mantissa + (x.roundBit || x.stickyBit).toNat

theorem ceiling_shiftRightOne_le {x : ExtendedMantissa} {n : Nat} (h : ceiling x ≤ 2 * n) :
    ceiling x.shiftRightOne ≤ n := by
  obtain ⟨m, r, s⟩ := x
  simp only [ceiling, ExtendedMantissa.shiftRightOne] at h ⊢
  cases r <;> cases s <;> rcases Nat.mod_two_eq_zero_or_one m with hm | hm <;>
    simp [hm] at h ⊢ <;> omega

theorem ceiling_shift_le {x : ExtendedMantissa} {n k : Nat} (h : ceiling x ≤ 2 ^ k * n) :
    ceiling (x >>> k) ≤ n := by
  induction k generalizing n with
  | zero => rwa [Nat.pow_zero, Nat.one_mul] at h
  | succ k ih =>
      apply ceiling_shiftRightOne_le
      apply ih
      rwa [← Nat.mul_assoc, ← Nat.pow_succ]

theorem mantissa_le_roundedMantissa (x : ExtendedMantissa) :
    x.mantissa ≤ x.roundedMantissa := by
  obtain ⟨m, r, s⟩ := x
  cases r <;> cases s <;>
    simp [ExtendedMantissa.roundedMantissa, ExtendedMantissa.accuracy, Accuracy.roundToNearestEven]

theorem roundedMantissa_le_ceiling (x : ExtendedMantissa) : x.roundedMantissa ≤ ceiling x := by
  obtain ⟨m, r, s⟩ := x
  cases r <;> cases s <;>
    simp [ExtendedMantissa.roundedMantissa, ExtendedMantissa.accuracy,
      Accuracy.roundToNearestEven, ceiling]
  omega

theorem ceiling_le (x : ExtendedMantissa) : ceiling x ≤ x.mantissa + 1 :=
  Nat.add_le_add_left (Bool.toNat_le _) _

/-- The exponent that leaves at most 53 bits, if that is not below the least one. -/
def target (m : Nat) (e : Int) : Int := max (m.log2 + e - 52) (-1074)

theorem targetExponent_eq (m : Nat) (e : Int) :
    Format.binary64.targetExponent (totalExponent m e) = target m e := by
  simp only [Format.targetExponent, totalExponent, Format.mantissaBits, Format.minExponent, target]
  norm_num
  omega

theorem mantissa_ofMantissaAndAccuracy (m : Nat) (a : Accuracy) :
    (ExtendedMantissa.ofMantissaAndAccuracy m a).mantissa = m := by
  rcases a with _ | _ | _ | _ <;> rfl

/-- The mantissa once its last bits are shifted out. -/
def shifted (m : Nat) (e : Int) (a : Accuracy) : ExtendedMantissa :=
  ExtendedMantissa.ofMantissaAndAccuracy m a >>> (target m e - e).toNat

theorem shiftToTargetExponent_eq {m : Nat} {e : Int} (a : Accuracy) (he : e ≤ target m e) :
    shiftToTargetExponent Format.binary64 m e a = (shifted m e a, target m e) := by
  have hexponent : e + ((target m e - e).toNat : Int) = target m e := by omega
  rw [shiftToTargetExponent, targetExponent_eq, shiftToExponent, hexponent]
  rfl

/-- A mantissa that needs no shift keeps its exponent. -/
theorem shiftToTargetExponent_eq_self {m : Nat} {e : Int} (he : target m e ≤ e) :
    shiftToTargetExponent Format.binary64 m e .exact = (⟨m, false, false⟩, e) := by
  have hshift : (target m e - e).toNat = 0 := by omega
  rw [shiftToTargetExponent, targetExponent_eq, shiftToExponent, hshift]
  exact congrArg _ (Int.add_zero e)

theorem lt_of_log2_le {m k : Nat} (h : m.log2 ≤ k) : m < 2 ^ (k + 1) :=
  Nat.lt_log2_self.trans_le (Nat.pow_le_pow_right (by decide) (by omega))

theorem mantissa_shifted_eq (m : Nat) (e : Int) (a : Accuracy) :
    (shifted m e a).mantissa = m / 2 ^ (target m e - e).toNat := by
  rw [shifted, mantissa_shift, mantissa_ofMantissaAndAccuracy]

/-- The first shift leaves at most 53 bits, and all of them unless the exponent is the least one. -/
theorem mantissa_shifted {m : Nat} {e : Int} (a : Accuracy) (he : e ≤ target m e) :
    (shifted m e a).mantissa < 2 ^ 53 ∧
      (2 ^ 52 ≤ (shifted m e a).mantissa ∨ target m e = -1074) := by
  have hshift : ((target m e - e).toNat : Int) = target m e - e := Int.toNat_of_nonneg (by omega)
  rw [mantissa_shifted_eq]
  -- The shift by `n` takes `n` off the logarithm, which is 52 then or, at the least exponent, less.
  generalize hn : (target m e - e).toNat = n at hshift
  have htarget : target m e = max (m.log2 + e - 52) (-1074) := rfl
  constructor
  · rw [Nat.div_lt_iff_lt_mul (by positivity), ← Nat.pow_add, Nat.add_comm]
    exact lt_of_log2_le (by omega)
  · rw [Nat.le_div_iff_mul_le (by positivity), ← Nat.pow_add]
    by_cases hleast : target m e = -1074
    · exact Or.inr hleast
    · left
      have hne : m ≠ 0 := by
        rintro rfl
        rw [Nat.log2_zero] at htarget
        omega
      have hlog : 52 + n = m.log2 := by omega
      rw [hlog]
      exact Nat.log2_self_le hne

/-- A number as it is kept: at most 53 bits, and all of them unless its exponent is the least. -/
def IsCanonical : UnpackedFloat → Prop
  | .finite _ m e _ => m < 2 ^ 53 ∧ -1074 ≤ e ∧ (2 ^ 52 ≤ m ∨ e = -1074)
  | _ => True

theorem log2_le_of_lt {m k : Nat} (h : m < 2 ^ (k + 1)) : m.log2 ≤ k := by
  by_cases hm : m = 0
  · rw [hm, Nat.log2_zero]
    exact Nat.zero_le k
  · exact Nat.le_of_lt_succ ((Nat.log2_lt hm).2 h)

/-- A rounded mantissa that fits needs no second shift; the one that does not is `2 ^ 53`. -/
theorem roundWithAccuracy_eq (s : Sign) {m : Nat} {e : Int} (a : Accuracy)
    (he : e ≤ target m e) :
    roundWithAccuracy Format.binary64 s m e a =
      if h : (shifted m e a).roundedMantissa = 0 then .zero s
      else if (shifted m e a).roundedMantissa = 2 ^ 53 then
        .finite s (2 ^ 52) (target m e + 1) (by decide)
      else .finite s (shifted m e a).roundedMantissa (target m e) (Nat.pos_of_ne_zero h) := by
  have hleast : -1074 ≤ target m e := le_max_right _ _
  have hbound : (shifted m e a).roundedMantissa ≤ 2 ^ 53 :=
    (roundedMantissa_le_ceiling _).trans
      ((ceiling_le _).trans (Nat.succ_le_of_lt (mantissa_shifted a he).1))
  rw [roundWithAccuracy, shiftToTargetExponent_eq a he]
  dsimp only
  generalize (shifted m e a).roundedMantissa = r at hbound ⊢
  by_cases hcarry : r = 2 ^ 53
  · -- All 53 bits were ones and were rounded up; the second shift takes a zero off the end.
    have htarget : target (2 ^ 53) (target m e) = target m e + 1 := by
      rw [target, Nat.log2_two_pow]
      omega
    have hshift : shifted (2 ^ 53) (target m e) .exact = ⟨2 ^ 52, false, false⟩ := by
      rw [shifted, htarget, add_sub_cancel_left]
      rfl
    subst hcarry
    rw [shiftToTargetExponent_eq _ (by omega), hshift, htarget]
    rfl
  · have hlog : r.log2 ≤ 52 := log2_le_of_lt (by omega)
    have hself : target r (target m e) ≤ target m e := by
      rw [target]
      omega
    rw [shiftToTargetExponent_eq_self hself]
    simp only [hcarry, if_false]

theorem isCanonical_roundWithAccuracy (s : Sign) {m : Nat} {e : Int} (a : Accuracy)
    (he : e ≤ target m e) : IsCanonical (roundWithAccuracy Format.binary64 s m e a) := by
  have hleast : -1074 ≤ target m e := le_max_right _ _
  obtain ⟨hbits, hfull⟩ := mantissa_shifted a he
  have hlower := mantissa_le_roundedMantissa (shifted m e a)
  have hupper := (roundedMantissa_le_ceiling (shifted m e a)).trans (ceiling_le _)
  rw [roundWithAccuracy_eq s a he]
  split
  · trivial
  · split
    · exact ⟨by decide, by omega, Or.inl le_rfl⟩
    · next hcarry => exact ⟨by omega, hleast, hfull.imp_left fun h => h.trans hlower⟩

/-- What is rounded has the rounded mantissa on the exponent that it is rounded to. -/
theorem magnitude_roundWithAccuracy (s : Sign) {m : Nat} {e : Int} (a : Accuracy)
    (he : e ≤ target m e) :
    magnitude (roundWithAccuracy Format.binary64 s m e a) =
      (shifted m e a).roundedMantissa * 2 ^ target m e := by
  rw [roundWithAccuracy_eq s a he]
  split
  · next hzero =>
      rw [hzero, Nat.cast_zero, zero_mul]
      rfl
  · split
    · next hcarry =>
        rw [hcarry, magnitude, zpow_add_one₀ (by norm_num)]
        push_cast
        ring
    · rfl

/-- Rounding does not leave a power of two behind that bounds the mantissa rounded up. -/
theorem magnitude_roundWithAccuracy_le (s : Sign) {m : Nat} {e : Int} {a : Accuracy} {k : Nat}
    (he : e ≤ target m e) (hk : target m e ≤ k)
    (h : ceiling (.ofMantissaAndAccuracy m a) ≤ 2 ^ (k - e).toNat) :
    magnitude (roundWithAccuracy Format.binary64 s m e a) ≤ 2 ^ k := by
  have hrounded : (shifted m e a).roundedMantissa ≤ 2 ^ (k - target m e).toNat := by
    apply (roundedMantissa_le_ceiling _).trans
    apply ceiling_shift_le
    rw [← Nat.pow_add]
    exact h.trans (Nat.pow_le_pow_right (by decide) (by omega))
  have hvalue :=
    (mul_zpow_le_iff_right hk (shifted m e a).roundedMantissa 1).2 (by simpa using hrounded)
  rw [magnitude_roundWithAccuracy s a he]
  simpa using hvalue

/-! ## Numbers that are kept as they are -/

theorem unpack_normal (s : Sign) {e : BitVec 11} (he : e ≠ -1#11) (hpos : e ≠ 0#11)
    (f : BitVec 52) (hm : 0 < (1#1 ++ f).toNat) :
    unpack Format.binary64 (packComponents Format.binary64 s e f) =
      .finite s (1#1 ++ f).toNat (e.toNat - 1075) hm := by
  unfold UnpackedFloat.unpack
  simp only [unpackMantissa_packComponents, unpackExponent_packComponents,
    unpackSign_packComponents, ofBitVec_toBitVec]
  rw [if_neg he, if_neg hpos]
  rfl

theorem unpack_subnormal (s : Sign) (f : BitVec 52) (hm : 0 < f.toNat) :
    unpack Format.binary64 (packComponents Format.binary64 s 0#11 f) =
      .finite s f.toNat (-1074) hm := by
  have hf : f ≠ 0#52 := by
    rintro rfl
    exact absurd hm (lt_irrefl 0)
  unfold UnpackedFloat.unpack
  simp only [unpackMantissa_packComponents, unpackExponent_packComponents,
    unpackSign_packComponents, ofBitVec_toBitVec]
  rw [if_neg (by decide), if_pos trivial, dif_neg hf]
  rfl

theorem toNat_one_append (f : BitVec 52) : (1#1 ++ f).toNat = 2 ^ 52 + f.toNat := by
  rw [BitVec.toNat_append, ← Nat.shiftLeft_add_eq_or_of_lt f.isLt, Nat.shiftLeft_eq]
  rfl

/-- The 11 bits of an exponent that is neither the least nor the greatest one. -/
theorem ofNat_exponent {n : Nat} (hpos : 0 < n) (hlt : n < 2047) :
    (BitVec.ofNat 11 n).toNat = n ∧ BitVec.ofNat 11 n ≠ -1#11 ∧ BitVec.ofNat 11 n ≠ 0#11 := by
  have hmod : n % 2 ^ 11 = n := Nat.mod_eq_of_lt (by omega)
  have htoNat : (BitVec.ofNat 11 n).toNat = n := (BitVec.toNat_ofNat n 11).trans hmod
  refine ⟨htoNat, fun heq => ?_, fun heq => ?_⟩
  · have hlast : n = 2047 := htoNat.symm.trans (congrArg BitVec.toNat heq)
    exact hlt.ne hlast
  · have hfirst : n = 0 := htoNat.symm.trans (congrArg BitVec.toNat heq)
    exact hpos.ne' hfirst

theorem unpack_pack_of_normal (s : Sign) {m : Nat} {e : Int} (hm : 0 < m) (hbits : m < 2 ^ 53)
    (hnormal : 2 ^ 52 ≤ m) (hleast : -1074 ≤ e) (hmost : e ≤ 971) :
    unpack Format.binary64 (pack Format.binary64 (.finite s m e hm)) = .finite s m e hm := by
  -- The exponent is kept with a bias, and the mantissa without its leading one.
  obtain ⟨n, rfl⟩ : ∃ n : Nat, e = n - 1075 := ⟨(e + 1075).toNat, by omega⟩
  obtain ⟨f, rfl⟩ : ∃ f : BitVec 52, m = (1#1 ++ f).toNat :=
    ⟨BitVec.ofNat 52 (m - 2 ^ 52), by
      rw [toNat_one_append, BitVec.toNat_ofNat, Nat.mod_eq_of_lt (by omega)]
      omega⟩
  obtain ⟨htoNat, hne, hpos⟩ := ofNat_exponent (n := n) (by omega) (by omega)
  have hpack := pack_normal (s := s) (BitVec.ofNat 11 n) hne f hm
  have hunpack := unpack_normal s hne hpos f hm
  rw [htoNat] at hpack hunpack
  exact (congrArg _ hpack).trans hunpack

theorem unpack_pack_of_subnormal (s : Sign) {m : Nat} (hm : 0 < m) (hbits : m < 2 ^ 52) :
    unpack Format.binary64 (pack Format.binary64 (.finite s m (-1074) hm)) =
      .finite s m (-1074) hm := by
  obtain ⟨f, rfl⟩ : ∃ f : BitVec 52, m = f.toNat :=
    ⟨BitVec.ofNat 52 m, by rw [BitVec.toNat_ofNat, Nat.mod_eq_of_lt hbits]⟩
  exact (congrArg _ (pack_subnormal (s := s) f hm)).trans (unpack_subnormal s f hm)

/-- **What is canonical and not too large is kept.** -/
theorem unpack_pack_of_isCanonical {u : UnpackedFloat} (hu : IsCanonical u)
    (hbound : magnitude u ≤ 2 ^ 1023) :
    unpack Format.binary64 (pack Format.binary64 u) = u := by
  rcases u with s | _ | s | ⟨s, m, e, hm⟩
  · cases s <;> rfl
  · simp [UnpackedFloat.pack, UnpackedFloat.unpack, packedNaN]
  · cases s <;> rfl
  · obtain ⟨hbits, hleast, hfull⟩ := hu
    by_cases hnormal : 2 ^ 52 ≤ m
    · have hlog : m.log2 = 52 := (Nat.log2_eq_iff hm.ne').2 ⟨hnormal, hbits⟩
      have hexponent : (m.log2 : Int) + e ≤ (1023 : Nat) :=
        log2_add_le hm.ne' (by rw [zpow_natCast]; exact hbound)
      exact unpack_pack_of_normal s hm hbits hnormal hleast (by omega)
    · obtain rfl := hfull.resolve_left hnormal
      exact unpack_pack_of_subnormal s hm (not_le.1 hnormal)

theorem isCanonical_unpack (b : BitVec Format.binary64.numBits) :
    IsCanonical (unpack Format.binary64 b) := by
  unfold UnpackedFloat.unpack
  dsimp only
  have hmantissa : (unpackMantissa b).toNat < 2 ^ 52 := (unpackMantissa b).isLt
  split
  · split <;> trivial
  · split
    · next hzero =>
        split
        · trivial
        · rw [hzero]
          exact ⟨by omega, le_rfl, Or.inr rfl⟩
    · next hpos =>
        have he : (unpackExponent b).toNat ≠ 0 := fun h => hpos (BitVec.eq_of_toNat_eq h)
        have hsum := toNat_one_append (unpackMantissa b)
        refine ⟨?_, ?_, Or.inl ?_⟩
        · omega
        · rw [exponentBias_binary64]
          omega
        · omega

end FloatingPoint

end LinearSystems
