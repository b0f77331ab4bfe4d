import Mathlib
import LinearSystems.Proofs.FloatingPoint.Nearest

/-!
# Scaling by powers of two

Multiplying the operands of an operation by powers of two multiplies its result by a power of two,
with the same rounding, as long as nothing is lost to underflow
(`FloatingPoint.Scales.add`, `FloatingPoint.Scales.mul`, `FloatingPoint.Scales.div`,
`FloatingPoint.Scales.sqrt`).  Sums have no underflow.  Where the powers cancel, the results are
equal (`FloatingPoint.Scales.mul_eq`, `FloatingPoint.Scales.div_eq`), underflow or not.
-/

namespace LinearSystems

namespace FloatingPoint

open Float.Model Float.Model.UnpackedFloat

/-- The second number is the first one times `2 ^ k`, with the same sign; zeros have their signs
too. -/
inductive Scales (k : Int) : UnpackedFloat → UnpackedFloat → Prop
  | zero (s : Sign) : Scales k (.zero s) (.zero s)
  | finite (s : Sign) {m m' : Nat} {e e' : Int} (hm : 0 < m) (hm' : 0 < m')
      (h : (m' : ℚ) * 2 ^ e' = m * 2 ^ e * 2 ^ k) :
      Scales k (.finite s m e hm) (.finite s m' e' hm')

/-- Zero, or not below the least normal number. -/
def IsNormal (q : ℚ) : Prop := q = 0 ∨ 2 ^ (-1022 : ℤ) ≤ |q|

section Scales

variable {k l : Int} {u u' v v' : UnpackedFloat} {s : Sign} {q : ℚ} {m m' : Nat} {e e' : Int}

theorem eq_mul_zpow_neg {p q : ℚ} (h : q = p * 2 ^ k) : p = q * 2 ^ (-k) := by
  rw [h, mul_assoc, ← zpow_add₀ (by norm_num), add_neg_cancel, zpow_zero, mul_one]

theorem Scales.symm (h : Scales k u u') : Scales (-k) u' u := by
  cases h with
  | zero s => exact .zero s
  | finite s hm hm' h => exact .finite s hm' hm (eq_mul_zpow_neg h)

theorem Scales.exact_eq (h : Scales k u u') : exact u' = exact u * 2 ^ k := by
  cases h with
  | zero s => exact (zero_mul _).symm
  | finite s hm hm' h =>
      cases s
      · rw [exact_negative, exact_negative, h, neg_mul]
      · exact h

theorem exact_finite_ne_zero (s : Sign) (hm : 0 < m) : exact (.finite s m e hm) ≠ 0 := by
  rw [← abs_pos, abs_exact]
  exact mul_zpow_pos hm e

/-- Away from zero the sign is that of the number. -/
theorem scales_of_exact_eq (hu : exact u ≠ 0) (h : exact u' = exact u * 2 ^ k) :
    Scales k u u' := by
  have hu' : exact u' ≠ 0 := by
    rw [h]
    exact mul_ne_zero hu (two_zpow_pos k).ne'
  rcases u with _ | _ | _ | ⟨s, m, e, hm⟩
  any_goals exact absurd rfl hu
  rcases u' with _ | _ | _ | ⟨s', m', e', hm'⟩
  any_goals exact absurd rfl hu'
  have hpos := mul_zpow_pos hm' e'
  have hscaled := mul_pos (mul_zpow_pos hm e) (two_zpow_pos k)
  cases s <;> cases s' <;> simp only [exact_positive, exact_negative, neg_mul] at h
  · exact .finite _ hm hm' (neg_inj.1 h)
  · linarith
  · linarith
  · exact .finite _ hm hm' h

/-! ## Rounding -/

/-- Away from underflow the exponent to which a number is rounded moves with the number. -/
theorem Writes.target_scaled {a a' : Accuracy} (h : Writes m e a q)
    (h' : Writes m' e' a' (q * 2 ^ k)) (hq : 2 ^ (-1022 : ℤ) ≤ q)
    (hq' : 2 ^ (-1022 : ℤ) ≤ q * 2 ^ k) : target m' e' = target m e + k := by
  have hleast {p : ℚ} {t : Int} (hp : 2 ^ (-1022 : ℤ) ≤ p) (ht : p < 2 ^ (t + 53)) :
      -1074 ≤ t := by
    have hexponent := (zpow_lt_zpow_iff_right₀ (by norm_num : (1 : ℚ) < 2)).1 (hp.trans_lt ht)
    omega
  refine eq_of_forall_ge_iff fun t => ?_
  have hbound : q * 2 ^ k < 2 ^ (t + 53) ↔ q < 2 ^ (t - k + 53) := by
    rw [sub_add_eq_add_sub, zpow_sub₀ (by norm_num), lt_div_iff₀ (two_zpow_pos k)]
  rw [h'.target_le_iff, hbound, ← le_sub_iff_add_le, h.target_le_iff]
  exact and_congr_left fun hlt => iff_of_true (hleast hq' (hbound.2 hlt)) (hleast hq hlt)

/-- Two mantissas that are the same once they are shifted give numbers that differ by the exponents
to which they are rounded. -/
theorem scales_roundWithAccuracy (s : Sign) {a a' : Accuracy} (he : e ≤ target m e)
    (he' : e' ≤ target m' e') (htarget : target m' e' = target m e + k)
    (hshifted : shifted m' e' a' = shifted m e a) :
    Scales k (roundWithAccuracy Format.binary64 s m e a)
      (roundWithAccuracy Format.binary64 s m' e' a') := by
  rw [roundWithAccuracy_eq s a he, roundWithAccuracy_eq s a' he', hshifted, htarget]
  generalize target m e = t
  by_cases hzero : (shifted m e a).roundedMantissa = 0
  · rw [dif_pos hzero, dif_pos hzero]
    exact .zero s
  · rw [dif_neg hzero, dif_neg hzero]
    split
    · refine .finite s _ _ ?_
      rw [mul_assoc, ← zpow_add₀ (by norm_num), add_right_comm]
    · refine .finite s _ _ ?_
      rw [mul_assoc, ← zpow_add₀ (by norm_num)]

/-- **Away from underflow, rounding commutes with multiplication by a power of two.** -/
theorem RoundsTo.scales (h : RoundsTo s q u) (h' : RoundsTo s (q * 2 ^ k) u')
    (hq : 2 ^ (-1022 : ℤ) ≤ q) (hq' : 2 ^ (-1022 : ℤ) ≤ q * 2 ^ k) : Scales k u u' := by
  obtain ⟨m, e, a, hwrites, rfl⟩ := h
  obtain ⟨m', e', a', hwrites', rfl⟩ := h'
  have htarget := hwrites.target_scaled hwrites' hq hq'
  have hshifted := hwrites'.represents_shifted
  rw [htarget, zpow_add₀ (by norm_num), mul_div_mul_right _ _ (two_zpow_pos k).ne'] at hshifted
  exact scales_roundWithAccuracy s hwrites.le_target hwrites'.le_target htarget
    (hshifted.unique hwrites.represents_shifted)

/-- A mantissa that fits is kept, whatever its exponent is, if that is not below the least one. -/
theorem exists_round_eq (s : Sign) (hm : 0 < m) (hbits : m < 2 ^ 53) (he : -1074 ≤ e) :
    ∃ n f, ∃ hn : 0 < n, round Format.binary64 s m e = .finite s n f hn ∧
      (n : ℚ) * 2 ^ f = m * 2 ^ e := by
  have hle : target m e ≤ e := by
    have hlog : m.log2 ≤ 52 := log2_le_of_lt hbits
    exact max_le (by omega) he
  have htarget := target_shiftLeft hm.ne' e (e - target m e).toNat
  have hexponent : e - (e - target m e).toNat = target m e := by omega
  have hvalue := shiftLeft_mul_zpow m e (e - target m e).toNat
  rw [round_eq]
  generalize (e - target m e).toNat = j at htarget hexponent hvalue ⊢
  have hpos : 0 < m <<< j := by
    rw [Nat.shiftLeft_eq]
    positivity
  -- The exponent is the one to round to, so no bit is shifted out.
  have hself : target (m <<< j) (e - j) = e - j := htarget.trans hexponent.symm
  rw [roundWithAccuracy_eq s .exact hself.ge, shifted, hself, sub_self]
  have hmantissa : (ExtendedMantissa.ofMantissaAndAccuracy (m <<< j) .exact >>>
      (0 : Int).toNat).roundedMantissa = m <<< j := rfl
  rw [hmantissa, dif_neg hpos.ne']
  split
  · next hcarry =>
      refine ⟨2 ^ 52, e - j + 1, by decide, rfl, ?_⟩
      rw [← hvalue, hcarry, zpow_add_one₀ (by norm_num)]
      push_cast
      ring
  · exact ⟨m <<< j, e - j, hpos, rfl, hvalue⟩

/-! ## Sums -/

theorem scales_round_of_nonneg (s : Sign) (hk : 0 ≤ k) (hm : 0 < m) (hm' : 0 < m')
    (he : -1074 ≤ e) (h : (m' : ℚ) * 2 ^ e' = m * 2 ^ e * 2 ^ k) :
    Scales k (round Format.binary64 s m e) (round Format.binary64 s m' e') := by
  have hround := roundsTo_round s hm.ne' (e := e) rfl
  have hround' := roundsTo_round s hm'.ne' h
  rcases le_or_gt (2 ^ (-1022 : ℤ)) ((m : ℚ) * 2 ^ e) with hnormal | hsmall
  · apply hround.scales hround' hnormal
    exact hnormal.trans (le_mul_of_one_le_right (mul_zpow_pos hm e).le
      (one_le_zpow₀ (by norm_num) hk))
  · -- Below the normal numbers the sum is a multiple of the least float, and it is not rounded.
    have hleast := mul_zpow_eq he m
    generalize m * 2 ^ (e - -1074).toNat = n at hleast
    have hn : 0 < n := by
      have hpos := mul_zpow_pos hm e
      rw [hleast] at hpos
      exact Nat.cast_pos.1 (pos_of_mul_pos_left hpos (two_zpow_pos _).le)
    have hbits : n < 2 ^ 53 := by
      rw [hleast, ← lt_div_iff₀ (two_zpow_pos _), ← zpow_sub₀ (by norm_num)] at hsmall
      have hexponent : (-1022 : Int) - -1074 = (52 : Nat) := by norm_num
      rw [hexponent, zpow_natCast] at hsmall
      have hbits : n < 2 ^ 52 := by exact_mod_cast hsmall
      exact hbits.trans (by norm_num)
    rw [hleast] at hround h
    have hscaled : (n : ℚ) * 2 ^ (-1074 + k) = m' * 2 ^ e' := by
      rw [h, zpow_add₀ (by norm_num), mul_assoc]
    obtain ⟨a, f, ha, heq, hvalue⟩ := exists_round_eq s hn hbits le_rfl
    obtain ⟨b, g, hb, heq', hvalue'⟩ := exists_round_eq s hn hbits (e := -1074 + k) (by omega)
    rw [hround.unique (roundsTo_round s hn.ne' rfl),
      (roundsTo_round s hm'.ne' rfl).unique (roundsTo_round s hn.ne' hscaled), heq, heq']
    refine .finite s ha hb ?_
    rw [hvalue', hvalue, hscaled, h]

/-- What is not below the least exponent is rounded in the same way after multiplication by a power
of two: where rounding has fewer bits to keep, there are no more bits. -/
theorem scales_round (s : Sign) (hm : 0 < m) (hm' : 0 < m') (he : -1074 ≤ e) (he' : -1074 ≤ e')
    (h : (m' : ℚ) * 2 ^ e' = m * 2 ^ e * 2 ^ k) :
    Scales k (round Format.binary64 s m e) (round Format.binary64 s m' e') := by
  rcases le_total 0 k with hk | hk
  · exact scales_round_of_nonneg s hk hm hm' he h
  · have hback := scales_round_of_nonneg s (neg_nonneg.2 hk) hm' hm he' (eq_mul_zpow_neg h)
    rw [← neg_neg k]
    exact hback.symm

theorem scales_normalize {a b : Int} (s : Sign) (he : -1074 ≤ e) (he' : -1074 ≤ e')
    (h : (b : ℚ) * 2 ^ e' = a * 2 ^ e * 2 ^ k) :
    Scales k (normalize Format.binary64 a e s) (normalize Format.binary64 b e' s) := by
  rcases lt_trichotomy a 0 with ha | rfl | ha
  · have hb : b < 0 := by
      have hneg : (b : ℚ) * 2 ^ e' < 0 := by
        rw [h, mul_assoc]
        exact mul_neg_of_neg_of_pos (Int.cast_lt_zero.2 ha)
          (mul_pos (two_zpow_pos e) (two_zpow_pos k))
      exact Int.cast_lt_zero.1 (neg_of_mul_neg_left hneg (two_zpow_pos e').le)
    obtain ⟨n, rfl⟩ : ∃ n : Nat, a = -n := ⟨(-a).toNat, by omega⟩
    obtain ⟨n', rfl⟩ : ∃ n' : Nat, b = -n' := ⟨(-b).toNat, by omega⟩
    rw [UnpackedFloat.normalize, UnpackedFloat.normalize, compare_lt_iff_lt.2 ha,
      compare_lt_iff_lt.2 hb, neg_neg, neg_neg, Int.toNat_natCast, Int.toNat_natCast]
    refine scales_round .negative (by omega) (by omega) he he' ?_
    rwa [Int.cast_neg, Int.cast_neg, neg_mul, neg_mul, neg_mul, neg_inj] at h
  · have hb : b = 0 := by
      rw [Int.cast_zero, zero_mul, zero_mul, mul_eq_zero, Int.cast_eq_zero] at h
      exact h.resolve_right (two_zpow_pos e').ne'
    rw [hb]
    exact .zero s
  · have hb : 0 < b := by
      have hpos : (0 : ℚ) < b * 2 ^ e' := by
        rw [h, mul_assoc]
        exact mul_pos (Int.cast_pos.2 ha) (mul_pos (two_zpow_pos e) (two_zpow_pos k))
      exact Int.cast_pos.1 (pos_of_mul_pos_left hpos (two_zpow_pos e').le)
    obtain ⟨n, rfl⟩ : ∃ n : Nat, a = n := ⟨a.toNat, by omega⟩
    obtain ⟨n', rfl⟩ : ∃ n' : Nat, b = n' := ⟨b.toNat, by omega⟩
    rw [UnpackedFloat.normalize, UnpackedFloat.normalize, compare_gt_iff_gt.2 ha,
      compare_gt_iff_gt.2 hb, Int.toNat_natCast, Int.toNat_natCast]
    exact scales_round .positive (by omega) (by omega) he he' h

/-- **Sums are scaled with their operands, cancellation included.** -/
theorem Scales.add (hu : IsCanonical u) (hu' : IsCanonical u') (hv : IsCanonical v)
    (hv' : IsCanonical v') (h : Scales k u u') (g : Scales k v v') :
    Scales k (u.add Format.binary64 v) (u'.add Format.binary64 v') := by
  have hsum : exact u' + exact v' = (exact u + exact v) * 2 ^ k := by
    rw [h.exact_eq, g.exact_eq, add_mul]
  cases h with
  | zero s =>
      cases g with
      | zero s' =>
          show Scales k (if _ then _ else _) (if _ then _ else _)
          split <;> exact .zero _
      | finite s' hn hn' g => exact .finite s' hn hn' g
  | @finite s m m' e e' hm hm' h =>
      cases g with
      | zero s' => exact .finite s hm hm' h
      | @finite s' n n' f f' hn hn' g =>
          rw [exact_finite_eq s (min_le_left e f), exact_finite_eq s' (min_le_right e f),
            exact_finite_eq s (min_le_left e' f'), exact_finite_eq s' (min_le_right e' f'),
            ← add_mul, ← add_mul, ← Int.cast_add, ← Int.cast_add] at hsum
          exact scales_normalize .positive (le_min hu.2.1 hv.2.1) (le_min hu'.2.1 hv'.2.1) hsum

/-! ## Products and quotients -/

theorem IsNormal.le_abs (h : IsNormal q) (hq : q ≠ 0) : 2 ^ (-1022 : ℤ) ≤ |q| :=
  h.resolve_left hq

/-- **A product is scaled with its factors unless it underflows.** -/
theorem Scales.mul (hu : IsCanonical u) (hu' : IsCanonical u') (hv : IsCanonical v)
    (hv' : IsCanonical v') (h : Scales k u u') (g : Scales l v v')
    (hnormal : IsNormal (exact u * exact v)) (hnormal' : IsNormal (exact u' * exact v')) :
    Scales (k + l) (u.mul Format.binary64 v) (u'.mul Format.binary64 v') := by
  cases h with
  | zero s => cases g <;> exact .zero _
  | @finite s m m' e e' hm hm' h =>
      cases g with
      | zero s' => exact .zero _
      | @finite s' n n' f f' hn hn' g =>
          have hvalue : (m' : ℚ) * 2 ^ e' * (n' * 2 ^ f') =
              m * 2 ^ e * (n * 2 ^ f) * 2 ^ (k + l) := by
            rw [h, g, zpow_add₀ (by norm_num)]
            ring
          have hle := hnormal.le_abs
            (mul_ne_zero (exact_finite_ne_zero s hm) (exact_finite_ne_zero s' hn))
          have hle' := hnormal'.le_abs
            (mul_ne_zero (exact_finite_ne_zero s hm') (exact_finite_ne_zero s' hn'))
          rw [abs_mul, abs_exact, abs_exact] at hle hle'
          have hround' := roundsTo_mul hu' hv'
          rw [hvalue] at hround'
          exact (roundsTo_mul hu hv).scales hround' hle (hle'.trans_eq hvalue)

/-- **Where the powers of two cancel, products are equal.** -/
theorem Scales.mul_eq (hu : IsCanonical u) (hu' : IsCanonical u') (hv : IsCanonical v)
    (hv' : IsCanonical v') (h : Scales k u u') (g : Scales (-k) v v') :
    u'.mul Format.binary64 v' = u.mul Format.binary64 v := by
  cases h with
  | zero s => cases g <;> rfl
  | @finite s m m' e e' hm hm' h =>
      cases g with
      | zero s' => rfl
      | @finite s' n n' f f' hn hn' g =>
          have hvalue : (m' : ℚ) * 2 ^ e' * (n' * 2 ^ f') = m * 2 ^ e * (n * 2 ^ f) := by
            rw [h, mul_assoc, mul_left_comm (2 ^ k), eq_mul_zpow_neg g, neg_neg]
            ring
          have hround' := roundsTo_mul hu' hv'
          rw [hvalue] at hround'
          exact hround'.unique (roundsTo_mul hu hv)

/-- **A quotient is scaled with its operands unless it underflows.** -/
theorem Scales.div (h : Scales k u u') (g : Scales l v v') (hv : 0 < magnitude v)
    (hnormal : IsNormal (exact u / exact v)) (hnormal' : IsNormal (exact u' / exact v')) :
    Scales (k - l) (u.div Format.binary64 v) (u'.div Format.binary64 v') := by
  cases g with
  | zero s' => exact absurd hv (lt_irrefl 0)
  | @finite s' n n' f f' hn hn' g =>
      cases h with
      | zero s => exact .zero _
      | @finite s m m' e e' hm hm' h =>
          have hvalue : (m' : ℚ) * 2 ^ e' / (n' * 2 ^ f') =
              m * 2 ^ e / (n * 2 ^ f) * 2 ^ (k - l) := by
            rw [h, g, zpow_sub₀ (by norm_num), mul_div_mul_comm]
          have hle := hnormal.le_abs
            (div_ne_zero (exact_finite_ne_zero s hm) (exact_finite_ne_zero s' hn))
          have hle' := hnormal'.le_abs
            (div_ne_zero (exact_finite_ne_zero s hm') (exact_finite_ne_zero s' hn'))
          rw [abs_div, abs_exact, abs_exact] at hle hle'
          have hround' : RoundsTo (s / s') ((m' : ℚ) * 2 ^ e' / (n' * 2 ^ f')) _ :=
            roundsTo_div hm' hn'
          rw [hvalue] at hround'
          exact (roundsTo_div hm hn).scales hround' hle (hle'.trans_eq hvalue)

/-- **Where the powers of two cancel, quotients are equal.** -/
theorem Scales.div_eq (h : Scales k u u') (g : Scales k v v') :
    u'.div Format.binary64 v' = u.div Format.binary64 v := by
  cases h with
  | zero s => cases g <;> rfl
  | @finite s m m' e e' hm hm' h =>
      cases g with
      | zero s' => rfl
      | @finite s' n n' f f' hn hn' g =>
          have hvalue : (m' : ℚ) * 2 ^ e' / (n' * 2 ^ f') = m * 2 ^ e / (n * 2 ^ f) := by
            rw [h, g, mul_div_mul_right _ _ (two_zpow_pos k).ne']
          have hround' : RoundsTo (s / s') ((m' : ℚ) * 2 ^ e' / (n' * 2 ^ f')) _ :=
            roundsTo_div hm' hn'
          rw [hvalue] at hround'
          exact hround'.unique (roundsTo_div hm hn)

/-! ## Square roots -/

/-- What a root leaves of a mantissa, compared with half a unit. -/
def rootAccuracy (m : Nat) : Accuracy :=
  if m - m.sqrt * m.sqrt = 0 then .exact
  else .inexact (if m - m.sqrt * m.sqrt ≤ m.sqrt then .lt else .gt)

/-- The mantissa whose root has 53 bits, on an even exponent. -/
def radicand (m : Nat) (e : Int) : Nat := m <<< (52 + e % 2).toNat

theorem sqrt_eq (hm : 0 < m) (hfull : 2 ^ 52 ≤ m) (hbits : m < 2 ^ 53) (he : -1074 ≤ e) :
    (UnpackedFloat.finite .positive m e hm).sqrt Format.binary64 =
      roundWithAccuracy Format.binary64 .positive (radicand m e).sqrt (e / 2 - 26)
        (rootAccuracy (radicand m e)) := by
  have hlog : m.log2 = 52 := (Nat.log2_eq_iff hm.ne').2 ⟨hfull, hbits⟩
  have hexponent : min (e.ediv 2)
      (Format.binary64.targetExponent ((totalExponent m e + 1).ediv 2)) = e / 2 - 26 := by
    show min (e / 2) (Format.binary64.targetExponent ((totalExponent m e + 1) / 2)) = e / 2 - 26
    simp only [Format.targetExponent, totalExponent, Format.mantissaBits, Format.minExponent, hlog]
    omega
  have hshift : (e - 2 * (e / 2 - 26)).toNat = (52 + e % 2).toNat := by omega
  rw [UnpackedFloat.sqrt, sqrtCore, hexponent, hshift]
  rfl

theorem sqrt_radicand (hfull : 2 ^ 52 ≤ m) (hbits : m < 2 ^ 53) (e : Int) :
    2 ^ 52 ≤ (radicand m e).sqrt ∧ (radicand m e).sqrt < 2 ^ 53 := by
  have hshift : (52 + e % 2).toNat = 52 ∨ (52 + e % 2).toNat = 53 := by omega
  rw [Nat.le_sqrt, Nat.sqrt_lt, radicand, Nat.shiftLeft_eq]
  rcases hshift with h | h <;> rw [h] <;> omega

/-- The root has the bits that a number has, so it is rounded by its accuracy alone. -/
theorem target_sqrt (hfull : 2 ^ 52 ≤ m) (hbits : m < 2 ^ 53) (he : -1074 ≤ e) :
    target (radicand m e).sqrt (e / 2 - 26) = e / 2 - 26 := by
  obtain ⟨hlower, hupper⟩ := sqrt_radicand hfull hbits e
  have hlog : (radicand m e).sqrt.log2 = 52 :=
    (Nat.log2_eq_iff (by omega)).2 ⟨hlower, hupper⟩
  rw [target, hlog]
  omega

/-- Numbers with all 53 bits are written in one way. -/
theorem eq_of_mul_zpow_eq {n : Nat} {f : Int} (hm : 2 ^ 52 ≤ m) (hm' : m < 2 ^ 53)
    (hn : 2 ^ 52 ≤ n) (hn' : n < 2 ^ 53) (h : (m : ℚ) * 2 ^ e = n * 2 ^ f) : m = n ∧ e = f := by
  wlog hle : e ≤ f generalizing m n e f
  · obtain ⟨rfl, rfl⟩ := this hn hn' hm hm' h.symm (le_of_not_ge hle)
    exact ⟨rfl, rfl⟩
  rw [mul_zpow_eq hle n, mul_left_inj' (two_zpow_pos e).ne', Nat.cast_inj] at h
  have hexponent : (f - e).toNat = 0 := by
    by_contra hne
    have htwo : 2 ≤ 2 ^ (f - e).toNat := Nat.le_self_pow hne 2
    have hlarge : 2 ^ 52 * 2 ≤ m := (Nat.mul_le_mul hn htwo).trans_eq h.symm
    omega
  rw [hexponent, Nat.pow_zero, Nat.mul_one] at h
  exact ⟨h, by omega⟩

theorem exists_eq_of_le_exact (hu : IsCanonical u) (h : 2 ^ (-1022 : ℤ) ≤ exact u) :
    ∃ m e, ∃ hm : 0 < m, u = .finite .positive m e hm ∧ 2 ^ 52 ≤ m ∧ m < 2 ^ 53 ∧ -1074 ≤ e := by
  obtain ⟨m, e, hm, rfl⟩ := eq_finite_of_exact_pos ((two_zpow_pos _).trans_le h)
  obtain ⟨hbits, hleast, hfull⟩ := hu
  refine ⟨m, e, hm, rfl, ?_, hbits, hleast⟩
  by_contra hnot
  have hsmall : (m : ℚ) < 2 ^ (52 : Int) := by exact_mod_cast not_le.1 hnot
  obtain rfl := hfull.resolve_left hnot
  have hlt : (m : ℚ) * 2 ^ (-1074 : Int) < 2 ^ ((52 : Int) + -1074) := by
    rw [zpow_add₀ (by norm_num)]
    exact mul_lt_mul_of_pos_right hsmall (two_zpow_pos _)
  exact absurd h (not_le.2 hlt)

/-- **A root is scaled by half the exponent.** -/
theorem Scales.sqrt (hu : IsCanonical u) (hu' : IsCanonical u') (h : Scales (2 * k) u u')
    (hle : 2 ^ (-1022 : ℤ) ≤ exact u) (hle' : 2 ^ (-1022 : ℤ) ≤ exact u') :
    Scales k (u.sqrt Format.binary64) (u'.sqrt Format.binary64) := by
  obtain ⟨m, e, hm, rfl, hfull, hbits, hleast⟩ := exists_eq_of_le_exact hu hle
  obtain ⟨m', e', hm', rfl, hfull', hbits', hleast'⟩ := exists_eq_of_le_exact hu' hle'
  have hvalue := h.exact_eq
  rw [exact_positive, exact_positive, mul_assoc, ← zpow_add₀ (by norm_num)] at hvalue
  obtain ⟨rfl, rfl⟩ := eq_of_mul_zpow_eq hfull' hbits' hfull hbits hvalue
  have hradicand : radicand m' (e + 2 * k) = radicand m' e := by
    rw [radicand, Int.add_mul_emod_self_left, radicand]
  have hexponent : (e + 2 * k) / 2 - 26 = e / 2 - 26 + k := by omega
  have htarget := target_sqrt hfull hbits hleast
  have htarget' := target_sqrt hfull' hbits' hleast'
  rw [sqrt_eq hm hfull hbits hleast, sqrt_eq hm' hfull' hbits' hleast']
  rw [hradicand, hexponent] at htarget' ⊢
  refine scales_roundWithAccuracy .positive htarget.ge htarget'.ge ?_ ?_
  · rw [htarget, htarget']
  · rw [shifted, shifted, htarget, htarget', sub_self, sub_self]

theorem isFinite_sqrt (hu : IsCanonical u) (hle : 2 ^ (-1022 : ℤ) ≤ exact u) :
    (u.sqrt Format.binary64).isFinite = true ∧ IsCanonical (u.sqrt Format.binary64) := by
  obtain ⟨m, e, hm, rfl, hfull, hbits, hleast⟩ := exists_eq_of_le_exact hu hle
  have htarget := target_sqrt hfull hbits hleast
  rw [sqrt_eq hm hfull hbits hleast]
  exact ⟨isFinite_roundWithAccuracy _ _ htarget.ge, isCanonical_roundWithAccuracy _ _ htarget.ge⟩

/-- The root of a number with the exponent `e` has half the exponent. -/
theorem exact_sqrt_mem (hm : 0 < m) (hfull : 2 ^ 52 ≤ m) (hbits : m < 2 ^ 53)
    (hleast : -1074 ≤ e) :
    2 ^ (e / 2 + 26) ≤ exact ((UnpackedFloat.finite .positive m e hm).sqrt Format.binary64) ∧
      exact ((UnpackedFloat.finite .positive m e hm).sqrt Format.binary64) ≤ 2 ^ (e / 2 + 27) := by
  have htarget := target_sqrt hfull hbits hleast
  obtain ⟨hupper, hlower⟩ := mantissa_shifted (rootAccuracy (radicand m e)) htarget.ge
  rw [htarget] at hlower
  have hlower := hlower.resolve_right (by omega)
  have hle := mantissa_le_roundedMantissa
    (shifted (radicand m e).sqrt (e / 2 - 26) (rootAccuracy (radicand m e)))
  have hge := (roundedMantissa_le_ceiling
    (shifted (radicand m e).sqrt (e / 2 - 26) (rootAccuracy (radicand m e)))).trans (ceiling_le _)
  rw [sqrt_eq hm hfull hbits hleast, exact_roundWithAccuracy_positive _ htarget.ge,
    magnitude_roundWithAccuracy _ _ htarget.ge, htarget]
  generalize (shifted (radicand m e).sqrt (e / 2 - 26)
    (rootAccuracy (radicand m e))).roundedMantissa = r at hle hge ⊢
  have hr : (2 : ℚ) ^ (52 : ℤ) ≤ r := by exact_mod_cast hlower.trans hle
  have hr' : (r : ℚ) ≤ 2 ^ (53 : ℤ) := by exact_mod_cast hge.trans (Nat.succ_le_of_lt hupper)
  have hexponent : e / 2 + 26 = 52 + (e / 2 - 26) := by omega
  have hexponent' : e / 2 + 27 = 53 + (e / 2 - 26) := by omega
  rw [hexponent, hexponent', zpow_add₀ (by norm_num), zpow_add₀ (by norm_num)]
  exact ⟨mul_le_mul_of_nonneg_right hr (two_zpow_pos _).le,
    mul_le_mul_of_nonneg_right hr' (two_zpow_pos _).le⟩

/-- **Rounding does not take a root below a power of two.** -/
theorem le_exact_sqrt {j : Int} (hu : IsCanonical u) (hle : 2 ^ (-1022 : ℤ) ≤ exact u)
    (h : 2 ^ (2 * j) ≤ exact u) : 2 ^ j ≤ exact (u.sqrt Format.binary64) := by
  obtain ⟨m, e, hm, rfl, hfull, hbits, hleast⟩ := exists_eq_of_le_exact hu hle
  have hpow : (2 : ℚ) ^ (2 * j) < 2 ^ ((53 : ℤ) + e) := by
    have hm : (m : ℚ) < 2 ^ (53 : ℤ) := by exact_mod_cast hbits
    rw [zpow_add₀ (by norm_num)]
    exact h.trans_lt (mul_lt_mul_of_pos_right hm (two_zpow_pos e))
  have hexponent := (zpow_lt_zpow_iff_right₀ (by norm_num : (1 : ℚ) < 2)).1 hpow
  exact (zpow_le_zpow_right₀ (by norm_num) (by omega)).trans
    (exact_sqrt_mem hm hfull hbits hleast).1

theorem exact_sqrt_le {j : Int} (hu : IsCanonical u) (hle : 2 ^ (-1022 : ℤ) ≤ exact u)
    (h : exact u < 2 ^ (2 * j)) : exact (u.sqrt Format.binary64) ≤ 2 ^ j := by
  obtain ⟨m, e, hm, rfl, hfull, hbits, hleast⟩ := exists_eq_of_le_exact hu hle
  have hpow : (2 : ℚ) ^ ((52 : ℤ) + e) < 2 ^ (2 * j) := by
    have hm : (2 : ℚ) ^ (52 : ℤ) ≤ m := by exact_mod_cast hfull
    rw [zpow_add₀ (by norm_num)]
    exact (mul_le_mul_of_nonneg_right hm (two_zpow_pos e).le).trans_lt h
  have hexponent := (zpow_lt_zpow_iff_right₀ (by norm_num : (1 : ℚ) < 2)).1 hpow
  exact (exact_sqrt_mem hm hfull hbits hleast).2.trans
    (zpow_le_zpow_right₀ (by norm_num) (by omega))

end Scales

end FloatingPoint

end LinearSystems
