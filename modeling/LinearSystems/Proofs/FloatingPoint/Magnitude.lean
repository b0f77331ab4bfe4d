import Mathlib
import LinearSystems.Proofs.FloatingPoint.Rounding
import LinearSystems.Tolerance

/-!
# How large results are

Sums, products and quotients of floats, bounded by powers of two.  As long as the bound of the
result is at most `2 ^ 1023` there is no overflow: the result is finite, and the bound is the one of
exact arithmetic (`FloatingPoint.Bounded.add`, `FloatingPoint.Bounded.mul`,
`FloatingPoint.Bounded.div`).

A value that does not pass as zero has at least the magnitude of the tolerance
(`FloatingPoint.magnitude_le_of_isZero_eq_false`), which bounds every division by a pivot.
-/

namespace LinearSystems

namespace FloatingPoint

open Float.Model Float.Model.UnpackedFloat

/-! ## Operations -/

/-- A finite number whose magnitude is at most a power of two. -/
def IsWithin (k : Nat) (u : UnpackedFloat) : Prop := u.isFinite = true ∧ magnitude u ≤ 2 ^ k

theorem isWithin_zero (k : Nat) (s : Sign) : IsWithin k (.zero s) :=
  ⟨rfl, pow_nonneg (by norm_num) k⟩

theorem IsWithin.mono {k n : Nat} {u : UnpackedFloat} (h : IsWithin k u) (hkn : k ≤ n) :
    IsWithin n u :=
  ⟨h.1, h.2.trans (pow_le_pow_right₀ (by norm_num) hkn)⟩

theorem isFinite_roundWithAccuracy (s : Sign) {m : Nat} {e : Int} (a : Accuracy)
    (he : e ≤ target m e) : (roundWithAccuracy Format.binary64 s m e a).isFinite = true := by
  rw [roundWithAccuracy_eq s a he]
  split
  · rfl
  · split <;> rfl

theorem target_le {m : Nat} (hm : m ≠ 0) {e : Int} {k : Nat} (h : (m : ℚ) * 2 ^ e ≤ 2 ^ k) :
    target m e ≤ k := by
  have hexponent : (m.log2 : Int) + e ≤ k := log2_add_le hm (by rwa [zpow_natCast])
  rw [target]
  omega

/-- A product or a sum, before it is rounded, is exact. -/
theorem isWithin_roundWithAccuracy_exact (s : Sign) {m : Nat} (hm : m ≠ 0) {e : Int} {k : Nat}
    (he : e ≤ target m e) (h : (m : ℚ) * 2 ^ e ≤ 2 ^ k) :
    IsWithin k (roundWithAccuracy Format.binary64 s m e .exact) := by
  have hk := target_le hm h
  refine ⟨isFinite_roundWithAccuracy s _ he, magnitude_roundWithAccuracy_le s he hk ?_⟩
  have hnat := (mul_zpow_le_iff_right (he.trans hk) m 1).1 (by simpa using h)
  simpa [ceiling, ExtendedMantissa.ofMantissaAndAccuracy] using hnat

theorem log2_shiftLeft {m : Nat} (hm : m ≠ 0) (n : Nat) : (m <<< n).log2 = m.log2 + n := by
  have hpos : m <<< n ≠ 0 := by
    rw [Nat.shiftLeft_eq]
    exact Nat.mul_ne_zero hm (by positivity)
  rw [Nat.log2_eq_iff hpos, Nat.shiftLeft_eq, Nat.add_right_comm, Nat.pow_add, Nat.pow_add]
  exact ⟨Nat.mul_le_mul_right _ (Nat.log2_self_le hm),
    Nat.mul_lt_mul_of_pos_right Nat.lt_log2_self (by positivity)⟩

theorem round_eq (s : Sign) (m : Nat) (e : Int) :
    round Format.binary64 s m e = roundWithAccuracy Format.binary64 s
      (m <<< (e - target m e).toNat) (e - (e - target m e).toNat) .exact := by
  rw [UnpackedFloat.round, targetExponent_eq]
  rfl

/-- Shifting to the left and lowering the exponent as much changes nothing about the rounding. -/
theorem target_shiftLeft {m : Nat} (hm : m ≠ 0) (e : Int) (n : Nat) :
    target (m <<< n) (e - n) = target m e := by
  rw [target, log2_shiftLeft hm, target]
  omega

theorem le_target_shiftLeft {m : Nat} (hm : m ≠ 0) (e : Int) :
    e - (e - target m e).toNat ≤
      target (m <<< (e - target m e).toNat) (e - (e - target m e).toNat) := by
  rw [target_shiftLeft hm]
  omega

theorem isCanonical_round (s : Sign) {m : Nat} (hm : m ≠ 0) (e : Int) :
    IsCanonical (round Format.binary64 s m e) := by
  rw [round_eq]
  exact isCanonical_roundWithAccuracy s _ (le_target_shiftLeft hm e)

/-- Shifting to the left and lowering the exponent as much leaves the number as it is. -/
theorem shiftLeft_mul_zpow (m : Nat) (e : Int) (n : Nat) :
    ((m <<< n : Nat) : ℚ) * 2 ^ (e - n) = m * 2 ^ e := by
  have hsame := mul_zpow_eq (e := e) (g := e - n) (by omega) m
  rw [sub_sub_cancel, Int.toNat_natCast] at hsame
  rw [Nat.shiftLeft_eq, hsame]

theorem isWithin_round (s : Sign) {m : Nat} (hm : m ≠ 0) {e : Int} {k : Nat}
    (h : (m : ℚ) * 2 ^ e ≤ 2 ^ k) : IsWithin k (round Format.binary64 s m e) := by
  rw [round_eq]
  refine isWithin_roundWithAccuracy_exact s ?_ (le_target_shiftLeft hm e) ?_
  · rw [Nat.shiftLeft_eq]
    exact Nat.mul_ne_zero hm (by positivity)
  · rwa [shiftLeft_mul_zpow]

theorem isCanonical_normalize (m e : Int) (s : Sign) :
    IsCanonical (normalize Format.binary64 m e s) := by
  rw [UnpackedFloat.normalize]
  split
  · next h => exact isCanonical_round _ (by have := Int.compare_eq_lt.1 h; omega) e
  · trivial
  · next h => exact isCanonical_round _ (by have := Int.compare_eq_gt.1 h; omega) e

theorem isWithin_normalize {m e : Int} (s : Sign) {k : Nat}
    (h : (m.natAbs : ℚ) * 2 ^ e ≤ 2 ^ k) : IsWithin k (normalize Format.binary64 m e s) := by
  rw [UnpackedFloat.normalize]
  split
  · next hneg =>
      have hlt : m < 0 := Int.compare_eq_lt.1 hneg
      have hm : (-m).toNat = m.natAbs := by omega
      rw [hm]
      exact isWithin_round _ (by omega) h
  · exact isWithin_zero k s
  · next hpos =>
      have hlt : 0 < m := Int.compare_eq_gt.1 hpos
      have hm : m.toNat = m.natAbs := by omega
      rw [hm]
      exact isWithin_round _ (by omega) h

theorem natAbs_apply (s : Sign) (m : Nat) : (s.apply m).natAbs = m := by
  cases s
  · exact Int.natAbs_neg _
  · exact Int.natAbs_natCast m

theorem natAbs_add_apply_le (s s' : Sign) (m m' : Nat) :
    (s.apply m + s'.apply m').natAbs ≤ m + m' := by
  have hle := Int.natAbs_add_le (s.apply m) (s'.apply m')
  rwa [natAbs_apply, natAbs_apply] at hle

theorem isCanonical_add {u v : UnpackedFloat} (hu : IsCanonical u) (hv : IsCanonical v) :
    IsCanonical (u.add Format.binary64 v) := by
  rcases u with s | _ | s | ⟨s, m, e, hm⟩ <;> rcases v with s' | _ | s' | ⟨s', m', e', hm'⟩
  case finite.finite => exact isCanonical_normalize _ _ _
  case zero.finite => exact hv
  case finite.zero => exact hu
  case infinity.infinity =>
    show IsCanonical (if _ then _ else _)
    split <;> trivial
  case zero.zero =>
    show IsCanonical (if _ then _ else _)
    split <;> trivial
  all_goals trivial

/-- **A sum of two numbers is bounded by twice the bound.** -/
theorem isWithin_add {u v : UnpackedFloat} {k : Nat} (hu : IsWithin k u) (hv : IsWithin k v) :
    IsWithin (k + 1) (u.add Format.binary64 v) := by
  rcases u with s | _ | s | ⟨s, m, e, hm⟩
  any_goals cases hu.1
  all_goals rcases v with s' | _ | s' | ⟨s', m', e', hm'⟩
  any_goals cases hv.1
  · show IsWithin _ (if _ then _ else _)
    split <;> exact isWithin_zero _ _
  · exact hv.mono (Nat.le_succ k)
  · exact hu.mono (Nat.le_succ k)
  · have hu : (m : ℚ) * 2 ^ e ≤ 2 ^ k := hu.2
    have hv : (m' : ℚ) * 2 ^ e' ≤ 2 ^ k := hv.2
    -- Both mantissas are brought to the smaller exponent, where they are added without rounding.
    rw [mul_zpow_eq (min_le_left e e'), ← Nat.shiftLeft_eq] at hu
    rw [mul_zpow_eq (min_le_right e e'), ← Nat.shiftLeft_eq] at hv
    have hsum :=
      natAbs_add_apply_le s s' (m <<< (e - min e e').toNat) (m' <<< (e' - min e e').toNat)
    apply isWithin_normalize
    calc _ ≤ ((m <<< (e - min e e').toNat + m' <<< (e' - min e e').toNat : Nat) : ℚ) *
            2 ^ min e e' :=
          mul_le_mul_of_nonneg_right (Nat.cast_le.2 hsum) (zpow_pos (by norm_num) _).le
      _ ≤ 2 ^ (k + 1) := by
          rw [Nat.cast_add, add_mul, pow_succ, mul_two]
          exact add_le_add hu hv

/-- The exponent of a product is not above the one to which it is rounded. -/
theorem le_target_mul {m n : Nat} (hm : m ≠ 0) (hn : n ≠ 0) {e f : Int}
    (hmfull : 2 ^ 52 ≤ m ∨ e = -1074) (hnfull : 2 ^ 52 ≤ n ∨ f = -1074) :
    e + f ≤ target (m * n) (e + f) := by
  have hlarge (h : 2 ^ 52 ≤ m ∨ 2 ^ 52 ≤ n) : 52 ≤ (m * n).log2 := by
    rw [Nat.le_log2 (Nat.mul_ne_zero hm hn)]
    rcases h with h | h
    · exact h.trans (Nat.le_mul_of_pos_right m (Nat.pos_of_ne_zero hn))
    · exact h.trans (Nat.le_mul_of_pos_left n (Nat.pos_of_ne_zero hm))
  rw [target]
  by_cases h : 2 ^ 52 ≤ m ∨ 2 ^ 52 ≤ n
  · have hlog := hlarge h
    omega
  · -- Two small mantissas both have the least exponent, and the sum of the two is below it.
    rw [not_or] at h
    have hme := hmfull.resolve_left h.1
    have hnf := hnfull.resolve_left h.2
    omega

theorem isCanonical_mul {u v : UnpackedFloat} (hu : IsCanonical u) (hv : IsCanonical v) :
    IsCanonical (u.mul Format.binary64 v) := by
  rcases u with s | _ | s | ⟨s, m, e, hm⟩ <;> rcases v with s' | _ | s' | ⟨s', m', e', hm'⟩
  case finite.finite =>
    exact isCanonical_roundWithAccuracy _ _
      (le_target_mul hm.ne' hm'.ne' hu.2.2 hv.2.2)
  all_goals trivial

/-- **A product is bounded by the product of the bounds.** -/
theorem isWithin_mul {u v : UnpackedFloat} (hu : IsCanonical u) (hv : IsCanonical v) {k n : Nat}
    (huk : IsWithin k u) (hvn : IsWithin n v) : IsWithin (k + n) (u.mul Format.binary64 v) := by
  rcases u with s | _ | s | ⟨s, m, e, hm⟩
  any_goals cases huk.1
  all_goals rcases v with s' | _ | s' | ⟨s', m', e', hm'⟩
  any_goals cases hvn.1
  case finite.refl.finite.refl =>
    have huk : (m : ℚ) * 2 ^ e ≤ 2 ^ k := huk.2
    have hvn : (m' : ℚ) * 2 ^ e' ≤ 2 ^ n := hvn.2
    apply isWithin_roundWithAccuracy_exact _ (Nat.mul_ne_zero hm.ne' hm'.ne')
      (le_target_mul hm.ne' hm'.ne' hu.2.2 hv.2.2)
    calc ((m * m' : Nat) : ℚ) * 2 ^ (e + e')
        = m * 2 ^ e * (m' * 2 ^ e') := by
          rw [zpow_add₀ (by norm_num), Nat.cast_mul]
          ring
      _ ≤ 2 ^ k * 2 ^ n := mul_le_mul huk hvn (by positivity) (by positivity)
      _ = 2 ^ (k + n) := (pow_add _ _ _).symm
  all_goals exact isWithin_zero _ _

/-! ## Quotients -/

/-- The exponent of a quotient: as small as that of the dividend demands, and small enough for 53
bits. -/
def quotientExponent (m : Nat) (e : Int) (n : Nat) (f : Int) : Int :=
  min (e - f) (max (m.log2 + e - (n.log2 + f) - 53) (-1074))

theorem divCore_eq (m : Nat) (e : Int) (n : Nat) (f : Int) :
    divCore Format.binary64 m e n f =
      (m <<< (e - f - quotientExponent m e n f).toNat / n, quotientExponent m e n f,
        accuracyOfFraction (m <<< (e - f - quotientExponent m e n f).toNat % n) n) := by
  have htarget : Format.binary64.targetExponent (totalExponent m e - totalExponent n f) =
      max (m.log2 + e - (n.log2 + f) - 53) (-1074) := by
    simp only [Format.targetExponent, totalExponent, Format.mantissaBits, Format.minExponent]
    norm_num
    omega
  rw [divCore, htarget]
  rfl

/-- A quotient has all 53 bits, or its exponent is the least one. -/
theorem le_target_quotient {m n : Nat} (hm : m ≠ 0) (hn : n ≠ 0) (e f : Int) :
    quotientExponent m e n f ≤ target (m <<< (e - f - quotientExponent m e n f).toNat / n)
      (quotientExponent m e n f) := by
  have hle : quotientExponent m e n f ≤ e - f := min_le_left _ _
  have hcore : quotientExponent m e n f ≤ max (m.log2 + e - (n.log2 + f) - 53) (-1074) :=
    min_le_right _ _
  generalize quotientExponent m e n f = g at hle hcore ⊢
  by_cases hleast : g ≤ -1074
  · exact hleast.trans (le_max_right _ _)
  · -- The dividend is shifted until it has 53 bits more than the divisor.
    obtain ⟨k, hk⟩ := Int.exists_add_of_le hle
    have hshift : (e - f - g).toNat = k := by omega
    have hbits : n.log2 + 53 ≤ m.log2 + k := by omega
    have hquotient : 2 ^ 52 ≤ m <<< k / n := by
      rw [Nat.le_div_iff_mul_le (Nat.pos_of_ne_zero hn), Nat.shiftLeft_eq]
      calc 2 ^ 52 * n ≤ 2 ^ 52 * 2 ^ (n.log2 + 1) :=
            Nat.mul_le_mul_left _ Nat.lt_log2_self.le
        _ = 2 ^ (n.log2 + 53) := by rw [← Nat.pow_add, Nat.add_comm, Nat.add_assoc]
        _ ≤ 2 ^ (m.log2 + k) := Nat.pow_le_pow_right (by decide) hbits
        _ = 2 ^ m.log2 * 2 ^ k := Nat.pow_add _ _ _
        _ ≤ m * 2 ^ k := Nat.mul_le_mul_right _ (Nat.log2_self_le hm)
    have hne : m <<< k / n ≠ 0 := by
      intro hzero
      rw [hzero] at hquotient
      exact absurd hquotient (by decide)
    have hlog : 52 ≤ (m <<< k / n).log2 := (Nat.le_log2 hne).2 hquotient
    rw [hshift, target]
    omega

/-- Rounding a quotient up does not leave a bound behind. -/
theorem ceiling_quotient_le {m n k : Nat} (hn : n ≠ 0) (h : m ≤ k * n) :
    ceiling (.ofMantissaAndAccuracy (m / n) (accuracyOfFraction (m % n) n)) ≤ k := by
  have hpos : 0 < n := Nat.pos_of_ne_zero hn
  have hceiling := ceiling_le (.ofMantissaAndAccuracy (m / n) (accuracyOfFraction (m % n) n))
  rw [mantissa_ofMantissaAndAccuracy] at hceiling
  by_cases hexact : m % n = 0
  · rw [accuracyOfFraction, if_pos hexact]
    exact Nat.div_le_of_le_mul (by rwa [Nat.mul_comm] at h)
  · -- A remainder keeps the dividend away from `k * n`, so there is room for one more.
    apply hceiling.trans
    rw [Nat.succ_le_iff, Nat.div_lt_iff_lt_mul hpos]
    apply lt_of_le_of_ne h
    rintro rfl
    exact hexact (Nat.mul_mod_left k n)

/-- A quotient that is bounded by a power of two has at most its exponent. -/
theorem quotientExponent_le {m n : Nat} (hm : m ≠ 0) {e f : Int} {k : Nat}
    (h : (m : ℚ) * 2 ^ e ≤ n * 2 ^ ((k : Int) + f)) : quotientExponent m e n f ≤ k := by
  have hlog : (m.log2 : Int) + e ≤ (n.log2 + 1 : Nat) + (k + f) := by
    apply log2_add_le hm
    rw [zpow_add₀ (by norm_num), zpow_natCast]
    apply h.trans
    gcongr
    exact_mod_cast Nat.lt_log2_self.le
  rw [quotientExponent]
  omega

/-- The same bound for the mantissas, with the dividend on the exponent `g` of the quotient. -/
theorem shiftLeft_le_of_le {m n : Nat} {e f g : Int} {k : Nat} (hg : g ≤ e - f) (hk : g ≤ k)
    (h : (m : ℚ) * 2 ^ e ≤ n * 2 ^ ((k : Int) + f)) :
    m <<< (e - f - g).toNat ≤ 2 ^ (k - g).toNat * n := by
  have hnat := (mul_zpow_le_iff (g := g + f) (by omega) (by omega) m n).1 h
  have hdividend : e - (g + f) = e - f - g := by omega
  rwa [hdividend, add_sub_add_right_eq_sub, ← Nat.shiftLeft_eq, Nat.mul_comm n] at hnat

theorem div_finite_eq {s s' : Sign} {m n : Nat} {e f : Int} (hm : 0 < m) (hn : 0 < n) :
    (UnpackedFloat.finite s m e hm).div Format.binary64 (.finite s' n f hn) =
      roundWithAccuracy Format.binary64 (s / s')
        (m <<< (e - f - quotientExponent m e n f).toNat / n) (quotientExponent m e n f)
        (accuracyOfFraction (m <<< (e - f - quotientExponent m e n f).toNat % n) n) := by
  rw [UnpackedFloat.div, divCore_eq]

theorem isWithin_div_finite {s s' : Sign} {m n : Nat} {e f : Int} (hm : 0 < m) (hn : 0 < n)
    {k : Nat} (h : (m : ℚ) * 2 ^ e ≤ n * 2 ^ ((k : Int) + f)) :
    IsWithin k ((UnpackedFloat.finite s m e hm).div Format.binary64 (.finite s' n f hn)) ∧
      IsCanonical ((UnpackedFloat.finite s m e hm).div Format.binary64 (.finite s' n f hn)) := by
  have htarget := le_target_quotient hm.ne' hn.ne' e f
  have hk := quotientExponent_le hm.ne' h
  have hle : quotientExponent m e n f ≤ e - f := min_le_left _ _
  have hshifted := shiftLeft_le_of_le hle hk h
  rw [div_finite_eq]
  refine ⟨⟨isFinite_roundWithAccuracy _ _ htarget, ?_⟩,
    isCanonical_roundWithAccuracy _ _ htarget⟩
  apply magnitude_roundWithAccuracy_le _ htarget
  · have hquotient := Nat.div_le_of_le_mul (hshifted.trans_eq (Nat.mul_comm _ n))
    have hlog := log2_le_of_lt (hquotient.trans_lt (Nat.pow_lt_pow_succ (by decide)))
    have hleast : (-1074 : Int) ≤ k := by omega
    apply max_le _ hleast
    omega
  · exact ceiling_quotient_le hn.ne' hshifted

/-- **A quotient is bounded by what times the divisor bounds the dividend.** -/
theorem isWithin_div {u v : UnpackedFloat} {k : Nat} (hu : u.isFinite = true)
    (hv : v.isFinite = true) (hpos : 0 < magnitude v) (h : magnitude u ≤ 2 ^ k * magnitude v) :
    IsWithin k (u.div Format.binary64 v) ∧ IsCanonical (u.div Format.binary64 v) := by
  rcases v with s' | _ | s' | ⟨s', n, f, hn⟩
  · cases hv
  · cases hv
  · exact absurd hpos (lt_irrefl 0)
  rcases u with s | _ | s | ⟨s, m, e, hm⟩
  · cases hu
  · cases hu
  · exact ⟨isWithin_zero _ _, trivial⟩
  · apply isWithin_div_finite
    rw [zpow_add₀ (by norm_num), zpow_natCast, mul_left_comm]
    exact h

/-! ## Comparing with the tolerance -/

/-- Canonical numbers are compared by their exponents first. -/
theorem mul_zpow_lt_of_lex {m m' : Nat} {e e' : Int} (hm : m < 2 ^ 53) (hle : -1074 ≤ e)
    (hfull : 2 ^ 52 ≤ m' ∨ e' = -1074) (h : e < e' ∨ e = e' ∧ m < m') :
    (m : ℚ) * 2 ^ e < m' * 2 ^ e' := by
  rcases h with hlt | ⟨rfl, hmm⟩
  · have hm' : 2 ^ 52 ≤ m' := hfull.resolve_right (by omega)
    rw [← not_le, mul_zpow_le_iff_left hlt.le, not_le]
    have htwo : 2 ≤ 2 ^ (e' - e).toNat := Nat.le_self_pow (by omega) 2
    calc m < 2 ^ 52 * 2 := hm
      _ ≤ m' * 2 ^ (e' - e).toNat := Nat.mul_le_mul hm' htwo
  · gcongr

theorem mul_zpow_le_of_lex {m m' : Nat} {e e' : Int} (hm : m < 2 ^ 53) (hle : -1074 ≤ e)
    (hfull : 2 ^ 52 ≤ m' ∨ e' = -1074) (h : e < e' ∨ e = e' ∧ m ≤ m') :
    (m : ℚ) * 2 ^ e ≤ m' * 2 ^ e' := by
  rcases h with hlt | ⟨rfl, hmm⟩
  · exact (mul_zpow_lt_of_lex hm hle hfull (Or.inl hlt)).le
  · gcongr

/-- Neither number below the other one with the order of their exponents and mantissas. -/
theorem mul_zpow_le_of_compare_ne {m m' : Nat} {e e' : Int} (hm : m' < 2 ^ 53) (hle : -1074 ≤ e')
    (hfull : 2 ^ 52 ≤ m ∨ e = -1074)
    (h : ¬ (some ((compare e e').then (compare m m')) == some Ordering.lt) = true) :
    (m' : ℚ) * 2 ^ e' ≤ m * 2 ^ e := by
  rw [beq_iff_eq, Option.some_inj, Ordering.then_eq_lt, compare_lt_iff_lt, compare_eq_iff_eq,
    compare_lt_iff_lt] at h
  exact mul_zpow_le_of_lex hm hle hfull (by omega)

/-- **What does not pass as zero has at least the magnitude of the tolerance.** -/
theorem magnitude_le_of_isZero_eq_false {τ x : Float} (hτ : 0 < τ)
    (hfinite : (value τ).isFinite = true) (hx : (value x).isFinite = true)
    (h : Scalar.isZero x τ = false) : magnitude (value τ) ≤ magnitude (value x) := by
  have hcanonical : IsCanonical (value τ) := isCanonical_unpack _
  have hcanonical' : IsCanonical (value x) := isCanonical_unpack _
  have hzero : value 0 = .zero .positive := rfl
  rw [Scalar.isZero, Bool.and_eq_false_iff, decide_eq_false_iff_not, decide_eq_false_iff_not,
    lt_iff, lt_iff, value_neg] at h
  rw [lt_iff, hzero] at hτ
  generalize value τ = t at hτ hfinite hcanonical h ⊢
  generalize value x = u at hx hcanonical' h ⊢
  rcases t with s' | _ | s' | ⟨_ | _, m', e', hm'⟩
  · cases hfinite
  · cases hfinite
  · cases hτ
  · cases hτ
  rcases u with s | _ | s | ⟨_ | _, m, e, hm⟩
  · cases hx
  · cases hx
  · exact absurd rfl (h.elim id id)
  · -- Below zero the tolerance is compared with its sign changed, which turns the order around.
    have h := h.resolve_right fun hnot => hnot rfl
    refine mul_zpow_le_of_compare_ne hcanonical.1 hcanonical.2.1 hcanonical'.2.2 ?_
    rw [← swap_compare_finite]
    exact h
  · have h := h.resolve_left fun hnot => hnot rfl
    exact mul_zpow_le_of_compare_ne hcanonical.1 hcanonical.2.1 hcanonical'.2.2 h

/-! ## Floats -/

/-- A finite float whose magnitude is at most a power of two. -/
def Bounded (k : Nat) (x : Float) : Prop := IsWithin k (value x)

/-- A positive finite float of at least `2 ^ -n`. -/
structure AtLeast (n : Nat) (x : Float) : Prop where
  pos : 0 < x
  isFinite : Scalar.isFinite x = true
  one_le : 1 ≤ 2 ^ n * magnitude (value x)

theorem isFinite_iff {x : Float} : Scalar.isFinite x = true ↔ (value x).isFinite = true := by
  have hparts : Scalar.isFinite x = (!(value x).isNaN && !(value x).isInf) := rfl
  rw [hparts]
  cases value x <;> simp [UnpackedFloat.isNaN, UnpackedFloat.isInf, UnpackedFloat.isFinite]

/-- A tolerance that is accepted is positive. -/
theorem pos_of_require_eq_ok {τ : Float} (h : Tolerance.require τ = .ok τ) : 0 < τ := by
  have htests : Scalar.isFinite τ = true ∧ ¬ τ ≤ 0 := by
    unfold Tolerance.require at h
    split at h
    · next htests =>
        rw [Bool.and_eq_true, Bool.not_eq_true', decide_eq_false_iff_not] at htests
        exact htests
    · cases h
  obtain ⟨hfinite, hnot⟩ := htests
  have hzero : value 0 = .zero .positive := rfl
  rw [isFinite_iff] at hfinite
  rw [le_iff, hzero] at hnot
  rw [lt_iff, hzero]
  generalize value τ = t at hfinite hnot ⊢
  rcases t with s | _ | s | ⟨_ | _, m, e, hm⟩
  · cases hfinite
  · cases hfinite
  · exact absurd rfl hnot
  · exact absurd rfl hnot
  · rfl

instance (k : Nat) (x : Float) : Decidable (Bounded k x) := inferInstanceAs (Decidable (_ ∧ _))

namespace Bounded

variable {k n : Nat} {x y : Float}

theorem isFinite (h : Bounded k x) : Scalar.isFinite x = true := isFinite_iff.2 h.1

theorem mono (h : Bounded k x) (hkn : k ≤ n) : Bounded n x := IsWithin.mono h hkn

/-- What an operation gives is kept if it is not too large. -/
theorem of_unpack_pack {u : UnpackedFloat} (hu : IsCanonical u) (h : IsWithin k u) (hk : k ≤ 1023)
    (hx : value x = unpack Format.binary64 (pack Format.binary64 u)) : Bounded k x := by
  rw [Bounded, hx, unpack_pack_of_isCanonical hu (h.mono hk).2]
  exact h

theorem add (hx : Bounded k x) (hy : Bounded k y) (hk : k + 1 ≤ 1023) :
    Bounded (k + 1) (x + y) :=
  of_unpack_pack (isCanonical_add (isCanonical_unpack _) (isCanonical_unpack _))
    (isWithin_add hx hy) hk rfl

theorem mul (hx : Bounded k x) (hy : Bounded n y) (hk : k + n ≤ 1023) :
    Bounded (k + n) (x * y) :=
  of_unpack_pack (isCanonical_mul (isCanonical_unpack _) (isCanonical_unpack _))
    (isWithin_mul (isCanonical_unpack _) (isCanonical_unpack _) hx hy) hk rfl

/-- Dividing by what does not pass as zero within a tolerance of at least `2 ^ -n`. -/
theorem div {τ : Float} (hx : Bounded k x) (hy : Scalar.isFinite y = true) (hτ : AtLeast n τ)
    (hzero : Scalar.isZero y τ = false) (hk : k + n ≤ 1023) : Bounded (k + n) (x / y) := by
  have hfinite := isFinite_iff.1 hy
  -- The divisor is at least the tolerance, so dividing adds the exponent of the tolerance at most.
  have hlarge : (1 : ℚ) ≤ 2 ^ n * magnitude (value y) := by
    have hle := magnitude_le_of_isZero_eq_false hτ.pos (isFinite_iff.1 hτ.isFinite) hfinite hzero
    exact hτ.one_le.trans (mul_le_mul_of_nonneg_left hle (by positivity))
  have hpos : 0 < magnitude (value y) := by
    by_contra hnot
    have hle : (2 : ℚ) ^ n * magnitude (value y) ≤ 0 :=
      mul_nonpos_of_nonneg_of_nonpos (by positivity) (not_lt.1 hnot)
    linarith
  have hle : magnitude (value x) ≤ 2 ^ (k + n) * magnitude (value y) := by
    calc magnitude (value x) ≤ 2 ^ k * 1 := by rw [mul_one]; exact hx.2
      _ ≤ 2 ^ k * (2 ^ n * magnitude (value y)) := by gcongr
      _ = 2 ^ (k + n) * magnitude (value y) := by rw [pow_add, mul_assoc]
  obtain ⟨hwithin, hcanonical⟩ := isWithin_div hx.1 hfinite hpos hle
  exact of_unpack_pack hcanonical hwithin hk rfl

theorem neg (hx : Bounded k x) : Bounded k (-x) := by
  rw [Bounded, value_neg]
  unfold Bounded at hx
  generalize value x = u at hx ⊢
  cases u <;> exact hx

theorem zero (k : Nat) : Bounded k (0 : Float) := isWithin_zero k .positive

theorem one (k : Nat) : Bounded k (1 : Float) := by
  have hone : value 1 = .finite .positive (2 ^ 52) (-52) (by decide) := rfl
  have hmagnitude : magnitude (value 1) = 1 := by
    rw [hone, magnitude]
    norm_num
  refine IsWithin.mono (k := 0) ⟨rfl, ?_⟩ (Nat.zero_le k)
  rw [hmagnitude, pow_zero]

end Bounded

/-- A number as it is kept survives the way through the 64 bits. -/
theorem unpack_pack_value (x : Float) :
    unpack Format.binary64 (pack Format.binary64 (value x)) = value x := by
  obtain ⟨s, hs⟩ : ∃ s, value x = withSign s (value x) := by
    cases value x with
    | notANumber => exact ⟨.positive, rfl⟩
    | infinity s => exact ⟨s, rfl⟩
    | zero s => exact ⟨s, rfl⟩
    | finite s m e hm => exact ⟨s, rfl⟩
  rw [hs]
  exact unpack_pack_withSign _ s

theorem isFinite_neg {x : Float} (hx : Scalar.isFinite x = true) :
    Scalar.isFinite (-x) = true := by
  rw [isFinite_iff, value_neg]
  rw [isFinite_iff] at hx
  generalize value x = u at hx ⊢
  cases u <;> exact hx

end FloatingPoint

end LinearSystems
