import Mathlib
import LinearSystems.Mat
import LinearSystems.Proofs.FloatingPoint.Scaling

/-!
# Floats that differ by a power of two

Scaling by powers of two for floats, where a result is as computed as long as it is finite
(`FloatingPoint.value_eq_of_isFinite`).  A sum of products is scaled with its factors if no product
underflows and the sum is finite (`FloatingPoint.scaledBy_sumOfProducts`).

A length, the root of a finite sum of squares, is far away from underflow and from overflow unless
the squares underflow (`FloatingPoint.Moderate`), so dividing by it or multiplying with its
reciprocal loses nothing.
-/

namespace LinearSystems

namespace FloatingPoint

open Float.Model Float.Model.UnpackedFloat

/-- The second float is the first one times `2 ^ k`, and both are finite. -/
def ScaledBy (k : Int) (x x' : Float) : Prop := Scales k (value x) (value x')

section Floats

variable {k l : Int} {x x' y y' z c : Float}

/-- What is finite once it is packed is what was packed. -/
theorem value_eq_of_isFinite {u : UnpackedFloat} (hu : IsCanonical u) (hfinite : u.isFinite = true)
    (hz : value z = unpack Format.binary64 (pack Format.binary64 u))
    (h : Scalar.isFinite z = true) : value z = u := by
  rcases unpack_pack_cases hu hfinite with ⟨hkept, -⟩ | ⟨s, hinfinite, -⟩
  · exact hz.trans hkept
  · rw [isFinite_iff, hz, hinfinite] at h
    cases h

theorem value_add (hx : Scalar.isFinite x = true) (hy : Scalar.isFinite y = true)
    (h : Scalar.isFinite (x + y) = true) :
    value (x + y) = (value x).add Format.binary64 (value y) :=
  value_eq_of_isFinite (isCanonical_add (isCanonical_value x) (isCanonical_value y))
    (isWithin_add (isWithin_value hx) (isWithin_value hy)).1 rfl h

theorem value_mul (hx : Scalar.isFinite x = true) (hy : Scalar.isFinite y = true)
    (h : Scalar.isFinite (x * y) = true) :
    value (x * y) = (value x).mul Format.binary64 (value y) :=
  value_eq_of_isFinite (isCanonical_mul (isCanonical_value x) (isCanonical_value y))
    (isWithin_mul (isCanonical_value x) (isCanonical_value y) (isWithin_value hx)
      (isWithin_value hy)).1 rfl h

theorem le_toRat_mul (hx : Scalar.isFinite x = true) (hy : Scalar.isFinite y = true)
    (h : Scalar.isFinite (x * y) = true) {z : UnpackedFloat} (hz : IsCanonical z)
    (hle : exact z ≤ toRat x * toRat y) : exact z ≤ toRat (x * y) := by
  rw [toRat, value_mul hx hy h]
  exact (isRounding_mul (isCanonical_value x) (isCanonical_value y) (isFinite_iff.1 hx)
    (isFinite_iff.1 hy)).ge hz hle

theorem two_zpow_le_toRat_mul (hx : Scalar.isFinite x = true) (hy : Scalar.isFinite y = true)
    (h : Scalar.isFinite (x * y) = true) {j : Int} (hj : -1022 ≤ j)
    (hle : 2 ^ j ≤ toRat x * toRat y) : 2 ^ j ≤ toRat (x * y) := by
  have hz : IsCanonical (.finite .positive (2 ^ 52) (j - 52) (by decide)) :=
    ⟨by decide, by omega, Or.inl le_rfl⟩
  have hexact : exact (.finite .positive (2 ^ 52) (j - 52) (by decide)) = 2 ^ j := by
    rw [exact_positive, Nat.cast_pow, Nat.cast_ofNat, ← zpow_natCast, ← zpow_add₀ (by norm_num)]
    exact congrArg _ (by omega)
  rw [← hexact] at hle ⊢
  exact le_toRat_mul hx hy h hz hle

/-- A finite sum has finite summands. -/
theorem isFinite_of_add (h : Scalar.isFinite (x + y) = true) :
    Scalar.isFinite x = true ∧ Scalar.isFinite y = true := by
  have hsum : value (x + y) =
    unpack Format.binary64 (pack Format.binary64 ((value x).add Format.binary64 (value y))) := rfl
  have hnan : (unpack Format.binary64 (pack Format.binary64 .notANumber)).isFinite = false := by
    simp [UnpackedFloat.pack, UnpackedFloat.unpack, packedNaN, UnpackedFloat.isFinite]
  have hinfinite (s : Sign) :
      (unpack Format.binary64 (pack Format.binary64 (.infinity s))).isFinite = false := by
    cases s <;> rfl
  rw [isFinite_iff, hsum] at h
  rw [isFinite_iff, isFinite_iff]
  generalize value x = u at h ⊢
  generalize value y = v at h ⊢
  rcases u with (_ | _) | _ | _ | ⟨s, m, e, hm⟩ <;>
    rcases v with (_ | _) | _ | _ | ⟨s', m', e', hm'⟩ <;>
    first
    | exact ⟨rfl, rfl⟩
    | exact absurd h (ne_of_eq_of_ne hnan Bool.false_ne_true)
    | exact absurd h (ne_of_eq_of_ne (hinfinite _) Bool.false_ne_true)

theorem scaledBy_zero : ScaledBy k 0 0 := Scales.zero .positive

namespace ScaledBy

theorem isFinite (h : ScaledBy k x x') :
    Scalar.isFinite x = true ∧ Scalar.isFinite x' = true := by
  rw [isFinite_iff, isFinite_iff]
  unfold ScaledBy at h
  generalize value x = u at h ⊢
  generalize value x' = u' at h ⊢
  cases h <;> exact ⟨rfl, rfl⟩

theorem add (hx : ScaledBy k x x') (hy : ScaledBy k y y') (h : Scalar.isFinite (x + y) = true)
    (h' : Scalar.isFinite (x' + y') = true) : ScaledBy k (x + y) (x' + y') := by
  rw [ScaledBy, value_add hx.isFinite.1 hy.isFinite.1 h, value_add hx.isFinite.2 hy.isFinite.2 h']
  exact Scales.add (isCanonical_value x) (isCanonical_value x') (isCanonical_value y)
    (isCanonical_value y') hx hy

theorem mul (hx : ScaledBy k x x') (hy : ScaledBy l y y') (h : Scalar.isFinite (x * y) = true)
    (h' : Scalar.isFinite (x' * y') = true) (hnormal : IsNormal (toRat x * toRat y))
    (hnormal' : IsNormal (toRat x' * toRat y')) : ScaledBy (k + l) (x * y) (x' * y') := by
  rw [ScaledBy, value_mul hx.isFinite.1 hy.isFinite.1 h, value_mul hx.isFinite.2 hy.isFinite.2 h']
  exact Scales.mul (isCanonical_value x) (isCanonical_value x') (isCanonical_value y)
    (isCanonical_value y') hx hy hnormal hnormal'

theorem mul_eq (hx : ScaledBy k x x') (hy : ScaledBy (-k) y y') : x' * y' = x * y :=
  congrArg (fun u => (⟨.pack u⟩ : Float)) (Scales.mul_eq (isCanonical_value x) (isCanonical_value x')
    (isCanonical_value y) (isCanonical_value y') hx hy)

theorem div_eq (hx : ScaledBy k x x') (hy : ScaledBy k y y') : x' / y' = x / y :=
  congrArg (fun u => (⟨.pack u⟩ : Float)) (Scales.div_eq hx hy)

/-- Multiplying by a power of two without an error. -/
theorem of_isExactly (hc : IsExactly c (2 ^ k)) (hx : Scalar.isFinite x = true)
    (h : IsExactly (x * c) (toRat x * 2 ^ k)) : ScaledBy k x (x * c) := by
  have hcpos : 0 < exact (value c) := (two_zpow_pos k).trans_eq hc.2.symm
  have hvalue := value_mul hx hc.1 h.1
  have hproduct := h.2
  rw [toRat, toRat, hvalue] at hproduct
  rw [ScaledBy, hvalue]
  rw [isFinite_iff] at hx
  obtain ⟨n, f, hn, hvalue⟩ := eq_finite_of_exact_pos hcpos
  rw [hvalue] at hproduct ⊢
  generalize value x = u at hx hproduct ⊢
  rcases u with s | _ | s | ⟨s, m, e, hm⟩
  · cases hx
  · cases hx
  · cases s <;> exact .zero _
  · exact scales_of_exact_eq (exact_finite_ne_zero s hm) hproduct

end ScaledBy

/-! ### Sums of products -/

section Sums

variable {n : Nat} {a a' b b' : Fin n → Float}

theorem scaledBy_sumOfProducts (ha : ∀ i, ScaledBy k (a i) (a' i))
    (hb : ∀ i, ScaledBy l (b i) (b' i)) (hnormal : ∀ i, IsNormal (toRat (a i) * toRat (b i)))
    (hnormal' : ∀ i, IsNormal (toRat (a' i) * toRat (b' i)))
    (h : Scalar.isFinite (sumOfProducts a b) = true)
    (h' : Scalar.isFinite (sumOfProducts a' b') = true) :
    ScaledBy (k + l) (sumOfProducts a b) (sumOfProducts a' b') := by
  rw [sumOfProducts] at h h' ⊢
  rw [sumOfProducts]
  generalize List.finRange n = indices at h h' ⊢
  induction indices using List.reverseRecOn with
  | nil => exact scaledBy_zero
  | append_singleton indices i ih =>
      rw [List.foldl_concat] at h h' ⊢
      rw [List.foldl_concat]
      obtain ⟨hsum, hproduct⟩ := isFinite_of_add h
      obtain ⟨hsum', hproduct'⟩ := isFinite_of_add h'
      exact (ih hsum hsum').add
        ((ha i).mul (hb i) hproduct hproduct' (hnormal i) (hnormal' i)) h h'

/-- No square is above the sum of squares, rounding included. -/
theorem sq_le_sumOfProducts (ha : ∀ i, Scalar.isFinite (a i) = true)
    (h : Scalar.isFinite (sumOfProducts a a) = true) (i : Fin n) :
    Scalar.isFinite (a i * a i) = true ∧ toRat (a i * a i) ≤ toRat (sumOfProducts a a) := by
  have hindices (indices : List (Fin n)) :
      Scalar.isFinite (indices.foldl (fun sum k => sum + a k * a k) 0) = true →
      0 ≤ toRat (indices.foldl (fun sum k => sum + a k * a k) 0) ∧
        ∀ i ∈ indices, Scalar.isFinite (a i * a i) = true ∧
          toRat (a i * a i) ≤ toRat (indices.foldl (fun sum k => sum + a k * a k) 0) := by
    induction indices using List.reverseRecOn with
    | nil => exact fun _ => ⟨toRat_zero.ge, fun i hi => absurd hi List.not_mem_nil⟩
    | append_singleton indices i ih =>
        rw [List.foldl_concat]
        intro h
        obtain ⟨hsum, hproduct⟩ := isFinite_of_add h
        obtain ⟨hnonneg, hle⟩ := ih hsum
        generalize indices.foldl (fun sum k => sum + a k * a k) 0 = sum at *
        have hsquare : 0 ≤ toRat (a i * a i) :=
          le_toRat_mul (ha i) (ha i) hproduct (z := .zero .positive) trivial (mul_self_nonneg _)
        have hgrows := (le_iff_toRat hsum h).1
          (le_add_of_toRat_le hsum hproduct hsum (le_add_of_nonneg_right hsquare))
        have hlast := (le_iff_toRat hproduct h).1
          (le_add_of_toRat_le hsum hproduct hproduct (le_add_of_nonneg_left hnonneg))
        refine ⟨hnonneg.trans hgrows, fun j hj => ?_⟩
        rcases List.mem_append.1 hj with hj | hj
        · exact ⟨(hle j hj).1, (hle j hj).2.trans hgrows⟩
        · rw [List.mem_singleton.1 hj]
          exact ⟨hproduct, hlast⟩
  exact (hindices _ h).2 i (List.mem_finRange i)

end Sums

/-! ### Lengths -/

/-- A positive float that is far away from underflow and from overflow, as lengths are. -/
structure Moderate (x : Float) : Prop where
  isFinite : Scalar.isFinite x = true
  lower : 2 ^ (-511 : ℤ) ≤ toRat x
  upper : toRat x ≤ 2 ^ (512 : ℤ)

theorem value_sqrt (hx : Scalar.isFinite x = true) (hle : 2 ^ (-1022 : ℤ) ≤ toRat x) :
    value x.sqrt = (value x).sqrt Format.binary64 ∧ Moderate x.sqrt := by
  have hcanonical := isCanonical_value x
  have hlt : toRat x < 2 ^ (2 * (512 : ℤ)) := by
    have hexponent : 2 * (512 : ℤ) = (1024 : Nat) := by norm_num
    have hmagnitude := magnitude_value_lt hx
    rw [← abs_exact] at hmagnitude
    rw [hexponent, zpow_natCast]
    exact (le_abs_self _).trans_lt hmagnitude
  have hexponent : 2 * (-511 : ℤ) = -1022 := by norm_num
  obtain ⟨hfinite, hroot⟩ := isFinite_sqrt hcanonical hle
  have hlower := le_exact_sqrt (j := -511) hcanonical hle (hexponent ▸ hle)
  have hupper := exact_sqrt_le hcanonical hle hlt
  have hmagnitude : magnitude ((value x).sqrt Format.binary64) ≤ 2 ^ 1023 := by
    rw [← abs_exact, abs_of_nonneg ((two_zpow_pos _).le.trans hlower)]
    refine hupper.trans ((zpow_ofNat (2 : ℚ) 512).trans_le ?_)
    exact pow_le_pow_right₀ one_le_two (by norm_num)
  have hvalue : value x.sqrt = (value x).sqrt Format.binary64 :=
    unpack_pack_of_isCanonical hroot hmagnitude
  have hexact : toRat x.sqrt = exact ((value x).sqrt Format.binary64) := congrArg exact hvalue
  exact ⟨hvalue, isFinite_iff.2 ((congrArg _ hvalue).trans hfinite), hlower.trans_eq hexact.symm,
    hexact.trans_le hupper⟩

theorem toRat_sqrt_le {j : Int} (hx : Scalar.isFinite x = true) (hle : 2 ^ (-1022 : ℤ) ≤ toRat x)
    (h : toRat x < 2 ^ (2 * j)) : toRat x.sqrt ≤ 2 ^ j := by
  rw [toRat, (value_sqrt hx hle).1]
  exact exact_sqrt_le (isCanonical_value x) hle h

theorem ScaledBy.sqrt (h : ScaledBy (2 * k) x x') (hle : 2 ^ (-1022 : ℤ) ≤ toRat x)
    (hle' : 2 ^ (-1022 : ℤ) ≤ toRat x') : ScaledBy k x.sqrt x'.sqrt := by
  rw [ScaledBy, (value_sqrt h.isFinite.1 hle).1, (value_sqrt h.isFinite.2 hle').1]
  exact Scales.sqrt (isCanonical_value x) (isCanonical_value x') h hle hle'

theorem two_zpow_le_mul {p q : ℚ} (hp : 2 ^ (-511 : ℤ) ≤ p) (hq : 2 ^ (-511 : ℤ) ≤ q) :
    2 ^ (-1022 : ℤ) ≤ p * q := by
  calc (2 : ℚ) ^ (-1022 : ℤ) = 2 ^ (-511 : ℤ) * 2 ^ (-511 : ℤ) := by
        rw [← zpow_add₀ (by norm_num)]
        norm_num
    _ ≤ p * q := mul_le_mul hp hq (two_zpow_pos _).le ((two_zpow_pos _).le.trans hp)

namespace Moderate

theorem pos (h : Moderate x) : 0 < toRat x := (two_zpow_pos _).trans_le h.lower

theorem beq_zero (h : Moderate x) : (x == 0) = false := by
  rw [← Bool.not_eq_true, beq_iff_toRat h.isFinite rfl]
  exact h.pos.ne'

/-- The product of two lengths does not underflow. -/
theorem mul_le (hx : Moderate x) (hy : Moderate y) : 2 ^ (-1022 : ℤ) ≤ toRat x * toRat y :=
  two_zpow_le_mul hx.lower hy.lower

theorem isNormal_mul (hx : Moderate x) (hy : Moderate y) : IsNormal (toRat x * toRat y) := by
  right
  rw [abs_of_pos (mul_pos hx.pos hy.pos)]
  exact hx.mul_le hy

theorem mul_beq_zero (hx : Moderate x) (hy : Moderate y)
    (h : Scalar.isFinite (x * y) = true) : (x * y == 0) = false := by
  rw [← Bool.not_eq_true, beq_iff_toRat (y := 0) h rfl]
  have hle := two_zpow_le_toRat_mul hx.isFinite hy.isFinite h le_rfl (hx.mul_le hy)
  exact ((two_zpow_pos _).trans_le hle).ne'

theorem value_one_div (h : Moderate x) :
    value (1 / x) = (value 1).div Format.binary64 (value x) ∧ Bounded 511 (1 / x) := by
  have hone : magnitude (value 1) = 1 := by
    rw [← abs_exact]
    exact (congrArg (|·|) isExactly_one.2).trans abs_one
  have hmagnitude : magnitude (value x) = toRat x := by
    rw [← abs_exact]
    exact abs_of_pos h.pos
  have hle : magnitude (value 1) ≤ 2 ^ 511 * magnitude (value x) := by
    rw [hone, hmagnitude]
    calc (1 : ℚ) = 2 ^ (511 : ℤ) * 2 ^ (-511 : ℤ) := by
          rw [← zpow_add₀ (by norm_num), add_neg_cancel, zpow_zero]
      _ ≤ 2 ^ (511 : ℤ) * toRat x := mul_le_mul_of_nonneg_left h.lower (two_zpow_pos _).le
      _ = 2 ^ 511 * toRat x := by rw [zpow_ofNat]
  obtain ⟨hwithin, hcanonical⟩ :=
    isWithin_div (u := value 1) rfl (isFinite_iff.1 h.isFinite) (hmagnitude ▸ h.pos) hle
  have hkept := unpack_pack_of_isCanonical hcanonical
    (hwithin.2.trans (pow_le_pow_right₀ one_le_two (by norm_num)))
  exact ⟨hkept, Bounded.of_unpack_pack hcanonical hwithin (by norm_num) rfl⟩

end Moderate

/-- The reciprocal of a length is scaled by the inverse power. -/
theorem ScaledBy.reciprocal (h : ScaledBy k x x') (hx : Moderate x) (hx' : Moderate x') :
    ScaledBy (-k) (1 / x) (1 / x') := by
  have hone : ScaledBy 0 1 1 := by
    refine scales_of_exact_eq ?_ ?_
    · exact ne_of_eq_of_ne isExactly_one.2 one_ne_zero
    · rw [zpow_zero, mul_one]
  have hnormal {y : Float} (hy : Moderate y) : IsNormal (exact (value 1) / exact (value y)) := by
    have hquotient : exact (value 1) / exact (value y) = (toRat y)⁻¹ := by
      rw [← one_div]
      exact congrArg (· / toRat y) isExactly_one.2
    rw [hquotient]
    right
    rw [abs_of_pos (inv_pos.2 hy.pos)]
    calc (2 : ℚ) ^ (-1022 : ℤ) ≤ 2 ^ (-512 : ℤ) := zpow_le_zpow_right₀ (by norm_num) (by norm_num)
      _ = (2 ^ (512 : ℤ))⁻¹ := zpow_neg _ _
      _ ≤ (toRat y)⁻¹ := inv_anti₀ hy.pos hy.upper
  rw [ScaledBy, hx.value_one_div.1, hx'.value_one_div.1, ← zero_sub]
  refine Scales.div hone h ?_ (hnormal hx) (hnormal hx')
  rw [← abs_exact]
  exact abs_pos.2 hx.pos.ne'

theorem Bounded.abs_toRat_le {B : Nat} (h : Bounded B x) : |toRat x| ≤ 2 ^ B :=
  (abs_exact _).trans_le h.2

theorem bounded_of_abs_toRat_le {B : Nat} (hx : Scalar.isFinite x = true)
    (h : |toRat x| ≤ 2 ^ B) : Bounded B x :=
  ⟨isFinite_iff.1 hx, (abs_exact _).symm.trans_le h⟩

/-- What has a finite square is far below the largest floats. -/
theorem bounded_of_isFinite_sq (hx : Scalar.isFinite x = true)
    (h : Scalar.isFinite (x * x) = true) : Bounded 512 x := by
  apply bounded_of_abs_toRat_le hx
  by_contra hnot
  have hlarge : (2 : ℚ) ^ (1024 : ℤ) ≤ toRat x * toRat x := by
    rw [not_le] at hnot
    calc (2 : ℚ) ^ (1024 : ℤ) = 2 ^ 512 * 2 ^ 512 := by rw [zpow_ofNat, ← pow_add]
      _ ≤ |toRat x| * |toRat x| := mul_le_mul hnot.le hnot.le (by positivity) (abs_nonneg _)
      _ = toRat x * toRat x := abs_mul_abs_self _
  have hle := two_zpow_le_toRat_mul hx hx h (by norm_num) hlarge
  have hlt := magnitude_value_lt h
  rw [← abs_exact] at hlt
  rw [zpow_ofNat] at hle
  exact absurd ((le_abs_self _).trans_lt hlt) (not_lt.2 hle)

end Floats

end FloatingPoint

end LinearSystems
