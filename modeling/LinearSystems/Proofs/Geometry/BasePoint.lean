import Mathlib
import LinearSystems.Proofs.Comparison
import LinearSystems.Proofs.FloatingPoint.Error
import LinearSystems.Proofs.Geometry.Operations
import LinearSystems.Proofs.Satisfaction
import LinearSystems.Proofs.Session.Tolerances

/-!
# Base points in floating point

The base point of an equation is the offset divided by the leading coefficient, on the axis of that
coordinate.  The equation then multiplies again and compares with its absolute tolerance: the other
coordinates add zeros only (`FloatingPoint.agree_sumOfProducts_single`), so the test is about one
quotient and one product (`FloatingPoint.ComesBack`).

The two roundings are off by about `2 ^ -52` of the offset.  So **the point is contained where that is
below the tolerance, and in general exactly when the product comes back to within the tolerance**
(`LinearEquation.contains_basePoint_iff`).  For large offsets it need not
(`LinearEquation.not_contains_basePoint`), and beside a small coefficient the quotient may even
overflow (`LinearEquation.basePoint_eq_error_of_overflow`).
-/

namespace LinearSystems

namespace FloatingPoint

open Float.Model Float.Model.UnpackedFloat

/-! ## Adding zeros -/

/-- The floats are the same number, up to the sign of zero. -/
def Agree (x y : Float) : Prop :=
  value x = value y ∨ (∃ s, value x = .zero s) ∧ ∃ s, value y = .zero s

section Agree

variable {x y z τ : Float} {s : Sign}

theorem Agree.trans (hxy : Agree x y) (hyz : Agree y z) : Agree x z := by
  rcases hxy with hxy | ⟨hx, t, hy⟩
  · rcases hyz with hyz | ⟨⟨t, hy⟩, hz⟩
    · exact Or.inl (hxy.trans hyz)
    · exact Or.inr ⟨⟨t, hxy.trans hy⟩, hz⟩
  · rcases hyz with hyz | ⟨-, hz⟩
    · exact Or.inr ⟨hx, t, hyz.symm.trans hy⟩
    · exact Or.inr ⟨hx, hz⟩

/-- A zero on either side changes at most the sign of zero. -/
theorem agree_add_zero (hz : value z = .zero s) (x : Float) :
    Agree (x + z) x ∧ Agree (z + x) x := by
  have hkept := unpack_pack_value x
  have hright : value (x + z) =
      unpack Format.binary64 (pack Format.binary64 ((value x).add Format.binary64 (value z))) := rfl
  have hleft : value (z + x) =
      unpack Format.binary64 (pack Format.binary64 ((value z).add Format.binary64 (value x))) := rfl
  rw [Agree, Agree, hright, hleft, hz]
  generalize value x = u at hkept ⊢
  rcases u with t | _ | t | ⟨t, m, e, hm⟩
  case zero =>
    refine ⟨Or.inr ⟨?_, t, rfl⟩, Or.inr ⟨?_, t, rfl⟩⟩ <;> cases s <;> cases t <;> exact ⟨_, rfl⟩
  all_goals exact ⟨Or.inl hkept, Or.inl hkept⟩

theorem Agree.sub (h : Agree x y) (k : Float) : Agree (x - k) (y - k) := by
  have hdifference (w : Float) : value (w - k) =
      unpack Format.binary64 (pack Format.binary64 ((value w).sub Format.binary64 (value k))) := rfl
  rw [Agree, hdifference, hdifference]
  rcases h with h | ⟨⟨s, hx⟩, t, hy⟩
  · exact Or.inl (by rw [h])
  · rw [hx, hy]
    rcases value k with _ | _ | r | _
    case zero =>
      refine Or.inr ⟨?_, ?_⟩
      · cases s <;> cases r <;> exact ⟨_, rfl⟩
      · cases t <;> cases r <;> exact ⟨_, rfl⟩
    all_goals exact Or.inl rfl

/-- The zero test does not see the sign of zero. -/
theorem Agree.isZero (h : Agree x y) (τ : Float) : Scalar.isZero x τ = Scalar.isZero y τ := by
  rw [Bool.eq_iff_iff, Scalar.isZero, Scalar.isZero, Bool.and_eq_true, Bool.and_eq_true]
  simp only [decide_eq_true_iff, lt_iff, value_neg]
  rcases h with h | ⟨⟨s, hx⟩, t, hy⟩
  · rw [h]
  · rw [hx, hy]
    exact and_congr (Bool.eq_iff_iff.1 (lt_zero_congr _ _ _).2)
      (Bool.eq_iff_iff.1 (lt_zero_congr _ _ _).1)

theorem exists_value_mul_zero (hx : Scalar.isFinite x = true) : ∃ s, value (x * 0) = .zero s := by
  have hproduct : value (x * 0) = unpack Format.binary64
      (pack Format.binary64 ((value x).mul Format.binary64 (.zero .positive))) := rfl
  have hzero : ∃ t, (value x).mul Format.binary64 (.zero .positive) = .zero t := by
    rw [isFinite_iff] at hx
    generalize value x = u at hx ⊢
    rcases u with _ | _ | s | ⟨s, m, e, hm⟩
    · cases hx
    · cases hx
    · exact ⟨_, rfl⟩
    · exact ⟨_, rfl⟩
  obtain ⟨t, ht⟩ := hzero
  rw [hproduct, ht]
  cases t <;> exact ⟨_, rfl⟩

/-- Zeros that are added one by one change at most the sign of zero. -/
theorem agree_foldl_add {ι : Type} {f : ι → Float} {l : List ι}
    (h : ∀ i ∈ l, ∃ s, value (f i) = .zero s) (x : Float) :
    Agree (l.foldl (fun sum i => sum + f i) x) x := by
  induction l using List.reverseRecOn with
  | nil => exact Or.inl rfl
  | append_singleton l i ih =>
      obtain ⟨s, hs⟩ := h i (List.mem_append_right l (List.mem_singleton_self i))
      rw [List.foldl_concat]
      exact (agree_add_zero hs _).1.trans (ih fun j hj => h j (List.mem_append_left _ hj))

/-- **A sum of products with one coordinate that is not zero is that product**, up to the sign of
zero. -/
theorem agree_sumOfProducts_single {n : Nat} {u : Fin n → Float}
    (hu : ∀ i, Scalar.isFinite (u i) = true) (i : Fin n) (q : Float) :
    Agree (sumOfProducts u fun j => if j = i then q else 0) (u i * q) := by
  obtain ⟨l, l', hsplit⟩ := List.append_of_mem (List.mem_finRange i)
  have hnodup := List.nodup_finRange n
  rw [hsplit, List.nodup_middle, List.nodup_cons, List.mem_append, not_or] at hnodup
  obtain ⟨⟨hbefore, hafter⟩, -⟩ := hnodup
  have hzero {indices : List (Fin n)} (hi : i ∉ indices) :
      ∀ j ∈ indices, ∃ s, value (u j * if j = i then q else 0) = .zero s := by
    intro j hj
    have hne : j ≠ i := by
      rintro rfl
      exact hi hj
    rw [if_neg hne]
    exact exists_value_mul_zero (hu j)
  -- What is summed before the coordinate is a zero, and only zeros are added after it.
  have hstart : ∃ s,
      value (l.foldl (fun sum j => sum + u j * if j = i then q else 0) 0) = .zero s := by
    rcases agree_foldl_add (hzero hbefore) 0 with h | ⟨h, -⟩
    · exact ⟨.positive, h⟩
    · exact h
  obtain ⟨s, hs⟩ := hstart
  rw [sumOfProducts, hsplit, List.foldl_append, List.foldl_cons, if_pos rfl]
  exact (agree_foldl_add (hzero hafter) _).trans (agree_add_zero hs _).2

end Agree

/-! ## Dividing and multiplying again -/

section ComesBack

variable {τ x y c k : Float}

/-- A difference from a finite number is zero within the tolerance when there is no overflow and the
exact difference is small, off the edge. -/
theorem isZero_sub_iff (hτ : Scalar.isFinite τ = true) (hy : Scalar.isFinite y = true) :
    Scalar.isZero (x - y) τ = true ↔
      Scalar.isFinite x = true ∧ Within τ x y ∧ ¬ DifferenceOnEdge τ x y := by
  rw [← isSmall_eq_isZero]
  constructor
  · intro h
    have hbetween := isSmall_iff.1 h
    have hdifference := isFinite_of_le_of_le (isFinite_neg hτ) hτ
      (lt_iff_le_and_beq.1 hbetween.1).1 (lt_iff_le_and_beq.1 hbetween.2).1
    rw [sub_eq_add] at hdifference
    have hx := (isFinite_of_add hdifference).1
    exact ⟨hx, (isSmall_sub_iff hτ hx hy).1 h⟩
  · rintro ⟨hx, h⟩
    exact (isSmall_sub_iff hτ hx hy).2 h

theorem isFinite_iff_of_beq (h : (x == y) = true) :
    Scalar.isFinite x = true ↔ Scalar.isFinite y = true := by
  rw [isFinite_iff, isFinite_iff]
  rcases eq_or_zeros_of_beq (u := value x) (v := value y) h with heq | ⟨⟨s, hx⟩, t, hy⟩
  · rw [heq]
  · rw [hx, hy]
    rfl

/-- A difference that stays away from the tolerance by a rounding is not rounded to it. -/
theorem not_differenceOnEdge (hτ : Scalar.isFinite τ = true) (hx : Scalar.isFinite x = true)
    (hy : Scalar.isFinite y = true)
    (h : |toRat x - toRat y| + (|toRat x - toRat y| * unitRoundoff + halfLeast) < toRat τ) :
    ¬ DifferenceOnEdge τ x y := by
  have habs (hfinite : Scalar.isFinite (x - y) = true) : |toRat (x - y)| < toRat τ := by
    have hnear := isNear_toRat_sub hx hy hfinite
    rw [IsNear] at hnear
    linarith [abs_sub_abs_le_abs_sub (toRat (x - y)) (toRat x - toRat y)]
  rintro (hedge | hedge)
  · have hfinite := (isFinite_iff_of_beq hedge).1 (isFinite_neg hτ)
    rw [beq_iff_toRat (isFinite_neg hτ) hfinite, toRat_neg] at hedge
    have hlt := habs hfinite
    rw [← hedge, abs_neg] at hlt
    exact absurd (le_abs_self _) hlt.not_ge
  · have hfinite := (isFinite_iff_of_beq hedge).2 hτ
    rw [beq_iff_toRat hfinite hτ] at hedge
    have hlt := habs hfinite
    rw [hedge] at hlt
    exact absurd (le_abs_self _) hlt.not_ge

/-- Dividing by a number and multiplying by it again does not overflow and comes back to within the
tolerance, off the edge. -/
structure ComesBack (τ c k : Float) : Prop where
  quotient : Scalar.isFinite (k / c) = true
  product : Scalar.isFinite (c * (k / c)) = true
  within : Within τ (c * (k / c)) k
  offEdge : ¬ DifferenceOnEdge τ (c * (k / c)) k

/-- One rounding of the dividend, and what underflows in the quotient and in the product. -/
def backError (c k : Float) : ℚ := |toRat k| * unitRoundoff + (|toRat c| + 1) * halfLeast

theorem abs_mul_quotient_sub_le (hc : Scalar.isFinite c = true) (hk : Scalar.isFinite k = true)
    (hne : toRat c ≠ 0) (h : Scalar.isFinite (k / c) = true) :
    |toRat c * toRat (k / c) - toRat k| ≤ |toRat k| * unitRoundoff + |toRat c| * halfLeast := by
  have hpos := abs_pos.2 hne
  have hquotient := mul_le_mul_of_nonneg_left (isNear_toRat_div hk hc hne h) hpos.le
  rwa [← abs_mul, mul_sub, mul_div_cancel₀ _ hne, mul_add, ← mul_assoc, abs_div,
    mul_div_cancel₀ _ hpos.ne'] at hquotient

/-- **Multiplying the quotient again is off by little more than two roundings.** -/
theorem abs_back_sub_le (hc : Scalar.isFinite c = true) (hk : Scalar.isFinite k = true)
    (hne : toRat c ≠ 0) (hquotient : Scalar.isFinite (k / c) = true)
    (hproduct : Scalar.isFinite (c * (k / c)) = true) :
    |toRat (c * (k / c)) - toRat k| ≤ 5 / 2 * backError c k := by
  have hback := abs_mul_quotient_sub_le hc hk hne hquotient
  have hnear := isNear_toRat_mul hc hquotient hproduct
  rw [IsNear] at hnear
  rw [backError, add_one_mul, ← add_assoc]
  have hpart : 0 ≤ |toRat c| * halfLeast := mul_nonneg (abs_nonneg _) halfLeast_pos.le
  have hdividend := mul_nonneg (abs_nonneg (toRat k)) unitRoundoff_pos.le
  generalize toRat (c * (k / c)) = p at hnear ⊢
  generalize toRat c * toRat (k / c) = q at hnear hback
  -- The product is that of a number near the dividend, so its rounding is near one of the dividend.
  have hq : |q| * unitRoundoff ≤ (|toRat k| + |q - toRat k|) * unitRoundoff :=
    mul_le_mul_of_nonneg_right (by linarith [abs_sub_abs_le_abs_sub q (toRat k)])
      unitRoundoff_pos.le
  have hsmall : |q - toRat k| * unitRoundoff ≤ |q - toRat k| * (1 / 8) :=
    mul_le_mul_of_nonneg_left unitRoundoff_le (abs_nonneg _)
  have hsplit := abs_sub_le p q (toRat k)
  rw [add_mul] at hq
  linarith [halfLeast_pos]

/-- A quotient by a number that is not far smaller does not overflow. -/
theorem isFinite_div_of_lt (hc : Scalar.isFinite c = true) (hk : Scalar.isFinite k = true)
    (h : |toRat k| * unitRoundoff < |toRat c|) : Scalar.isFinite (k / c) = true := by
  have hpos : 0 < |toRat c| :=
    (mul_nonneg (abs_nonneg (toRat k)) unitRoundoff_pos.le).trans_lt h
  have hscale : |toRat k| = |toRat k| * unitRoundoff * 2 ^ 53 := by
    rw [mul_assoc, unitRoundoff_mul, mul_one]
  rw [isFinite_div_iff hk hc (abs_pos.1 hpos), abs_div, div_lt_iff₀ hpos]
  calc |toRat k| ≤ |toRat c| * 2 ^ 53 := by
        rw [hscale]
        exact mul_le_mul_of_nonneg_right h.le (by positivity)
    _ < overflowBound * |toRat c| := by
        rw [mul_comm]
        exact mul_lt_mul_of_pos_right (two_pow_lt_overflowBound (by norm_num)) hpos

/-- A product near a number of at most `2 ^ 1023` does not overflow. -/
theorem isFinite_mul_of_abs_sub_lt {q : ℚ} (hx : Scalar.isFinite x = true)
    (hy : Scalar.isFinite y = true) (hbound : |q| ≤ 2 ^ 1023)
    (h : |toRat x * toRat y - q| < 1 / 2 * 2 ^ 1023) : Scalar.isFinite (x * y) = true := by
  rw [isFinite_mul_iff hx hy]
  refine lt_of_lt_of_le ?_ le_overflowBound
  generalize (2 : ℚ) ^ 1023 = B at hbound h ⊢
  linarith [abs_sub_abs_le_abs_sub (toRat x * toRat y) q]

/-- **Where two roundings are below the tolerance, the dividend comes back.** -/
theorem comesBack_of_backError_le (hτ : Scalar.isFinite τ = true) (hc : Scalar.isFinite c = true)
    (hk : Scalar.isFinite k = true) (hle : toRat τ ≤ |toRat c|) (hbound : |toRat k| ≤ 2 ^ 1023)
    (h : 4 * backError c k ≤ toRat τ) : ComesBack τ c k := by
  have hdividend := mul_nonneg (abs_nonneg (toRat k)) unitRoundoff_pos.le
  have hpart : 0 ≤ |toRat c| * halfLeast := mul_nonneg (abs_nonneg _) halfLeast_pos.le
  have herror : backError c k = |toRat k| * unitRoundoff + |toRat c| * halfLeast + halfLeast := by
    rw [backError, add_one_mul, add_assoc]
  have hpos : 0 < backError c k := by linarith [halfLeast_pos]
  have hτlt : toRat τ < 2 * 2 ^ 1023 := by
    have hlt := magnitude_value_lt hτ
    rw [← abs_exact] at hlt
    exact (le_abs_self _).trans_lt (hlt.trans_eq (pow_succ' 2 1023))
  have hne : toRat c ≠ 0 := abs_pos.1 (by linarith)
  have hquotient : Scalar.isFinite (k / c) = true :=
    isFinite_div_of_lt hc hk (by linarith [halfLeast_pos])
  have hback := abs_mul_quotient_sub_le hc hk hne hquotient
  have hproduct : Scalar.isFinite (c * (k / c)) = true := by
    refine isFinite_mul_of_abs_sub_lt hc hquotient hbound ?_
    generalize (2 : ℚ) ^ 1023 = B at hτlt ⊢
    linarith [halfLeast_pos]
  have hdistance := abs_back_sub_le hc hk hne hquotient hproduct
  refine ⟨hquotient, hproduct, ?_, ?_⟩
  · rw [Within]
    linarith
  · refine not_differenceOnEdge hτ hproduct hk ?_
    have hrounding := mul_le_mul_of_nonneg_left unitRoundoff_le
      (abs_nonneg (toRat (c * (k / c)) - toRat k))
    linarith

end ComesBack

end FloatingPoint

/-! ## Base points -/

namespace LinearEquation

open FloatingPoint

variable {e : LinearEquation Float} {i : Fin e.dimensions}

/-- The point on the axis of a coordinate at which the equation holds, as it is computed. -/
def pointOnAxis (e : LinearEquation Float) (i : Fin e.dimensions) : Vector Float e.dimensions :=
  Vector.ofFn fun j => if j = i then e.offset / e.normal.component i else 0

theorem basePoint_of_leading (hi : e.leading? = some i) :
    e.basePoint = Vec.ofComponents (e.pointOnAxis i) e.tolerance := by
  rw [basePoint, hi]
  rfl

theorem basePoint_eq_ok (hτ : Tolerance.require e.tolerance = .ok e.tolerance)
    (hi : e.leading? = some i) (h : Scalar.isFinite (e.offset / e.normal.component i) = true) :
    e.basePoint = .ok ⟨e.dimensions, e.pointOnAxis i, .column, e.tolerance⟩ := by
  rw [basePoint_of_leading hi]
  refine Vec.ofComponents_eq_ok_of_finite i.pos hτ fun j => ?_
  rw [pointOnAxis, Vector.get_ofFn]
  split
  · exact h
  · rfl

/-- A quotient that is infinite is the only entry that is refused. -/
theorem basePoint_eq_error (hi : e.leading? = some i)
    (hnan : Scalar.isNaN (e.offset / e.normal.component i) = false)
    (h : Scalar.isFinite (e.offset / e.normal.component i) = false) :
    e.basePoint = .error (.nonFinite "elements" 0 1) := by
  have hinfinite : Scalar.isInf (e.offset / e.normal.component i) = true := by
    rwa [Scalar.isFinite, hnan, Bool.not_false, Bool.true_and, Bool.not_eq_false'] at h
  have hrefused : requireFinite "elements" (e.pointOnAxis i).toList =
      .error (.nonFinite "elements" 0 1) := by
    have hentries : (e.pointOnAxis i).toList = (List.finRange e.dimensions).map fun j =>
        if j = i then e.offset / e.normal.component i else 0 := by
      rw [pointOnAxis, Vector.toList_ofFn, List.ofFn_eq_map]
    have hundefined (j : Fin e.dimensions) : Scalar.isNaN
        (if j = i then e.offset / e.normal.component i else 0) = false := by
      split
      · exact hnan
      · rfl
    have hcount (j : Fin e.dimensions) : Scalar.isInf
        (if j = i then e.offset / e.normal.component i else 0) = (j == i) := by
      split
      · next heq => rw [hinfinite, heq, beq_self_eq_true]
      · next hne => exact (beq_false_of_ne hne).symm
    rw [requireFinite, hentries, List.countP_map, List.countP_map, Function.comp_def,
      Function.comp_def]
    simp only [hundefined, hcount, List.countP_false, ← List.count_eq_countP, List.count_finRange]
    rfl
  rw [basePoint_of_leading hi, Vec.ofComponents, Vec.requireComponents_of_pos i.pos, hrefused]
  rfl

theorem contains_pointOnAxis (hfinite : ∀ j, Scalar.isFinite (e.normal.component j) = true) :
    e.contains (e.pointOnAxis i) =
      .ok (Scalar.isZero
        (e.normal.component i * (e.offset / e.normal.component i) - e.offset) e.tolerance) := by
  have hpoint : (e.pointOnAxis i).get =
      fun j => if j = i then e.offset / e.normal.component i else 0 :=
    funext fun j => Vector.get_ofFn _ j
  have hsum : Agree (sumOfProducts e.normal.component (e.pointOnAxis i).get)
      (e.normal.component i * (e.offset / e.normal.component i)) := by
    rw [hpoint]
    exact agree_sumOfProducts_single hfinite i _
  rw [← (hsum.sub e.offset).isZero]
  exact dif_pos rfl

section Leading

variable (hnormal : e.normal.IsFinite) (hoffset : Scalar.isFinite e.offset = true)
  (hτ : Tolerance.require e.tolerance = .ok e.tolerance)

include hnormal

theorem isFinite_component (i : Fin e.dimensions) :
    Scalar.isFinite (e.normal.component i) = true :=
  hnormal _ (Vector.mem_toList_iff.2 (Vector.getElem_mem i.isLt))

include hτ

theorem tolerance_le_of_leading (hi : e.leading? = some i) :
    toRat e.tolerance ≤ |toRat (e.normal.component i)| := by
  have hsignificant : Scalar.isSignificant e.tolerance (e.normal.component i) = true :=
    List.find?_some (p := fun i => Scalar.isSignificant e.tolerance (e.normal.component i)) hi
  exact (isSignificant_iff_toRat (Tolerance.isProper_of_require_eq_ok hτ).finite
    (isFinite_component hnormal i)).1 hsignificant

theorem toRat_component_ne_zero (hi : e.leading? = some i) :
    toRat (e.normal.component i) ≠ 0 := by
  have hproper := Tolerance.isProper_of_require_eq_ok hτ
  have hpos := (lt_iff_toRat rfl hproper.finite).1 hproper.pos
  exact abs_pos.1 (hpos.trans_le (tolerance_le_of_leading hnormal hτ hi))

theorem exists_leading_of_isZero_eq_false (hzero : e.normal.isZero = false) :
    ∃ i, e.leading? = some i := by
  obtain ⟨j, hj⟩ := Vec.isZero_eq_false_iff.1 hzero
  refine Option.isSome_iff_exists.1 (List.find?_isSome.2 ⟨j, List.mem_finRange j, ?_⟩)
  rw [isSignificant_eq_not_isSmall (pos_of_require_eq_ok hτ) (isFinite_component hnormal j)]
  exact congrArg not hj

include hoffset

/-- Where the quotient is finite the point is made, and contained when its coordinate comes back. -/
theorem contains_basePoint_of_isFinite (hi : e.leading? = some i)
    (h : Scalar.isFinite (e.offset / e.normal.component i) = true) :
    ∃ p b, e.basePoint = .ok p ∧ e.contains p.components = .ok b ∧
      (b = true ↔ ComesBack e.tolerance (e.normal.component i) e.offset) := by
  refine ⟨_, _, basePoint_eq_ok hτ hi h, contains_pointOnAxis (isFinite_component hnormal), ?_⟩
  rw [isZero_sub_iff (Tolerance.isProper_of_require_eq_ok hτ).finite hoffset]
  exact ⟨fun ⟨hproduct, hwithin, hedge⟩ => ⟨h, hproduct, hwithin, hedge⟩,
    fun h => ⟨h.product, h.within, h.offEdge⟩⟩

/-- The quotient is finite as long as it does not reach half a unit above the largest float. -/
theorem isFinite_quotient_iff (hi : e.leading? = some i) :
    Scalar.isFinite (e.offset / e.normal.component i) = true ↔
      |toRat e.offset| < overflowBound * |toRat (e.normal.component i)| := by
  have hne := toRat_component_ne_zero hnormal hτ hi
  rw [isFinite_div_iff hoffset (isFinite_component hnormal i) hne, abs_div,
    div_lt_iff₀ (abs_pos.2 hne)]

/-- **A base point whose quotient overflows is refused**, like every vector with an infinite entry. -/
theorem basePoint_eq_error_of_overflow (hi : e.leading? = some i)
    (h : overflowBound * |toRat (e.normal.component i)| ≤ |toRat e.offset|) :
    e.basePoint = .error (.nonFinite "elements" 0 1) := by
  have hne := toRat_component_ne_zero hnormal hτ hi
  refine basePoint_eq_error hi ?_ ?_
  · exact (isRounded_value_div hoffset (isFinite_component hnormal i) hne).isNaN_eq_false rfl
  · rw [← Bool.not_eq_true, isFinite_quotient_iff hnormal hoffset hτ hi]
    exact h.not_gt

end Leading

/-- **The base point is returned as long as the quotient does not overflow, and contained exactly when
multiplying again comes back to within the tolerance.**  It is both whenever two roundings of the
offset are below the tolerance. -/
theorem contains_basePoint_iff (hnormal : e.normal.IsMadeUnder e.tolerance)
    (hoffset : Scalar.isFinite e.offset = true) (hzero : e.normal.isZero = false) :
    ∃ i, e.leading? = some i ∧
      (|toRat e.offset| < overflowBound * |toRat (e.normal.component i)| →
        ∃ p b, e.basePoint = .ok p ∧ e.contains p.components = .ok b ∧
          (b = true ↔ ComesBack e.tolerance (e.normal.component i) e.offset)) ∧
      (|toRat e.offset| ≤ 2 ^ 1023 →
        4 * backError (e.normal.component i) e.offset ≤ toRat e.tolerance →
        ∃ p, e.basePoint = .ok p ∧ e.contains p.components = .ok true) := by
  have hfinite := hnormal.admissible.finite
  have hτ := hnormal.accepted
  obtain ⟨i, hi⟩ := exists_leading_of_isZero_eq_false hfinite hτ hzero
  refine ⟨i, hi, fun hlt => ?_, fun hbound hsmall => ?_⟩
  · exact contains_basePoint_of_isFinite hfinite hoffset hτ hi
      ((isFinite_quotient_iff hfinite hoffset hτ hi).2 hlt)
  · have hback := comesBack_of_backError_le (Tolerance.isProper_of_require_eq_ok hτ).finite
      (isFinite_component hfinite i) hoffset (tolerance_le_of_leading hfinite hτ hi) hbound hsmall
    obtain ⟨p, b, hp, hb, hiff⟩ :=
      contains_basePoint_of_isFinite hfinite hoffset hτ hi hback.quotient
    exact ⟨p, hp, hb.trans (congrArg _ (hiff.2 hback))⟩

/-- The line `3 x + 4 y = 10` with the default tolerance, which is far above two roundings of `10`. -/
theorem contains_basePoint_of_line :
    ∃ e, line (.int 3) (.int 4) (.int 10) .none = .ok e ∧ e.normal.IsMadeUnder e.tolerance ∧
      Scalar.isFinite e.offset = true ∧ e.normal.isZero = false ∧
      ∃ p, e.basePoint = .ok p ∧ e.contains p.components = .ok true := by
  have hnormal : (⟨2, #v[3, 4], .column, 1e-9⟩ : Vec Float).IsMadeUnder 1e-9 :=
    Vec.isMadeUnder_of_ofComponents_eq_ok (x := #v[3, 4]) (o := .column) rfl
  refine ⟨⟨⟨2, #v[3, 4], .column, 1e-9⟩, 10, .line⟩, rfl, hnormal, rfl, by decide +kernel, ?_⟩
  obtain ⟨i, hi, -, hreturned⟩ := contains_basePoint_iff
    (e := ⟨⟨2, #v[3, 4], .column, 1e-9⟩, 10, .line⟩) hnormal rfl (by decide +kernel)
  obtain rfl : i = (0 : Fin 2) := Option.some.inj (hi.symm.trans rfl)
  exact hreturned (by decide +kernel) (by decide +kernel)

/-- With the default tolerance the line `11 x = 1e8` does not contain its base point: eleven times the
quotient is off by one unit in the last place of the offset, and eleven times no float is nearer.  The
line `1e-8 x = 1e305` has no base point: the quotient overflows. -/
theorem not_contains_basePoint :
    (∃ e p, line (.int 11) (.int 0) (.int 100000000) .none = .ok e ∧ e.normal.isZero = false ∧
      e.basePoint = .ok p ∧ e.contains p.components = .ok false) ∧
    ∃ e, line (.float 1e-8) (.int 0) (.float 1e305) .none = .ok e ∧ e.normal.isZero = false ∧
      ∃ fault, e.basePoint = .error fault := by
  refine ⟨⟨_, _, rfl, by decide +kernel, rfl, rfl⟩, ?_⟩
  obtain ⟨e, he, hzero, hnone⟩ : ∃ e, line (.float 1e-8) (.int 0) (.float 1e305) .none = .ok e ∧
      e.normal.isZero = false ∧ e.basePoint.toOption.isNone = true :=
    exists_eq_ok_of_any (by decide +kernel)
  exact ⟨e, he, hzero, exists_eq_error_of_isNone hnone⟩

end LinearEquation

end LinearSystems
