import Mathlib
import LinearSystems.Proofs.Geometry.Parallel

/-!
# Coinciding hyperplanes

In exact arithmetic an equation with a normal has a base point (`LinearEquation.basePoint_real`),
and two parallel equations are compared by it: **an equation equals another one when it contains the
other's base point** (`LinearEquation.isEqual_eq_contains`).  For a multiple of the normal that
depends on the offset and the factor alone, whichever coordinates the two base points lie on
(`LinearEquation.isEqual_smul`).

The distance is measured in the coefficients of the left equation.  So equality is reflexive, but
swapping the equations changes the scale: a pair of equations whose normals have different lengths
can be equal in one order and not in the other (`LinearEquation.equal_in_one_order`).
-/

namespace LinearSystems

namespace LinearEquation

variable {n : Nat} {x y : Vector ℝ n} {o o' : Orientation} {τ k k' : ℝ} {s s' : EquationForm}

/-! ## Base points -/

theorem exists_leading (h : (⟨n, x, o, τ⟩ : Vec ℝ).isZero = false) :
    ∃ i, (⟨⟨n, x, o, τ⟩, k, s⟩ : LinearEquation ℝ).leading? = some i ∧ τ ≤ |x.get i| := by
  obtain ⟨j, hj⟩ := Vec.isZero_real_eq_false_iff.1 h
  have hfound : (⟨⟨n, x, o, τ⟩, k, s⟩ : LinearEquation ℝ).leading?.isSome = true :=
    List.find?_isSome.2 ⟨j, List.mem_finRange j, Scalar.isSignificant_real_iff.2 hj⟩
  obtain ⟨i, hi⟩ := Option.isSome_iff_exists.1 hfound
  have hsignificant : Scalar.isSignificant τ (x.get i) = true :=
    List.find?_some (p := fun i => Scalar.isSignificant τ (x.get i)) hi
  exact ⟨i, hi, Scalar.isSignificant_real_iff.1 hsignificant⟩

/-- The point on the axis of a coordinate at which an equation holds. -/
noncomputable def axisPoint (x : Vector ℝ n) (k : ℝ) (i : Fin n) : Vector ℝ n :=
  Vector.ofFn fun j => if j = i then k / x.get i else 0

theorem get_axisPoint (i : Fin n) : (axisPoint x k i).get = Pi.single i (k / x.get i) := by
  funext j
  rw [axisPoint, Vector.get_ofFn, Pi.single_apply]

theorem dotProduct_axisPoint (i : Fin n) :
    y.get ⬝ᵥ (axisPoint x k i).get = y.get i * (k / x.get i) := by
  rw [get_axisPoint, dotProduct_single]

/-- **An equation that has a normal has a base point.** -/
theorem basePoint_real (hτ : 0 < τ) (h : (⟨n, x, o, τ⟩ : Vec ℝ).isZero = false) :
    ∃ i, x.get i ≠ 0 ∧ (⟨⟨n, x, o, τ⟩, k, s⟩ : LinearEquation ℝ).basePoint =
      .ok ⟨n, axisPoint x k i, .column, τ⟩ := by
  obtain ⟨i, hi, hsignificant⟩ := exists_leading (k := k) (s := s) h
  refine ⟨i, abs_pos.1 (hτ.trans_le hsignificant), ?_⟩
  rw [basePoint, hi]
  exact Vec.ofComponents_real i.pos hτ _

theorem contains_real (q : Vector ℝ n) :
    (⟨⟨n, x, o, τ⟩, k, s⟩ : LinearEquation ℝ).contains q =
      .ok (decide (|x.get ⬝ᵥ q.get - k| < τ)) := by
  have hsum : sumOfProducts x.get q.get = x.get ⬝ᵥ q.get := sumOfProducts_real _ _
  have htest : Scalar.isZero (x.get ⬝ᵥ q.get - k) τ = decide (|x.get ⬝ᵥ q.get - k| < τ) := by
    rw [Bool.eq_iff_iff, decide_eq_true_iff, Scalar.isZero_real_iff]
  rw [← htest, ← hsum]
  exact dif_pos rfl

/-! ## The test -/

section AnyScalar

variable {K : Type} [RootedScalar K] {e f : LinearEquation K}

theorem isEqual_of_isZero (h : e.normal.isZero = true ∨ f.normal.isZero = true) :
    e.isEqual f = .ok (e.normal.isZero && f.normal.isZero &&
      Scalar.isZero e.offset e.tolerance == Scalar.isZero f.offset e.tolerance) := by
  rw [isEqual, if_pos (by simpa using h)]
  rfl

theorem isEqual_of_not_isZero (he : e.normal.isZero = false) (hf : f.normal.isZero = false) :
    e.isEqual f = (e.isParallel f >>= fun parallel =>
      if parallel then do
        let p ← e.basePoint
        let q ← f.basePoint
        (← Vec.ofPoints p.components q.components e.tolerance).isOrthogonal e.normal
      else .ok false) := by
  rw [isEqual, he, hf]
  rcases e.isParallel f with _ | _ | _ <;> rfl

/-- Parallel equations are compared by the vector between their base points. -/
theorem isEqual_of_isParallel (he : e.normal.isZero = false) (hf : f.normal.isZero = false)
    (hparallel : e.isParallel f = .ok true) {p q : Vec K} (hp : e.basePoint = .ok p)
    (hq : f.basePoint = .ok q) :
    e.isEqual f = (Vec.ofPoints p.components q.components e.tolerance >>= fun connecting =>
      connecting.isOrthogonal e.normal) := by
  rw [isEqual_of_not_isZero he hf, hparallel, hp, hq]
  rfl

end AnyScalar

theorem ofPoints_real (hn : 0 < n) (hτ : 0 < τ) (p q : Vector ℝ n) :
    Vec.ofPoints p q τ = .ok ⟨n, Vector.ofFn fun i => q.get i - p.get i, .column, τ⟩ :=
  (dif_pos rfl).trans (Vec.ofComponents_real hn hτ _)

theorem isOrthogonal_real {σ : ℝ} :
    (⟨n, x, o, τ⟩ : Vec ℝ).isOrthogonal ⟨n, y, o', σ⟩ = .ok (decide (|x.get ⬝ᵥ y.get| < τ)) := by
  rw [Vec.isOrthogonal, Vec.dot_mk, sumOfProducts_real]
  rfl

/-- **Of two parallel equations the left one decides: they are equal when it contains the base
point of the right one.** -/
theorem isEqual_eq_contains (hτ : 0 < τ) (hx : (⟨n, x, o, τ⟩ : Vec ℝ).isZero = false)
    (hy : (⟨n, y, o', τ⟩ : Vec ℝ).isZero = false)
    (hparallel : (⟨⟨n, x, o, τ⟩, k, s⟩ : LinearEquation ℝ).isParallel ⟨⟨n, y, o', τ⟩, k', s'⟩ =
      .ok true) {q : Vector ℝ n}
    (hq : (⟨⟨n, y, o', τ⟩, k', s'⟩ : LinearEquation ℝ).basePoint = .ok ⟨n, q, .column, τ⟩) :
    (⟨⟨n, x, o, τ⟩, k, s⟩ : LinearEquation ℝ).isEqual ⟨⟨n, y, o', τ⟩, k', s'⟩ =
      (⟨⟨n, x, o, τ⟩, k, s⟩ : LinearEquation ℝ).contains q := by
  obtain ⟨i, hi, hp⟩ := basePoint_real (k := k) (s := s) hτ hx
  have hconnecting := ofPoints_real i.pos hτ (axisPoint x k i) q
  -- The base point of the left equation holds in it, so only the other point counts.
  have hdistance : (Vector.ofFn fun j => q.get j - (axisPoint x k i).get j).get ⬝ᵥ x.get =
      x.get ⬝ᵥ q.get - k := by
    have hdifference : (Vector.ofFn fun j => q.get j - (axisPoint x k i).get j).get =
        q.get - (axisPoint x k i).get := funext fun j => Vector.get_ofFn _ j
    rw [hdifference, sub_dotProduct, dotProduct_comm, dotProduct_comm _ x.get,
      dotProduct_axisPoint, mul_div_cancel₀ k hi]
  rw [isEqual_of_isParallel hx hy hparallel hp hq, contains_real, ← hdistance]
  exact bind_eq_ok_iff.2 ⟨_, hconnecting, isOrthogonal_real⟩

/-- **For a multiple of the normal only the offsets and the factor count.** -/
theorem isEqual_smul (hτ : 0 < τ) (hx : (⟨n, x, o, τ⟩ : Vec ℝ).isZero = false)
    (hy : (⟨n, y, o', τ⟩ : Vec ℝ).isZero = false) {c : ℝ} (hc : c ≠ 0)
    (hmultiple : ∀ i, y.get i = c * x.get i) :
    (⟨⟨n, x, o, τ⟩, k, s⟩ : LinearEquation ℝ).isEqual ⟨⟨n, y, o', τ⟩, k', s'⟩ =
      .ok (decide (|k' / c - k| < τ)) := by
  obtain ⟨j, hj, hq⟩ := basePoint_real (k := k') (s := s') hτ hy
  have hparallel : (⟨⟨n, x, o, τ⟩, k, s⟩ : LinearEquation ℝ).isParallel
      ⟨⟨n, y, o', τ⟩, k', s'⟩ = .ok true := by
    rw [isParallel, Vec.isParallel_real hx hy,
      decide_eq_true (Vec.agreeUpToSign_of_smul hτ hc hmultiple)]
  have hxj : x.get j ≠ 0 := right_ne_zero_of_mul (hmultiple j ▸ hj)
  have hvalue : x.get j * (k' / y.get j) = k' / c := by
    rw [hmultiple j]
    field_simp
  rw [isEqual_eq_contains hτ hx hy hparallel hq, contains_real, dotProduct_axisPoint, hvalue]

/-- **Two equations with proportional normals are equal exactly when their offsets, in the scale of
the left one, differ by less than the tolerance.**  So an equation equals its multiples in both
orders, and equations with one normal are equal when their offsets are close. -/
theorem isEqual_iff_offsets_close (hτ : 0 < τ) (hx : (⟨n, x, o, τ⟩ : Vec ℝ).isZero = false)
    (hy : (⟨n, y, o', τ⟩ : Vec ℝ).isZero = false) {c : ℝ} (hc : c ≠ 0)
    (hmultiple : ∀ i, y.get i = c * x.get i) (k : ℝ) (s s' : EquationForm) :
    (∀ k', (⟨⟨n, x, o, τ⟩, k, s⟩ : LinearEquation ℝ).isEqual ⟨⟨n, y, o', τ⟩, k', s'⟩ =
      .ok (decide (|k' / c - k| < τ))) ∧
    (⟨⟨n, x, o, τ⟩, k, s⟩ : LinearEquation ℝ).isEqual ⟨⟨n, y, o', τ⟩, c * k, s'⟩ = .ok true ∧
    (⟨⟨n, y, o', τ⟩, c * k, s'⟩ : LinearEquation ℝ).isEqual ⟨⟨n, x, o, τ⟩, k, s⟩ = .ok true ∧
    ∀ k', (⟨⟨n, x, o, τ⟩, k, s⟩ : LinearEquation ℝ).isEqual ⟨⟨n, x, o, τ⟩, k', s'⟩ =
      .ok (decide (|k' - k| < τ)) := by
  have hinverse (i : Fin n) : x.get i = c⁻¹ * y.get i := by
    rw [hmultiple, inv_mul_cancel_left₀ hc]
  refine ⟨fun k' => isEqual_smul hτ hx hy hc hmultiple, ?_, ?_, fun k' => ?_⟩
  · rw [isEqual_smul hτ hx hy hc hmultiple, mul_div_cancel_left₀ k hc, sub_self, abs_zero,
      decide_eq_true hτ]
  · rw [isEqual_smul hτ hy hx (inv_ne_zero hc) hinverse, div_inv_eq_mul, mul_comm, sub_self,
      abs_zero, decide_eq_true hτ]
  · rw [isEqual_smul hτ hx hx one_ne_zero (fun i => (one_mul _).symm), div_one]

/-- `x / 16 + y = 1` and `x + 16 y = 16.5` with the tolerance `1 / 8`: the first base point is on the
second axis, where the coefficient reaches the tolerance, the other one on the first axis. -/
theorem isEqual_of_offsets_on_two_axes :
    (⟨2, #v[1 / 16, 1], .column, 1 / 8⟩ : Vec ℝ).isZero = false ∧
    (⟨2, #v[1, 16], .column, 1 / 8⟩ : Vec ℝ).isZero = false ∧
    (⟨⟨2, #v[1 / 16, 1], .column, 1 / 8⟩, 1, .line⟩ : LinearEquation ℝ).isEqual
      ⟨⟨2, #v[1, 16], .column, 1 / 8⟩, 16.5, .line⟩ = .ok true := by
  have hx : (⟨2, #v[1 / 16, 1], .column, 1 / 8⟩ : Vec ℝ).isZero = false :=
    Vec.isZero_real_eq_false_iff.2 ⟨1, by norm_num [Vector.get]⟩
  have hy : (⟨2, #v[1, 16], .column, 1 / 8⟩ : Vec ℝ).isZero = false :=
    Vec.isZero_real_eq_false_iff.2 ⟨0, by norm_num [Vector.get]⟩
  have hmultiple (i : Fin 2) : (#v[1, 16] : Vector ℝ 2).get i = 16 * #v[1 / 16, 1].get i := by
    fin_cases i <;> norm_num [Vector.get]
  refine ⟨hx, hy, ((isEqual_iff_offsets_close (by norm_num) hx hy (c := 16) (by norm_num)
    hmultiple 1 .line .line).1 16.5).trans ?_⟩
  norm_num

/-! ## Swapping the equations -/

theorem isEqual_self (hτ : 0 < τ) :
    (⟨⟨n, x, o, τ⟩, k, s⟩ : LinearEquation ℝ).isEqual ⟨⟨n, x, o, τ⟩, k, s⟩ = .ok true := by
  cases hx : (⟨n, x, o, τ⟩ : Vec ℝ).isZero with
  | true =>
      rw [isEqual_of_isZero (Or.inl hx), hx]
      simp
  | false =>
      rw [isEqual_smul hτ hx hx one_ne_zero (fun i => (one_mul _).symm), div_one, sub_self,
        abs_zero, decide_eq_true hτ]

/-- Where the offsets are not compared, both orders give the same answer or none. -/
theorem isEqual_comm_of_not_compared {e f : LinearEquation ℝ}
    (htolerance : e.tolerance = f.tolerance)
    (h : e.normal.isZero = true ∨ f.normal.isZero = true ∨ e.isParallel f ≠ .ok true) :
    (e.isEqual f).toOption = (f.isEqual e).toOption := by
  by_cases hzero : e.normal.isZero = true ∨ f.normal.isZero = true
  · rw [isEqual_of_isZero hzero, isEqual_of_isZero hzero.symm, htolerance,
      Bool.and_comm e.normal.isZero, Bool.beq_comm]
  · have hnotParallel := (or_assoc.2 h).resolve_left hzero
    rw [not_or, Bool.not_eq_true, Bool.not_eq_true] at hzero
    rw [isEqual_of_not_isZero hzero.1 hzero.2, isEqual_of_not_isZero hzero.2 hzero.1]
    obtain ⟨⟨n, x, o, τ⟩, k, s⟩ := e
    obtain ⟨⟨m, y, o', σ⟩, k', s'⟩ := f
    obtain rfl : τ = σ := htolerance
    by_cases hdimensions : n = m
    · -- The two have a test for parallel normals, and it rejects them in both orders.
      subst hdimensions
      rw [isParallel, Vec.isParallel_real hzero.1 hzero.2] at hnotParallel
      rw [isParallel, isParallel, Vec.isParallel_real hzero.1 hzero.2,
        Vec.isParallel_real hzero.2 hzero.1, decide_eq_decide.2 Vec.agreeUpToSign_comm,
        decide_eq_false fun hagree => hnotParallel (by
          rw [decide_eq_true (Vec.agreeUpToSign_comm.1 hagree)])]
      rfl
    · rw [isParallel, isParallel, Vec.isParallel, Vec.isParallel, Vec.paired, Vec.paired,
        dif_neg hdimensions, dif_neg (Ne.symm hdimensions)]
      rfl

/-- For proportional normals both orders compare one distance, in two scales. -/
theorem isEqual_comm_iff_of_smul (hτ : 0 < τ) (hx : (⟨n, x, o, τ⟩ : Vec ℝ).isZero = false)
    (hy : (⟨n, y, o', τ⟩ : Vec ℝ).isZero = false) {c : ℝ} (hc : c ≠ 0)
    (hmultiple : ∀ i, y.get i = c * x.get i) :
    ((⟨⟨n, x, o, τ⟩, k, s⟩ : LinearEquation ℝ).isEqual ⟨⟨n, y, o', τ⟩, k', s'⟩).toOption =
        ((⟨⟨n, y, o', τ⟩, k', s'⟩ : LinearEquation ℝ).isEqual ⟨⟨n, x, o, τ⟩, k, s⟩).toOption ↔
      (|k' - c * k| < |c| * τ ↔ |k' - c * k| < τ) := by
  have hinverse (i : Fin n) : x.get i = c⁻¹ * y.get i := by
    rw [hmultiple, inv_mul_cancel_left₀ hc]
  have hleft : |k' / c - k| < τ ↔ |k' - c * k| < |c| * τ := by
    have hscaled : k' - c * k = c * (k' / c - k) := by field_simp
    rw [hscaled, abs_mul, mul_lt_mul_iff_right₀ (abs_pos.2 hc)]
  have hright : |k / c⁻¹ - k'| < τ ↔ |k' - c * k| < τ := by
    rw [div_inv_eq_mul, mul_comm k, abs_sub_comm]
  rw [isEqual_smul hτ hx hy hc hmultiple, isEqual_smul hτ hy hx (inv_ne_zero hc) hinverse, ← hleft,
    ← hright]
  show some _ = some _ ↔ _
  rw [Option.some_inj, decide_eq_decide]

/-- **Equality is reflexive, and swapping the equations changes its answer only where two offsets
are compared in different scales.**  Without a normal, with different numbers of unknowns or with
normals that are not parallel, both orders give the same answer or none.  Otherwise each order asks
whether the left equation contains the base point of the right one; where the normals are
proportional, both ask how far the offsets are from being so, in the scale of the left equation. -/
theorem isEqual_self_and_swap (hτ : 0 < τ) {e f : LinearEquation ℝ} (he : e.tolerance = τ)
    (hf : f.tolerance = τ) :
    e.isEqual e = .ok true ∧
    ((e.normal.isZero = true ∨ f.normal.isZero = true ∨ e.isParallel f ≠ .ok true) →
      (e.isEqual f).toOption = (f.isEqual e).toOption) ∧
    (e.normal.isZero = false → f.normal.isZero = false → e.isParallel f = .ok true →
      ∃ p q, e.basePoint = .ok p ∧ f.basePoint = .ok q ∧
        (∃ b, e.isEqual f = .ok b ∧ e.contains q.components = .ok b) ∧
        ∃ b, f.isEqual e = .ok b ∧ f.contains p.components = .ok b) ∧
    ∀ (h : e.dimensions = f.dimensions) (c : ℝ), c ≠ 0 → e.normal.isZero = false →
      f.normal.isZero = false →
      (∀ i, f.normal.component (i.cast h) = c * e.normal.component i) →
      ((e.isEqual f).toOption = (f.isEqual e).toOption ↔
        (|f.offset - c * e.offset| < |c| * τ ↔ |f.offset - c * e.offset| < τ)) := by
  obtain ⟨⟨n, x, o, σ⟩, k, s⟩ := e
  obtain ⟨⟨m, y, o', σ'⟩, k', s'⟩ := f
  obtain rfl : σ = τ := he
  obtain rfl : σ' = σ := hf
  refine ⟨isEqual_self hτ, isEqual_comm_of_not_compared rfl, fun hx hy hparallel => ?_,
    fun h c hc hx hy hmultiple => ?_⟩
  · obtain rfl : n = m := by
      by_contra hdimensions
      rw [isParallel, Vec.isParallel, Vec.paired, dif_neg hdimensions] at hparallel
      cases hparallel
    have hparallel' : (⟨⟨n, y, o', σ'⟩, k', s'⟩ : LinearEquation ℝ).isParallel
        ⟨⟨n, x, o, σ'⟩, k, s⟩ = .ok true := by
      rw [isParallel, Vec.isParallel_real hx hy] at hparallel
      rwa [isParallel, Vec.isParallel_real hy hx, decide_eq_decide.2 Vec.agreeUpToSign_comm]
    obtain ⟨i, -, hp⟩ := basePoint_real (k := k) (s := s) hτ hx
    obtain ⟨j, -, hq⟩ := basePoint_real (k := k') (s := s') hτ hy
    refine ⟨_, _, hp, hq, ⟨_, ?_, contains_real _⟩, _, ?_, contains_real _⟩
    · exact (isEqual_eq_contains hτ hx hy hparallel hq).trans (contains_real _)
    · exact (isEqual_eq_contains hτ hy hx hparallel' hp).trans (contains_real _)
  · obtain rfl : n = m := h
    exact isEqual_comm_iff_of_smul hτ hx hy hc hmultiple

/-- `x / 16 + y = 1` and `-x / 16 - y = -17 / 16`, whose scales are the same. -/
theorem isEqual_self_and_swap_of_opposite_normals :
    (⟨⟨2, #v[1 / 16, 1], .column, 1 / 8⟩, 1, .line⟩ : LinearEquation ℝ).isEqual
        ⟨⟨2, #v[1 / 16, 1], .column, 1 / 8⟩, 1, .line⟩ = .ok true ∧
    ((⟨⟨2, #v[1 / 16, 1], .column, 1 / 8⟩, 1, .line⟩ : LinearEquation ℝ).isEqual
        ⟨⟨2, #v[-1 / 16, -1], .column, 1 / 8⟩, -17 / 16, .line⟩).toOption =
      ((⟨⟨2, #v[-1 / 16, -1], .column, 1 / 8⟩, -17 / 16, .line⟩ : LinearEquation ℝ).isEqual
        ⟨⟨2, #v[1 / 16, 1], .column, 1 / 8⟩, 1, .line⟩).toOption := by
  have hx : (⟨2, #v[1 / 16, 1], .column, 1 / 8⟩ : Vec ℝ).isZero = false :=
    Vec.isZero_real_eq_false_iff.2 ⟨1, by norm_num [Vector.get]⟩
  have hy : (⟨2, #v[-1 / 16, -1], .column, 1 / 8⟩ : Vec ℝ).isZero = false :=
    Vec.isZero_real_eq_false_iff.2 ⟨1, by norm_num [Vector.get]⟩
  have hmultiple (i : Fin 2) :
      (#v[-1 / 16, -1] : Vector ℝ 2).get i = -1 * #v[1 / 16, 1].get i := by
    fin_cases i <;> norm_num [Vector.get]
  have h := isEqual_self_and_swap (τ := 1 / 8) (by norm_num)
    (e := ⟨⟨2, #v[1 / 16, 1], .column, 1 / 8⟩, 1, .line⟩)
    (f := ⟨⟨2, #v[-1 / 16, -1], .column, 1 / 8⟩, -17 / 16, .line⟩) rfl rfl
  refine ⟨h.1, (h.2.2.2 rfl (-1) (by norm_num) hx hy hmultiple).2 ?_⟩
  rw [abs_neg, abs_one, one_mul]

/-- `x + y = 1` and `4 x + 4 y = 4.25` with the tolerance `1 / 8`: the offsets differ by `1 / 16` in
the scale of the first equation and by `1 / 4` in that of the second. -/
theorem equal_in_one_order :
    (⟨⟨2, #v[1, 1], .column, 1 / 8⟩, 1, .line⟩ : LinearEquation ℝ).isEqual
        ⟨⟨2, #v[4, 4], .column, 1 / 8⟩, 4.25, .line⟩ = .ok true ∧
    (⟨⟨2, #v[4, 4], .column, 1 / 8⟩, 4.25, .line⟩ : LinearEquation ℝ).isEqual
        ⟨⟨2, #v[1, 1], .column, 1 / 8⟩, 1, .line⟩ = .ok false := by
  have hx : (⟨2, #v[1, 1], .column, 1 / 8⟩ : Vec ℝ).isZero = false :=
    Vec.isZero_real_eq_false_iff.2 ⟨0, by norm_num [Vector.get]⟩
  have hy : (⟨2, #v[4, 4], .column, 1 / 8⟩ : Vec ℝ).isZero = false :=
    Vec.isZero_real_eq_false_iff.2 ⟨0, by norm_num [Vector.get]⟩
  constructor
  · rw [isEqual_smul (c := 4) (by norm_num) hx hy (by norm_num)]
    · norm_num
    · intro i
      fin_cases i <;> norm_num [Vector.get]
  · rw [isEqual_smul (c := 1 / 4) (by norm_num) hy hx (by norm_num)]
    · norm_num
    · intro i
      fin_cases i <;> norm_num [Vector.get]

end LinearEquation

end LinearSystems
