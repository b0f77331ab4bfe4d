import Mathlib
import LinearSystems.Proofs.FloatingPoint.ScaledFloats
import LinearSystems.Proofs.Geometry.Operations

/-!
# Directions and powers of two

In binary floating point, multiplying two vectors by one power of two changes nothing about their
directions: the unit vectors, the angle and the test for parallel vectors are the same
(`Vec.direction_scaled`), as long as no product of components underflows and no sum of products
overflows, before and after (`Vec.Lossless`).

Components of ordinary size meet the condition (`Vec.lossless_of_inRange`).  It cannot be left out:
a length is the root of a sum of squares that are not scaled first, so components beyond `2 ^ 512`
have an infinite length and lose their direction (`Vec.direction_changed_by_scaling`).
-/

namespace LinearSystems

namespace Vec

open FloatingPoint

/-- No product underflows, and the sum of the products is finite. -/
structure IsSafe {n : Nat} (x y : Vector Float n) : Prop where
  isNormal : ∀ i, IsNormal (toRat (x.get i) * toRat (y.get i))
  isFinite : Scalar.isFinite (sumOfProducts x.get y.get) = true

/-- Neither the squares nor the products of the components underflow, and their sums and the product
of the lengths are finite. -/
structure Lossless {n : Nat} (x y : Vector Float n) : Prop where
  left : IsSafe x x
  right : IsSafe y y
  mixed : IsSafe x y
  lengths : Scalar.isFinite ((sumOfProducts x.get x.get).sqrt *
    (sumOfProducts y.get y.get).sqrt) = true

section Scaled

variable {n : Nat} {x x' y y' : Vector Float n} {o o' : Orientation} {τ σ c : Float} {k : Int}
variable {v w v' w' : Vec Float}

/-- A vector that is not zero within its tolerance has a component that is not zero. -/
theorem exists_toRat_ne_zero (hτ : 0 < τ) (hx : ∀ i, Scalar.isFinite (x.get i) = true)
    (h : (⟨n, x, o, τ⟩ : Vec Float).isZero = false) : ∃ i, toRat (x.get i) ≠ 0 := by
  obtain ⟨i, hi⟩ := isZero_eq_false_iff.1 h
  refine ⟨i, fun hzero => ?_⟩
  have hbeq : (x.get i == 0) = true := (beq_iff_toRat (y := 0) (hx i) rfl).2 hzero
  rw [isSmall_of_beq_zero hτ hbeq] at hi
  cases hi

/-- The square of a length does not underflow if those of the components do not. -/
theorem le_sumOfProducts (hτ : 0 < τ) (hx : ∀ i, Scalar.isFinite (x.get i) = true)
    (hzero : (⟨n, x, o, τ⟩ : Vec Float).isZero = false) (h : IsSafe x x) :
    2 ^ (-1022 : ℤ) ≤ toRat (sumOfProducts x.get x.get) := by
  obtain ⟨i, hi⟩ := exists_toRat_ne_zero hτ hx hzero
  obtain ⟨hproduct, hle⟩ := sq_le_sumOfProducts hx h.isFinite i
  have hnormal := (h.isNormal i).le_abs (mul_ne_zero hi hi)
  rw [abs_mul_self] at hnormal
  exact (two_zpow_le_toRat_mul (hx i) (hx i) hproduct le_rfl hnormal).trans hle

/-- The components of a vector that is multiplied by a power of two without an error. -/
theorem scaledBy_map (hc : IsExactly c (2 ^ k)) (h : (⟨n, x, o, τ⟩ : Vec Float).IsAdmissible)
    (hx : ∀ i, IsExactly (x.get i * c) (toRat (x.get i) * 2 ^ k)) (i : Fin n) :
    ScaledBy k (x.get i) ((x.map (· * c)).get i) := by
  have hget : (x.map (· * c)).get i = x.get i * c := Vector.getElem_map _ _
  have hfinite : Scalar.isFinite (x.get i) = true :=
    h.finite _ (Vector.mem_toList_iff.2 (Vector.getElem_mem i.isLt))
  rw [hget]
  exact ScaledBy.of_isExactly hc hfinite (hx i)

/-- A vector and its multiple by a power of two, neither of them zero within the tolerance, with
squares of components that do not underflow and finite sums of them. -/
structure ScaledPair (k : Int) (τ : Float) (o : Orientation) (x x' : Vector Float n) : Prop where
  tolerance : Tolerance.require τ = .ok τ
  scaled : ∀ i, ScaledBy k (x.get i) (x'.get i)
  isZero : (⟨n, x, o, τ⟩ : Vec Float).isZero = false
  isZero' : (⟨n, x', o, τ⟩ : Vec Float).isZero = false
  isSafe : IsSafe x x
  isSafe' : IsSafe x' x'

namespace ScaledPair

theorem le_sumOfProducts (h : ScaledPair k τ o x x') :
    2 ^ (-1022 : ℤ) ≤ toRat (sumOfProducts x.get x.get) ∧
      2 ^ (-1022 : ℤ) ≤ toRat (sumOfProducts x'.get x'.get) :=
  ⟨Vec.le_sumOfProducts (pos_of_require_eq_ok h.tolerance) (fun i => (h.scaled i).isFinite.1)
      h.isZero h.isSafe,
    Vec.le_sumOfProducts (pos_of_require_eq_ok h.tolerance) (fun i => (h.scaled i).isFinite.2)
      h.isZero' h.isSafe'⟩

theorem moderate (h : ScaledPair k τ o x x') :
    Moderate (⟨n, x, o, τ⟩ : Vec Float).magnitude ∧
      Moderate (⟨n, x', o, τ⟩ : Vec Float).magnitude :=
  ⟨(value_sqrt h.isSafe.isFinite h.le_sumOfProducts.1).2,
    (value_sqrt h.isSafe'.isFinite h.le_sumOfProducts.2).2⟩

/-- **The length is scaled with the vector.** -/
theorem magnitude (h : ScaledPair k τ o x x') :
    ScaledBy k (⟨n, x, o, τ⟩ : Vec Float).magnitude (⟨n, x', o, τ⟩ : Vec Float).magnitude := by
  have hsquares := scaledBy_sumOfProducts h.scaled h.scaled h.isSafe.isNormal h.isSafe'.isNormal
    h.isSafe.isFinite h.isSafe'.isFinite
  rw [← two_mul] at hsquares
  exact hsquares.sqrt h.le_sumOfProducts.1 h.le_sumOfProducts.2

/-- **The quotients of components and lengths are the same.** -/
theorem div_magnitude (h : ScaledPair k τ o x x') (i : Fin n) :
    x'.get i / (⟨n, x', o, τ⟩ : Vec Float).magnitude =
      x.get i / (⟨n, x, o, τ⟩ : Vec Float).magnitude :=
  (h.scaled i).div_eq h.magnitude

/-- **Both vectors have the same unit vector.** -/
theorem normalize_eq (h : ScaledPair k τ o x x') :
    (⟨n, x', o, τ⟩ : Vec Float).normalize = (⟨n, x, o, τ⟩ : Vec Float).normalize := by
  have hreciprocal := h.magnitude.reciprocal h.moderate.1 h.moderate.2
  have hcomponents : x'.map (· * (1 / (⟨n, x', o, τ⟩ : Vec Float).magnitude)) =
      x.map (· * (1 / (⟨n, x, o, τ⟩ : Vec Float).magnitude)) := by
    apply Vector.ext
    intro i hi
    rw [Vector.getElem_map, Vector.getElem_map]
    exact (h.scaled ⟨i, hi⟩).mul_eq hreciprocal
  rw [normalize_mk h.isZero h.moderate.1.beq_zero, normalize_mk h.isZero' h.moderate.2.beq_zero]
  exact congrArg (ofComponents · τ o) hcomponents

/-- No component of the unit vector overflows. -/
theorem exists_normalize_eq_ok (h : ScaledPair k τ o x x') :
    ∃ u, (⟨n, x, o, τ⟩ : Vec Float).normalize = .ok u := by
  have hlength := h.moderate.1.value_one_div.2
  obtain ⟨i, -⟩ := isZero_eq_false_iff.1 h.isZero
  rw [normalize_mk h.isZero h.moderate.1.beq_zero]
  refine ⟨_, scale_mk i.pos h.tolerance fun j => ?_⟩
  have hsquare := sq_le_sumOfProducts (fun i => (h.scaled i).isFinite.1) h.isSafe.isFinite j
  have hbounded := bounded_of_isFinite_sq (h.scaled j).isFinite.1 hsquare.1
  exact (hbounded.mul hlength (by norm_num)).isFinite

end ScaledPair

/-- **Two vectors and their multiples by one power of two have the same angle, and they are parallel
or not together.** -/
theorem angle_and_isParallel_scaled (hx : ScaledPair k τ o x x') (hy : ScaledPair k σ o' y y')
    (h : Lossless x y) (h' : Lossless x' y') :
    (∀ degrees, ∃ θ, (⟨n, x, o, τ⟩ : Vec Float).angle ⟨n, y, o', σ⟩ degrees = .ok θ ∧
      (⟨n, x', o, τ⟩ : Vec Float).angle ⟨n, y', o', σ⟩ degrees = .ok θ) ∧
    ∃ p, (⟨n, x, o, τ⟩ : Vec Float).isParallel ⟨n, y, o', σ⟩ = .ok p ∧
      (⟨n, x', o, τ⟩ : Vec Float).isParallel ⟨n, y', o', σ⟩ = .ok p := by
  have hdot := scaledBy_sumOfProducts hx.scaled hy.scaled h.mixed.isNormal h'.mixed.isNormal
    h.mixed.isFinite h'.mixed.isFinite
  have hlengths := hx.magnitude.mul hy.magnitude h.lengths h'.lengths
    (hx.moderate.1.isNormal_mul hy.moderate.1) (hx.moderate.2.isNormal_mul hy.moderate.2)
  constructor
  · intro degrees
    rw [angle_mk hx.isZero hy.isZero (hx.moderate.1.mul_beq_zero hy.moderate.1 h.lengths),
      angle_mk hx.isZero' hy.isZero' (hx.moderate.2.mul_beq_zero hy.moderate.2 h'.lengths),
      hdot.div_eq hlengths]
    exact ⟨_, rfl, rfl⟩
  · have hnear (f : Float → Float → Float) :
        near τ f x' y' (⟨n, x', o, τ⟩ : Vec Float).magnitude
            (⟨n, y', o', σ⟩ : Vec Float).magnitude =
          near τ f x y (⟨n, x, o, τ⟩ : Vec Float).magnitude
            (⟨n, y, o', σ⟩ : Vec Float).magnitude := by
      simp only [near, hx.div_magnitude, hy.div_magnitude]
    rw [isParallel_mk hx.isZero hy.isZero, isParallel_mk hx.isZero' hy.isZero', hnear, hnear]
    exact ⟨_, rfl, rfl⟩

/-! ## Components of ordinary size -/

/-- Zero, or between `2 ^ -511` and `2 ^ B` in magnitude. -/
structure InRange (B : Nat) (z : Float) : Prop where
  bounded : Bounded B z
  le_abs : toRat z = 0 ∨ 2 ^ (-511 : ℤ) ≤ |toRat z|

instance (B : Nat) (z : Float) : Decidable (InRange B z) :=
  decidable_of_iff (Bounded B z ∧ (toRat z = 0 ∨ 2 ^ (-511 : ℤ) ≤ |toRat z|))
    ⟨fun h => ⟨h.1, h.2⟩, fun h => ⟨h.bounded, h.le_abs⟩⟩

variable {B : Nat}

theorem isNormal_of_inRange {a b : Float} (ha : InRange B a) (hb : InRange B b) :
    IsNormal (toRat a * toRat b) := by
  rcases ha.le_abs with ha | ha
  · exact Or.inl (mul_eq_zero_of_left ha _)
  rcases hb.le_abs with hb | hb
  · exact Or.inl (mul_eq_zero_of_right _ hb)
  right
  rw [abs_mul]
  exact two_zpow_le_mul ha hb

/-- A sum of products doubles the bound at most with every summand. -/
theorem bounded_sumOfProducts (hx : ∀ i, Bounded B (x.get i)) (hy : ∀ i, Bounded B (y.get i))
    (hB : 2 * B + n ≤ 1023) : Bounded (2 * B + n) (sumOfProducts x.get y.get) := by
  have hindices (indices : List (Fin n)) : 2 * B + indices.length ≤ 1023 →
      Bounded (2 * B + indices.length)
        (indices.foldl (fun sum k => sum + x.get k * y.get k) 0) := by
    induction indices using List.reverseRecOn with
    | nil => exact fun _ => Bounded.zero _
    | append_singleton indices i ih =>
        rw [List.foldl_concat, List.length_append, List.length_singleton]
        intro h
        have hproduct := (hx i).mul (hy i) (by omega)
        exact (ih (by omega)).add (hproduct.mono (by omega)) h
  have hsum := hindices (List.finRange n)
  rw [List.length_finRange] at hsum
  exact hsum hB

theorem isSafe_of_inRange (hx : ∀ i, InRange B (x.get i)) (hy : ∀ i, InRange B (y.get i))
    (hB : 2 * B + n ≤ 1023) : IsSafe x y :=
  ⟨fun i => isNormal_of_inRange (hx i) (hy i),
    (bounded_sumOfProducts (fun i => (hx i).bounded) (fun i => (hy i).bounded) hB).isFinite⟩

theorem bounded_sqrt_sumOfProducts (hτ : 0 < τ) (hx : ∀ i, InRange B (x.get i))
    (hB : 2 * B + n ≤ 1021) (hzero : (⟨n, x, o, τ⟩ : Vec Float).isZero = false) :
    Bounded 511 (sumOfProducts x.get x.get).sqrt := by
  have hsafe := isSafe_of_inRange hx hx (by omega)
  have hle := le_sumOfProducts hτ (fun i => (hx i).bounded.isFinite) hzero hsafe
  have hlt : toRat (sumOfProducts x.get x.get) < 2 ^ (2 * (511 : ℤ)) := by
    have hbounded := (bounded_sumOfProducts (fun i => (hx i).bounded) (fun i => (hx i).bounded)
      (by omega)).mono hB
    calc toRat (sumOfProducts x.get x.get) ≤ 2 ^ (1021 : ℤ) :=
          (le_abs_self _).trans (hbounded.abs_toRat_le.trans_eq (zpow_ofNat (2 : ℚ) 1021).symm)
      _ < 2 ^ (2 * (511 : ℤ)) := zpow_lt_zpow_right₀ (by norm_num) (by norm_num)
  have hroot := toRat_sqrt_le hsafe.isFinite hle hlt
  have hmoderate := (value_sqrt hsafe.isFinite hle).2
  apply bounded_of_abs_toRat_le hmoderate.isFinite
  rw [abs_of_pos hmoderate.pos]
  exact hroot.trans_eq (zpow_ofNat (2 : ℚ) 511)

/-- **Scaling loses nothing while the components are of ordinary size.** -/
theorem lossless_of_inRange (hτ : 0 < τ) (hσ : 0 < σ) (hx : ∀ i, InRange B (x.get i))
    (hy : ∀ i, InRange B (y.get i)) (hB : 2 * B + n ≤ 1021)
    (hzero : (⟨n, x, o, τ⟩ : Vec Float).isZero = false)
    (hzero' : (⟨n, y, o', σ⟩ : Vec Float).isZero = false) : Lossless x y where
  left := isSafe_of_inRange hx hx (by omega)
  right := isSafe_of_inRange hy hy (by omega)
  mixed := isSafe_of_inRange hx hy (by omega)
  lengths := ((bounded_sqrt_sumOfProducts hτ hx hB hzero).mul
    (bounded_sqrt_sumOfProducts hσ hy hB hzero') (by norm_num)).isFinite

/-! ## Directions -/

/-- **Multiplying two vectors by one power of two leaves their unit vectors, their angle and the
test for parallel vectors as they are, if nothing is lost on the way.** -/
theorem direction_scaled (hv : ofComponents x τ o = .ok v) (hw : ofComponents y σ o' = .ok w)
    (hc : IsExactly c (2 ^ k)) (hv' : v.scale c = .ok v') (hw' : w.scale c = .ok w')
    (hx : ∀ i, IsExactly (x.get i * c) (toRat (x.get i) * 2 ^ k))
    (hy : ∀ i, IsExactly (y.get i * c) (toRat (y.get i) * 2 ^ k))
    (hnonzero : v.isZero = false ∧ w.isZero = false)
    (hnonzero' : v'.isZero = false ∧ w'.isZero = false)
    (hlossless : Lossless x y) (hlossless' : Lossless (x.map (· * c)) (y.map (· * c))) :
    (∃ u, v.normalize = .ok u ∧ v'.normalize = .ok u) ∧
    (∀ degrees, ∃ θ, v.angle w degrees = .ok θ ∧ v'.angle w' degrees = .ok θ) ∧
    ∃ p, v.isParallel w = .ok p ∧ v'.isParallel w' = .ok p := by
  obtain ⟨rfl, hadmissible, hτ⟩ := ofComponents_eq_ok_iff.1 hv
  obtain ⟨rfl, hadmissible', hσ⟩ := ofComponents_eq_ok_iff.1 hw
  obtain ⟨rfl, -, -⟩ := ofComponents_eq_ok_iff.1 hv'
  obtain ⟨rfl, -, -⟩ := ofComponents_eq_ok_iff.1 hw'
  have hpair : ScaledPair k τ o x (x.map (· * c)) :=
    ⟨hτ, scaledBy_map hc hadmissible hx, hnonzero.1, hnonzero'.1, hlossless.left, hlossless'.left⟩
  have hpair' : ScaledPair k σ o' y (y.map (· * c)) :=
    ⟨hσ, scaledBy_map hc hadmissible' hy, hnonzero.2, hnonzero'.2, hlossless.right,
      hlossless'.right⟩
  obtain ⟨u, hu⟩ := hpair.exists_normalize_eq_ok
  exact ⟨⟨u, hu, hpair.normalize_eq.trans hu⟩,
    angle_and_isParallel_scaled hpair hpair' hlossless hlossless'⟩

end Scaled

/-- `(3, 4)` as a column and `(4, -3)` as a row, times `2 ^ 10`. -/
theorem direction_scaled_of_orthogonal_pair :
    ∃ v w v' w' : Vec Float, ofComponents #v[3, 4] 1e-9 = .ok v ∧
      ofComponents #v[4, -3] 1e-9 .row = .ok w ∧ v.scale 1024 = .ok v' ∧ w.scale 1024 = .ok w' ∧
      (∃ u, v.normalize = .ok u ∧ v'.normalize = .ok u) ∧
      (∀ degrees, ∃ θ, v.angle w degrees = .ok θ ∧ v'.angle w' degrees = .ok θ) ∧
      ∃ p, v.isParallel w = .ok p ∧ v'.isParallel w' = .ok p := by
  have hx : ∀ i, InRange 13 ((#v[3, 4] : Vector Float 2).get i) := by decide +kernel
  have hy : ∀ i, InRange 13 ((#v[4, -3] : Vector Float 2).get i) := by decide +kernel
  have hx' : ∀ i, InRange 13 (((#v[3, 4] : Vector Float 2).map (· * 1024)).get i) := by
    decide +kernel
  have hy' : ∀ i, InRange 13 (((#v[4, -3] : Vector Float 2).map (· * 1024)).get i) := by
    decide +kernel
  have hτ : (0 : Float) < 1e-9 := by decide +kernel
  have hzero : (⟨2, #v[3, 4], .column, 1e-9⟩ : Vec Float).isZero = false ∧
      (⟨2, #v[4, -3], .row, 1e-9⟩ : Vec Float).isZero = false := by decide +kernel
  have hzero' : (⟨2, #v[3, 4].map (· * 1024), .column, 1e-9⟩ : Vec Float).isZero = false ∧
      (⟨2, #v[4, -3].map (· * 1024), .row, 1e-9⟩ : Vec Float).isZero = false := by decide +kernel
  have hv : ofComponents #v[3, 4] 1e-9 = .ok (⟨2, #v[3, 4], .column, 1e-9⟩ : Vec Float) := rfl
  have hw : ofComponents #v[4, -3] 1e-9 .row = .ok (⟨2, #v[4, -3], .row, 1e-9⟩ : Vec Float) := rfl
  have hv' : (⟨2, #v[3, 4], .column, 1e-9⟩ : Vec Float).scale 1024 = .ok _ :=
    scale_mk two_pos rfl (by decide +kernel)
  have hw' : (⟨2, #v[4, -3], .row, 1e-9⟩ : Vec Float).scale 1024 = .ok _ :=
    scale_mk two_pos rfl (by decide +kernel)
  exact ⟨_, _, _, _, hv, hw, hv', hw', direction_scaled (k := 10) hv hw (by decide +kernel) hv' hw'
    (by decide +kernel) (by decide +kernel) hzero hzero'
    (lossless_of_inRange hτ hτ hx hy (by norm_num) hzero.1 hzero.2)
    (lossless_of_inRange hτ hτ hx' hy' (by norm_num) hzero'.1 hzero'.2)⟩

/-- `(1, 1)` and `(1, -1)`, times `2 ^ 600`: nothing about the components is lost, but the squares
overflow.  Dividing by the infinite lengths leaves two unit vectors of zeros, which are equal and so
count as parallel, and the undefined cosine counts as `-1`.  `(3, 4)`, times `2 ^ -600`: the squares
underflow, and there is no unit vector. -/
theorem direction_changed_by_scaling :
    (∃ v w v' w' : Vec Float, ofComponents #v[1, 1] 1e-9 = .ok v ∧
      ofComponents #v[1, -1] 1e-9 = .ok w ∧
      IsExactly 4.149515568880993e180 (2 ^ (600 : ℤ)) ∧
      v.scale 4.149515568880993e180 = .ok v' ∧ w.scale 4.149515568880993e180 = .ok w' ∧
      v'.toList.map toRat = v.toList.map (toRat · * 2 ^ (600 : ℤ)) ∧
      w'.toList.map toRat = w.toList.map (toRat · * 2 ^ (600 : ℤ)) ∧
      (v.isZero = false ∧ w.isZero = false ∧ v'.isZero = false ∧ w'.isZero = false) ∧
      (∃ u u', v.normalize = .ok u ∧ v'.normalize = .ok u' ∧
        u.toList = [0.7071067811865475, 0.7071067811865475] ∧ u'.toList = [0, 0]) ∧
      (v.angle w false = .ok (AngularScalar.acos 0) ∧
        v'.angle w' false = .ok (AngularScalar.acos (-1))) ∧
      v.isParallel w = .ok false ∧ v'.isParallel w' = .ok true) ∧
    ∃ v v' : Vec Float, ofComponents #v[3, 4] 1e-200 = .ok v ∧
      IsExactly 2.409919865102884e-181 (2 ^ (-600 : ℤ)) ∧
      v.scale 2.409919865102884e-181 = .ok v' ∧
      v'.toList.map toRat = v.toList.map (toRat · * 2 ^ (-600 : ℤ)) ∧
      (v.isZero = false ∧ v'.isZero = false) ∧
      (∃ u, v.normalize = .ok u) ∧ v'.normalize = .error .zeroDivision := by
  constructor
  · have hzero : (⟨2, #v[1, 1], .column, 1e-9⟩ : Vec Float).isZero = false ∧
        (⟨2, #v[1, -1], .column, 1e-9⟩ : Vec Float).isZero = false := by decide +kernel
    have hzero' : (⟨2, #v[1, 1].map (· * 4.149515568880993e180), .column, 1e-9⟩ :
          Vec Float).isZero = false ∧
        (⟨2, #v[1, -1].map (· * 4.149515568880993e180), .column, 1e-9⟩ :
          Vec Float).isZero = false := by
      decide +kernel
    have hv' : (⟨2, #v[1, 1], .column, 1e-9⟩ : Vec Float).scale 4.149515568880993e180 = .ok _ :=
      scale_mk two_pos rfl (by decide +kernel)
    have hw' : (⟨2, #v[1, -1], .column, 1e-9⟩ : Vec Float).scale 4.149515568880993e180 = .ok _ :=
      scale_mk two_pos rfl (by decide +kernel)
    have hu : (⟨2, #v[1, 1], .column, 1e-9⟩ : Vec Float).normalize = .ok _ :=
      (normalize_mk hzero.1 (by decide +kernel)).trans (scale_mk two_pos rfl (by decide +kernel))
    have hu' : (⟨2, #v[1, 1].map (· * 4.149515568880993e180), .column, 1e-9⟩ :
        Vec Float).normalize = .ok _ :=
      (normalize_mk hzero'.1 (by decide +kernel)).trans (scale_mk two_pos rfl (by decide +kernel))
    refine ⟨_, _, _, _, rfl, rfl, by decide +kernel, hv', hw', by decide +kernel,
      by decide +kernel, ⟨hzero.1, hzero.2, hzero'.1, hzero'.2⟩,
      ⟨_, _, hu, hu', by decide +kernel, by decide +kernel⟩, ⟨?_, ?_⟩, ?_, ?_⟩
    · refine (angle_mk hzero.1 hzero.2 (by decide +kernel) false).trans ?_
      refine congrArg (fun c : Float => Except.ok (AngularScalar.acos c)) ?_
      decide +kernel
    · refine (angle_mk hzero'.1 hzero'.2 (by decide +kernel) false).trans ?_
      refine congrArg (fun c : Float => Except.ok (AngularScalar.acos c)) ?_
      decide +kernel
    · exact (isParallel_mk hzero.1 hzero.2).trans (congrArg _ (by decide +kernel))
    · exact (isParallel_mk hzero'.1 hzero'.2).trans (congrArg _ (by decide +kernel))
  · have hτ : Tolerance.require (1e-200 : Float) = .ok 1e-200 := if_pos (by decide +kernel)
    have hzero : (⟨2, #v[3, 4], .column, 1e-200⟩ : Vec Float).isZero = false := by decide +kernel
    have hzero' : (⟨2, #v[3, 4].map (· * 2.409919865102884e-181), .column, 1e-200⟩ :
        Vec Float).isZero = false := by
      decide +kernel
    have hv' : (⟨2, #v[3, 4], .column, 1e-200⟩ : Vec Float).scale 2.409919865102884e-181 = .ok _ :=
      scale_mk two_pos hτ (by decide +kernel)
    have hu : (⟨2, #v[3, 4], .column, 1e-200⟩ : Vec Float).normalize = .ok _ :=
      (normalize_mk hzero (by decide +kernel)).trans (scale_mk two_pos hτ (by decide +kernel))
    exact ⟨_, _, ofComponents_eq_ok_of_finite two_pos hτ (by decide +kernel), by decide +kernel, hv',
      by decide +kernel, ⟨hzero, hzero'⟩, ⟨_, hu⟩,
      normalize_of_magnitude_eq_zero hzero' (by decide +kernel)⟩

end Vec

end LinearSystems
