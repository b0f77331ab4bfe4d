import LinearSystems.LinearEquation
import LinearSystems.Proofs.Answers

/-!
# What operations on vectors compute

The relations and measures of vectors once their checks have passed: the number of components is the
same, and nothing is zero where a direction is needed.  Every statement holds in any arithmetic, and
none of them looks at how the vectors lie.
-/

namespace LinearSystems

namespace Vec

variable {K : Type} {n : Nat} {x y : Vector K n} {o o' : Orientation} {τ σ : K}

theorem paired_mk {α : Type} (operation : Operation)
    (use : {n : Nat} → (Fin n → K) → (Fin n → K) → α) :
    paired operation ⟨n, x, o, τ⟩ ⟨n, y, o', σ⟩ use = .ok (use x.get y.get) :=
  dif_pos rfl

theorem dot_mk [Scalar K] :
    (⟨n, x, o, τ⟩ : Vec K).dot ⟨n, y, o', σ⟩ = .ok (sumOfProducts x.get y.get) :=
  paired_mk ..

/-- A vector is not zero where a component is not. -/
theorem isZero_eq_false_iff [Scalar K] :
    (⟨n, x, o, τ⟩ : Vec K).isZero = false ↔ ∃ i, Scalar.isSmall τ (x.get i) = false := by
  rw [isZero, ← Bool.not_eq_true, Vector.all_eq_true]
  simp only [not_forall, Bool.not_eq_true]
  constructor
  · rintro ⟨i, hi, h⟩
    exact ⟨⟨i, hi⟩, h⟩
  · rintro ⟨i, h⟩
    exact ⟨i, i.isLt, h⟩

theorem requireNonzero_pair [Scalar K] {operation : Operation} {v w : Vec K}
    (hv : v.isZero = false) (hw : w.isZero = false) : requireNonzero operation [v, w] = .ok () := by
  simp [requireNonzero, hv, hw]

/-- A multiple can be made where no component of it is infinite or undefined. -/
theorem scale_mk [Scalar K] {c : K} (hn : 0 < n) (hτ : Tolerance.require τ = .ok τ)
    (hx : ∀ i, Scalar.isFinite (x.get i * c) = true) :
    (⟨n, x, o, τ⟩ : Vec K).scale c = .ok ⟨n, x.map (· * c), o, τ⟩ :=
  ofComponents_eq_ok_of_finite hn hτ fun i => by rw [Vector.get_map]; exact hx i

/-- Vectors of one shape are combined component by component where the results are numbers. -/
theorem zipWith_mk [Scalar K] {operation : Operation} {f : K → K → K} (hn : 0 < n)
    (hτ : Tolerance.require τ = .ok τ)
    (hf : ∀ i, Scalar.isFinite (f (x.get i) (y.get i)) = true) :
    zipWith operation f ⟨n, x, o, τ⟩ ⟨n, y, o, σ⟩ =
      .ok ⟨n, Vector.ofFn fun i => f (x.get i) (y.get i), o, τ⟩ := by
  have hextents : (⟨n, x, o, τ⟩ : Vec K).extents = (⟨n, y, o, σ⟩ : Vec K).extents := rfl
  rw [zipWith, dif_pos hextents]
  exact ofComponents_eq_ok_of_finite hn hτ fun i => (Vector.get_ofFn _ i).symm ▸ hf i

section Rooted

variable [RootedScalar K]

/-- The components of two vectors over their lengths, combined and compared with the tolerance. -/
def near (τ : K) (f : K → K → K) (x y : Vector K n) (length length' : K) : Bool :=
  (List.finRange n).all fun i => Scalar.isSmall τ (f (x.get i / length) (y.get i / length'))

theorem isParallel_mk (hx : (⟨n, x, o, τ⟩ : Vec K).isZero = false)
    (hy : (⟨n, y, o', σ⟩ : Vec K).isZero = false) :
    (⟨n, x, o, τ⟩ : Vec K).isParallel ⟨n, y, o', σ⟩ =
      .ok (near τ (· - ·) x y (⟨n, x, o, τ⟩ : Vec K).magnitude (⟨n, y, o', σ⟩ : Vec K).magnitude ||
        near τ (· + ·) x y (⟨n, x, o, τ⟩ : Vec K).magnitude
          (⟨n, y, o', σ⟩ : Vec K).magnitude) := by
  rw [isParallel, paired_mk, hx, hy]
  rfl

theorem quotient_of_ne_zero {a b : K} (hb : (b == 0) = false) : quotient a b = .ok (a / b) := by
  rw [quotient, hb]
  rfl

theorem normalize_mk {v : Vec K} (hv : v.isZero = false) (hlength : (v.magnitude == 0) = false) :
    v.normalize = v.scale (1 / v.magnitude) := by
  have hnonzero : requireNonzero .normalize [v] = .ok () := by simp [requireNonzero, hv]
  rw [normalize, hnonzero, quotient_of_ne_zero hlength]
  rfl

/-- A vector may have no length although it is not zero within its tolerance. -/
theorem normalize_of_magnitude_eq_zero {v : Vec K} (hv : v.isZero = false)
    (hlength : (v.magnitude == 0) = true) : v.normalize = .error .zeroDivision := by
  have hnonzero : requireNonzero .normalize [v] = .ok () := by simp [requireNonzero, hv]
  rw [normalize, hnonzero]
  show (quotient _ _ >>= _) = _
  rw [quotient, hlength]
  rfl

/-- The projection is the unit vector of the direction, laid like the projected vector, times the
dot product with it. -/
theorem projection_mk {u : Vector K n}
    (hx : (⟨n, x, o, τ⟩ : Vec K).isZero = false) (hy : (⟨n, y, o', σ⟩ : Vec K).isZero = false)
    (hunit : (⟨n, y, o', σ⟩ : Vec K).normalize = .ok ⟨n, u, o', σ⟩)
    (hlaid : ofComponents u τ o = .ok ⟨n, u, o, τ⟩) :
    (⟨n, x, o, τ⟩ : Vec K).projection ⟨n, y, o', σ⟩ =
      scale (sumOfProducts x.get u.get) ⟨n, u, o, τ⟩ := by
  rw [projection, paired_mk, requireNonzero_pair hx hy, hunit]
  show (ofComponents u τ o >>= _) = _
  rw [hlaid, dot_mk]
  rfl

end Rooted

theorem angle_mk [AngularScalar K] (hx : (⟨n, x, o, τ⟩ : Vec K).isZero = false)
    (hy : (⟨n, y, o', σ⟩ : Vec K).isZero = false)
    (hlengths : ((⟨n, x, o, τ⟩ : Vec K).magnitude * (⟨n, y, o', σ⟩ : Vec K).magnitude == 0) = false)
    (degrees : Bool) :
    (⟨n, x, o, τ⟩ : Vec K).angle ⟨n, y, o', σ⟩ degrees =
      .ok (let theta := AngularScalar.acos (clampCosine (sumOfProducts x.get y.get /
          ((⟨n, x, o, τ⟩ : Vec K).magnitude * (⟨n, y, o', σ⟩ : Vec K).magnitude)))
        if degrees then theta * AngularScalar.degreesPerRadian else theta) := by
  rw [angle, paired_mk, requireNonzero_pair hx hy, dot_mk]
  show (quotient _ _ >>= _) = _
  rw [quotient_of_ne_zero hlengths]
  rfl

end Vec

end LinearSystems
