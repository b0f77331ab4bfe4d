import Mathlib
import LinearSystems.Proofs.Answers
import LinearSystems.Proofs.FloatingPoint.Order

/-!
# Comparing within a tolerance

Two matrices are equal when every difference of entries, once rounded, stays below the tolerance
(`Mat.isEqual`); an entry equals a value when it lies between the value less the tolerance and the
value plus the tolerance, both rounded (`Mat.equalsValue`).  In exact arithmetic the two are one
test (`Within`).

In floating point neither accepts more than the exact test, and each of them loses what rounding
puts on an edge: the first one the differences that are rounded to the tolerance
(`isSmall_sub_iff`), the second one the entries onto which a bound is rounded (`isClose_iff`).  So
**they agree exactly when, wherever all entries lie within the tolerance, rounding puts none of the
differences and none of the bounds on an edge, or some of both** (`equality_tests_agree_iff`).
An entry so large that the tolerance is rounded away is not even equal to its own value
(`equality_tests_disagree`).
-/

namespace LinearSystems

namespace FloatingPoint

/-! ## One pair of numbers -/

section Pair

variable {τ x y : Float}

/-- Two numbers differ by less than the tolerance, in exact arithmetic. -/
def Within (τ x y : Float) : Prop := |toRat x - toRat y| < toRat τ

/-- The rounded difference is the tolerance, with either sign. -/
def DifferenceOnEdge (τ x y : Float) : Prop := (-τ == x - y) = true ∨ (x - y == τ) = true

/-- A rounded bound around the second number is the first one. -/
def BoundOnEdge (τ x y : Float) : Prop := (y - τ == x) = true ∨ (x == y + τ) = true

instance (τ x y : Float) : Decidable (DifferenceOnEdge τ x y) := inferInstanceAs (Decidable (_ ∨ _))

instance (τ x y : Float) : Decidable (BoundOnEdge τ x y) := inferInstanceAs (Decidable (_ ∨ _))

/-- **The rounded difference is small when the exact one is and rounding keeps it off the edge.** -/
theorem isSmall_sub_iff (hτ : Scalar.isFinite τ = true) (hx : Scalar.isFinite x = true)
    (hy : Scalar.isFinite y = true) :
    Scalar.isSmall τ (x - y) = true ↔ Within τ x y ∧ ¬ DifferenceOnEdge τ x y := by
  rw [isSmall_iff, lt_sub_iff hx hy (isFinite_neg hτ), sub_lt_iff hx hy hτ, toRat_neg, Within,
    abs_lt, DifferenceOnEdge, not_or, Bool.not_eq_true, Bool.not_eq_true]
  exact and_and_and_comm

/-- **A number is between the rounded bounds when it is between the exact ones and rounding keeps
both off it.** -/
theorem isClose_iff (hτ : Scalar.isFinite τ = true) (hx : Scalar.isFinite x = true)
    (hy : Scalar.isFinite y = true) :
    Scalar.isClose x y τ = true ↔ Within τ x y ∧ ¬ BoundOnEdge τ x y := by
  have hexact : toRat y - toRat τ < toRat x ∧ toRat x < toRat y + toRat τ ↔ Within τ x y := by
    rw [Within, abs_lt]
    constructor <;> rintro ⟨hlower, hupper⟩ <;> constructor <;> linarith
  rw [Scalar.isClose, Bool.and_eq_true, decide_eq_true_iff, decide_eq_true_iff,
    sub_lt_iff hy hτ hx, lt_add_iff hy hτ hx, ← hexact, BoundOnEdge, not_or, Bool.not_eq_true,
    Bool.not_eq_true]
  exact and_and_and_comm

theorem within_self_iff (hτ : Scalar.isFinite τ = true) : Within τ x x ↔ 0 < τ := by
  rw [Within, sub_self, abs_zero, lt_iff_toRat rfl hτ, toRat_zero]

end Pair

/-! ## Families of numbers -/

/-- If all pairs lie within the tolerance, rounding puts no difference on an edge exactly when it
puts no bound there. -/
def EdgesAgree {ι : Type} (τ : Float) (x y : ι → Float) : Prop :=
  (∀ i, Within τ (x i) (y i)) →
    ((∀ i, ¬ DifferenceOnEdge τ (x i) (y i)) ↔ ∀ i, ¬ BoundOnEdge τ (x i) (y i))

/-- Both tests of a family ask for the same exact distances, so only the edges can part them. -/
theorem forall_isSmall_iff_forall_isClose_iff {ι : Type} {τ : Float} {x y : ι → Float}
    (hτ : Scalar.isFinite τ = true) (hx : ∀ i, Scalar.isFinite (x i) = true)
    (hy : ∀ i, Scalar.isFinite (y i) = true) :
    ((∀ i, Scalar.isSmall τ (x i - y i) = true) ↔ ∀ i, Scalar.isClose (x i) (y i) τ = true) ↔
      EdgesAgree τ x y := by
  have hsmall (i : ι) := isSmall_sub_iff hτ (hx i) (hy i)
  have hclose (i : ι) := isClose_iff hτ (hx i) (hy i)
  simp only [hsmall, hclose, forall_and, and_congr_right_iff]
  rfl

/-- Where nothing has to be rounded, nothing is put on an edge that was not there. -/
theorem edgesAgree_of_isExactly {ι : Type} {τ : Float} {x y : ι → Float}
    (hτ : Scalar.isFinite τ = true) (hx : ∀ i, Scalar.isFinite (x i) = true)
    (hdifference : ∀ i, IsExactly (x i - y i) (toRat (x i) - toRat (y i)))
    (hlower : ∀ i, IsExactly (y i - τ) (toRat (y i) - toRat τ))
    (hupper : ∀ i, IsExactly (y i + τ) (toRat (y i) + toRat τ)) : EdgesAgree τ x y := by
  intro hwithin
  refine iff_of_true (fun i => ?_) fun i => ?_
  · obtain ⟨hbelow, habove⟩ := abs_lt.1 (hwithin i)
    rintro (hedge | hedge)
    · rw [beq_iff_toRat (isFinite_neg hτ) (hdifference i).1, (hdifference i).2, toRat_neg] at hedge
      exact hbelow.ne hedge
    · rw [beq_iff_toRat (hdifference i).1 hτ, (hdifference i).2] at hedge
      exact habove.ne hedge
  · obtain ⟨hbelow, habove⟩ := abs_lt.1 (hwithin i)
    rintro (hedge | hedge)
    · rw [beq_iff_toRat (hlower i).1 (hx i), (hlower i).2] at hedge
      linarith
    · rw [beq_iff_toRat (hx i) (hupper i).1, (hupper i).2] at hedge
      linarith

end FloatingPoint

/-! ## Matrices and vectors -/

section AnyScalar

variable {K : Type} [Scalar K]

theorem Mat.isEqual_eq_true_iff {m d : Nat} {x y : Grid K m d} {τ σ : K} :
    (⟨m, d, x, τ⟩ : Mat K).isEqual ⟨m, d, y, σ⟩ = true ↔
      ∀ p : Fin m × Fin d, Scalar.isSmall τ (x.entry p.1 p.2 - y.entry p.1 p.2) = true := by
  have hextents : (⟨m, d, x, τ⟩ : Mat K).extents = (⟨m, d, y, σ⟩ : Mat K).extents := rfl
  rw [Mat.isEqual, dif_pos hextents]
  simp

theorem Mat.equalsValue_natCast {m d : Nat} (x : Grid K m d) (τ v : K) (i : Fin m) (j : Fin d) :
    (⟨m, d, x, τ⟩ : Mat K).equalsValue v (i : Nat) (j : Nat) =
      .ok (Scalar.isClose (x.entry i j) v τ) := by
  rw [Mat.equalsValue, requireIndex_natCast, requireIndex_natCast]
  rfl

theorem Vec.isEqual_eq_true_iff {n : Nat} {x y : Vector K n} {o o' : Orientation} {τ σ : K}
    (h : (⟨n, x, o, τ⟩ : Vec K).extents = (⟨n, y, o', σ⟩ : Vec K).extents) :
    (⟨n, x, o, τ⟩ : Vec K).isEqual ⟨n, y, o', σ⟩ = true ↔
      ∀ i, Scalar.isSmall τ (x.get i - y.get i) = true := by
  rw [Vec.isEqual, dif_pos h]
  simp [Vec.component]

theorem Vec.equalsValue_natCast {n : Nat} (x : Vector K n) (o : Orientation) (τ v : K)
    (i : Fin n) :
    (⟨n, x, o, τ⟩ : Vec K).equalsValue v (i : Nat) = .ok (Scalar.isClose (x.get i) v τ) := by
  rw [Vec.equalsValue, Vec.element, requireIndex_natCast]
  rfl

end AnyScalar

open FloatingPoint

/-- **Equality of two matrices, or of two vectors, agrees with the comparison of their entries one
by one exactly when the edges agree**; and an entry equals its own value exactly when the tolerance
moves both bounds off it. -/
theorem equality_tests_agree_iff {τ : Float} (σ : Float) (hτ : Scalar.isFinite τ = true) :
    (∀ {m d : Nat} (x y : Grid Float m d),
      (∀ i j, Scalar.isFinite (x.entry i j) = true) →
      (∀ i j, Scalar.isFinite (y.entry i j) = true) →
      (((⟨m, d, x, τ⟩ : Mat Float).isEqual ⟨m, d, y, σ⟩ = true ↔
          ∀ (i : Fin m) (j : Fin d), (⟨m, d, x, τ⟩ : Mat Float).equalsValue (y.entry i j)
            (i : Nat) (j : Nat) = .ok true) ↔
        EdgesAgree τ (fun p : Fin m × Fin d => x.entry p.1 p.2) fun p => y.entry p.1 p.2) ∧
      ∀ (i : Fin m) (j : Fin d), (⟨m, d, x, τ⟩ : Mat Float).equalsValue (x.entry i j)
          (i : Nat) (j : Nat) = .ok true ↔
        0 < τ ∧ ¬ BoundOnEdge τ (x.entry i j) (x.entry i j)) ∧
    ∀ {n : Nat} (x y : Vector Float n) (o o' : Orientation),
      (⟨n, x, o, τ⟩ : Vec Float).extents = (⟨n, y, o', σ⟩ : Vec Float).extents →
      (∀ i, Scalar.isFinite (x.get i) = true) → (∀ i, Scalar.isFinite (y.get i) = true) →
      (((⟨n, x, o, τ⟩ : Vec Float).isEqual ⟨n, y, o', σ⟩ = true ↔
          ∀ i : Fin n, (⟨n, x, o, τ⟩ : Vec Float).equalsValue (y.get i) (i : Nat) = .ok true) ↔
        EdgesAgree τ x.get y.get) ∧
      ∀ i : Fin n, (⟨n, x, o, τ⟩ : Vec Float).equalsValue (x.get i) (i : Nat) = .ok true ↔
        0 < τ ∧ ¬ BoundOnEdge τ (x.get i) (x.get i) := by
  constructor
  · intro m d x y hx hy
    constructor
    · have hvalues : (∀ (i : Fin m) (j : Fin d),
          (⟨m, d, x, τ⟩ : Mat Float).equalsValue (y.entry i j) (i : Nat) (j : Nat) = .ok true) ↔
          ∀ p : Fin m × Fin d, Scalar.isClose (x.entry p.1 p.2) (y.entry p.1 p.2) τ = true := by
        simp only [Mat.equalsValue_natCast, Except.ok.injEq, Prod.forall]
      rw [Mat.isEqual_eq_true_iff, hvalues]
      exact forall_isSmall_iff_forall_isClose_iff (x := fun p : Fin m × Fin d => x.entry p.1 p.2)
        (y := fun p => y.entry p.1 p.2) hτ (fun p => hx p.1 p.2) fun p => hy p.1 p.2
    · intro i j
      rw [Mat.equalsValue_natCast, Except.ok.injEq, isClose_iff hτ (hx i j) (hx i j),
        within_self_iff hτ]
  · intro n x y o o' hextents hx hy
    constructor
    · rw [Vec.isEqual_eq_true_iff hextents]
      simp only [Vec.equalsValue_natCast, Except.ok.injEq]
      exact forall_isSmall_iff_forall_isClose_iff hτ hx hy
    · intro i
      rw [Vec.equalsValue_natCast, Except.ok.injEq, isClose_iff hτ (hx i) (hx i),
        within_self_iff hτ]

/-- Quarters within a half of each other, in a matrix and in vectors of both orientations. -/
theorem equality_tests_agree_on_quarters :
    ((⟨1, 2, Grid.ofFn ![![1, 2.5]], 0.5⟩ : Mat Float).isEqual
        ⟨1, 2, Grid.ofFn ![![1.25, 2.5]], 0.5⟩ = true ↔
      ∀ (i : Fin 1) (j : Fin 2), (⟨1, 2, Grid.ofFn ![![1, 2.5]], 0.5⟩ : Mat Float).equalsValue
        ((Grid.ofFn ![![1.25, 2.5]]).entry i j) (i : Nat) (j : Nat) = .ok true) ∧
    ((⟨1, #v[1], .column, 0.5⟩ : Vec Float).isEqual ⟨1, #v[1.25], .row, 0.5⟩ = true ↔
      ∀ i : Fin 1, (⟨1, #v[1], .column, 0.5⟩ : Vec Float).equalsValue (#v[1.25].get i)
        (i : Nat) = .ok true) := by
  constructor
  · apply ((equality_tests_agree_iff 0.5 (by decide +kernel)).1 _ _ (by decide +kernel)
      (by decide +kernel)).1.2
    exact fun _ => iff_of_true (by decide +kernel) (by decide +kernel)
  · apply ((equality_tests_agree_iff 0.5 (by decide +kernel)).2 _ _ .column .row rfl
      (by decide +kernel) (by decide +kernel)).1.2
    exact fun _ => iff_of_true (by decide +kernel) (by decide +kernel)

/-- The default tolerance is rounded away beside `1e16`: a matrix and a vector with that entry equal
themselves, and the entry does not equal its own value.  The other way round, with the tolerance `8`
the difference of the float below `4` and `-4` is rounded to the tolerance, while the bound is not
rounded onto the entry. -/
theorem equality_tests_disagree :
    (∃ a : Mat Float, Mat.ofGrid (Grid.ofFn ![![1e16]]) 1e-9 = .ok a ∧
      a.isEqual a = true ∧ a.equalsValue 1e16 0 0 = .ok false) ∧
    (∃ v : Vec Float, Vec.ofComponents #v[1e16, 1] 1e-9 = .ok v ∧
      v.isEqual v = true ∧ v.equalsValue 1e16 0 = .ok false) ∧
    ∃ a b : Mat Float, Mat.ofGrid (Grid.ofFn ![![3.9999999999999996]]) 8 = .ok a ∧
      Mat.ofGrid (Grid.ofFn ![![-4]]) 8 = .ok b ∧
      a.isEqual b = false ∧ a.equalsValue (-4) 0 0 = .ok true := by
  refine ⟨⟨_, rfl, by decide +kernel, ?_⟩, ⟨_, rfl, by decide +kernel, ?_⟩,
    ⟨_, _, rfl, rfl, by decide +kernel, ?_⟩⟩
  · exact (Mat.equalsValue_natCast _ _ _ 0 0).trans (congrArg _ (by decide +kernel))
  · exact (Vec.equalsValue_natCast _ _ _ _ 0).trans (congrArg _ (by decide +kernel))
  · exact (Mat.equalsValue_natCast _ _ _ 0 0).trans (congrArg _ (by decide +kernel))

end LinearSystems
