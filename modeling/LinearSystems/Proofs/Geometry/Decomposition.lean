import Mathlib
import LinearSystems.Proofs.Geometry.Parallel

/-!
# Decomposition along a direction

A vector is taken apart into its projection on another one and what is left over.  In exact
arithmetic the projection is the multiple of the other vector with the factor
`(x · y) / (y · y)` (`Vec.projection_real`), which does not change when the direction is scaled
(`Vec.along_smul`), and what is left over is orthogonal to the direction
(`Vec.sub_along_dotProduct`).

The three operations are written in terms of one another: the orthogonal component subtracts the
projection from the vector, the parallel component subtracts the orthogonal one from it.  So **the
parallel component is the projection, and the two components add up to the vector**
(`Vec.components_of_decomposition`), whichever way either vector lies.
-/

namespace LinearSystems

namespace Vec

variable {n : Nat} {x y : Vector ℝ n} {o o' : Orientation} {τ σ : ℝ}

/-! ## Exact arithmetic -/

theorem pos_of_isZero_eq_false (h : (⟨n, x, o, τ⟩ : Vec ℝ).isZero = false) : 0 < n := by
  obtain ⟨i, -⟩ := isZero_real_eq_false_iff.1 h
  exact i.pos

theorem scale_real (hn : 0 < n) (hτ : 0 < τ) (c : ℝ) :
    (⟨n, x, o, τ⟩ : Vec ℝ).scale c = .ok ⟨n, x.map (· * c), o, τ⟩ :=
  scale_mk hn (Tolerance.require_real hτ) fun _ => Scalar.isFinite_real _

theorem subtract_real (hn : 0 < n) (hτ : 0 < τ) :
    (⟨n, x, o, τ⟩ : Vec ℝ).subtract ⟨n, y, o, σ⟩ =
      .ok ⟨n, Vector.ofFn fun i => x.get i - y.get i, o, τ⟩ :=
  zipWith_mk hn (Tolerance.require_real hτ) fun _ => Scalar.isFinite_real _

theorem add_real (hn : 0 < n) (hτ : 0 < τ) :
    (⟨n, x, o, τ⟩ : Vec ℝ).add ⟨n, y, o, σ⟩ =
      .ok ⟨n, Vector.ofFn fun i => x.get i + y.get i, o, τ⟩ :=
  zipWith_mk hn (Tolerance.require_real hτ) fun _ => Scalar.isFinite_real _

theorem normalize_real (hσ : 0 < σ) (hy : (⟨n, y, o', σ⟩ : Vec ℝ).isZero = false) :
    (⟨n, y, o', σ⟩ : Vec ℝ).normalize =
      .ok ⟨n, y.map (· * (1 / euclidean y.get)), o', σ⟩ := by
  have hlength : ((⟨n, y, o', σ⟩ : Vec ℝ).magnitude == 0) = false := by
    rw [magnitude_real]
    exact beq_eq_false_iff_ne.2 (euclidean_pos hσ hy).ne'
  rw [normalize_mk hy hlength, scale_real (pos_of_isZero_eq_false hy) hσ, magnitude_real]

/-- The part of a family of numbers along another one. -/
noncomputable def along (x y : Fin n → ℝ) : Fin n → ℝ := fun i => x ⬝ᵥ y / (y ⬝ᵥ y) * y i

theorem dotProduct_self_eq (y : Fin n → ℝ) : y ⬝ᵥ y = euclidean y ^ 2 := by
  rw [sq_euclidean]
  simp [dotProduct, sq]

/-- Only the direction counts, not the length. -/
theorem along_smul (x y : Fin n → ℝ) {c : ℝ} (hc : c ≠ 0) : along x (c • y) = along x y := by
  funext i
  simp only [along, dotProduct_smul, smul_dotProduct, Pi.smul_apply, smul_eq_mul]
  rcases eq_or_ne (y ⬝ᵥ y) 0 with hy | hy
  · rw [hy, mul_zero, mul_zero, div_zero, div_zero, zero_mul, zero_mul]
  · field_simp

/-- What is left over is orthogonal to the direction. -/
theorem sub_along_dotProduct (x : Fin n → ℝ) {y : Fin n → ℝ} (hy : 0 < euclidean y) :
    (x - along x y) ⬝ᵥ y = 0 := by
  have hlength : y ⬝ᵥ y ≠ 0 := by
    rw [dotProduct_self_eq]
    exact pow_ne_zero 2 hy.ne'
  have halong : along x y = (x ⬝ᵥ y / (y ⬝ᵥ y)) • y := rfl
  rw [sub_dotProduct, halong, smul_dotProduct, smul_eq_mul, div_mul_cancel₀ _ hlength, sub_self]

/-- **The projection is the part along the direction**, laid like the vector that is projected. -/
theorem projection_real (hτ : 0 < τ) (hσ : 0 < σ) (hx : (⟨n, x, o, τ⟩ : Vec ℝ).isZero = false)
    (hy : (⟨n, y, o', σ⟩ : Vec ℝ).isZero = false) :
    (⟨n, x, o, τ⟩ : Vec ℝ).projection ⟨n, y, o', σ⟩ =
      .ok ⟨n, Vector.ofFn (along x.get y.get), o, τ⟩ := by
  have hn := pos_of_isZero_eq_false hx
  have hlaid : ofComponents (y.map (· * (1 / euclidean y.get))) τ o =
      .ok ⟨n, y.map (· * (1 / euclidean y.get)), o, τ⟩ :=
    ofComponents_real hn hτ _
  rw [projection_mk hx hy (normalize_real hσ hy) hlaid, scale_real hn hτ, sumOfProducts_real]
  congr 2
  apply Vector.ext
  intro i hi
  have hunit : (y.map (· * (1 / euclidean y.get))).get = (1 / euclidean y.get) • y.get := by
    funext k
    rw [Vector.get_map, Pi.smul_apply, smul_eq_mul, mul_comm]
  have hlength : euclidean y.get ≠ 0 := (euclidean_pos hσ hy).ne'
  rw [Vector.getElem_map, Vector.getElem_map, Vector.getElem_ofFn, hunit, dotProduct_smul,
    along, dotProduct_self_eq, smul_eq_mul]
  change y.get ⟨i, hi⟩ * _ * _ = _
  field_simp

/-- Both components of a vector, and their sum. -/
theorem components_of_decomposition (hτ : 0 < τ) (hσ : 0 < σ)
    (hx : (⟨n, x, o, τ⟩ : Vec ℝ).isZero = false) (hy : (⟨n, y, o', σ⟩ : Vec ℝ).isZero = false) :
    (⟨n, x, o, τ⟩ : Vec ℝ).orthogonalComponent ⟨n, y, o', σ⟩ =
        .ok ⟨n, Vector.ofFn (x.get - along x.get y.get), o, τ⟩ ∧
      (⟨n, x, o, τ⟩ : Vec ℝ).parallelComponent ⟨n, y, o', σ⟩ =
        .ok ⟨n, Vector.ofFn (along x.get y.get), o, τ⟩ ∧
      (⟨n, Vector.ofFn (x.get - along x.get y.get), o, τ⟩ : Vec ℝ).add
        ⟨n, Vector.ofFn (along x.get y.get), o, τ⟩ = .ok ⟨n, x, o, τ⟩ := by
  have hn := pos_of_isZero_eq_false hx
  have horthogonal : (⟨n, x, o, τ⟩ : Vec ℝ).orthogonalComponent ⟨n, y, o', σ⟩ =
      .ok ⟨n, Vector.ofFn (x.get - along x.get y.get), o, τ⟩ := by
    rw [orthogonalComponent, projection_real hτ hσ hx hy]
    refine (subtract_real hn hτ).trans ?_
    simp only [Vector.get_ofFn]
    rfl
  refine ⟨horthogonal, ?_, ?_⟩
  · rw [parallelComponent, horthogonal]
    refine (subtract_real hn hτ).trans ?_
    simp only [Vector.get_ofFn, Pi.sub_apply, sub_sub_cancel]
  · rw [add_real hn hτ]
    congr 2
    apply Vector.ext
    intro i hi
    rw [Vector.getElem_ofFn, Vector.get_ofFn, Vector.get_ofFn, Pi.sub_apply, sub_add_cancel]
    rfl

/-- **A vector is the sum of a multiple of the direction and a vector orthogonal to it.**  All three
operations answer with vectors that have the shape and the tolerance of the one that is taken apart;
the parallel component is the projection, and it stays the same when the direction is scaled. -/
theorem decomposition (hτ : 0 < τ) (hσ : 0 < σ) (hx : (⟨n, x, o, τ⟩ : Vec ℝ).isZero = false)
    (hy : (⟨n, y, o', σ⟩ : Vec ℝ).isZero = false) :
    ∃ p q : Vector ℝ n,
      (⟨n, x, o, τ⟩ : Vec ℝ).projection ⟨n, y, o', σ⟩ = .ok ⟨n, p, o, τ⟩ ∧
      (⟨n, x, o, τ⟩ : Vec ℝ).orthogonalComponent ⟨n, y, o', σ⟩ = .ok ⟨n, q, o, τ⟩ ∧
      (⟨n, x, o, τ⟩ : Vec ℝ).parallelComponent ⟨n, y, o', σ⟩ = .ok ⟨n, p, o, τ⟩ ∧
      (⟨n, q, o, τ⟩ : Vec ℝ).add ⟨n, p, o, τ⟩ = .ok ⟨n, x, o, τ⟩ ∧
      (∃ c : ℝ, ∀ i, p.get i = c * y.get i) ∧
      (∀ c : ℝ, c ≠ 0 → ∃ w, (⟨n, y, o', σ⟩ : Vec ℝ).scale c = .ok w ∧
        (w.isZero = false →
          (⟨n, x, o, τ⟩ : Vec ℝ).projection w = .ok ⟨n, p, o, τ⟩ ∧
          (⟨n, x, o, τ⟩ : Vec ℝ).parallelComponent w = .ok ⟨n, p, o, τ⟩)) ∧
      (⟨n, q, o, τ⟩ : Vec ℝ).dot ⟨n, y, o', σ⟩ = .ok 0 := by
  obtain ⟨horthogonal, hparallel, hsum⟩ := components_of_decomposition hτ hσ hx hy
  refine ⟨Vector.ofFn (along x.get y.get), Vector.ofFn (x.get - along x.get y.get),
    projection_real hτ hσ hx hy, horthogonal, hparallel, hsum,
    ⟨_, fun i => Vector.get_ofFn _ i⟩, fun c hc => ?_, ?_⟩
  · refine ⟨_, scale_real (pos_of_isZero_eq_false hy) hσ c, fun hw => ?_⟩
    have hscaled : (y.map (· * c)).get = c • y.get := by
      funext i
      rw [Vector.get_map, Pi.smul_apply, smul_eq_mul, mul_comm]
    have hsame : along x.get (y.map (· * c)).get = along x.get y.get := by
      rw [hscaled, along_smul _ _ hc]
    rw [← hsame]
    exact ⟨projection_real hτ hσ hx hw, (components_of_decomposition hτ hσ hx hw).2.1⟩
  · have hget : (Vector.ofFn (x.get - along x.get y.get)).get = x.get - along x.get y.get :=
      funext fun i => Vector.get_ofFn _ i
    rw [dot_mk, sumOfProducts_real, hget, sub_along_dotProduct _ (euclidean_pos hσ hy)]

/-- The column `(3, 1)` along the row `(2, 0)`, and along minus half of it. -/
theorem decomposition_of_column_along_row :
    (⟨2, #v[3, 1], .column, 1 / 8⟩ : Vec ℝ).isZero = false ∧
    (⟨2, #v[2, 0], .row, 1⟩ : Vec ℝ).isZero = false ∧
    ∃ p q : Vector ℝ 2,
      (⟨2, #v[3, 1], .column, 1 / 8⟩ : Vec ℝ).parallelComponent ⟨2, #v[2, 0], .row, 1⟩ =
        .ok ⟨2, p, .column, 1 / 8⟩ ∧
      (⟨2, #v[3, 1], .column, 1 / 8⟩ : Vec ℝ).orthogonalComponent ⟨2, #v[2, 0], .row, 1⟩ =
        .ok ⟨2, q, .column, 1 / 8⟩ ∧
      (⟨2, q, .column, 1 / 8⟩ : Vec ℝ).dot ⟨2, #v[2, 0], .row, 1⟩ = .ok 0 ∧
      ∃ w, (⟨2, #v[2, 0], .row, 1⟩ : Vec ℝ).scale (-1 / 2) = .ok w ∧ w.isZero = false ∧
        (⟨2, #v[3, 1], .column, 1 / 8⟩ : Vec ℝ).parallelComponent w =
          .ok ⟨2, p, .column, 1 / 8⟩ := by
  have hx : (⟨2, #v[3, 1], .column, 1 / 8⟩ : Vec ℝ).isZero = false :=
    isZero_real_eq_false_iff.2 ⟨0, by norm_num [Vector.get]⟩
  have hy : (⟨2, #v[2, 0], .row, 1⟩ : Vec ℝ).isZero = false :=
    isZero_real_eq_false_iff.2 ⟨0, by norm_num [Vector.get]⟩
  obtain ⟨p, q, -, horthogonal, hparallel, -, -, hscaled, hdot⟩ :=
    decomposition (by norm_num) one_pos hx hy
  obtain ⟨w, hw, hsame⟩ := hscaled (-1 / 2) (by norm_num)
  have hzero : w.isZero = false := by
    obtain rfl := Except.ok.inj (hw.symm.trans (scale_real two_pos one_pos _))
    exact isZero_real_eq_false_iff.2 ⟨0, by norm_num [Vector.get_map, Vector.get]⟩
  exact ⟨hx, hy, p, q, hparallel, horthogonal, hdot, w, hw, hzero, (hsame hzero).2⟩

end Vec

end LinearSystems
