import Mathlib
import LinearSystems.Proofs.WellFormed
import LinearSystems.Value.Operands

/-!
# What operations make

Every operation on a matrix, a vector or an equation that answers with a matrix or a vector makes it by
one of two constructors, and with the tolerance of the object that it is an operation of.  So the answer
has passed the check of its entries, and **its tolerance is that of the left operand, accepted once
more** (`Mat.IsMadeUnder`, `Vec.IsMadeUnder`).  Nothing is asked of the right operand.
-/

namespace LinearSystems

variable {K : Type} [Scalar K]

/-! ## Matrices -/

namespace Mat

/-- What every matrix has passed. -/
structure IsAdmissible (a : Mat K) : Prop where
  rows_pos : 0 < a.rows
  columns_pos : 0 < a.columns
  finite : ∀ x ∈ a.elements.toList, Scalar.isFinite x = true

/-- The matrix has passed its check and carries this tolerance, which is an accepted one. -/
structure IsMadeUnder (τ : K) (a : Mat K) : Prop where
  admissible : a.IsAdmissible
  tolerance : a.tolerance = τ
  accepted : Tolerance.require τ = .ok τ

variable {m d : Nat} {g : Grid K m d} {τ : K} {a b c : Mat K}

theorem requireElements_eq_ok_iff :
    requireElements g = .ok () ↔ (⟨m, d, g, τ⟩ : Mat K).IsAdmissible := by
  have hextents : requireNonempty "elements" [m, d] = (.ok () : Except (Fault K) Unit) ↔
      0 < m ∧ 0 < d := by
    simp [requireNonempty, Nat.pos_iff_ne_zero, eq_comm]
  rw [requireElements, bind_eq_ok_iff]
  constructor
  · rintro ⟨_, hnonempty, hfinite⟩
    obtain ⟨hm, hd⟩ := hextents.1 hnonempty
    exact ⟨hm, hd, requireFinite_eq_ok_iff.1 hfinite⟩
  · rintro ⟨hm, hd, hfinite⟩
    exact ⟨(), hextents.2 ⟨hm, hd⟩, requireFinite_eq_ok_iff.2 hfinite⟩

theorem isMadeUnder_of_ofGrid_eq_ok (h : ofGrid g τ = .ok a) : a.IsMadeUnder τ := by
  obtain ⟨_, hchecked, h⟩ := bind_eq_ok_iff.1 h
  obtain ⟨σ, hτ, h⟩ := bind_eq_ok_iff.1 h
  obtain rfl := Except.ok.inj h
  obtain rfl := Tolerance.eq_of_require_eq_ok hτ
  exact ⟨requireElements_eq_ok_iff.1 hchecked, rfl, hτ⟩

theorem isMadeUnder_of_zipWith_eq_ok {operation : Operation} {f : K → K → K}
    (h : zipWith operation f a b = .ok c) : c.IsMadeUnder a.tolerance := by
  unfold zipWith at h
  split at h
  · exact isMadeUnder_of_ofGrid_eq_ok h
  · cases h

theorem isMadeUnder_of_multiply_eq_ok {family : Family} (h : a.multiply b family = .ok c) :
    c.IsMadeUnder a.tolerance := by
  unfold multiply at h
  split at h
  · exact isMadeUnder_of_ofGrid_eq_ok h
  · cases h

end Mat

/-! ## Vectors -/

namespace Vec

/-- The vector has passed its check and carries this tolerance, which is an accepted one. -/
structure IsMadeUnder (τ : K) (v : Vec K) : Prop where
  admissible : v.IsAdmissible
  tolerance : v.tolerance = τ
  accepted : Tolerance.require τ = .ok τ

variable {n : Nat} {x : Vector K n} {o : Orientation} {τ : K} {u v w : Vec K}

theorem isMadeUnder_of_ofComponents_eq_ok (h : ofComponents x τ o = .ok v) : v.IsMadeUnder τ := by
  obtain ⟨rfl, hadmissible, hτ⟩ := ofComponents_eq_ok_iff.1 h
  exact ⟨hadmissible, rfl, hτ⟩

theorem isMadeUnder_of_zipWith_eq_ok {operation : Operation} {f : K → K → K}
    (h : zipWith operation f v w = .ok u) : u.IsMadeUnder v.tolerance := by
  unfold zipWith at h
  split at h
  · exact isMadeUnder_of_ofComponents_eq_ok h
  · cases h

theorem isMadeUnder_of_cross_eq_ok {operation : Operation} (h : v.cross w operation = .ok u) :
    u.IsMadeUnder v.tolerance := by
  unfold cross at h
  split at h
  · exact isMadeUnder_of_ofComponents_eq_ok h
  · cases h

omit [Scalar K] in
@[simp] theorem tolerance_toMat (v : Vec K) : v.toMat.tolerance = v.tolerance := by
  unfold toMat
  cases v.orientation <;> rfl

end Vec

theorem Mat.isMadeUnder_of_getRow_eq_ok {a : Mat K} {i : Int} {v : Vec K}
    (h : a.getRow i = .ok v) : v.IsMadeUnder a.tolerance := by
  obtain ⟨_, -, h⟩ := bind_eq_ok_iff.1 h
  exact Vec.isMadeUnder_of_ofComponents_eq_ok h

theorem Mat.isMadeUnder_of_getColumn_eq_ok {a : Mat K} {j : Int} {v : Vec K}
    (h : a.getColumn j = .ok v) : v.IsMadeUnder a.tolerance := by
  obtain ⟨_, -, h⟩ := bind_eq_ok_iff.1 h
  exact Vec.isMadeUnder_of_ofComponents_eq_ok h

theorem LinearEquation.isMadeUnder_of_basePoint_eq_ok {e : LinearEquation K} {v : Vec K}
    (h : e.basePoint = .ok v) : v.IsMadeUnder e.tolerance := by
  unfold basePoint at h
  split at h
  · cases h
  · exact Vec.isMadeUnder_of_ofComponents_eq_ok h

section Decomposition

variable {L : Type} [RootedScalar L] {u v w : Vec L}

namespace Vec

theorem isMadeUnder_of_normalize_eq_ok (h : v.normalize = .ok u) : u.IsMadeUnder v.tolerance := by
  obtain ⟨_, -, h⟩ := bind_eq_ok_iff.1 h
  obtain ⟨_, -, h⟩ := bind_eq_ok_iff.1 h
  exact isMadeUnder_of_ofComponents_eq_ok h

/-- The direction is made anew with the tolerance of what is projected, and only then scaled. -/
theorem isMadeUnder_of_projection_eq_ok (h : v.projection w = .ok u) :
    u.IsMadeUnder v.tolerance := by
  obtain ⟨_, -, h⟩ := bind_eq_ok_iff.1 h
  obtain ⟨_, -, h⟩ := bind_eq_ok_iff.1 h
  obtain ⟨unit, -, h⟩ := bind_eq_ok_iff.1 h
  obtain ⟨along, halong, h⟩ := bind_eq_ok_iff.1 h
  obtain ⟨_, -, h⟩ := bind_eq_ok_iff.1 h
  exact (isMadeUnder_of_ofComponents_eq_ok halong).tolerance ▸ isMadeUnder_of_ofComponents_eq_ok h

theorem isMadeUnder_of_orthogonalComponent_eq_ok (h : v.orthogonalComponent w = .ok u) :
    u.IsMadeUnder v.tolerance := by
  obtain ⟨_, -, h⟩ := bind_eq_ok_iff.1 h
  exact isMadeUnder_of_zipWith_eq_ok h

theorem isMadeUnder_of_parallelComponent_eq_ok (h : v.parallelComponent w = .ok u) :
    u.IsMadeUnder v.tolerance := by
  obtain ⟨_, -, h⟩ := bind_eq_ok_iff.1 h
  exact isMadeUnder_of_zipWith_eq_ok h

end Vec

end Decomposition

end LinearSystems
