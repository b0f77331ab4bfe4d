import Mathlib
import LinearSystems.Proofs.Construction
import LinearSystems.Value.Construct

/-!
# Well-formed systems

A system is made of arrays, of equations, or of the equations that another system remembers
(`LinearSystem.Built`), and equations are made of a vector or of coefficients
(`LinearEquation.Built`).  Whatever the way and whatever the values it starts from, **a system that
is built is well formed**: it has an equation and an unknown, its numbers are finite, and its
equations state its rows (`LinearSystem.WellFormed`, `LinearSystem.wellFormed_of_built`).
-/

namespace LinearSystems

/-! ## What the checks leave -/

namespace LinearSystem

section AnyScalar

variable {K : Type} [Scalar K] {s : LinearSystem K} {es : List (LinearEquation K)}

/-- There is an equation and an unknown, all numbers are finite, and the equations state the rows
and offsets of the arrays. -/
structure WellFormed (s : LinearSystem K) : Prop extends
    AdmissibleArrays s.coefficients s.offsets where
  states : StatesRows s.equations s.coefficients s.offsets

/-- The equations of a well-formed system have what an equation has to pass. -/
theorem WellFormed.isAdmissible (h : s.WellFormed) {e : LinearEquation K} (he : e ∈ s.equations) :
    e.IsAdmissible := by
  obtain ⟨i, hrow, hoffset⟩ := h.states.exists_row he
  have hadmissible := h.isAdmissible_row i .column s.tolerance
  refine ⟨⟨?_, fun y hy => hadmissible.finite y ?_⟩, hoffset ▸ h.offsets i⟩
  · exact h.unknowns_pos.trans_eq (h.states.dimensions_eq he).symm
  · rw [hrow] at hy
    exact hy

theorem wellFormed_of_ofArrays_eq_ok {m d : Nat} {A : Grid K m d} {b : Vector K m} {τ : K}
    (hadmissible : AdmissibleArrays A b) (h : ofArrays A b τ = .ok s) : s.WellFormed := by
  obtain ⟨rfl, -⟩ := hadmissible.ofArrays_eq_ok_iff.1 h
  exact ⟨hadmissible, statesRows_rowEquations A b τ⟩

/-- A system of equations is assembled of them. -/
theorem exists_assemble_of_ofEquations_eq_ok {chosen : Option K}
    (h : ofEquations es chosen = .ok s) :
    es ≠ [] ∧ ∃ d shared τ, s = assemble es d shared τ := by
  cases es with
  | nil => cases h
  | cons first rest =>
      obtain ⟨⟨shared⟩, -, h⟩ := bind_eq_ok_iff.1 h
      refine ⟨List.cons_ne_nil _ _, _, shared, ?_⟩
      cases chosen with
      | some τ => exact ⟨τ, (Except.ok.inj h).symm⟩
      | none =>
          obtain ⟨τ, -, h⟩ := bind_eq_ok_iff.1 h
          exact ⟨τ, (Except.ok.inj h).symm⟩

theorem wellFormed_of_ofEquations_eq_ok {chosen : Option K} (hes : ∀ e ∈ es, e.IsAdmissible)
    (h : ofEquations es chosen = .ok s) : s.WellFormed := by
  obtain ⟨hne, d, shared, τ, rfl⟩ := exists_assemble_of_ofEquations_eq_ok h
  have hstates := statesRows_assemble shared τ
  obtain ⟨first, hfirst⟩ := List.exists_mem_of_ne_nil es hne
  refine ⟨⟨List.length_pos_of_mem hfirst, ?_, fun i j => ?_, fun i => ?_⟩, hstates⟩
  · exact (hes first hfirst).normal.pos.trans_eq (shared first hfirst)
  · obtain ⟨e, hget, hrow, -⟩ := hstates.row i
    have hj : (assemble es d shared τ).coefficients.entry i j ∈ e.normal.toList := by
      rw [hrow]
      exact Vector.mem_toList_iff.2 (Vector.getElem_mem j.isLt)
    exact (hes e (List.mem_of_getElem? hget)).normal.finite _ hj
  · obtain ⟨e, hget, -, hoffset⟩ := hstates.row i
    exact hoffset ▸ (hes e (List.mem_of_getElem? hget)).offset

end AnyScalar

end LinearSystem

/-! ## Values that are read -/

namespace Vec

/-- Every vector that is read from values has passed the check of its components. -/
theorem isAdmissible_of_ofOriented_eq_ok {n : Nat} {x : Vector Float n} {o : Orientation}
    {tolerance : Value} {v : Vec Float} (h : ofOriented x o tolerance = .ok v) :
    v.IsAdmissible := by
  obtain ⟨_, hcomponents, h⟩ := bind_eq_ok_iff.1 h
  obtain ⟨τ, -, h⟩ := bind_eq_ok_iff.1 h
  obtain rfl := Except.ok.inj h
  exact requireComponents_eq_ok_iff.1 (mapError_eq_ok_iff.1 hcomponents)

theorem isAdmissible_of_ofValues_eq_ok {values horizontal tolerance : Value} {v : Vec Float}
    (h : ofValues values horizontal tolerance = .ok v) : v.IsAdmissible := by
  obtain ⟨t, -, h⟩ := bind_eq_ok_iff.1 h
  obtain ⟨o, -, h⟩ := bind_eq_ok_iff.1 h
  exact isAdmissible_of_ofOriented_eq_ok h

end Vec

namespace LinearEquation

/-- The ways to an equation: a vector that some constructor made and an offset, or coefficients and
an offset in one of the forms. -/
inductive Built : LinearEquation Float → Prop
  | normal {v : Vec Float} {k : Value} {e : LinearEquation Float} :
      v.IsAdmissible → ofValues (.vec v) k = .ok e → Built e
  | coefficients {c k tolerance : Value} {form : EquationForm} {e : LinearEquation Float} :
      ofCoefficients c k tolerance form = .ok e → Built e

theorem Built.isAdmissible {e : LinearEquation Float} (h : e.Built) : e.IsAdmissible := by
  cases h with
  | normal hv he =>
      obtain ⟨k, -, he⟩ := bind_eq_ok_iff.1 he
      exact isAdmissible_of_ofNormal_eq_ok hv (mapError_eq_ok_iff.1 he)
  | coefficients he =>
      obtain ⟨v, hv, he⟩ := bind_eq_ok_iff.1 he
      obtain ⟨k, -, he⟩ := bind_eq_ok_iff.1 he
      exact isAdmissible_of_ofNormal_eq_ok (Vec.isAdmissible_of_ofValues_eq_ok hv)
        (mapError_eq_ok_iff.1 he)

end LinearEquation

/-- Equations are read off a sequence that holds nothing else, as they are. -/
theorem Value.toEquations_eq_ok_iff {position : Nat} {items : List Value}
    {es : List (LinearEquation Float)} :
    toEquations position items = .ok es ↔ items = es.map equation := by
  induction items generalizing position es with
  | nil =>
      cases es with
      | nil => exact iff_of_true rfl rfl
      | cons e es => exact iff_of_false nofun nofun
  | cons v rest ih =>
      constructor
      · intro h
        cases v with
        | equation e =>
            obtain ⟨es', hes', h⟩ := bind_eq_ok_iff.1 h
            obtain rfl := Except.ok.inj h
            rw [ih.1 hes', List.map_cons]
        | _ => cases h
      · intro h
        cases es with
        | nil => cases h
        | cons e es =>
            obtain ⟨rfl, hrest⟩ := List.cons.inj h
            exact bind_eq_ok_iff.2 ⟨es, ih.2 hrest, rfl⟩

namespace LinearSystem

/-- A tolerance that is given is read once the dimensions are known to agree. -/
theorem ofEquationList_of_ne_none (first : LinearEquation Float)
    (rest : List (LinearEquation Float)) {t : Value} (ht : t ≠ .none) :
    ofEquationList (first :: rest) t = (do
      let _ ← requireEqualDimensions first rest
      let chosen ← some <$> t.toTolerance
      ofEquations (first :: rest) chosen) := by
  cases t with
  | none => exact absurd rfl ht
  | _ => rfl

theorem ofEquationList_none (es : List (LinearEquation Float)) :
    ofEquationList es .none = (ofEquations es none).mapError Refusal.fault := by
  cases es <;> rfl

theorem ofValue_system_of_ne_none (s : LinearSystem Float) {t : Value} (ht : t ≠ .none) :
    ofValue (.system s) t = (do
      let τ ← t.toTolerance
      s.withTolerance τ) := by
  cases t with
  | none => exact absurd rfl ht
  | _ => rfl

theorem exists_ofEquations_of_ofEquationList_eq_ok {es : List (LinearEquation Float)}
    {tolerance : Value} {s : LinearSystem Float} (h : ofEquationList es tolerance = .ok s) :
    ∃ chosen, ofEquations es chosen = .ok s := by
  unfold ofEquationList at h
  split at h
  · exact ⟨none, mapError_eq_ok_iff.1 h⟩
  · exact ⟨none, mapError_eq_ok_iff.1 h⟩
  · obtain ⟨_, -, h⟩ := bind_eq_ok_iff.1 h
    obtain ⟨chosen, -, h⟩ := bind_eq_ok_iff.1 h
    exact ⟨chosen, mapError_eq_ok_iff.1 h⟩

/-- What is left to do with arrays once they have the extents of a system. -/
def ofTensors (a b : Tensor Float) (m d : Nat) (tolerance : Value) :
    Except Refusal (LinearSystem Float) := do
  let grid := a.toGrid m d
  let ⟨h⟩ ← requireArrays grid b.toVector
  ofArrays grid (b.toVector.cast h) (← tolerance.toTolerance)

/-- The extents are settled before the tolerance is looked at. -/
theorem exists_ofTensors_of_ofArrayValues_eq_ok {A b t : Value} {s : LinearSystem Float}
    (h : ofArrayValues A b t = .ok s) :
    ∃ a c m d, ∀ u, ofArrayValues A b u = ofTensors a c m d u := by
  obtain ⟨a, ha, h⟩ := bind_eq_ok_iff.1 h
  obtain ⟨c, hc, h⟩ := bind_eq_ok_iff.1 h
  refine ⟨a, c, ?_⟩
  dsimp only at h
  split at h
  -- A number, a list and a column of offsets are read in the same way.
  case h_1 m d hA hb | h_2 m d _ hA hb | h_3 m d _ hA hb =>
    refine ⟨m, d, fun u => ?_⟩
    simp only [ofArrayValues, ha, hc, hA, hb, bind, Except.bind]
    rfl
  · cases h
  · cases h

/-- **Reading arrays.**  Under every tolerance that is read the arrays are the same. -/
theorem exists_arrays_of_ofArrayValues_eq_ok {A b t : Value} {s : LinearSystem Float}
    (h : ofArrayValues A b t = .ok s) :
    ∃ (m d : Nat) (g : Grid Float m d) (c : Vector Float m), AdmissibleArrays g c ∧
      ∀ u s', ofArrayValues A b u = .ok s' ↔
        ∃ τ, u.toTolerance = .ok τ ∧ ofArrays g c τ = .ok s' := by
  obtain ⟨a, c, m, d, hread⟩ := exists_ofTensors_of_ofArrayValues_eq_ok h
  rw [hread] at h
  obtain ⟨⟨hn⟩, hpassed, -⟩ := bind_eq_ok_iff.1 h
  refine ⟨m, d, a.toGrid m d, c.toVector.cast hn,
    admissible_of_requireArrays_eq_ok (mapError_eq_ok_iff.1 hpassed), fun u s' => ?_⟩
  rw [hread, ofTensors, bind_eq_ok_iff]
  constructor
  · rintro ⟨_, -, h⟩
    obtain ⟨τ, hτ, h⟩ := bind_eq_ok_iff.1 h
    exact ⟨τ, hτ, mapError_eq_ok_iff.1 h⟩
  · rintro ⟨τ, hτ, h⟩
    exact ⟨_, hpassed, bind_eq_ok_iff.2 ⟨τ, hτ, mapError_eq_ok_iff.2 h⟩⟩

/-- The ways to a system: arrays, a sequence of equations, and another system under a tolerance. -/
inductive Built : LinearSystem Float → Prop
  | arrays {A b tolerance : Value} {s : LinearSystem Float} :
      ofArrayValues A b tolerance = .ok s → Built s
  | equations {v tolerance : Value} {items : List Value} {s : LinearSystem Float} :
      v.items = .ok items → (∀ e, Value.equation e ∈ items → e.Built) →
        ofEquationValues v tolerance = .ok s → Built s
  | override {s s' : LinearSystem Float} {tolerance : Value} :
      Built s → ofValue (.system s) tolerance = .ok s' → Built s'

end LinearSystem

end LinearSystems
