import Mathlib
import LinearSystems.Proofs.Session.Parts

/-!
# What is made of sound values

The constructors and the solver make sound objects of sound values, whatever tolerances are allowed as
long as the accepted ones are.  A tolerance that is read is an accepted number, or it is the value of a
tier (`Value.resolve_eq_ok_cases`); everything else that carries one has it from there.

A typed constructor reads a float, and so it answers for objects that carry the float that was read.
Where the argument is a tier, the object is then handed the value of the tier (`Value.isSound_carry`).
-/

namespace LinearSystems

variable {allowed : Value → Prop}

/-! ## Tolerances -/

namespace Value

variable {v t : Value}

theorem resolve_of_ne_tierOf (hother : ∀ value name description, v ≠ tierOf value name description) :
    v.resolve = (float <$> v.toTolerance).mapError Refusal.worded := by
  unfold resolve
  split
  · exact absurd rfl (hother _ _ _)
  · rfl

/-- What a value stands for as a tolerance: the value of a tier, or the float that is read. -/
theorem resolve_eq_ok_cases (h : v.resolve = .ok t) :
    (∃ name description, v = tierOf t name description) ∨
      (∀ value name description, v ≠ tierOf value name description) ∧
        ∃ τ, v.toTolerance = .ok τ ∧ t = float τ := by
  unfold resolve at h
  split at h
  · next value name description => exact Or.inl ⟨name, description, Except.ok.inj h ▸ rfl⟩
  · next hother =>
      obtain ⟨τ, hτ, rfl⟩ := map_eq_ok_iff.1 (mapError_eq_ok_iff.1 h)
      exact Or.inr ⟨hother, τ, hτ, rfl⟩

/-- A float is read as itself, if it is accepted. -/
theorem resolve_float_eq_ok_iff {τ : Float} :
    (float τ).resolve = .ok t ↔ Tolerance.require τ = .ok τ ∧ t = float τ := by
  have hread : (float τ).toTolerance = (Tolerance.require τ).mapError Refusal.fault := rfl
  constructor
  · intro h
    rcases resolve_eq_ok_cases h with ⟨_, _, hτ⟩ | ⟨-, σ, hσ, rfl⟩
    · cases hτ
    · rw [hread] at hσ
      have hσ := mapError_eq_ok_iff.1 hσ
      obtain rfl := Tolerance.eq_of_require_eq_ok hσ
      exact ⟨hσ, rfl⟩
  · rintro ⟨hτ, rfl⟩
    have hother : ∀ value name description, float τ ≠ tierOf value name description := nofun
    rw [resolve_of_ne_tierOf hother, hread, hτ]
    rfl

end Value

section Tolerances

variable (hallowed : ∀ τ : Float, Tolerance.require τ = .ok τ → allowed (.float τ))

include hallowed

/-- Every named tier is positive and finite. -/
theorem Tier.allowed_of_mem_all {t : Tier Float} (h : t ∈ (Tier.all : List (Tier Float))) :
    allowed (.float t.value) := by
  have hall : ∀ t ∈ (Tier.all : List (Tier Float)),
      (Scalar.isFinite t.value && !decide (t.value ≤ 0)) = true := by
    simp only [Tier.all, List.forall_mem_cons, List.not_mem_nil, false_implies, implies_true,
      and_true]
    decide +kernel
  exact hallowed _ (if_pos (hall t h))

/-- The default is the first of the named tiers. -/
theorem Tolerance.allowed_default : allowed (.float Tolerance.default) :=
  Tier.allowed_of_mem_all hallowed List.mem_cons_self

/-- A tolerance that is read of anything but a tier is allowed. -/
theorem Value.allowed_of_toTolerance_eq_ok_of_ne_tierOf {v : Value} {τ : Float}
    (hother : ∀ value name description, v ≠ tierOf value name description)
    (h : v.toTolerance = .ok τ) : allowed (float τ) := by
  unfold toTolerance at h
  split at h
  · exact Except.ok.inj h ▸ Tolerance.allowed_default hallowed
  · exact absurd rfl (hother _ _ _)
  · split at h
    · next t ht =>
        exact Except.ok.inj h ▸ Tier.allowed_of_mem_all hallowed (List.mem_of_find?_eq_some ht)
    · cases h
  · cases h
  · cases h
  · split at h
    · have hτ := mapError_eq_ok_iff.1 h
      obtain rfl := Tolerance.eq_of_require_eq_ok hτ
      exact hallowed _ hτ
    · cases h
    · cases h

/-- A tolerance that is read is allowed.  Of a tier it has to be the value. -/
theorem Value.allowed_of_toTolerance_eq_ok {v : Value} {τ : Float} (hv : v.IsSound allowed)
    (hforeign : v.isForeignTier = false) (h : v.toTolerance = .ok τ) : allowed (float τ) := by
  by_cases htier : ∃ value name description, v = tierOf value name description
  · obtain ⟨value, name, description, rfl⟩ := htier
    have hvalue := (isSound_tierOf_iff.1 hv).1.isAllowed
    cases value with
    | float x => exact Except.ok.inj h ▸ hvalue
    | _ => cases hforeign
  · exact allowed_of_toTolerance_eq_ok_of_ne_tierOf hallowed
      (fun value name description hv => htier ⟨value, name, description, hv⟩) h

/-- Whatever a sound value stands for can be carried. -/
theorem Value.IsSound.resolve {v t : Value} (hv : v.IsSound allowed) (h : v.resolve = .ok t) :
    t.MayBeCarried allowed := by
  rcases resolve_eq_ok_cases h with ⟨name, description, rfl⟩ | ⟨hother, τ, hτ, rfl⟩
  · exact (isSound_tierOf_iff.1 hv).1
  · exact mayBeCarried_float_iff.2
      (allowed_of_toTolerance_eq_ok_of_ne_tierOf hallowed hother hτ)

/-- What was made under a tolerance carries what that stands for, a tier its value. -/
theorem Value.isSound_carry {tolerance : Value} {x : Object Float} (ht : tolerance.IsSound allowed)
    (hanswer : answerObjects x = [])
    (hmade : ∀ other : Value → Prop, (∀ τ, tolerance.toTolerance = .ok τ → other (float τ)) →
      (ofTyped x).IsSound other) : (tolerance.carry (ofTyped x)).IsSound allowed := by
  unfold carry
  split
  · next value name description =>
      -- The shape of what is made is the same for every tolerance, so nothing is asked of that.
      have hx := (isSound_iff_of_object? (object?_ofTyped x)).1 (hmade (fun _ => True) fun _ _ => trivial)
      rw [under, object?_ofTyped]
      refine isSound_ofObject_iff.2 (isSound_map_const hx (isSound_tierOf_iff.1 ht).1 ?_)
      rw [answerObjects_map, hanswer]
      exact nofun
  · next hother =>
      exact hmade allowed fun τ hτ =>
        allowed_of_toTolerance_eq_ok_of_ne_tierOf hallowed hother hτ

end Tolerances

/-! ## Matrices and vectors -/

section Accepted

variable (hallowed : ∀ τ : Float, Tolerance.require τ = .ok τ → allowed (.float τ))

include hallowed

theorem Mat.isSound_of_isMadeUnder {τ : Float} {a : Mat Float} (h : a.IsMadeUnder τ) :
    (Value.mat a).IsSound allowed :=
  Value.isSound_mat_iff.2 ⟨h.admissible, h.tolerance ▸ hallowed τ h.accepted⟩

theorem Vec.isSound_of_isMadeUnder {τ : Float} {v : Vec Float} (h : v.IsMadeUnder τ) :
    (Value.vec v).IsSound allowed :=
  Value.isSound_vec_iff.2 ⟨h.admissible, h.tolerance ▸ hallowed τ h.accepted⟩

end Accepted

section Read

variable {tolerance : Value} (hread : ∀ τ, tolerance.toTolerance = .ok τ → allowed (.float τ))

include hread

theorem Mat.isSound_of_ofValue_eq_ok {elements : Value} {a : Mat Float}
    (h : ofValue elements tolerance = .ok a) :
    (Value.mat a).IsSound allowed := by
  obtain ⟨t, -, h⟩ := bind_eq_ok_iff.1 h
  dsimp only at h
  split at h
  · obtain ⟨_, hchecked, h⟩ := bind_eq_ok_iff.1 h
    obtain ⟨τ, hτ, h⟩ := bind_eq_ok_iff.1 h
    obtain rfl := Except.ok.inj h
    exact Value.isSound_mat_iff.2
      ⟨requireElements_eq_ok_iff.1 (mapError_eq_ok_iff.1 hchecked), hread τ hτ⟩
  · cases h

namespace Vec

variable {values horizontal : Value} {v : Vec Float}

theorem isSound_of_ofOriented_eq_ok {n : Nat} {x : Vector Float n} {o : Orientation}
    (h : ofOriented x o tolerance = .ok v) : (Value.vec v).IsSound allowed := by
  refine Value.isSound_vec_iff.2 ⟨isAdmissible_of_ofOriented_eq_ok h, ?_⟩
  obtain ⟨_, -, h⟩ := bind_eq_ok_iff.1 h
  obtain ⟨τ, hτ, h⟩ := bind_eq_ok_iff.1 h
  obtain rfl := Except.ok.inj h
  exact hread τ hτ

theorem isSound_of_ofValue_eq_ok (h : ofValue values tolerance = .ok v) :
    (Value.vec v).IsSound allowed := by
  obtain ⟨t, -, h⟩ := bind_eq_ok_iff.1 h
  split at h
  · exact isSound_of_ofOriented_eq_ok hread h
  · exact isSound_of_ofOriented_eq_ok hread h
  · exact isSound_of_ofOriented_eq_ok hread h
  · cases h

theorem isSound_of_ofValues_eq_ok (h : ofValues values horizontal tolerance = .ok v) :
    (Value.vec v).IsSound allowed := by
  obtain ⟨_, -, h⟩ := bind_eq_ok_iff.1 h
  obtain ⟨_, -, h⟩ := bind_eq_ok_iff.1 h
  exact isSound_of_ofOriented_eq_ok hread h

theorem isSound_of_zeros_eq_ok {room : Nat} (h : zeros room values horizontal tolerance = .ok v) :
    (Value.vec v).IsSound allowed := by
  obtain ⟨_, -, h⟩ := bind_eq_ok_iff.1 h
  obtain ⟨_, -, h⟩ := bind_eq_ok_iff.1 h
  exact isSound_of_ofOriented_eq_ok hread h

theorem isSound_of_ofPointValues_eq_ok {p q : Value} (h : ofPointValues p q tolerance = .ok v) :
    (Value.vec v).IsSound allowed := by
  obtain ⟨_, -, h⟩ := bind_eq_ok_iff.1 h
  obtain ⟨_, -, h⟩ := bind_eq_ok_iff.1 h
  split at h
  · exact isSound_of_ofOriented_eq_ok hread h
  · cases h

end Vec

/-! ## Equations -/

namespace LinearEquation

omit hread in
/-- A normal that has been stood upright is one column. -/
theorem isUpright_upright {v : Vec Float} (hv : v.IsAdmissible) : Value.IsUpright v.upright := by
  have hpos := hv.pos
  unfold Vec.upright
  split
  · exact ⟨v.dimensions, hpos, rfl⟩
  · next h =>
      refine ⟨v.dimensions, hpos, ?_⟩
      unfold Vec.extents
      cases ho : v.orientation with
      | column => rfl
      | row =>
          -- A row that is not horizontal has one component, which is a column as well.
          have hone : ¬1 < v.dimensions := by
            intro hlt
            exact h (by rw [Vec.isHorizontal, ho, decide_eq_true hlt]; rfl)
          have hdimensions : v.dimensions = 1 := by omega
          simp only [hdimensions]

omit hread in
theorem isSound_of_ofNormal_eq_ok {v : Vec Float} {k : Float} {form : EquationForm}
    {e : LinearEquation Float} (hv : (Value.vec v).IsSound allowed)
    (h : ofNormal v k form = .ok e) : (Value.equation e).IsSound allowed := by
  obtain ⟨hadmissible, htolerance⟩ := Value.isSound_vec_iff.1 hv
  obtain ⟨rfl, hk, -⟩ := (ofNormal_eq_ok_iff hadmissible).1 h
  refine Value.isSound_equation_iff.2
    ⟨⟨hadmissible.upright, hk⟩, isUpright_upright hadmissible, ?_⟩
  rw [tolerance, Vec.tolerance_upright]
  exact htolerance

omit hread in
theorem isSound_of_ofValues_eq_ok {normal offset : Value} {e : LinearEquation Float}
    (hnormal : normal.IsSound allowed) (h : ofValues normal offset = .ok e) :
    (Value.equation e).IsSound allowed := by
  cases normal with
  | vec v =>
      obtain ⟨k, -, h⟩ := bind_eq_ok_iff.1 h
      exact isSound_of_ofNormal_eq_ok hnormal (mapError_eq_ok_iff.1 h)
  | _ => cases h

theorem isSound_of_ofCoefficients_eq_ok {coefficients offset : Value}
    {form : EquationForm} {e : LinearEquation Float}
    (h : ofCoefficients coefficients offset tolerance form = .ok e) :
    (Value.equation e).IsSound allowed := by
  obtain ⟨v, hv, h⟩ := bind_eq_ok_iff.1 h
  obtain ⟨k, -, h⟩ := bind_eq_ok_iff.1 h
  exact isSound_of_ofNormal_eq_ok (Vec.isSound_of_ofValues_eq_ok hread hv)
    (mapError_eq_ok_iff.1 h)

end LinearEquation

/-! ## Systems -/

namespace LinearSystem

variable {s : LinearSystem Float} {es : List (LinearEquation Float)}

omit hread in
/-- A system of equations has the tolerance that was chosen, or that of its equations. -/
theorem tolerance_of_ofEquations_eq_ok {chosen : Option Float} (h : ofEquations es chosen = .ok s) :
    s.equations = es ∧ (chosen = some s.tolerance ∨ ∃ e ∈ es, s.tolerance = e.tolerance) := by
  cases es with
  | nil => cases h
  | cons first rest =>
      obtain ⟨⟨shared⟩, -, h⟩ := bind_eq_ok_iff.1 h
      cases chosen with
      | some τ =>
          obtain rfl := Except.ok.inj h
          exact ⟨rfl, Or.inl rfl⟩
      | none =>
          obtain ⟨τ, hτ, h⟩ := bind_eq_ok_iff.1 h
          obtain rfl := Except.ok.inj h
          refine ⟨rfl, Or.inr ⟨first, List.mem_cons_self, ?_⟩⟩
          unfold commonTolerance at hτ
          split at hτ
          · exact (Except.ok.inj hτ).symm
          · cases hτ

omit hread in
theorem isSound_of_ofEquations_eq_ok {chosen : Option Float}
    (hchosen : ∀ τ, chosen = some τ → allowed (.float τ))
    (hes : ∀ e ∈ es, (Value.equation e).IsSound allowed) (h : ofEquations es chosen = .ok s) :
    (Value.system s).IsSound allowed := by
  have hwellFormed : s.WellFormed :=
    wellFormed_of_ofEquations_eq_ok (fun e he => (Value.isSound_equation_iff.1 (hes e he)).1) h
  obtain ⟨hequations, htolerance⟩ := tolerance_of_ofEquations_eq_ok h
  refine Value.isSound_system_iff.2 ⟨hwellFormed, ?_, hequations ▸ hes⟩
  rcases htolerance with hτ | ⟨e, he, hτ⟩
  · exact hchosen _ hτ
  · exact hτ ▸ (Value.isSound_equation_iff.1 (hes e he)).2.2

theorem isSound_of_ofEquationList_eq_ok (hes : ∀ e ∈ es, (Value.equation e).IsSound allowed)
    (h : ofEquationList es tolerance = .ok s) : (Value.system s).IsSound allowed := by
  by_cases hnone : tolerance = .none
  · subst hnone
    rw [ofEquationList_none] at h
    have hnothing (τ : Float) (hτ : none = some τ) : allowed (.float τ) :=
      absurd hτ.symm (Option.some_ne_none τ)
    exact isSound_of_ofEquations_eq_ok hnothing hes (mapError_eq_ok_iff.1 h)
  · cases es with
    | nil =>
        obtain ⟨chosen, h⟩ := exists_ofEquations_of_ofEquationList_eq_ok h
        cases h
    | cons first rest =>
        rw [ofEquationList_of_ne_none first rest hnone] at h
        obtain ⟨_, -, h⟩ := bind_eq_ok_iff.1 h
        obtain ⟨_, hchosen, h⟩ := bind_eq_ok_iff.1 h
        obtain ⟨τ, hτ, rfl⟩ := map_eq_ok_iff.1 hchosen
        refine isSound_of_ofEquations_eq_ok (fun σ hσ => ?_) hes (mapError_eq_ok_iff.1 h)
        exact Option.some.inj hσ ▸ hread τ hτ

theorem isSound_of_ofArrayValues_eq_ok {A b : Value}
    (h : ofArrayValues A b tolerance = .ok s) : (Value.system s).IsSound allowed := by
  obtain ⟨m, d, g, c, hadmissible, harrays⟩ := exists_arrays_of_ofArrayValues_eq_ok h
  obtain ⟨τ, hτ, hs⟩ := (harrays _ _).1 h
  have hwellFormed := wellFormed_of_ofArrays_eq_ok hadmissible hs
  have hτ := hread τ hτ
  obtain ⟨rfl, -⟩ := hadmissible.ofArrays_eq_ok_iff.1 hs
  refine Value.isSound_system_iff.2 ⟨hwellFormed, hτ, fun e he => ?_⟩
  have hequation := hwellFormed.isAdmissible he
  -- The normals are the rows of the array, set up as columns.
  obtain ⟨i, -, rfl⟩ := List.mem_map.1 he
  exact Value.isSound_equation_iff.2 ⟨hequation, ⟨d, hadmissible.unknowns_pos, rfl⟩, hτ⟩

variable {equations : Value}

theorem isSound_of_ofEquationValues_eq_ok (hequations : equations.IsSound allowed)
    (h : ofEquationValues equations tolerance = .ok s) :
    (Value.system s).IsSound allowed := by
  obtain ⟨items, hitems, h⟩ := bind_eq_ok_iff.1 h
  obtain ⟨es, hes, hlist⟩ := bind_eq_ok_iff.1 h
  have hsound := Value.isSound_of_items_eq_ok hequations
    (mapError_eq_ok_iff.1 (mapError_eq_ok_iff.1 hitems))
  rw [Value.toEquations_eq_ok_iff.1 (mapError_eq_ok_iff.1 hes), List.forall_mem_map] at hsound
  exact isSound_of_ofEquationList_eq_ok hread hsound hlist

theorem isSound_of_ofValue_eq_ok (hequations : equations.IsSound allowed)
    (h : ofValue equations tolerance = .ok s) :
    (Value.system s).IsSound allowed := by
  cases equations with
  | system given =>
      by_cases hnone : tolerance = .none
      · subst hnone
        exact Except.ok.inj h ▸ hequations
      · rw [ofValue_system_of_ne_none given hnone] at h
        obtain ⟨τ, hτ, h⟩ := bind_eq_ok_iff.1 h
        have hmade : given.withTolerance τ = .ok s := mapError_eq_ok_iff.1 h
        refine isSound_of_ofEquations_eq_ok (fun σ hσ => ?_)
          (Value.isSound_system_iff.1 hequations).2.2 hmade
        exact Option.some.inj hσ ▸ hread τ hτ
  | equation e => cases h
  | _ => exact isSound_of_ofEquationValues_eq_ok hread hequations h

end LinearSystem

end Read

/-! ## Solutions -/

/-- The report of a solve is concluded from some state of it. -/
theorem Elimination.exists_conclude_eq_ok_of_solve {m d : Nat} {e : Elimination Float m d}
    {r : Report Float m d} (hnone : e.report = none) (h : e.solve.1 = .ok r) :
    ∃ (done : Elimination Float m d) (pivots : List (Pivot m d)), done.conclude pivots = .ok r := by
  simp only [solve, hnone] at h
  split at h
  · cases h
  · next done pivots _ =>
      cases hconclude : done.conclude pivots with
      | error fault =>
          rw [hconclude] at h
          cases h
      | ok report =>
          rw [hconclude] at h
          exact ⟨done, pivots, hconclude.trans h⟩

section Solutions

variable (hallowed : ∀ τ : Float, Tolerance.require τ = .ok τ → allowed (.float τ))

include hallowed

/-- Whatever an answer holds was made by the constructor of vectors. -/
theorem Report.isSound_of_conclude_eq_ok {m d : Nat} {e : Elimination Float m d}
    {pivots : List (Pivot m d)} {r : Report Float m d} (h : e.conclude pivots = .ok r) :
    (Value.params m d r).IsSound allowed := by
  -- Whatever the verdict, each column of the answer comes from the one constructor.
  have hvec {n : Nat} {x : Vector Float n} {τ : Float} {v : Vec Float}
      (h : Vec.ofComponents x τ = .ok v) : (Value.vec v).IsSound allowed :=
    Vec.isSound_of_isMadeUnder hallowed (Vec.isMadeUnder_of_ofComponents_eq_ok h)
  rw [Value.isSound_params_iff]
  rcases Elimination.conclude_eq_ok_cases h with ⟨-, rfl⟩ | ⟨x, -, hx, rfl⟩ | ⟨q, -, hq, rfl⟩
  · exact ⟨nofun, nofun⟩
  · exact ⟨fun v hv => Option.some.inj hv ▸ hvec hx, nofun⟩
  · refine ⟨nofun, fun p hp => ?_⟩
    obtain rfl := Option.some.inj hp
    obtain ⟨hbase, hdirections, -, -⟩ := Parametrization.columns_of_ofReduced_eq_ok hq
    exact ⟨hvec hbase, forall_mem_of_forall₂ hdirections fun _ _ => hvec⟩

theorem LinearSystem.isSound_of_solve_eq_ok {s : LinearSystem Float} {solved : Solution Float}
    (hs : (Value.system s).IsSound allowed) (h : s.solve = .ok solved) :
    (Value.solution solved).IsSound allowed := by
  obtain ⟨r, hr, h⟩ := bind_eq_ok_iff.1 h
  obtain rfl := Except.ok.inj h
  obtain ⟨done, pivots, hconclude⟩ := Elimination.exists_conclude_eq_ok_of_solve rfl hr
  exact Value.isSound_solution_iff.2 ⟨hs, Report.isSound_of_conclude_eq_ok hallowed hconclude⟩

theorem LinearSystem.isSound_of_solveValue_eq_ok {equations tolerance backend : Value}
    {solved : Solution Float} (hequations : equations.IsSound allowed)
    (hread : ∀ τ, tolerance.toTolerance = .ok τ → allowed (.float τ))
    (h : solveValue equations tolerance backend = .ok solved) :
    (Value.solution solved).IsSound allowed := by
  obtain ⟨s, hs, h⟩ := bind_eq_ok_iff.1 h
  obtain ⟨_, -, h⟩ := bind_eq_ok_iff.1 h
  exact isSound_of_solve_eq_ok hallowed (isSound_of_ofValue_eq_ok hread hequations hs)
    (mapError_eq_ok_iff.1 h)

end Solutions

namespace Value

/-- The envelope of a solution holds the objects of its report and those in its tolerance. -/
theorem isSound_ofSolutionUnder {tolerance : Value} {written : String} {s : Solution Float}
    {seconds : String → Float} (ht : tolerance.IsSound allowed)
    (hreport : (params _ _ s.report).IsSound allowed) :
    (ofSolutionUnder tolerance written s seconds).IsSound allowed := by
  have htiming : (dict (s.report.timingNames.map fun name => (name, float (seconds name)))).IsSound
      allowed := by
    rw [isSound_dict_iff, List.forall_mem_map]
    exact fun _ _ => isSound_of_objects_eq_nil rfl
  exact isSound_outcome_iff.2 ⟨hreport, isSound_ofInfo ht, htiming, isSound_of_objects_eq_nil rfl,
    isSound_texts _⟩

theorem isSound_of_ofParts_eq_ok {dimensions basePoint directions freeVariables x : Value}
    (hdimensions : dimensions.IsSound allowed) (hbasePoint : basePoint.IsSound allowed)
    (hdirections : directions.IsSound allowed) (hfreeVariables : freeVariables.IsSound allowed)
    (h : ofParts dimensions basePoint directions freeVariables = .ok x) : x.IsSound allowed := by
  obtain ⟨_, -, h⟩ := bind_eq_ok_iff.1 h
  obtain ⟨_, -, h⟩ := bind_eq_ok_iff.1 h
  dsimp only at h
  split at h
  · cases h
  · rw [← Except.ok.inj h]
    exact isSound_parametrization_iff.2 ⟨hdimensions, hbasePoint, hdirections, hfreeVariables⟩

end Value

end LinearSystems
