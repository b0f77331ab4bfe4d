import Mathlib
import LinearSystems.Proofs.Pivots.Arrays
import LinearSystems.Proofs.Session.Makers
import LinearSystems.Value.Loose

/-!
# What is derived under any tolerance

Where nothing is known of a tolerance, an object that is derived from another one carries what its
tolerance is read as (`Vec.IsDerivedUnder`).  Its components were checked by a typed operation on the same
parts, so it is well formed; and what it carries is sound if the tolerance was.

Systems and reports follow.  A report is made under the float that the tolerance is read as, and only a
tier is not read so; but under a tier there is no report, since the first comparison with it fails
(`Tableau.solveUnder_tierOf_ne_ok`).
-/

namespace LinearSystems

open Value

/-! ## Vectors -/

/-- The vector has passed its check and carries what this tolerance is read as. -/
structure Vec.IsDerivedUnder (tolerance : Value) (v : AnyVec) : Prop where
  admissible : v.bare.IsAdmissible
  resolved : tolerance.resolve = .ok v.tolerance

namespace AnyVec

variable {v w onto : AnyVec} {tolerance : Value}

theorem isDerivedUnder_of_derived_eq_ok {u : Vec Float} (hu : u.IsAdmissible)
    (h : derived tolerance u = .ok w) : Vec.IsDerivedUnder tolerance w := by
  obtain ⟨t, ht, h⟩ := bind_eq_ok_iff.1 h
  obtain rfl := Except.ok.inj h
  exact ⟨(Object.isAdmissible_under_iff (v := u) Tolerance.default).2
    ((Object.isAdmissible_under_iff u.tolerance).1 hu), ht⟩

theorem isDerivedUnder_of_scale_eq_ok {scalar : Float} (h : AnyVec.scale scalar v = .ok w) :
    Vec.IsDerivedUnder v.tolerance w := by
  obtain ⟨u, hu, h⟩ := bind_eq_ok_iff.1 h
  have hmade := Vec.isMadeUnder_of_ofComponents_eq_ok (mapError_eq_ok_iff.1 hu)
  exact isDerivedUnder_of_derived_eq_ok hmade.admissible h

theorem isDerivedUnder_of_subtract_eq_ok (h : AnyVec.subtract v w = .ok onto) :
    Vec.IsDerivedUnder v.tolerance onto := by
  obtain ⟨u, hu, h⟩ := bind_eq_ok_iff.1 h
  have hmade := Vec.isMadeUnder_of_zipWith_eq_ok (mapError_eq_ok_iff.1 hu)
  exact isDerivedUnder_of_derived_eq_ok hmade.admissible h

theorem isDerivedUnder_of_normalize_eq_ok (h : AnyVec.normalize v = .ok w) :
    Vec.IsDerivedUnder v.tolerance w := by
  obtain ⟨_, -, h⟩ := bind_eq_ok_iff.1 h
  obtain ⟨_, -, h⟩ := bind_eq_ok_iff.1 h
  exact isDerivedUnder_of_scale_eq_ok h

/-- A projection is derived twice: the direction first, and then its multiple. -/
theorem isDerivedUnder_of_projection_eq_ok (h : AnyVec.projection v onto = .ok w) :
    ∃ t, v.tolerance.resolve = .ok t ∧ Vec.IsDerivedUnder t w := by
  obtain ⟨_, -, h⟩ := bind_eq_ok_iff.1 h
  obtain ⟨unit, -, h⟩ := bind_eq_ok_iff.1 h
  obtain ⟨along, -, h⟩ := bind_eq_ok_iff.1 h
  obtain ⟨direction, hdirection, h⟩ := bind_eq_ok_iff.1 h
  obtain ⟨length, -, h⟩ := bind_eq_ok_iff.1 h
  obtain ⟨t, ht, hdirection⟩ := bind_eq_ok_iff.1 hdirection
  obtain rfl := Except.ok.inj hdirection
  exact ⟨t, ht, isDerivedUnder_of_scale_eq_ok h⟩

theorem isDerivedUnder_of_orthogonalComponent_eq_ok (h : AnyVec.orthogonalComponent v onto = .ok w) :
    Vec.IsDerivedUnder v.tolerance w := by
  obtain ⟨_, -, h⟩ := bind_eq_ok_iff.1 h
  exact isDerivedUnder_of_subtract_eq_ok h

theorem isDerivedUnder_of_parallelComponent_eq_ok (h : AnyVec.parallelComponent v onto = .ok w) :
    Vec.IsDerivedUnder v.tolerance w := by
  obtain ⟨_, -, h⟩ := bind_eq_ok_iff.1 h
  exact isDerivedUnder_of_subtract_eq_ok h

end AnyVec

theorem AnyEquation.isDerivedUnder_of_basePoint_eq_ok {e : AnyEquation} {v : AnyVec}
    (h : AnyEquation.basePoint e = .ok v) : Vec.IsDerivedUnder e.tolerance v := by
  obtain ⟨place, -, h⟩ := bind_eq_ok_iff.1 h
  cases place with
  | none => cases h
  | some i =>
      dsimp only at h
      split at h
      · obtain ⟨u, hu, h⟩ := bind_eq_ok_iff.1 h
        have hmade := Vec.isMadeUnder_of_ofComponents_eq_ok (mapError_eq_ok_iff.1 hu)
        exact AnyVec.isDerivedUnder_of_derived_eq_ok hmade.admissible h
      · cases h

/-! ## Sound results -/

section Sound

variable {allowed : Value → Prop}
  (hallowed : ∀ τ : Float, Tolerance.require τ = .ok τ → allowed (.float τ))

include hallowed

theorem Vec.IsDerivedUnder.isSound {tolerance : Value} {w : AnyVec}
    (hw : Vec.IsDerivedUnder tolerance w) (ht : tolerance.IsSound allowed) :
    (Object.vec w).IsSound allowed :=
  Object.isSound_vec_iff.2 ⟨hw.admissible, ht.resolve hallowed hw.resolved⟩

/-- What a typed operation answers with is sound under the tolerance that it inherits. -/
theorem Value.isSound_of_inherit_eq_ok {tolerance v w : Value} (ht : tolerance.IsSound allowed)
    (hv : v.IsSound allowed) (h : tolerance.inherit v = .ok w) : w.IsSound allowed := by
  unfold inherit at h
  split at h
  · next x hx =>
      obtain ⟨t, hresolved, h⟩ := bind_eq_ok_iff.1 h
      obtain rfl := Except.ok.inj h
      have hx := (isSound_iff_of_object? hx).1 hv
      exact isSound_ofObject_iff.2
        (isSound_map_const hx (ht.resolve hallowed hresolved) hx.answer)
  · exact Except.ok.inj h ▸ hv

/-! ### Equations -/

namespace AnyEquation

theorem isSound_of_ofNormal_eq_ok {normal : AnyVec} {offset : Float} {e : AnyEquation}
    (hnormal : (Object.vec normal).IsSound allowed) (h : AnyEquation.ofNormal normal offset = .ok e) :
    (Object.equation e).IsSound allowed := by
  obtain ⟨hadmissible, htolerance⟩ := Object.isSound_vec_iff.1 hnormal
  obtain ⟨typed, htyped, h⟩ := bind_eq_ok_iff.1 h
  obtain ⟨t, ht, h⟩ := bind_eq_ok_iff.1 h
  obtain rfl := Except.ok.inj h
  -- The shape of the equation is that of a typed one, whatever is allowed of tolerances.
  have hbare : (vec normal.bare).IsSound fun _ => True :=
    Value.isSound_vec_iff.2 ⟨hadmissible, trivial⟩
  have hshape := (isSound_iff_of_object? rfl).1
    (LinearEquation.isSound_of_ofNormal_eq_ok hbare (mapError_eq_ok_iff.1 htyped))
  refine isSound_map_const hshape ?_ nofun
  unfold toleranceOf at ht
  split at ht
  · exact htolerance.isSound.resolve hallowed ht
  · exact Except.ok.inj ht ▸ htolerance

end AnyEquation

/-! ### Systems -/

namespace AnySystem

variable {es : List AnyEquation} {s : AnySystem} {tolerance : Value}

omit hallowed in
theorem eq_tolerance_of_commonTolerance_eq_ok {first : AnyEquation} {rest : List AnyEquation} {t : Value}
    (h : commonTolerance first rest = .ok t) : t = first.tolerance := by
  obtain ⟨_, -, h⟩ := bind_eq_ok_iff.1 h
  obtain ⟨agree, -, h⟩ := bind_eq_ok_iff.1 h
  split at h
  · exact (Except.ok.inj h).symm
  · obtain ⟨_, -, h⟩ := bind_eq_ok_iff.1 h
    cases h

omit hallowed in
/-- A system that keeps these equations is well formed if they state the rows of a typed one that is. -/
theorem isWellFormed_of_states {typed : LinearSystem Float} {shared : Value} (htyped : typed.WellFormed)
    (hstates : StatesRows (es.map (LinearEquation.mapTolerance fun _ => (Tolerance.default : Float)))
      typed.coefficients typed.offsets) :
    (Object.system { typed.mapTolerance fun _ => shared with equations := es }).IsWellFormed :=
  ⟨⟨htyped.equations_pos, htyped.unknowns_pos, htyped.entries, htyped.offsets⟩, hstates⟩

theorem isSound_of_ofEquations_eq_ok (hes : ∀ e ∈ es, (Object.equation e).IsSound allowed)
    (ht : tolerance.IsSound allowed) (h : AnySystem.ofEquations es tolerance = .ok s) :
    (Object.system s).IsSound allowed := by
  obtain ⟨typed, htyped, h⟩ := bind_eq_ok_iff.1 h
  obtain ⟨shared, hshared, h⟩ := bind_eq_ok_iff.1 h
  obtain rfl := Except.ok.inj h
  have htyped : LinearSystem.ofEquations _ (some Tolerance.default) = .ok typed :=
    mapError_eq_ok_iff.1 htyped
  have hadmissible : ∀ e ∈ es.map (LinearEquation.mapTolerance fun _ => (Tolerance.default : Float)),
      e.IsAdmissible := by
    rw [List.forall_mem_map]
    exact fun e he => (Object.isSound_equation_iff.1 (hes e he)).1.1
  have hwellFormed := LinearSystem.wellFormed_of_ofEquations_eq_ok hadmissible htyped
  have hequations := (LinearSystem.tolerance_of_ofEquations_eq_ok htyped).1
  refine Object.isSound_system_iff.2
    ⟨isWellFormed_of_states hwellFormed (hequations ▸ hwellFormed.states), ?_, hes⟩
  · unfold toleranceOf at hshared
    split at hshared
    · rw [eq_tolerance_of_commonTolerance_eq_ok hshared]
      exact (Object.isSound_equation_iff.1 (hes _ List.mem_cons_self)).2
    · exact ht.resolve hallowed hshared

theorem isSound_of_ofArrayValues_eq_ok {A b : Value} (ht : tolerance.IsSound allowed)
    (h : AnySystem.ofArrayValues A b tolerance = .ok s) : (Object.system s).IsSound allowed := by
  obtain ⟨typed, htyped, h⟩ := bind_eq_ok_iff.1 h
  obtain ⟨shared, hshared, h⟩ := bind_eq_ok_iff.1 h
  obtain ⟨own, hown, h⟩ := bind_eq_ok_iff.1 h
  obtain rfl := Except.ok.inj h
  have hshared := ht.resolve hallowed hshared
  have hown := hshared.isSound.resolve hallowed hown
  have htyped : (Value.system _).IsSound fun _ => True :=
    LinearSystem.isSound_of_ofArrayValues_eq_ok (fun _ _ => trivial) htyped
  have htyped := Value.isSound_system_iff.1 htyped
  refine Object.isSound_system_iff.2 ⟨?_, hshared, ?_⟩
  · refine isWellFormed_of_states htyped.1 ?_
    rw [List.map_map]
    exact (Object.isWellFormed_system_iff.2 htyped.1).states
  · rw [List.forall_mem_map]
    intro e he
    have hshape := (isSound_iff_of_object? rfl).1 (htyped.2.2 e he)
    exact isSound_map_const hshape hown nofun

omit hallowed in
/-- Every item that is read as an equation is one. -/
theorem isSound_of_toEquations_eq_ok {position : Nat} {items : List Value}
    (hitems : ∀ v ∈ items, v.IsSound allowed) (h : AnySystem.toEquations position items = .ok es) :
    ∀ e ∈ es, (Object.equation e).IsSound allowed := by
  induction items generalizing position es with
  | nil => exact Except.ok.inj h ▸ nofun
  | cons v rest ih =>
      obtain ⟨hv, hrest⟩ := List.forall_mem_cons.1 hitems
      unfold AnySystem.toEquations at h
      split at h
      · next e he =>
          obtain ⟨es', hes', h⟩ := bind_eq_ok_iff.1 h
          rw [← Except.ok.inj h, List.forall_mem_cons]
          exact ⟨(isSound_iff_of_object? he).1 hv, ih hrest hes'⟩
      · cases h

theorem isSound_of_ofEquationValues_eq_ok {equations : Value} (hequations : equations.IsSound allowed)
    (ht : tolerance.IsSound allowed) (h : AnySystem.ofEquationValues equations tolerance = .ok s) :
    (Object.system s).IsSound allowed := by
  obtain ⟨items, hitems, h⟩ := bind_eq_ok_iff.1 h
  obtain ⟨es, hes, h⟩ := bind_eq_ok_iff.1 h
  have hitems := Value.isSound_of_items_eq_ok hequations
    (mapError_eq_ok_iff.1 (mapError_eq_ok_iff.1 hitems))
  exact isSound_of_ofEquations_eq_ok hallowed
    (isSound_of_toEquations_eq_ok hitems (mapError_eq_ok_iff.1 hes)) ht h

theorem isSound_of_ofValue_eq_ok {equations : Value} (hequations : equations.IsSound allowed)
    (ht : tolerance.IsSound allowed) (h : AnySystem.ofValue equations tolerance = .ok s) :
    (Object.system s).IsSound allowed := by
  unfold AnySystem.ofValue at h
  split at h
  · next given hgiven => exact Except.ok.inj h ▸ (isSound_iff_of_object? hgiven).1 hequations
  · next given hgiven _ =>
      have hgiven := (isSound_iff_of_object? hgiven).1 hequations
      exact isSound_of_ofEquations_eq_ok hallowed (Object.isSound_system_iff.1 hgiven).2.2 ht h
  · cases h
  · exact isSound_of_ofEquationValues_eq_ok hallowed hequations ht h

end AnySystem

end Sound

/-! ## Reports -/

namespace Value

variable {value name description : Value}

/-- Floats do not compare with a tier: each of them makes a pair with it. -/
theorem compare_tierOf_ne_ok {c : Comparison} {xs : List Float} (hxs : xs ≠ []) (w : Value) :
    (array ⟨[xs.length], xs⟩).compare c (tierOf value name description) ≠ .ok w := by
  intro h
  have htier : (tierOf value name description).toBulk =
      .ok ⟨.object, ⟨[], [tierOf value name description]⟩, false⟩ := rfl
  obtain ⟨x, hx, h⟩ := bind_eq_ok_iff.1 h
  obtain ⟨y, hy, h⟩ := bind_eq_ok_iff.1 h
  obtain ⟨_, hflags, -⟩ := bind_eq_ok_iff.1 h
  obtain rfl := Except.ok.inj ((toBulk_floats xs).symm.trans hx)
  obtain rfl := Except.ok.inj (htier.symm.trans hy)
  obtain ⟨pairs, hpairs, h⟩ := bind_eq_ok_iff.1 hflags
  obtain ⟨_, hmarks, -⟩ := bind_eq_ok_iff.1 h
  have hzip := Tensor.zipWith_single Prod.mk (xs.map float) (tierOf value name description)
  rw [List.length_map] at hzip
  obtain rfl := Except.ok.inj (hzip.symm.trans (mapError_eq_ok_iff.1 hpairs))
  have hall := forall₂_of_mapM_eq_ok (mapError_eq_ok_iff.1 hmarks)
  -- Already the first comparison fails.
  obtain ⟨first, rest, rfl⟩ := List.exists_cons_of_ne_nil hxs
  cases hall with
  | cons hfirst _ => cases hfirst

theorem leadingAt_tierOf_ne_ok {xs : List Float} (hxs : xs ≠ []) (found : Option Nat) :
    leadingAt xs (tierOf value name description) ≠ .ok found := by
  intro h
  obtain ⟨w, hcompare, -⟩ := bind_eq_ok_iff.1 h
  have hmagnitudes : (array ⟨[(xs.map Float.abs).length], xs.map Float.abs⟩).compare .atLeast
      (tierOf value name description) ≠ .ok w :=
    compare_tierOf_ne_ok (mt List.map_eq_nil_iff.1 hxs) w
  rw [List.length_map] at hmagnitudes
  exact hmagnitudes hcompare

end Value

namespace Tableau

variable {m d : Nat} {value name description : Value}

theorem findPivotIn_tierOf_ne_ok {t : Tableau Float m d} {row : Nat} (hrow : row < m)
    {columns : List (Fin d)} (hcolumns : columns ≠ []) (found : Option (Nat × Fin d)) :
    t.findPivotIn (tierOf value name description) row columns ≠ .ok found := by
  obtain ⟨column, columns, rfl⟩ := List.exists_cons_of_ne_nil hcolumns
  intro h
  obtain ⟨place, hplace, -⟩ := bind_eq_ok_iff.1 h
  have hentries : (t.rows.column column).toList.drop row ≠ [] := by
    rw [ne_eq, List.drop_eq_nil_iff, Vector.length_toList]
    exact Nat.not_le.2 hrow
  exact leadingAt_tierOf_ne_ok hentries place hplace

/-- **No report is made under a tier**: the first search for a pivot compares entries with it. -/
theorem solveUnder_tierOf_ne_ok {t : Tableau Float m d} (hm : 0 < m) (hd : 0 < d) (r : Report Float m d) :
    t.solveUnder (tierOf value name description) ≠ .ok r := by
  intro h
  obtain ⟨swept, hswept, -⟩ := bind_eq_ok_iff.1 h
  obtain ⟨k, rfl⟩ := Nat.exists_eq_succ_of_ne_zero hm.ne'
  have hswept := mapError_eq_ok_iff.1 hswept
  rw [Sweep.runUnder, List.finRange_succ, List.foldlM_cons] at hswept
  obtain ⟨_, hstep, -⟩ := bind_eq_ok_iff.1 hswept
  obtain ⟨found, hfound, -⟩ := bind_eq_ok_iff.1 hstep
  refine findPivotIn_tierOf_ne_ok (Nat.succ_pos k) (List.ne_nil_of_mem (a := ⟨0, hd⟩) ?_) found hfound
  exact List.mem_filter.2 ⟨List.mem_finRange ⟨0, hd⟩, decide_eq_true (Nat.zero_le 0)⟩

end Tableau

/-! ### Sound reports -/

section Sound

variable {allowed : Value → Prop}

/-- Whatever a parametrization holds was made under the float that the tolerance is read as. -/
theorem Parametrization.isSound_of_ofReducedValues_eq_ok {reduced offsets tolerance : Value}
    {p : Parametrization Float} (hread : ∀ τ, tolerance.toTolerance = .ok τ → allowed (float τ))
    (h : ofReducedValues reduced offsets tolerance = .ok p) :
    (vec p.basePoint).IsSound allowed ∧ ∀ v ∈ p.directions, (vec v).IsSound allowed := by
  obtain ⟨t, -, h⟩ := bind_eq_ok_iff.1 h
  obtain ⟨b, -, h⟩ := bind_eq_ok_iff.1 h
  dsimp only at h
  split at h
  · cases h
  · obtain ⟨⟨m, d⟩, -, h⟩ := bind_eq_ok_iff.1 h
    obtain ⟨found, -, h⟩ := bind_eq_ok_iff.1 h
    obtain ⟨point, -, h⟩ := bind_eq_ok_iff.1 h
    obtain ⟨directions, hdirections, h⟩ := bind_eq_ok_iff.1 h
    obtain ⟨basePoint, hbasePoint, h⟩ := bind_eq_ok_iff.1 h
    obtain ⟨-, rfl⟩ := ofParts_eq_ok_iff.1 (mapError_eq_ok_iff.1 h)
    exact ⟨Vec.isSound_of_ofOriented_eq_ok hread hbasePoint,
      forall_mem_of_forall₂ (forall₂_of_mapM_eq_ok hdirections) fun _ _ =>
        Vec.isSound_of_ofOriented_eq_ok hread⟩

theorem Tableau.isSound_of_solveUnder_eq_ok {m d : Nat} {t : Tableau Float m d} {tolerance : Value}
    {r : Report Float m d} (hread : ∀ τ, tolerance.toTolerance = .ok τ → allowed (float τ))
    (h : t.solveUnder tolerance = .ok r) : (params m d r).IsSound allowed := by
  obtain ⟨swept, -, h⟩ := bind_eq_ok_iff.1 h
  obtain ⟨⟨done, pivots⟩, -, h⟩ := bind_eq_ok_iff.1 h
  obtain ⟨kind, -, h⟩ := bind_eq_ok_iff.1 h
  rw [isSound_params_iff]
  cases kind with
  | unique =>
      obtain ⟨_, hsolution, h⟩ := bind_eq_ok_iff.1 h
      obtain ⟨v, hv, rfl⟩ := map_eq_ok_iff.1 hsolution
      obtain rfl := Except.ok.inj h
      exact ⟨fun w hw => Option.some.inj hw ▸ Vec.isSound_of_ofOriented_eq_ok hread hv, nofun⟩
  | infinite =>
      obtain ⟨_, hnone, h⟩ := bind_eq_ok_iff.1 h
      obtain rfl := Except.ok.inj hnone
      obtain ⟨_, hparametrization, h⟩ := bind_eq_ok_iff.1 h
      obtain ⟨p, hp, rfl⟩ := map_eq_ok_iff.1 hparametrization
      obtain rfl := Except.ok.inj h
      refine ⟨nofun, fun q hq => ?_⟩
      exact Option.some.inj hq ▸ Parametrization.isSound_of_ofReducedValues_eq_ok hread hp
  | inconsistent =>
      obtain rfl := Except.ok.inj h
      exact ⟨nofun, nofun⟩

namespace AnySystem

variable (hallowed : ∀ τ : Float, Tolerance.require τ = .ok τ → allowed (float τ)) {s : AnySystem}

include hallowed

omit hallowed in
/-- Under a float the report is a typed one. -/
theorem report_eq_or (s : AnySystem) :
    (∃ τ, AnySystem.report s = liftM (Elimination.ofSystem (s.mapTolerance fun _ => τ)).solve.1) ∨
      AnySystem.report s = (⟨s.coefficients, s.offsets⟩ : Tableau Float _ _).solveUnder s.tolerance := by
  obtain ⟨m, d, A, b, tolerance, equations⟩ := s
  cases tolerance with
  | float τ => exact Or.inl ⟨τ, rfl⟩
  | _ => exact Or.inr rfl

/-- The report on a sound system is sound. -/
theorem isSound_of_report_eq_ok {r : Report Float s.equationCount s.dimensions}
    (hs : (Object.system s).IsSound allowed) (h : AnySystem.report s = .ok r) :
    (params _ _ r).IsSound allowed := by
  have hwellFormed := (Object.isSound_system_iff.1 hs).1
  rcases report_eq_or s with ⟨τ, htyped⟩ | hunder
  · rw [htyped] at h
    obtain ⟨done, pivots, hconclude⟩ :=
      Elimination.exists_conclude_eq_ok_of_solve rfl (mapError_eq_ok_iff.1 h)
    exact Report.isSound_of_conclude_eq_ok hallowed hconclude
  · rw [hunder] at h
    have hother : ∀ value name description, s.tolerance ≠ .tierOf value name description := by
      intro value name description htier
      rw [htier] at h
      exact Tableau.solveUnder_tierOf_ne_ok hwellFormed.equations_pos hwellFormed.unknowns_pos r h
    exact Tableau.isSound_of_solveUnder_eq_ok
      (fun τ hτ => allowed_of_toTolerance_eq_ok_of_ne_tierOf hallowed hother hτ) h

theorem isSound_of_reportWithText_eq_ok
    {r : Report Float s.equationCount s.dimensions × String}
    (hs : (Object.system s).IsSound allowed) (h : AnySystem.reportWithText s = .ok r) :
    (params _ _ r.1).IsSound allowed := by
  obtain ⟨report, hreport, h⟩ := bind_eq_ok_iff.1 h
  have hsound := isSound_of_report_eq_ok hallowed hs hreport
  split at h
  · exact Except.ok.inj h ▸ hsound
  · obtain ⟨_, -, h⟩ := bind_eq_ok_iff.1 h
    exact Except.ok.inj h ▸ hsound

end AnySystem

end Sound

end LinearSystems
