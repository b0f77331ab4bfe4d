import Mathlib
import LinearSystems.Proofs.Session.Loose
import LinearSystems.Session.Calls

/-!
# What operations answer with

Every operation that stands alone answers sound arguments with a sound value
(`Call.yields_isSound_function?`), and so does every operation of a sound value.  The operations that
derive an object from the one that they belong to (`Call.derivations`) answer with one that carries what
the tolerance of that object is read as (`Call.IsAnswerOf`, `Call.yields_isAnswerOf_method?`).

`Call.Yields` says so of operations by name: it is closed under the steps of a computation, so that each
operation is looked at once, where the names are told apart.
-/

namespace LinearSystems

namespace Value

/-- A matrix or a vector that was made under a tolerance. -/
def IsMadeUnder (τ : Float) : Value → Prop
  | mat a => a.IsMadeUnder τ
  | vec v => v.IsMadeUnder τ
  | _ => False

variable {τ : Float} {v w t : Value}

theorem IsMadeUnder.carried? (h : v.IsMadeUnder τ) : v.carried? = some (float τ) := by
  cases v with
  | mat a => exact congrArg (fun τ => some (float τ)) (Mat.IsMadeUnder.tolerance h)
  | vec w => exact congrArg (fun τ => some (float τ)) (Vec.IsMadeUnder.tolerance h)
  | _ => cases h

theorem IsMadeUnder.accepted (h : v.IsMadeUnder τ) : Tolerance.require τ = .ok τ := by
  cases v with
  | mat a => exact Mat.IsMadeUnder.accepted h
  | vec w => exact Vec.IsMadeUnder.accepted h
  | _ => cases h

theorem IsMadeUnder.isSound {allowed : Value → Prop}
    (hallowed : ∀ τ : Float, Tolerance.require τ = .ok τ → allowed (float τ)) (h : v.IsMadeUnder τ) :
    v.IsSound allowed := by
  cases v with
  | mat a => exact Mat.isSound_of_isMadeUnder hallowed h
  | vec w => exact Vec.isSound_of_isMadeUnder hallowed h
  | _ => cases h

/-- What inherits a tolerance carries what that is read as. -/
theorem carried?_of_inherit_eq_ok (hv : v.carried?.isSome = true) (h : t.inherit v = .ok w) :
    ∃ t', t.resolve = .ok t' ∧ w.carried? = some t' := by
  obtain ⟨carried, hcarried⟩ := Option.isSome_iff_exists.1 hv
  obtain ⟨x, hx, hcarried⟩ := Option.bind_eq_some_iff.1 hcarried
  rw [inherit, hx] at h
  obtain ⟨t', ht', h⟩ := bind_eq_ok_iff.1 h
  obtain rfl := Except.ok.inj h
  refine ⟨t', ht', ?_⟩
  rw [carried?, object?_ofObject, Option.bind_some, Object.tolerance?_map, hcarried]
  rfl

theorem isSound_of_toSystem_eq_ok {allowed : Value → Prop} {s : LinearSystem Float}
    (hv : v.IsSound allowed) (h : v.toSystem = .ok s) : (system s).IsSound allowed := by
  cases v with
  | system given => exact Except.ok.inj h ▸ hv
  | _ => cases h

/-- A point is made under the tolerance of the base point, which has to be a vector. -/
theorem isMadeUnder_of_pointAt_eq_ok {basePoint directions : Value} {parameters : List Value}
    {p : Vec Float} (h : pointAt basePoint directions parameters = .ok p) :
    ∃ base, basePoint.toVec = .ok base ∧ p.IsMadeUnder base.tolerance := by
  obtain ⟨_, -, h⟩ := bind_eq_ok_iff.1 h
  dsimp only at h
  split at h
  · cases h
  · obtain ⟨base, hbase, h⟩ := bind_eq_ok_iff.1 h
    obtain ⟨_, -, h⟩ := bind_eq_ok_iff.1 h
    obtain ⟨_, -, h⟩ := bind_eq_ok_iff.1 h
    exact ⟨base, mapError_eq_ok_iff.1 (mapError_eq_ok_iff.1 hbase),
      Vec.isMadeUnder_of_ofComponents_eq_ok (mapError_eq_ok_iff.1 h)⟩

/-! ### Truth values -/

section TruthValues

variable {allowed : Value → Prop}

/-- Truth values that are compared place by place are plain data. -/
theorem isSound_of_agrees_eq_ok {a b x : Value} (h : agrees a b = .ok x) : x.IsSound allowed := by
  unfold agrees at h
  split at h
  · obtain ⟨_, -, h⟩ := bind_eq_ok_iff.1 h
    obtain ⟨_, -, h⟩ := bind_eq_ok_iff.1 h
    obtain ⟨same, hsame, h⟩ := bind_eq_ok_iff.1 h
    rw [← Except.ok.inj h]
    exact Bulk.isSound_toValue (List.forall_mem_map.2 fun _ _ => isSound_of_objects_eq_nil rfl)
  · obtain ⟨_, -, h⟩ := bind_eq_ok_iff.1 h
    exact Except.ok.inj h ▸ isSound_of_objects_eq_nil rfl

theorem isSound_of_isOrthogonal_eq_ok {v : AnyVec} {w : Vec Float} {x : Value}
    (h : AnyVec.isOrthogonal v w = .ok x) : x.IsSound allowed := by
  obtain ⟨_, -, h⟩ := bind_eq_ok_iff.1 h
  exact isSound_of_compare_eq_ok (mapError_eq_ok_iff.1 h)

theorem isSound_of_isEqual_eq_ok {e f : AnyEquation} {x : Value} (h : AnyEquation.isEqual e f = .ok x) :
    x.IsSound allowed := by
  obtain ⟨isZero, -, h⟩ := bind_eq_ok_iff.1 h
  obtain ⟨isOtherZero, -, h⟩ := bind_eq_ok_iff.1 h
  split at h
  · split at h
    · exact Except.ok.inj h ▸ isSound_of_objects_eq_nil rfl
    · obtain ⟨_, -, h⟩ := bind_eq_ok_iff.1 h
      obtain ⟨_, -, h⟩ := bind_eq_ok_iff.1 h
      exact isSound_of_agrees_eq_ok (mapError_eq_ok_iff.1 h)
  · obtain ⟨_, -, h⟩ := bind_eq_ok_iff.1 h
    split at h
    · exact Except.ok.inj h ▸ isSound_of_objects_eq_nil rfl
    · obtain ⟨_, -, h⟩ := bind_eq_ok_iff.1 h
      obtain ⟨_, -, h⟩ := bind_eq_ok_iff.1 h
      obtain ⟨_, -, h⟩ := bind_eq_ok_iff.1 h
      obtain ⟨_, -, h⟩ := bind_eq_ok_iff.1 h
      exact isSound_of_isOrthogonal_eq_ok h

theorem isSound_of_containsValue_eq_ok {e : AnyEquation} {point x : Value}
    (h : AnyEquation.containsValue e point = .ok x) : x.IsSound allowed := by
  obtain ⟨_, -, h⟩ := bind_eq_ok_iff.1 h
  dsimp only at h
  split at h
  · exact isSound_of_isZero_eq_ok (mapError_eq_ok_iff.1 h)
  · cases h

end TruthValues

end Value

namespace Arguments

/-- Every argument is sound. -/
structure IsSound (allowed : Value → Prop) (a : Arguments) : Prop where
  positional : ∀ v ∈ a.positional, v.IsSound allowed
  named : ∀ e ∈ a.named, e.2.IsSound allowed

variable {allowed : Value → Prop} {a : Arguments} {default : Value}

theorem IsSound.keyword (h : a.IsSound allowed) (name : String) (hdefault : default.IsSound allowed) :
    (a.keyword name default).IsSound allowed := by
  unfold Arguments.keyword
  cases hname : a.named.lookup name with
  | none => exact hdefault
  | some v =>
      obtain ⟨front, behind, hnamed, -⟩ := List.lookup_eq_some_iff.1 hname
      exact h.named (name, v) (hnamed ▸ List.mem_append_right front List.mem_cons_self)

theorem IsSound.get (h : a.IsSound allowed) (i : Nat) (name : String)
    (hdefault : default.IsSound allowed) : (a.get i name default).IsSound allowed := by
  unfold Arguments.get
  cases hplace : a.positional[i]? with
  | none => exact h.keyword name hdefault
  | some v => exact h.positional v (List.mem_of_getElem? hplace)

end Arguments

namespace Call

/-! ## Answers in steps -/

/-- Whatever is answered has the property.  There may be no such operation, and it may be refused. -/
def Yields (P : Value → Prop) (answer? : Option (Except Refusal Value)) : Prop :=
  ∀ v, answer? = some (.ok v) → P v

section Steps

variable {α : Type} {P : Value → Prop} {answer? other? : Option (Except Refusal Value)}
  {x : Except Refusal α} {f : α → Except Refusal Value} {v : Value}

theorem yields_none : Yields P none := nofun

theorem yields_some {result : Except Refusal Value} (h : ∀ v, result = .ok v → P v) :
    Yields P (some result) :=
  fun v hv => h v (Option.some.inj hv)

theorem yields_pure (h : P v) : Yields P (some (pure v)) :=
  yields_some fun _ hw => Except.ok.inj hw ▸ h

theorem yields_bind (h : ∀ a, x = .ok a → Yields P (some (f a))) : Yields P (some (x >>= f)) := by
  refine yields_some fun v hv => ?_
  obtain ⟨a, ha, hv⟩ := bind_eq_ok_iff.1 hv
  exact h a ha v (congrArg some hv)

theorem Yields.orElse (h : Yields P answer?) (hother : Yields P other?) :
    Yields P (answer? <|> other?) := by
  cases answer? with
  | none => exact hother
  | some result => exact h

end Steps

/-! ## Operations that derive an object -/

/-- The operations that derive an object from the one that they belong to. -/
def derivations : List String :=
  ["scalar_multiply", "add", "subtract", "multiply", "transpose", "get_row", "get_column",
    "normalize", "projection", "orthogonal_component", "parallel_component", "cross", "base_point",
    "point"]

/-- What a derived object makes of the tolerance that it inherits: it is read once, and once more for a
projection, which derives a direction first. -/
def inherited (name : String) (tolerance : Value) : Except Refusal Value := do
  let t ← tolerance.resolve
  if name = "projection" then t.resolve else return t

/-- The answer is sound, and if the operation derives an object, that carries what the tolerance of the
object of the operation is read as. -/
structure IsAnswerOf (allowed : Value → Prop) (tolerance? : Option Value) (name : String) (v : Value) :
    Prop where
  isSound : v.IsSound allowed
  carries : name ∈ derivations → ∃ t t', tolerance? = some t ∧ v.carried? = some t' ∧
    inherited name t = .ok t'

theorem inherited_of_ne {t t' : Value} {name : String} (hname : name ≠ "projection")
    (h : t.resolve = .ok t') : inherited name t = .ok t' := by
  rw [inherited, h]
  exact if_neg hname

variable {allowed : Value → Prop} {tolerance? : Option Value} {name : String} {a : Arguments}

section Answers

variable {α : Type} {x : Except Refusal α} {f : α → Value} {v : Value}

theorem isAnswerOf_of_not_mem (hname : name ∉ derivations) (hv : v.IsSound allowed) :
    IsAnswerOf allowed tolerance? name v :=
  ⟨hv, fun h => absurd h hname⟩

/-- Plain data is an answer to whatever derives nothing. -/
theorem yields_isAnswerOf_pure (hname : name ∉ derivations) (hv : v.objects = []) :
    Yields (IsAnswerOf allowed tolerance? name) (some (pure v)) :=
  yields_pure (isAnswerOf_of_not_mem hname (Value.isSound_of_objects_eq_nil hv))

theorem yields_isAnswerOf_of_plain (hname : name ∉ derivations) (hf : ∀ a, (f a).objects = []) :
    Yields (IsAnswerOf allowed tolerance? name) (some (do return f (← x))) :=
  yields_bind fun a _ => yields_isAnswerOf_pure hname (hf a)

theorem yields_isAnswerOf_of_sound {result : Except Refusal Value} (hname : name ∉ derivations)
    (h : ∀ v, result = .ok v → v.IsSound allowed) :
    Yields (IsAnswerOf allowed tolerance? name) (some result) :=
  yields_some fun v hv => isAnswerOf_of_not_mem hname (h v hv)

end Answers

/-! ### Typed objects -/

section Typed

variable (hallowed : ∀ τ : Float, Tolerance.require τ = .ok τ → allowed (.float τ))

include hallowed

theorem isAnswerOf_of_isMadeUnder {τ : Float} {v : Value} (h : v.IsMadeUnder τ) :
    IsAnswerOf allowed (some (.float τ)) name v := by
  refine ⟨h.isSound hallowed, fun _ => ⟨_, _, rfl, h.carried?, ?_⟩⟩
  -- An accepted float is read as itself, however often.
  have hread := Value.resolve_float_eq_ok_iff.2 ⟨h.accepted, rfl⟩
  rw [inherited, hread]
  exact (ite_congr rfl (fun _ => hread) fun _ => rfl).trans (ite_self _)

theorem yields_isAnswerOf_of_made {α : Type} {x : Except Refusal α} {f : α → Value} {τ : Float}
    (h : ∀ a, x = .ok a → (f a).IsMadeUnder τ) :
    Yields (IsAnswerOf allowed (some (.float τ)) name) (some (do return f (← x))) :=
  yields_bind fun a ha => yields_pure (isAnswerOf_of_isMadeUnder hallowed (h a ha))

theorem yields_isAnswerOf_ofMat? (x : Mat Float) :
    Yields (IsAnswerOf allowed (some (.float x.tolerance)) name) (ofMat? x name a) := by
  unfold ofMat?
  dsimp only
  split
  · refine yields_isAnswerOf_of_made hallowed fun c hc => ?_
    obtain ⟨_, -, hc⟩ := bind_eq_ok_iff.1 hc
    exact Mat.isMadeUnder_of_ofGrid_eq_ok (mapError_eq_ok_iff.1 hc)
  · refine yields_bind fun b _ => yields_isAnswerOf_of_made hallowed fun c hc => ?_
    exact Mat.isMadeUnder_of_zipWith_eq_ok (mapError_eq_ok_iff.1 hc)
  · refine yields_bind fun b _ => yields_isAnswerOf_of_made hallowed fun c hc => ?_
    exact Mat.isMadeUnder_of_zipWith_eq_ok (mapError_eq_ok_iff.1 hc)
  · refine yields_bind fun b _ => yields_isAnswerOf_of_made hallowed fun c hc => ?_
    exact Mat.isMadeUnder_of_multiply_eq_ok (mapError_eq_ok_iff.1 hc)
  · refine yields_isAnswerOf_of_made hallowed fun c hc => ?_
    exact Mat.isMadeUnder_of_ofGrid_eq_ok (mapError_eq_ok_iff.1 hc)
  · refine yields_isAnswerOf_of_made hallowed fun v hv => ?_
    obtain ⟨_, -, hv⟩ := bind_eq_ok_iff.1 hv
    exact Mat.isMadeUnder_of_getRow_eq_ok (mapError_eq_ok_iff.1 hv)
  · refine yields_isAnswerOf_of_made hallowed fun v hv => ?_
    obtain ⟨_, -, hv⟩ := bind_eq_ok_iff.1 hv
    exact Mat.isMadeUnder_of_getColumn_eq_ok (mapError_eq_ok_iff.1 hv)
  · exact yields_isAnswerOf_pure (by decide) rfl
  · exact yields_isAnswerOf_of_plain (by decide) fun _ => rfl
  · exact yields_isAnswerOf_of_plain (by decide) fun _ => rfl
  · refine yields_isAnswerOf_of_sound (by decide) fun v hv => ?_
    obtain ⟨i, -, hv⟩ := bind_eq_ok_iff.1 hv
    obtain ⟨j, -, hv⟩ := bind_eq_ok_iff.1 hv
    exact Value.isSound_of_isClose_eq_ok (mapError_eq_ok_iff.1 hv)
  · exact yields_isAnswerOf_of_plain (by decide) fun _ => rfl
  · exact yields_isAnswerOf_pure (by decide) rfl
  · exact yields_none

theorem yields_isAnswerOf_ofVec? (x : Vec Float) :
    Yields (IsAnswerOf allowed (some (.float x.tolerance)) name) (ofVec? x name a) := by
  unfold ofVec?
  dsimp only
  split
  · refine yields_isAnswerOf_of_made hallowed fun v hv => ?_
    obtain ⟨_, -, hv⟩ := bind_eq_ok_iff.1 hv
    exact Vec.isMadeUnder_of_ofComponents_eq_ok (mapError_eq_ok_iff.1 hv)
  · refine yields_bind fun w _ => yields_isAnswerOf_of_made hallowed fun v hv => ?_
    exact Vec.isMadeUnder_of_zipWith_eq_ok (mapError_eq_ok_iff.1 hv)
  · refine yields_bind fun w _ => yields_isAnswerOf_of_made hallowed fun v hv => ?_
    exact Vec.isMadeUnder_of_zipWith_eq_ok (mapError_eq_ok_iff.1 hv)
  · refine yields_bind fun b _ => yields_isAnswerOf_of_made hallowed fun c hc => ?_
    exact x.tolerance_toMat ▸ Mat.isMadeUnder_of_multiply_eq_ok (mapError_eq_ok_iff.1 hc)
  · refine yields_isAnswerOf_of_made hallowed fun v hv => ?_
    exact Vec.isMadeUnder_of_ofComponents_eq_ok (mapError_eq_ok_iff.1 hv)
  · refine yields_isAnswerOf_of_made hallowed fun v hv => ?_
    exact Vec.isMadeUnder_of_normalize_eq_ok (mapError_eq_ok_iff.1 hv)
  · refine yields_isAnswerOf_of_made hallowed fun v hv => ?_
    obtain ⟨_, -, hv⟩ := bind_eq_ok_iff.1 hv
    exact Vec.isMadeUnder_of_projection_eq_ok (mapError_eq_ok_iff.1 hv)
  · refine yields_isAnswerOf_of_made hallowed fun v hv => ?_
    obtain ⟨_, -, hv⟩ := bind_eq_ok_iff.1 hv
    exact Vec.isMadeUnder_of_orthogonalComponent_eq_ok (mapError_eq_ok_iff.1 hv)
  · refine yields_isAnswerOf_of_made hallowed fun v hv => ?_
    obtain ⟨_, -, hv⟩ := bind_eq_ok_iff.1 hv
    exact Vec.isMadeUnder_of_parallelComponent_eq_ok (mapError_eq_ok_iff.1 hv)
  · refine yields_bind fun w _ => yields_isAnswerOf_of_made hallowed fun v hv => ?_
    exact Vec.isMadeUnder_of_cross_eq_ok (mapError_eq_ok_iff.1 hv)
  · exact yields_isAnswerOf_pure (by decide) rfl
  · refine yields_isAnswerOf_of_sound (by decide) fun v hv => ?_
    obtain ⟨component, -, hv⟩ := bind_eq_ok_iff.1 hv
    exact Value.isSound_of_isClose_eq_ok (mapError_eq_ok_iff.1 hv)
  · exact yields_isAnswerOf_of_plain (by decide) fun _ => rfl
  · exact yields_isAnswerOf_pure (by decide) rfl
  · exact yields_isAnswerOf_of_plain (by decide) fun _ => rfl
  · exact yields_isAnswerOf_of_plain (by decide) fun _ => rfl
  · exact yields_isAnswerOf_of_plain (by decide) fun _ => rfl
  · exact yields_isAnswerOf_of_plain (by decide) fun _ => rfl
  · exact yields_isAnswerOf_pure (by decide) rfl
  · exact yields_bind fun w _ => yields_isAnswerOf_of_plain (by decide) fun _ => rfl
  · exact yields_bind fun w _ => yields_isAnswerOf_of_plain (by decide) fun _ => rfl
  · exact yields_isAnswerOf_pure (by decide) rfl
  -- An operation that is not the vector's own is that of its matrix, which has the same tolerance.
  · exact x.tolerance_toMat ▸ yields_isAnswerOf_ofMat? hallowed x.toMat

theorem yields_isAnswerOf_ofEquation? (e : LinearEquation Float) :
    Yields (IsAnswerOf allowed (some (.float e.tolerance)) name) (ofEquation? e name a) := by
  unfold ofEquation?
  split
  · refine yields_isAnswerOf_of_made hallowed fun v hv => ?_
    exact LinearEquation.isMadeUnder_of_basePoint_eq_ok (mapError_eq_ok_iff.1 hv)
  · exact yields_bind fun w _ => yields_isAnswerOf_of_plain (by decide) fun _ => rfl
  · exact yields_bind fun w _ => yields_isAnswerOf_of_plain (by decide) fun _ => rfl
  · exact yields_isAnswerOf_of_plain (by decide) fun _ => rfl
  · exact yields_isAnswerOf_of_plain (by decide) fun _ => rfl
  · exact yields_none

end Typed

theorem yields_isAnswerOf_ofSystem? (s : LinearSystem Float) :
    Yields (IsAnswerOf allowed tolerance? name) (ofSystem? s name a) := by
  unfold ofSystem?
  split
  · exact yields_isAnswerOf_of_plain (by decide) fun _ => rfl
  · exact yields_isAnswerOf_of_plain (by decide) fun _ => rfl
  · exact yields_isAnswerOf_of_plain (by decide) fun _ => rfl
  · exact yields_none

theorem yields_isAnswerOf_ofSolution? (s : Solution Float) :
    Yields (IsAnswerOf allowed tolerance? name) (ofSolution? s name a) := by
  unfold ofSolution?
  split
  · exact yields_isAnswerOf_of_plain (by decide) fun _ => rfl
  · exact yields_isAnswerOf_of_plain (by decide) fun _ => rfl
  · exact yields_none

theorem yields_isAnswerOf_ofAnySystem? (s : AnySystem) :
    Yields (IsAnswerOf allowed tolerance? name) (ofAnySystem? s name a) := by
  unfold ofAnySystem?
  split
  · next hname => exact hname ▸ yields_isAnswerOf_of_plain (by decide) fun _ => rfl
  · exact yields_isAnswerOf_ofSystem? _

theorem yields_isAnswerOf_ofAnySolution? (t : Value) (s : Solution Float) :
    Yields (IsAnswerOf allowed tolerance? name) (ofAnySolution? t s name a) := by
  unfold ofAnySolution?
  split
  · next hname => exact hname ▸ yields_isAnswerOf_of_plain (by decide) fun _ => rfl
  · exact yields_isAnswerOf_ofSolution? s

/-! ### Objects under any tolerance -/

section Loose

variable (hallowed : ∀ τ : Float, Tolerance.require τ = .ok τ → allowed (.float τ)) {t : Value}

include hallowed

/-- A vector that is derived is an answer to every operation that derives it at once. -/
theorem isAnswerOf_of_isDerivedUnder {w : AnyVec} (ht : t.IsSound allowed)
    (hname : name ≠ "projection") (hw : Vec.IsDerivedUnder t w) :
    IsAnswerOf allowed (some t) name (.ofObject (.vec w)) := by
  refine ⟨Value.isSound_ofObject_iff.2 (hw.isSound hallowed ht), fun _ => ⟨t, w.tolerance, rfl, ?_, ?_⟩⟩
  · rw [Value.carried?, Value.object?_ofObject]
    rfl
  · exact inherited_of_ne hname hw.resolved

/-- What a typed operation answers with on the same parts is the answer once it has inherited the
tolerance. -/
theorem yields_isAnswerOf_inheriting {τ : Float} {answer? : Option (Except Refusal Value)}
    (ht : t.IsSound allowed) (hname : name ≠ "projection")
    (h : Yields (IsAnswerOf allowed (some (.float τ)) name) answer?) :
    Yields (IsAnswerOf allowed (some t) name) (inheriting t answer?) := by
  cases answer? with
  | none => exact yields_none
  | some answer =>
      refine yields_bind fun v hv => yields_some fun w hw => ?_
      have hv := h v (congrArg some hv)
      refine ⟨Value.isSound_of_inherit_eq_ok hallowed ht hv.isSound hw, fun hderives => ?_⟩
      obtain ⟨_, t', -, hcarried, -⟩ := hv.carries hderives
      have hobject : v.carried?.isSome = true := Option.isSome_iff_exists.2 ⟨t', hcarried⟩
      obtain ⟨resolved, hresolved, hw⟩ := Value.carried?_of_inherit_eq_ok hobject hw
      exact ⟨t, resolved, rfl, hw, inherited_of_ne hname hresolved⟩

theorem yields_isAnswerOf_ofAnyMat? {x : AnyMat} (ht : x.tolerance.IsSound allowed) :
    Yields (IsAnswerOf allowed (some x.tolerance) name) (ofAnyMat? x name a) := by
  by_cases hname : name = "projection"
  · subst hname
    exact yields_none
  · unfold ofAnyMat?
    split
    · exact yields_isAnswerOf_of_plain (by decide) fun _ => rfl
    · exact yields_isAnswerOf_of_plain (by decide) fun _ => rfl
    · refine yields_isAnswerOf_of_sound (by decide) fun v hv => ?_
      obtain ⟨i, -, hv⟩ := bind_eq_ok_iff.1 hv
      obtain ⟨j, -, hv⟩ := bind_eq_ok_iff.1 hv
      exact Value.isSound_of_isClose_eq_ok (mapError_eq_ok_iff.1 hv)
    · exact yields_isAnswerOf_inheriting hallowed ht hname (yields_isAnswerOf_ofMat? hallowed _)

theorem yields_isAnswerOf_ofAnyVec? {x : AnyVec} (ht : x.tolerance.IsSound allowed) :
    Yields (IsAnswerOf allowed (some x.tolerance) name) (ofAnyVec? x name a) := by
  -- An area is a number, whatever vector is derived on the way.
  have harea {operation : String} (hplain : operation ∉ derivations) :
      Yields (IsAnswerOf allowed (some x.tolerance) operation)
        ((ofVec? x.bare operation a.tame).map fun area => do
          let area ← area
          let _ ← x.tolerance.resolve
          return area) := by
    intro v hv
    obtain ⟨answer, hanswer, hv⟩ := Option.map_eq_some_iff.1 hv
    obtain ⟨area, harea, hv⟩ := bind_eq_ok_iff.1 hv
    obtain ⟨_, -, hv⟩ := bind_eq_ok_iff.1 hv
    obtain rfl := Except.ok.inj hv
    have htyped := yields_isAnswerOf_ofVec? hallowed x.bare area (hanswer.trans (congrArg some harea))
    exact isAnswerOf_of_not_mem hplain htyped.isSound
  unfold ofAnyVec?
  dsimp only
  split
  · exact yields_bind fun w hw => yields_pure
      (isAnswerOf_of_isDerivedUnder hallowed ht (by decide)
        (AnyVec.isDerivedUnder_of_normalize_eq_ok hw))
  · refine yields_bind fun onto _ => yields_bind fun w hw => yields_pure ?_
    -- The tolerance is read once for the direction and once for its multiple.
    obtain ⟨t, hread, hw⟩ := AnyVec.isDerivedUnder_of_projection_eq_ok hw
    have hdirection := (ht.resolve hallowed hread).isSound
    refine ⟨Value.isSound_ofObject_iff.2 (hw.isSound hallowed hdirection), fun _ =>
      ⟨x.tolerance, w.tolerance, rfl, ?_, bind_eq_ok_iff.2 ⟨t, hread, hw.resolved⟩⟩⟩
    rw [Value.carried?, Value.object?_ofObject]
    rfl
  · exact yields_bind fun onto _ => yields_bind fun w hw => yields_pure
      (isAnswerOf_of_isDerivedUnder hallowed ht (by decide)
        (AnyVec.isDerivedUnder_of_orthogonalComponent_eq_ok hw))
  · exact yields_bind fun onto _ => yields_bind fun w hw => yields_pure
      (isAnswerOf_of_isDerivedUnder hallowed ht (by decide)
        (AnyVec.isDerivedUnder_of_parallelComponent_eq_ok hw))
  · exact yields_isAnswerOf_of_plain (by decide) fun _ => rfl
  · exact yields_isAnswerOf_of_plain (by decide) fun _ => rfl
  · refine yields_isAnswerOf_of_sound (by decide) fun v hv => ?_
    obtain ⟨component, -, hv⟩ := bind_eq_ok_iff.1 hv
    exact Value.isSound_of_isClose_eq_ok (mapError_eq_ok_iff.1 hv)
  · exact yields_isAnswerOf_of_plain (by decide) fun _ => rfl
  · exact yields_isAnswerOf_of_plain (by decide) fun _ => rfl
  · refine yields_isAnswerOf_of_sound (by decide) fun v hv => ?_
    obtain ⟨w, -, hv⟩ := bind_eq_ok_iff.1 hv
    exact Value.isSound_of_isOrthogonal_eq_ok hv
  · exact harea (by decide)
  · exact harea (by decide)
  · exact yields_isAnswerOf_inheriting hallowed ht (by assumption) (yields_isAnswerOf_ofVec? hallowed _)

theorem yields_isAnswerOf_ofAnyEquation? {e : AnyEquation} (ht : e.tolerance.IsSound allowed) :
    Yields (IsAnswerOf allowed (some e.tolerance) name) (ofAnyEquation? e name a) := by
  unfold ofAnyEquation?
  dsimp only
  split
  · exact yields_bind fun w hw => yields_pure
      (isAnswerOf_of_isDerivedUnder hallowed ht (by decide)
        (AnyEquation.isDerivedUnder_of_basePoint_eq_ok hw))
  · exact yields_bind fun f _ => yields_isAnswerOf_of_plain (by decide) fun _ => rfl
  · refine yields_isAnswerOf_of_sound (by decide) fun v hv => ?_
    obtain ⟨f, -, hv⟩ := bind_eq_ok_iff.1 hv
    exact Value.isSound_of_isEqual_eq_ok hv
  · exact yields_isAnswerOf_of_sound (by decide) fun v hv => Value.isSound_of_containsValue_eq_ok hv
  · exact yields_isAnswerOf_of_plain (by decide) fun _ => rfl
  · exact yields_none

theorem yields_isAnswerOf_ofObject? {x : Object Value} (hx : x.IsSound allowed) :
    Yields (IsAnswerOf allowed x.tolerance? name) (ofObject? x name a) := by
  cases x with
  | mat x => exact yields_isAnswerOf_ofAnyMat? hallowed (Object.isSound_mat_iff.1 hx).2.isSound
  | vec x => exact yields_isAnswerOf_ofAnyVec? hallowed (Object.isSound_vec_iff.1 hx).2.isSound
  | equation e =>
      exact yields_isAnswerOf_ofAnyEquation? hallowed (Object.isSound_equation_iff.1 hx).2.isSound
  | system s => exact yields_isAnswerOf_ofAnySystem? s
  | solution m d A b tolerance equations r => exact yields_isAnswerOf_ofAnySolution? _ _

/-- A point is a column with the tolerance of the base point, which is a vector if there is one. -/
theorem yields_isAnswerOf_ofParametrization? {basePoint : Value} (hbasePoint : basePoint.IsSound allowed)
    (directions freeVariables : Value) :
    Yields (IsAnswerOf allowed basePoint.tolerance? name)
      (ofParametrization? basePoint directions freeVariables name a) := by
  unfold ofParametrization?
  split
  · refine yields_bind fun p hp => ?_
    obtain ⟨base, hbase, hmade⟩ := Value.isMadeUnder_of_pointAt_eq_ok hp
    have htyped : Yields (IsAnswerOf allowed (some (.float base.tolerance)) "point")
        (some (pure (.vec p))) :=
      yields_pure (isAnswerOf_of_isMadeUnder hallowed hmade)
    cases basePoint with
    | vec w =>
        obtain rfl := Except.ok.inj hbase
        exact htyped
    | loose x =>
        cases x with
        | vec w =>
            have ht := (Object.isSound_vec_iff.1 (Value.isSound_loose_iff.1 hbasePoint)).2.isSound
            exact yields_isAnswerOf_inheriting hallowed ht (by decide) htyped
        | _ => cases hbase
    | _ => cases hbase
  · exact yields_isAnswerOf_of_plain (by decide) fun _ => rfl
  · exact yields_isAnswerOf_of_plain (by decide) fun _ => rfl
  · exact yields_none

/-! ### Operations of any value -/

variable {on : Value} (hon : on.IsSound allowed)

include hon

theorem yields_isAnswerOf_ofSort? :
    Yields (IsAnswerOf allowed on.tolerance? name) (ofSort? on name a) := by
  have hfloat (τ : Float) : (Value.float τ).IsSound allowed := Value.isSound_of_objects_eq_nil rfl
  unfold ofSort?
  split
  · exact yields_isAnswerOf_ofMat? hallowed _
  · next v =>
      split
      · exact yields_isAnswerOf_ofAnyVec? hallowed (x := v.under (.float v.tolerance)) (hfloat _)
      · exact yields_isAnswerOf_ofVec? hallowed _
  · next e =>
      split
      · exact yields_isAnswerOf_ofAnyEquation? hallowed (e := e.mapTolerance .float) (hfloat _)
      · exact yields_isAnswerOf_ofEquation? hallowed _
  · exact yields_isAnswerOf_ofSystem? _
  · exact yields_isAnswerOf_ofParametrization? hallowed (Value.isSound_parametrization_iff.1 hon).2.1 _ _
  · exact yields_isAnswerOf_ofSolution? _
  · split
    · next hname =>
        subst hname
        exact yields_bind fun _ _ => yields_isAnswerOf_of_plain (by decide) fun _ => rfl
    · exact yields_none
  · exact yields_isAnswerOf_ofObject? hallowed (Value.isSound_loose_iff.1 hon)
  · exact yields_none

/-- **Whatever an operation of a sound value answers with is sound**, and if it derives an object, that
carries what the tolerance of the value is read as. -/
theorem yields_isAnswerOf_method? :
    Yields (IsAnswerOf allowed on.tolerance? name) (method? on name a) := by
  have hdefault := Tolerance.allowed_default hallowed
  unfold method?
  split
  · exact yields_isAnswerOf_of_plain (by decide) fun _ => rfl
  · exact yields_isAnswerOf_of_plain (by decide) fun _ => rfl
  · refine yields_isAnswerOf_of_sound (by decide) fun v hv => ?_
    exact Value.isSound_of_fieldAt_eq_ok hdefault hon (mapError_eq_ok_iff.1 (mapError_eq_ok_iff.1 hv))
  · refine yields_isAnswerOf_of_sound (by decide) fun v hv => ?_
    exact Value.isSound_of_itemAt_eq_ok hon (mapError_eq_ok_iff.1 hv)
  · exact yields_isAnswerOf_ofSort? hallowed hon

end Loose

/-! ## Operations that stand alone -/

theorem yields_isSound_of_plain {α : Type} {x : Except Refusal α} {f : α → Value}
    (hf : ∀ a, (f a).objects = []) :
    Yields (Value.IsSound allowed) (some (do return f (← x))) :=
  yields_bind fun a _ => yields_pure (Value.isSound_of_objects_eq_nil (hf a))

section Alone

variable (hallowed : ∀ τ : Float, Tolerance.require τ = .ok τ → allowed (.float τ))

include hallowed

/-! ### Systems and solutions -/

section Systems

variable {equations tolerance v : Value}

theorem read_of_isForeignTier_eq_false (ht : tolerance.IsSound allowed)
    (hforeign : tolerance.isForeignTier = false) :
    ∀ τ, tolerance.toTolerance = .ok τ → allowed (.float τ) :=
  fun _ => Value.allowed_of_toTolerance_eq_ok hallowed ht hforeign

theorem isSound_of_systemOfEquations_eq_ok (hequations : equations.IsSound allowed)
    (ht : tolerance.IsSound allowed) (h : systemOfEquations equations tolerance = .ok v) :
    v.IsSound allowed := by
  unfold systemOfEquations at h
  split at h
  · obtain ⟨s, hs, h⟩ := bind_eq_ok_iff.1 h
    exact Except.ok.inj h ▸ Value.isSound_ofObject_iff.2
      (AnySystem.isSound_of_ofEquationValues_eq_ok hallowed hequations ht hs)
  · next hplain =>
      obtain ⟨s, hs, h⟩ := bind_eq_ok_iff.1 h
      have hforeign := (Bool.or_eq_false_iff.1 (Bool.eq_false_iff.2 hplain)).1
      exact Except.ok.inj h ▸ LinearSystem.isSound_of_ofEquationValues_eq_ok
        (read_of_isForeignTier_eq_false hallowed ht hforeign) hequations hs

theorem isSound_of_systemOfArrays_eq_ok {A b : Value} (ht : tolerance.IsSound allowed)
    (h : systemOfArrays A b tolerance = .ok v) : v.IsSound allowed := by
  unfold systemOfArrays at h
  split at h
  · obtain ⟨s, hs, h⟩ := bind_eq_ok_iff.1 h
    exact Except.ok.inj h ▸ Value.isSound_ofObject_iff.2
      (AnySystem.isSound_of_ofArrayValues_eq_ok hallowed ht hs)
  · next hforeign =>
      obtain ⟨s, hs, h⟩ := bind_eq_ok_iff.1 h
      exact Except.ok.inj h ▸ LinearSystem.isSound_of_ofArrayValues_eq_ok
        (read_of_isForeignTier_eq_false hallowed ht (Bool.eq_false_iff.2 hforeign)) hs

theorem isSound_of_solved_eq_ok {backend : Value} (hequations : equations.IsSound allowed)
    (ht : tolerance.IsSound allowed) (h : solved equations tolerance backend = .ok v) :
    v.IsSound allowed := by
  unfold solved at h
  split at h
  · obtain ⟨s, hs, h⟩ := bind_eq_ok_iff.1 h
    obtain ⟨_, -, h⟩ := bind_eq_ok_iff.1 h
    obtain ⟨⟨r, written⟩, hr, h⟩ := bind_eq_ok_iff.1 h
    have hsystem := AnySystem.isSound_of_ofValue_eq_ok hallowed hequations ht hs
    have hreport := AnySystem.isSound_of_reportWithText_eq_ok hallowed hsystem hr
    exact Except.ok.inj h ▸ Value.isSound_ofObject_iff.2
      ⟨hsystem.wellFormed, hsystem.tolerances, fun _ => Value.isSound_of_mem_reportObjects hreport⟩
  · next hplain =>
      obtain ⟨s, hs, h⟩ := bind_eq_ok_iff.1 h
      have hforeign := (Bool.or_eq_false_iff.1 (Bool.eq_false_iff.2 hplain)).1
      exact Except.ok.inj h ▸ LinearSystem.isSound_of_solveValue_eq_ok hallowed hequations
        (read_of_isForeignTier_eq_false hallowed ht hforeign) hs

theorem isSound_of_outcomeOf_eq_ok {design : Value} (hdesign : design.IsSound allowed)
    (h : outcomeOf design = .ok v) : v.IsSound allowed := by
  unfold outcomeOf at h
  split at h
  · next s =>
      obtain ⟨⟨r, written⟩, hr, h⟩ := bind_eq_ok_iff.1 h
      have hsystem := Value.isSound_loose_iff.1 hdesign
      have hreport := AnySystem.isSound_of_reportWithText_eq_ok hallowed hsystem hr
      have htolerance := (Object.isSound_system_iff.1 hsystem).2.1.isSound
      exact Except.ok.inj h ▸ Value.isSound_ofSolutionUnder htolerance hreport
  · obtain ⟨s, hs, h⟩ := bind_eq_ok_iff.1 h
    obtain ⟨x, hx, h⟩ := bind_eq_ok_iff.1 h
    have hsystem := Value.isSound_of_toSystem_eq_ok hdesign
      (mapError_eq_ok_iff.1 (mapError_eq_ok_iff.1 hs))
    have hx := LinearSystem.isSound_of_solve_eq_ok hallowed hsystem (mapError_eq_ok_iff.1 hx)
    exact Except.ok.inj h ▸ Value.isSound_ofSolutionUnder (Value.isSound_of_objects_eq_nil rfl)
      (Value.isSound_solution_iff.1 hx).2

theorem isSound_of_equationOf_eq_ok {normal offset : Value} (hnormal : normal.IsSound allowed)
    (h : equationOf normal offset = .ok v) : v.IsSound allowed := by
  unfold equationOf at h
  split at h
  · obtain ⟨k, -, h⟩ := bind_eq_ok_iff.1 h
    obtain ⟨e, he, h⟩ := bind_eq_ok_iff.1 h
    exact Except.ok.inj h ▸ Value.isSound_ofObject_iff.2
      (AnyEquation.isSound_of_ofNormal_eq_ok hallowed (Value.isSound_loose_iff.1 hnormal) he)
  · obtain ⟨e, he, h⟩ := bind_eq_ok_iff.1 h
    exact Except.ok.inj h ▸ LinearEquation.isSound_of_ofValues_eq_ok hnormal he

end Systems

/-! ### All of them -/

/-- What a constructor makes is sound once it carries what its tolerance stands for. -/
theorem yields_isSound_carry {α : Type} {x : Except Refusal α} {f : α → Object Float}
    {tolerance : Value} (ht : tolerance.IsSound allowed)
    (hanswer : ∀ made, Value.answerObjects (f made) = [])
    (hmade : ∀ made, x = .ok made → ∀ other : Value → Prop,
      (∀ τ, tolerance.toTolerance = .ok τ → other (.float τ)) →
        (Value.ofTyped (f made)).IsSound other) :
    Yields (Value.IsSound allowed) (some (do return tolerance.carry (.ofTyped (f (← x))))) :=
  yields_bind fun made hx =>
    yields_pure (Value.isSound_carry hallowed ht (hanswer made) (hmade made hx))

/-- What is made of sound arguments is sound, if a tier is made with a value that can be carried. -/
theorem yields_isSound_maker? {room : Nat} (ha : a.IsSound allowed)
    (htier : ∀ value name' description,
      maker? room name a = some (.ok (.tierOf value name' description)) → allowed value) :
    Yields (Value.IsSound allowed) (maker? room name a) := by
  have hget (i : Nat) (argument : String) : (a.get i argument).IsSound allowed :=
    ha.get i argument (Value.isSound_of_objects_eq_nil rfl)
  have hkeyword : (a.keyword "tolerance").IsSound allowed :=
    ha.keyword "tolerance" (Value.isSound_of_objects_eq_nil rfl)
  have htolerance {p : Prop} [Decidable p] :
      (if p then a.get 1 "tolerance" else a.keyword "tolerance").IsSound allowed := by
    split
    · exact hget 1 "tolerance"
    · exact hkeyword
  unfold maker? at htier ⊢
  dsimp only at htier ⊢
  split at htier
  · exact yields_isSound_carry (f := .mat) hallowed htolerance (fun _ => rfl)
      fun _ hx _ hread => Mat.isSound_of_ofValue_eq_ok hread hx
  · exact yields_isSound_carry (f := .vec) hallowed htolerance (fun _ => rfl)
      fun _ hx _ hread => Vec.isSound_of_ofValue_eq_ok hread hx
  · exact yields_isSound_carry (f := .vec) hallowed htolerance (fun _ => rfl)
      fun _ hx _ hread => Vec.isSound_of_ofValues_eq_ok hread hx
  · exact yields_isSound_carry (f := .vec) hallowed htolerance (fun _ => rfl)
      fun _ hx _ hread => Vec.isSound_of_zeros_eq_ok hread hx
  · exact yields_isSound_carry (f := .vec) hallowed htolerance (fun _ => rfl)
      fun _ hx _ hread => Vec.isSound_of_ofPointValues_eq_ok hread hx
  · exact yields_some fun v hv => isSound_of_equationOf_eq_ok hallowed (hget _ _) hv
  · exact yields_isSound_carry (f := .equation) hallowed htolerance (fun _ => rfl)
      fun _ hx _ hread => LinearEquation.isSound_of_ofCoefficients_eq_ok hread hx
  · exact yields_isSound_carry (f := .equation) hallowed htolerance (fun _ => rfl)
      fun _ hx _ hread => LinearEquation.isSound_of_ofCoefficients_eq_ok hread hx
  · exact yields_isSound_carry (f := .equation) hallowed htolerance (fun _ => rfl)
      fun _ hx _ hread => LinearEquation.isSound_of_ofCoefficients_eq_ok hread hx
  · exact yields_some fun v hv =>
      isSound_of_systemOfEquations_eq_ok hallowed (hget _ _) htolerance hv
  · exact yields_some fun v hv => isSound_of_systemOfArrays_eq_ok hallowed htolerance hv
  · exact yields_some fun v hv => isSound_of_solved_eq_ok hallowed (hget _ _) htolerance hv
  · exact yields_some fun v hv => isSound_of_outcomeOf_eq_ok hallowed (hget _ _) hv
  · exact yields_some fun v hv =>
      Value.isSound_of_ofParts_eq_ok (hget _ _) (hget _ _) (hget _ _) (hget _ _) hv
  · refine yields_pure (Value.isSound_outcome_iff.2 ⟨hget _ _, hget _ _, hget _ _, hget _ _, ?_⟩)
    exact ha.get _ _ (Value.isSound_tuple_iff.2 nofun)
  -- A tier is made without any check, so of its value nothing is known but what is assumed.
  · exact yields_pure (Value.isSound_tierOf_iff.2
      ⟨⟨htier _ _ _ rfl, hget _ _⟩, hget _ _, hget _ _⟩)
  · exact yields_none

/-- What the operations on tolerances and the requirements answer with holds no objects but the named
tiers and what a tolerance stands for. -/
theorem yields_isSound_tool? (ha : a.IsSound allowed) :
    Yields (Value.IsSound allowed) (tool? name a) := by
  unfold tool?
  dsimp only
  split
  case h_1 =>
    refine yields_some fun v hv => Value.MayBeCarried.isSound ?_
    exact (ha.get _ _ (Value.isSound_of_objects_eq_nil rfl)).resolve hallowed hv
  case h_2 => exact yields_some fun v hv => Value.isSound_of_isZero_eq_ok (mapError_eq_ok_iff.1 hv)
  case h_3 => exact yields_some fun v hv => Value.isSound_of_isClose_eq_ok (mapError_eq_ok_iff.1 hv)
  case h_4 =>
    refine yields_pure (Value.isSound_list_iff.2 (List.forall_mem_map.2 fun t ht => ?_))
    have hvalue := Value.mayBeCarried_float_iff.2 (Tier.allowed_of_mem_all hallowed ht)
    exact Value.isSound_tierOf_iff.2 ⟨hvalue, Value.isSound_of_objects_eq_nil rfl,
      Value.isSound_of_objects_eq_nil rfl⟩
  case h_5 => exact yields_pure (Value.isSound_of_objects_eq_nil rfl)
  case h_14 => exact yields_none
  all_goals exact yields_isSound_of_plain fun _ => rfl

theorem yields_isSound_function? {room : Nat} (ha : a.IsSound allowed)
    (htier : ∀ value name' description,
      function? room name a = some (.ok (.tierOf value name' description)) → allowed value) :
    Yields (Value.IsSound allowed) (function? room name a) := by
  refine (yields_isSound_maker? hallowed ha fun value name' description ht =>
    htier value name' description ?_).orElse (yields_isSound_tool? hallowed ha)
  rw [function?, ht]
  rfl

end Alone

/-- Nothing that stands alone derives an object. -/
theorem function?_eq_none_of_mem_derivations {room : Nat} (h : name ∈ derivations) :
    function? room name a = none := by
  revert name
  simp only [derivations, List.forall_mem_cons, List.not_mem_nil, false_implies, implies_true,
    and_true]
  and_intros <;> rfl

end Call

end LinearSystems
