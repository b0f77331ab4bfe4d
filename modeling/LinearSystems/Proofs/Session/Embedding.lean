import Mathlib
import LinearSystems.Value.Basic

/-!
# Objects among the values

A typed object is a value of its own sort, and one with a tolerance that is no float a loose one.
`Value.object?` reads both as objects whose tolerances are values, and `Value.ofObject` goes the other way
(`Value.object?_ofObject`); so what is shown for objects under any tolerance holds of both.

The tolerances of an object are exchanged by `Object.map`, which leaves its parts as they are
(`Object.parts_map`).
-/

namespace LinearSystems

variable {K T S R : Type}

/-! ## Images of tolerances -/

namespace LinearEquation

theorem mapTolerance_mapTolerance (g : S → R) (f : T → S) (e : LinearEquation K T) :
    (e.mapTolerance f).mapTolerance g = e.mapTolerance (g ∘ f) := rfl

@[simp] theorem mapTolerance_id (e : LinearEquation K T) : e.mapTolerance id = e := rfl

end LinearEquation

namespace LinearSystem

theorem mapTolerance_mapTolerance (g : S → R) (f : T → S) (s : LinearSystem K T) :
    (s.mapTolerance f).mapTolerance g = s.mapTolerance (g ∘ f) := by
  simp only [mapTolerance, List.map_map]
  rfl

@[simp] theorem mapTolerance_id (s : LinearSystem K T) : s.mapTolerance id = s := by
  have hid : LinearEquation.mapTolerance (K := K) (id : T → T) = id := rfl
  simp only [mapTolerance, hid, List.map_id, id]

end LinearSystem

namespace Object

theorem map_map (g : S → R) (f : T → S) (x : Object T) : (x.map f).map g = x.map (g ∘ f) := by
  cases x with
  | system s => exact congrArg system (s.mapTolerance_mapTolerance g f)
  | solution m d A b tolerance equations r =>
      simp only [map, List.map_map]
      rfl
  | _ => rfl

@[simp] theorem map_id (x : Object T) : x.map id = x := by
  cases x with
  | system s => exact congrArg system s.mapTolerance_id
  | solution m d A b tolerance equations r =>
      have hid : LinearEquation.mapTolerance (K := Float) (id : T → T) = id := rfl
      simp only [map, hid, List.map_id, id]
  | _ => rfl

/-- Only the tolerances in the object count. -/
theorem map_congr {f g : T → S} {x : Object T} (h : ∀ t ∈ x.tolerances, f t = g t) :
    x.map f = x.map g := by
  have hequations {es : List (LinearEquation Float T)} (hes : ∀ e ∈ es, f e.tolerance = g e.tolerance) :
      es.map (LinearEquation.mapTolerance f) = es.map (LinearEquation.mapTolerance g) :=
    List.map_congr_left fun e he => congrArg e.under (hes e he)
  cases x with
  | mat a => exact congrArg (fun t => mat (a.under t)) (h _ List.mem_cons_self)
  | vec v => exact congrArg (fun t => vec (v.under t)) (h _ List.mem_cons_self)
  | equation e => exact congrArg (fun t => equation (e.under t)) (h _ List.mem_cons_self)
  | system s =>
      obtain ⟨hself, hes⟩ := List.forall_mem_cons.1 h
      simp only [map, LinearSystem.mapTolerance, hequations (List.forall_mem_map.1 hes), hself]
  | solution m d A b tolerance equations r =>
      obtain ⟨hself, hes⟩ := List.forall_mem_cons.1 h
      simp only [map, hequations (List.forall_mem_map.1 hes), hself]

theorem tolerances_map (f : T → S) (x : Object T) : (x.map f).tolerances = x.tolerances.map f := by
  cases x with
  | system s =>
      simp only [map, tolerances, LinearSystem.mapTolerance, List.map_map, List.map_cons]
      rfl
  | solution m d A b tolerance equations r =>
      simp only [map, tolerances, List.map_map, List.map_cons]
      rfl
  | _ => rfl

/-! ## Parts -/

/-- An equation and its normal. -/
def equationParts (e : LinearEquation Float T) : List (Object T) := [equation e, vec e.normal]

def systemParts (s : LinearSystem Float T) : List (Object T) :=
  system s :: s.equations.flatMap equationParts

/-- The object and the objects that it consists of; a solution consists of its system. -/
def parts : Object T → List (Object T)
  | mat a => [mat a]
  | vec v => [vec v]
  | equation e => equationParts e
  | system s => systemParts s
  | solution m d A b tolerance equations _ => systemParts ⟨m, d, A, b, tolerance, equations⟩

/-- The tolerance of an object that has one of its own. -/
def tolerance? : Object T → Option T
  | mat a => some a.tolerance
  | vec v => some v.tolerance
  | equation e => some e.tolerance
  | system s => some s.tolerance
  | solution .. => none

theorem systemParts_mapTolerance (f : T → S) (s : LinearSystem Float T) :
    systemParts (s.mapTolerance f) = (systemParts s).map (map f) := by
  simp only [systemParts, LinearSystem.mapTolerance, List.flatMap_map, List.map_cons,
    List.map_flatMap]
  rfl

theorem parts_map (f : T → S) (x : Object T) : (x.map f).parts = x.parts.map (map f) := by
  cases x with
  | system s => exact systemParts_mapTolerance f s
  | solution m d A b tolerance equations r =>
      exact systemParts_mapTolerance f ⟨m, d, A, b, tolerance, equations⟩
  | _ => rfl

theorem tolerance?_map (f : T → S) (x : Object T) : (x.map f).tolerance? = x.tolerance?.map f := by
  cases x <;> rfl

theorem mem_tolerances_of_tolerance? {x : Object T} {t : T} (h : x.tolerance? = some t) :
    t ∈ x.tolerances := by
  cases x with
  | solution => cases h
  | _ => exact List.mem_cons.2 (Or.inl (Option.some.inj h).symm)

/-- The tolerances in a part are among those of the object. -/
theorem mem_tolerances_of_mem_parts {x p : Object T} (hp : p ∈ x.parts) {t : T}
    (ht : t ∈ p.tolerances) : t ∈ x.tolerances := by
  have hequation {e : LinearEquation Float T} (hp : p ∈ equationParts e) : t = e.tolerance := by
    rcases List.mem_cons.1 hp with rfl | hp
    · exact List.mem_singleton.1 ht
    · obtain rfl := List.mem_singleton.1 hp
      exact List.mem_singleton.1 ht
  have hsystem {s : LinearSystem Float T} (hp : p ∈ systemParts s) : t ∈ (system s).tolerances := by
    rcases List.mem_cons.1 hp with rfl | hp
    · exact ht
    · obtain ⟨e, he, hp⟩ := List.mem_flatMap.1 hp
      exact List.mem_cons_of_mem _ (List.mem_map.2 ⟨e, he, (hequation hp).symm⟩)
  cases x with
  | mat a => exact List.mem_singleton.1 hp ▸ ht
  | vec v => exact List.mem_singleton.1 hp ▸ ht
  | equation e => exact List.mem_singleton.2 (hequation hp)
  | system s => exact hsystem hp
  | solution m d A b tolerance equations r => exact hsystem hp

/-- Each tolerance is that of a part. -/
theorem exists_part_of_mem_tolerances {x : Object T} {t : T} (ht : t ∈ x.tolerances) :
    ∃ p ∈ x.parts, p.tolerance? = some t := by
  have hsystem {s : LinearSystem Float T} (ht : t ∈ (system s).tolerances) :
      ∃ p ∈ systemParts s, p.tolerance? = some t := by
    rcases List.mem_cons.1 ht with rfl | ht
    · exact ⟨system s, List.mem_cons_self, rfl⟩
    · obtain ⟨e, he, rfl⟩ := List.mem_map.1 ht
      have hmem : equation e ∈ s.equations.flatMap equationParts :=
        List.mem_flatMap.2 ⟨e, he, List.mem_cons_self⟩
      exact ⟨equation e, List.mem_cons_of_mem _ hmem, rfl⟩
  cases x with
  | mat a => exact ⟨mat a, List.mem_cons_self, congrArg some (List.mem_singleton.1 ht).symm⟩
  | vec v => exact ⟨vec v, List.mem_cons_self, congrArg some (List.mem_singleton.1 ht).symm⟩
  | equation e => exact ⟨equation e, List.mem_cons_self, congrArg some (List.mem_singleton.1 ht).symm⟩
  | system s => exact hsystem ht
  | solution m d A b tolerance equations r => exact hsystem ht

end Object

/-! ## Values that are objects -/

namespace Value

theorem object?_ofTyped (x : Object Float) : (ofTyped x).object? = some (x.map float) := by
  cases x <;> rfl

/-- A value that is an object is a typed or a loose one. -/
theorem exists_ofTyped_or_eq_loose {v : Value} {x : Object Value} (h : v.object? = some x) :
    (∃ y, v = ofTyped y ∧ x = y.map float) ∨ v = loose x := by
  cases v with
  | mat a => exact Or.inl ⟨.mat a, rfl, (Option.some.inj h).symm⟩
  | vec v => exact Or.inl ⟨.vec v, rfl, (Option.some.inj h).symm⟩
  | equation e => exact Or.inl ⟨.equation e, rfl, (Option.some.inj h).symm⟩
  | system s => exact Or.inl ⟨.system s, rfl, (Option.some.inj h).symm⟩
  | solution s =>
      exact Or.inl ⟨.solution _ _ s.system.coefficients s.system.offsets s.system.tolerance
        s.system.equations s.report, rfl, (Option.some.inj h).symm⟩
  | loose y => exact Or.inr (congrArg loose (Option.some.inj h))
  | _ => cases h

/-- Under floats an object is typed. -/
@[simp] theorem ofObject_map_float (x : Object Float) : ofObject (x.map float) = ofTyped x := by
  have hfloats : ((x.map float).tolerances.all fun t => t.float?.isSome) = true := by
    rw [Object.tolerances_map, List.all_map]
    exact List.all_eq_true.2 fun _ _ => rfl
  have hnearest : nearest ∘ float = id := rfl
  rw [ofObject, if_pos hfloats, Object.map_map, hnearest, Object.map_id]

/-- An object under floats alone is the image of a typed one. -/
theorem map_float_map_nearest {x : Object Value}
    (h : (x.tolerances.all fun t => t.float?.isSome) = true) : (x.map nearest).map float = x := by
  have hkept : ∀ t ∈ x.tolerances, (float ∘ nearest) t = id t := by
    intro t ht
    have hfloat := List.all_eq_true.1 h t ht
    cases t <;> first | rfl | cases hfloat
  rw [Object.map_map, Object.map_congr hkept, Object.map_id]

/-- **An object is read back from the value that it is.** -/
@[simp] theorem object?_ofObject (x : Object Value) : (ofObject x).object? = some x := by
  by_cases h : (x.tolerances.all fun t => t.float?.isSome) = true
  · rw [ofObject, if_pos h, object?_ofTyped, map_float_map_nearest h]
  · rw [ofObject, if_neg h]
    rfl

end Value

end LinearSystems
