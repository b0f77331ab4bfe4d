import Mathlib
import LinearSystems.Proofs.Session.Embedding
import LinearSystems.Proofs.Session.Results
import LinearSystems.Session.Basic

/-!
# The objects in a value

A value may be an object of the library, or hold some: items of a sequence, the normal of an equation,
the equations of a system, the parts of a solution.  And whatever a tier was made with may come to be the
tolerance of an object, so that an object holds the objects in its tolerance too.  `Value.objects` lists
them all, and a value is *sound* when each is well formed and carries a tolerance that is allowed
(`Value.IsSound`).  Which tolerances are allowed is left open.

The characterizations by the sort of a value are all that the proofs about calls use; none of them looks
into the recursion again.  That of objects is one for all sorts and tolerances
(`Value.isSound_iff_of_object?`).
-/

namespace LinearSystems

/-! ## Well-formed objects -/

/-- A vector is one column or one row, with a component. -/
def Value.IsThin (v : Vec Float) : Prop := ∃ n, 0 < n ∧ (v.extents = (n, 1) ∨ v.extents = (1, n))

/-- A vector is one column. -/
def Value.IsUpright (v : Vec Float) : Prop := ∃ n, 0 < n ∧ v.extents = (n, 1)

/-- What every object is, its tolerances set aside: a matrix has an entry and all its entries are numbers;
a vector is thin besides, and the normal of an equation upright; and a system has an equation, an unknown
and equations that state its rows.  Of a solution nothing is asked beyond its parts. -/
def Object.IsWellFormed {T : Type} (x : Object T) : Prop :=
  match x.map fun _ => (Tolerance.default : Float) with
  | mat a => a.IsAdmissible
  | vec v => v.IsAdmissible ∧ Value.IsThin v
  | equation e => e.IsAdmissible ∧ Value.IsUpright e.normal
  | system s => s.WellFormed
  | solution .. => True

namespace Object

variable {T S : Type}

theorem isWellFormed_map_iff (f : T → S) {x : Object T} :
    (x.map f).IsWellFormed ↔ x.IsWellFormed := by
  rw [IsWellFormed, map_map]
  rfl

/-- The tolerance of a matrix plays no part in its being admissible, and likewise below. -/
theorem isWellFormed_mat_iff {a : Mat Float} : (mat a).IsWellFormed ↔ a.IsAdmissible :=
  ⟨fun h => ⟨h.rows_pos, h.columns_pos, h.finite⟩, fun h => ⟨h.rows_pos, h.columns_pos, h.finite⟩⟩

theorem isAdmissible_under_iff (τ : Float) {v : Vec Float T} :
    (v.under τ).IsAdmissible ↔ v.bare.IsAdmissible :=
  ⟨fun h => ⟨h.pos, h.finite⟩, fun h => ⟨h.pos, h.finite⟩⟩

theorem isThin_of_pos {v : Vec Float} (h : 0 < v.dimensions) : Value.IsThin v := by
  refine ⟨v.dimensions, h, ?_⟩
  unfold Vec.extents
  cases v.orientation with
  | column => exact Or.inl rfl
  | row => exact Or.inr rfl

theorem isWellFormed_vec_iff {v : Vec Float T} : (vec v).IsWellFormed ↔ v.bare.IsAdmissible :=
  and_iff_left_of_imp fun h => isThin_of_pos h.pos

theorem isWellFormed_equation_iff {e : LinearEquation Float} :
    (equation e).IsWellFormed ↔ e.IsAdmissible ∧ Value.IsUpright e.normal := by
  refine and_congr ⟨fun h => ⟨?_, h.offset⟩, fun h => ⟨?_, h.offset⟩⟩ Iff.rfl
  · exact (isAdmissible_under_iff e.normal.tolerance).2 h.normal
  · exact (isAdmissible_under_iff (v := e.normal) e.normal.tolerance).1 h.normal

theorem isWellFormed_system_iff {s : LinearSystem Float} :
    (system s).IsWellFormed ↔ s.WellFormed := by
  have hstates {f : Float → Float} : StatesRows (s.equations.map (LinearEquation.mapTolerance f))
      s.coefficients s.offsets ↔ StatesRows s.equations s.coefficients s.offsets := by
    constructor
    · intro h
      refine ⟨(List.length_map _).symm.trans h.length, fun i => ?_⟩
      obtain ⟨e, he, hrow, hoffset⟩ := h.row i
      rw [List.getElem?_map, Option.map_eq_some_iff] at he
      obtain ⟨e, he, rfl⟩ := he
      exact ⟨e, he, hrow, hoffset⟩
    · intro h
      refine ⟨(List.length_map _).trans h.length, fun i => ?_⟩
      obtain ⟨e, he, hrow, hoffset⟩ := h.row i
      exact ⟨e.mapTolerance f, by rw [List.getElem?_map, he, Option.map_some], hrow, hoffset⟩
  exact ⟨fun h => ⟨⟨h.equations_pos, h.unknowns_pos, h.entries, h.offsets⟩, hstates.1 h.states⟩,
    fun h => ⟨⟨h.equations_pos, h.unknowns_pos, h.entries, h.offsets⟩, hstates.2 h.states⟩⟩

/-- An equation that is well formed has such a normal. -/
theorem isWellFormed_normal {e : LinearEquation Float T} (h : (equation e).IsWellFormed) :
    (vec e.normal).IsWellFormed :=
  isWellFormed_vec_iff.2 h.1.normal

end Object

namespace Value

/-- Whatever object the value is, it is well formed. -/
def IsWellFormed (v : Value) : Prop := ∀ x, v.object? = some x → x.IsWellFormed

/-- The tolerance that an object of the library carries. -/
def carried? (v : Value) : Option Value := v.object?.bind Object.tolerance?

/-- The tolerance of a value: that of an object; a general solution has that of its base point, and a tier
stands for its value. -/
def tolerance? : Value → Option Value
  | tierOf value _ _ => some value
  | parametrization _ basePoint _ _ => basePoint.tolerance?
  | v => v.carried?

/-! ## Objects in a value -/

/-- The solution or the general solution in a report. -/
def reportObjects {m d : Nat} (r : Report Float m d) : List Value :=
  (r.solution.map vec).toList ++
    r.parametrization.toList.flatMap fun p => vec p.basePoint :: p.directions.map vec

/-- What a solution holds besides its system. -/
def answerObjects {T : Type} : Object T → List Value
  | .solution _ _ _ _ _ _ r => reportObjects r
  | _ => []

mutual

/-- The objects in a value, the value itself among them if it is one. -/
def objects : Value → List Value
  | list items | tuple items | bulk _ _ items => objectsOf items
  | dict entries => objectsOfEntries entries
  | tierOf value name description =>
    tierOf value name description :: (objects value ++ objects name ++ objects description)
  | mat a => [mat a]
  | vec v => [vec v]
  | equation e => (Object.equation e).parts.map ofTyped
  | system s => (Object.system s).parts.map ofTyped
  | parametrization dimensions basePoint directions freeVariables =>
    objects dimensions ++ objects basePoint ++ objects directions ++ objects freeVariables
  | outcome payload info timing backendName warnings =>
    objects payload ++ objects info ++ objects timing ++ objects backendName ++ objects warnings
  | params _ _ r | report _ _ r => reportObjects r
  | solution s => (Object.system s.system).parts.map ofTyped ++ reportObjects s.report
  | elimination _ _ e => e.report.toList.flatMap reportObjects
  | loose x => x.parts.map ofObject ++ answerObjects x ++ toleranceObjects x
  | _ => []

def objectsOf : List Value → List Value
  | [] => []
  | v :: rest => objects v ++ objectsOf rest

def objectsOfEntries : List (String × Value) → List Value
  | [] => []
  | (_, v) :: rest => objects v ++ objectsOfEntries rest

/-- The objects in the tolerances of an object. -/
def toleranceObjects : Object Value → List Value
  | .mat ⟨_, _, _, tolerance⟩ => objects tolerance
  | .vec ⟨_, _, _, tolerance⟩ => objects tolerance
  | .equation ⟨⟨_, _, _, tolerance⟩, _, _⟩ => objects tolerance
  | .system ⟨_, _, _, _, tolerance, equations⟩ => objects tolerance ++ equationToleranceObjects equations
  | .solution _ _ _ _ tolerance equations _ => objects tolerance ++ equationToleranceObjects equations

def equationToleranceObjects : List AnyEquation → List Value
  | [] => []
  | ⟨⟨_, _, _, tolerance⟩, _, _⟩ :: rest => objects tolerance ++ equationToleranceObjects rest

end

theorem objectsOf_eq_flatMap (items : List Value) : objectsOf items = items.flatMap objects := by
  induction items with
  | nil => rfl
  | cons v rest ih => rw [objectsOf, ih, List.flatMap_cons]

theorem objectsOfEntries_eq_flatMap (entries : List (String × Value)) :
    objectsOfEntries entries = entries.flatMap fun e => e.2.objects := by
  induction entries with
  | nil => rfl
  | cons e rest ih => rw [objectsOfEntries, ih, List.flatMap_cons]

@[simp] theorem objects_list (items : List Value) : (list items).objects = items.flatMap objects :=
  objectsOf_eq_flatMap items

@[simp] theorem objects_tuple (items : List Value) : (tuple items).objects = items.flatMap objects :=
  objectsOf_eq_flatMap items

@[simp] theorem objects_bulk (type : ElementType) (shape : List Nat) (items : List Value) :
    (bulk type shape items).objects = items.flatMap objects :=
  objectsOf_eq_flatMap items

@[simp] theorem objects_dict (entries : List (String × Value)) :
    (dict entries).objects = entries.flatMap fun e => e.2.objects :=
  objectsOfEntries_eq_flatMap entries

theorem equationToleranceObjects_eq_flatMap (es : List AnyEquation) :
    equationToleranceObjects es = es.flatMap fun e => e.tolerance.objects := by
  induction es with
  | nil => rfl
  | cons e rest ih => exact congrArg (e.tolerance.objects ++ ·) ih

theorem toleranceObjects_eq_flatMap (x : Object Value) :
    toleranceObjects x = x.tolerances.flatMap objects := by
  have hequations {tolerance : Value} {es : List AnyEquation} :
      tolerance.objects ++ equationToleranceObjects es =
        (tolerance :: es.map LinearEquation.tolerance).flatMap objects := by
    rw [equationToleranceObjects_eq_flatMap, List.flatMap_cons, List.flatMap_map]
  cases x with
  | mat a => exact (List.append_nil _).symm
  | vec v => exact (List.append_nil _).symm
  | equation e => exact (List.append_nil _).symm
  | system s => exact hequations
  | solution m d A b tolerance equations r => exact hequations

theorem objects_tierOf (value name description : Value) :
    (tierOf value name description).objects =
      tierOf value name description :: (value.objects ++ name.objects ++ description.objects) := rfl

@[simp] theorem objects_vec (v : Vec Float) : (vec v).objects = [vec v] := rfl

@[simp] theorem objects_parametrization (dimensions basePoint directions freeVariables : Value) :
    (parametrization dimensions basePoint directions freeVariables).objects =
      dimensions.objects ++ basePoint.objects ++ directions.objects ++ freeVariables.objects := rfl

@[simp] theorem objects_outcome (payload info timing backendName warnings : Value) :
    (outcome payload info timing backendName warnings).objects =
      payload.objects ++ info.objects ++ timing.objects ++ backendName.objects ++
        warnings.objects := rfl

@[simp] theorem objects_params {m d : Nat} (r : Report Float m d) :
    (params m d r).objects = (r.solution.map vec).toList ++
      r.parametrization.toList.flatMap fun p => vec p.basePoint :: p.directions.map vec := rfl

theorem objects_ofTyped (x : Object Float) :
    (ofTyped x).objects = x.parts.map ofTyped ++ answerObjects x := by
  cases x <;> first | rfl | exact (List.append_nil _).symm

/-- The objects in an object: those that it consists of, those of its answer and those in its
tolerances. -/
theorem objects_of_object? {v : Value} {x : Object Value} (h : v.object? = some x) :
    v.objects = x.parts.map ofObject ++ answerObjects x ++ x.tolerances.flatMap objects := by
  rcases exists_ofTyped_or_eq_loose h with ⟨y, rfl, rfl⟩ | rfl
  -- A float holds no objects.
  · have hfloats : (y.map float).tolerances.flatMap objects = [] := by
      rw [Object.tolerances_map, List.flatMap_map]
      exact List.flatMap_eq_nil_iff.2 fun _ _ => rfl
    have hanswer : answerObjects (y.map float) = answerObjects y := by cases y <;> rfl
    have hparts : (y.map float).parts.map ofObject = y.parts.map ofTyped := by
      rw [Object.parts_map, List.map_map]
      exact List.map_congr_left fun p _ => ofObject_map_float p
    rw [objects_ofTyped, hfloats, hanswer, hparts, List.append_nil]
  · rw [← toleranceObjects_eq_flatMap]
    rfl

theorem tolerance?_of_object? {v : Value} {x : Object Value} (h : v.object? = some x) :
    v.tolerance? = x.tolerance? := by
  rcases exists_ofTyped_or_eq_loose h with ⟨y, rfl, rfl⟩ | rfl
  · cases y <;> rfl
  · rfl

theorem exists_object_of_carried? {v t : Value} (h : v.carried? = some t) :
    ∃ x, v.object? = some x ∧ x.tolerance? = some t :=
  Option.bind_eq_some_iff.1 h

theorem tolerance?_of_carried? {v t : Value} (h : v.carried? = some t) : v.tolerance? = some t := by
  obtain ⟨x, hx, ht⟩ := exists_object_of_carried? h
  rw [tolerance?_of_object? hx, ht]

@[simp] theorem tolerance?_ofObject (x : Object Value) : (ofObject x).tolerance? = x.tolerance? :=
  tolerance?_of_object? (object?_ofObject x)

theorem isWellFormed_ofObject_iff {x : Object Value} :
    (ofObject x).IsWellFormed ↔ x.IsWellFormed := by
  simp only [IsWellFormed, object?_ofObject, Option.some.injEq, forall_eq']

/-! ## Sound values -/

/-- Every object in the value is well formed, and its tolerance is allowed. -/
def IsSound (allowed : Value → Prop) (v : Value) : Prop :=
  ∀ w ∈ v.objects, w.IsWellFormed ∧ ∀ t, w.tolerance? = some t → allowed t

/-- What a sound object may carry. -/
structure MayBeCarried (allowed : Value → Prop) (tolerance : Value) : Prop where
  isAllowed : allowed tolerance
  isSound : tolerance.IsSound allowed

variable {allowed : Value → Prop}

theorem isSound_of_objects_eq_nil {v : Value} (h : v.objects = []) : v.IsSound allowed := by
  rw [IsSound, h]
  exact nofun

theorem mayBeCarried_float_iff {τ : Float} : MayBeCarried allowed (float τ) ↔ allowed (float τ) :=
  ⟨fun h => h.isAllowed, fun h => ⟨h, isSound_of_objects_eq_nil rfl⟩⟩

theorem isSound_of_isAtom {v : Value} (h : v.isAtom = true) : v.IsSound allowed := by
  refine isSound_of_objects_eq_nil ?_
  cases v <;> first | rfl | cases h

theorem isSound_list_iff {items : List Value} :
    (list items).IsSound allowed ↔ ∀ v ∈ items, v.IsSound allowed := by
  simp only [IsSound, objects_list, List.forall_mem_flatMap]

theorem isSound_tuple_iff {items : List Value} :
    (tuple items).IsSound allowed ↔ ∀ v ∈ items, v.IsSound allowed := by
  simp only [IsSound, objects_tuple, List.forall_mem_flatMap]

theorem isSound_list_map {α : Type} {f : α → Value} (hf : ∀ a, (f a).IsSound allowed)
    (as : List α) : (list (as.map f)).IsSound allowed :=
  isSound_list_iff.2 (List.forall_mem_map.2 fun a _ => hf a)

theorem isSound_tuple_map {α : Type} {f : α → Value} (hf : ∀ a, (f a).IsSound allowed)
    (as : List α) : (tuple (as.map f)).IsSound allowed :=
  isSound_tuple_iff.2 (List.forall_mem_map.2 fun a _ => hf a)

theorem isSound_bulk_iff {type : ElementType} {shape : List Nat} {items : List Value} :
    (bulk type shape items).IsSound allowed ↔ ∀ v ∈ items, v.IsSound allowed := by
  simp only [IsSound, objects_bulk, List.forall_mem_flatMap]

theorem isSound_dict_iff {entries : List (String × Value)} :
    (dict entries).IsSound allowed ↔ ∀ e ∈ entries, e.2.IsSound allowed := by
  simp only [IsSound, objects_dict, List.forall_mem_flatMap]

theorem isSound_parametrization_iff {dimensions basePoint directions freeVariables : Value} :
    (parametrization dimensions basePoint directions freeVariables).IsSound allowed ↔
      dimensions.IsSound allowed ∧ basePoint.IsSound allowed ∧ directions.IsSound allowed ∧
        freeVariables.IsSound allowed := by
  simp only [IsSound, objects_parametrization, List.forall_mem_append, and_assoc]

theorem isSound_outcome_iff {payload info timing backendName warnings : Value} :
    (outcome payload info timing backendName warnings).IsSound allowed ↔
      payload.IsSound allowed ∧ info.IsSound allowed ∧ timing.IsSound allowed ∧
        backendName.IsSound allowed ∧ warnings.IsSound allowed := by
  simp only [IsSound, objects_outcome, List.forall_mem_append, and_assoc]

theorem isSound_tierOf_iff {value name description : Value} :
    (tierOf value name description).IsSound allowed ↔
      MayBeCarried allowed value ∧ name.IsSound allowed ∧ description.IsSound allowed := by
  have hself : ((tierOf value name description).IsWellFormed ∧
      ∀ t, (tierOf value name description).tolerance? = some t → allowed t) ↔ allowed value :=
    ⟨fun h => h.2 value rfl, fun h => ⟨nofun, fun t ht => Option.some.inj ht ▸ h⟩⟩
  simp only [IsSound, objects_tierOf, List.forall_mem_cons, List.forall_mem_append, hself]
  constructor
  · rintro ⟨hallowed, ⟨hvalue, hname⟩, hdescription⟩
    exact ⟨⟨hallowed, hvalue⟩, hname, hdescription⟩
  · rintro ⟨hvalue, hname, hdescription⟩
    exact ⟨hvalue.isAllowed, ⟨hvalue.isSound, hname⟩, hdescription⟩

end Value

/-! ## Sound objects -/

/-- The parts of an object are well formed, and whatever they carry can be carried. -/
structure Object.IsSound (allowed : Value → Prop) (x : Object Value) : Prop where
  wellFormed : ∀ p ∈ x.parts, p.IsWellFormed
  tolerances : ∀ t ∈ x.tolerances, t.MayBeCarried allowed
  answer : ∀ w ∈ Value.answerObjects x, w.IsSound allowed

namespace Value

section Objects

variable {allowed : Value → Prop}

variable {x : Object Value} {v : Value}

/-- Whatever is listed of a report is a vector, which holds nothing but itself. -/
theorem objects_of_mem_reportObjects {m d : Nat} {r : Report Float m d} {w : Value}
    (h : w ∈ reportObjects r) : w.objects = [w] := by
  rcases List.mem_append.1 h with h | h
  · obtain ⟨v, -, rfl⟩ := Option.map_eq_some_iff.1 (Option.mem_toList.1 h)
    rfl
  · obtain ⟨p, -, h⟩ := List.mem_flatMap.1 h
    rcases List.mem_cons.1 h with rfl | h
    · rfl
    · obtain ⟨v, -, rfl⟩ := List.mem_map.1 h
      rfl

theorem isSound_of_mem_reportObjects {m d : Nat} {r : Report Float m d} {w : Value}
    (hr : (params m d r).IsSound allowed) (hw : w ∈ reportObjects r) : w.IsSound allowed := by
  rw [IsSound, objects_of_mem_reportObjects hw, List.forall_mem_singleton]
  exact hr w hw

theorem objects_of_mem_answerObjects {w : Value} (h : w ∈ answerObjects x) : w.objects = [w] := by
  cases x with
  | solution m d A b tolerance equations r => exact objects_of_mem_reportObjects h
  | _ => cases h

/-- **A value that is an object is sound when the object is**, typed or loose. -/
theorem isSound_iff_of_object? (h : v.object? = some x) :
    v.IsSound allowed ↔ x.IsSound allowed := by
  have hparts : (∀ p ∈ x.parts, (ofObject p).IsWellFormed ∧
      ∀ t, (ofObject p).tolerance? = some t → allowed t) ↔
      (∀ p ∈ x.parts, p.IsWellFormed) ∧ ∀ t ∈ x.tolerances, allowed t := by
    simp only [isWellFormed_ofObject_iff, tolerance?_ofObject]
    constructor
    · intro h
      refine ⟨fun p hp => (h p hp).1, fun t ht => ?_⟩
      obtain ⟨p, hp, hpt⟩ := Object.exists_part_of_mem_tolerances ht
      exact (h p hp).2 t hpt
    · rintro ⟨hwellFormed, hallowed⟩ p hp
      refine ⟨hwellFormed p hp, fun t ht => hallowed t ?_⟩
      exact Object.mem_tolerances_of_mem_parts hp (Object.mem_tolerances_of_tolerance? ht)
  have hanswer {w : Value} (hw : w ∈ answerObjects x) : w.IsSound allowed ↔
      w.IsWellFormed ∧ ∀ t, w.tolerance? = some t → allowed t := by
    rw [IsSound, objects_of_mem_answerObjects hw, List.forall_mem_singleton]
  rw [IsSound, objects_of_object? h, List.forall_mem_append, List.forall_mem_append,
    List.forall_mem_map, hparts, List.forall_mem_flatMap]
  constructor
  · rintro ⟨⟨⟨hwellFormed, hallowed⟩, hanswers⟩, htolerances⟩
    exact ⟨hwellFormed, fun t ht => ⟨hallowed t ht, htolerances t ht⟩,
      fun w hw => (hanswer hw).2 (hanswers w hw)⟩
  · rintro ⟨hwellFormed, htolerances, hanswers⟩
    exact ⟨⟨⟨hwellFormed, fun t ht => (htolerances t ht).isAllowed⟩,
      fun w hw => (hanswer hw).1 (hanswers w hw)⟩, fun t ht => (htolerances t ht).isSound⟩

theorem isSound_ofObject_iff : (ofObject x).IsSound allowed ↔ x.IsSound allowed :=
  isSound_iff_of_object? (object?_ofObject x)

theorem isSound_loose_iff : (loose x).IsSound allowed ↔ x.IsSound allowed :=
  isSound_iff_of_object? rfl

@[simp] theorem answerObjects_map {T S : Type} (f : T → S) (x : Object T) :
    answerObjects (x.map f) = answerObjects x := by
  cases x <;> rfl

/-- An object stays sound under any tolerance that can be carried. -/
theorem isSound_map_const {other : Value → Prop} {t : Value} (hx : x.IsSound other)
    (ht : MayBeCarried allowed t) (hanswer : ∀ w ∈ answerObjects x, w.IsSound allowed) :
    (x.map fun _ => t).IsSound allowed := by
  refine ⟨?_, ?_, ?_⟩
  · rw [Object.parts_map, List.forall_mem_map]
    exact fun p hp => (Object.isWellFormed_map_iff _).2 (hx.wellFormed p hp)
  · rw [Object.tolerances_map, List.forall_mem_map]
    exact fun _ _ => ht
  · rw [answerObjects_map]
    exact hanswer

/-- What a sound value carries can be carried. -/
theorem IsSound.mayBeCarried {v t : Value} (hv : v.IsSound allowed) (h : v.tolerance? = some t) :
    MayBeCarried allowed t := by
  cases v with
  | tierOf value name description => exact Option.some.inj h ▸ (isSound_tierOf_iff.1 hv).1
  | parametrization dimensions basePoint directions freeVariables =>
      exact IsSound.mayBeCarried (isSound_parametrization_iff.1 hv).2.1 h
  | mat | vec | equation | system | solution | loose =>
      obtain ⟨x, hx, ht⟩ := exists_object_of_carried? h
      exact ((isSound_iff_of_object? hx).1 hv).tolerances t (Object.mem_tolerances_of_tolerance? ht)
  | _ => cases h

end Objects

end Value

/-! ### Objects of each sort -/

namespace Object

variable {allowed : Value → Prop}

theorem isSound_mat_iff {a : AnyMat} :
    (mat a).IsSound allowed ↔ (mat a).IsWellFormed ∧ a.tolerance.MayBeCarried allowed :=
  ⟨fun h => ⟨h.wellFormed _ List.mem_cons_self, h.tolerances _ List.mem_cons_self⟩,
    fun h => ⟨List.forall_mem_singleton.2 h.1, List.forall_mem_singleton.2 h.2, nofun⟩⟩

theorem isSound_vec_iff {v : AnyVec} :
    (vec v).IsSound allowed ↔ v.bare.IsAdmissible ∧ v.tolerance.MayBeCarried allowed := by
  rw [← isWellFormed_vec_iff]
  exact ⟨fun h => ⟨h.wellFormed _ List.mem_cons_self, h.tolerances _ List.mem_cons_self⟩,
    fun h => ⟨List.forall_mem_singleton.2 h.1, List.forall_mem_singleton.2 h.2, nofun⟩⟩

theorem isSound_equation_iff {e : AnyEquation} : (equation e).IsSound allowed ↔
    (equation e).IsWellFormed ∧ e.tolerance.MayBeCarried allowed := by
  constructor
  · exact fun h => ⟨h.wellFormed _ List.mem_cons_self, h.tolerances _ List.mem_cons_self⟩
  · rintro ⟨hself, htolerance⟩
    refine ⟨?_, List.forall_mem_singleton.2 htolerance, nofun⟩
    exact List.forall_mem_cons.2 ⟨hself, List.forall_mem_singleton.2 (isWellFormed_normal hself)⟩

theorem isSound_system_iff {s : AnySystem} : (system s).IsSound allowed ↔
    (system s).IsWellFormed ∧ s.tolerance.MayBeCarried allowed ∧
      ∀ e ∈ s.equations, (equation e).IsSound allowed := by
  constructor
  · rintro ⟨hparts, htolerances, -⟩
    obtain ⟨hself, hequations⟩ := List.forall_mem_cons.1 hparts
    obtain ⟨htolerance, hothers⟩ := List.forall_mem_cons.1 htolerances
    refine ⟨hself, htolerance, fun e he => isSound_equation_iff.2 ⟨?_, ?_⟩⟩
    · exact hequations _ (List.mem_flatMap.2 ⟨e, he, List.mem_cons_self⟩)
    · exact hothers _ (List.mem_map_of_mem he)
  · rintro ⟨hself, htolerance, hequations⟩
    refine ⟨List.forall_mem_cons.2 ⟨hself, ?_⟩, List.forall_mem_cons.2 ⟨htolerance, ?_⟩, nofun⟩
    · exact List.forall_mem_flatMap.2 fun e he => (hequations e he).wellFormed
    · exact List.forall_mem_map.2 fun e he => (isSound_equation_iff.1 (hequations e he)).2

end Object

namespace Value

variable {allowed : Value → Prop}

theorem isSound_mat_iff {a : Mat Float} :
    (mat a).IsSound allowed ↔ a.IsAdmissible ∧ allowed (float a.tolerance) := by
  rw [isSound_iff_of_object? (x := .mat (a.under (float a.tolerance))) rfl, Object.isSound_mat_iff]
  exact and_congr Object.isWellFormed_mat_iff mayBeCarried_float_iff

theorem isSound_vec_iff {v : Vec Float} :
    (vec v).IsSound allowed ↔ v.IsAdmissible ∧ allowed (float v.tolerance) := by
  rw [isSound_iff_of_object? (x := .vec (v.under (float v.tolerance))) rfl, Object.isSound_vec_iff]
  exact and_congr (Object.isAdmissible_under_iff v.tolerance).symm mayBeCarried_float_iff

theorem isSound_equation_iff {e : LinearEquation Float} :
    (equation e).IsSound allowed ↔
      e.IsAdmissible ∧ IsUpright e.normal ∧ allowed (float e.tolerance) := by
  rw [isSound_iff_of_object? (x := .equation (e.mapTolerance float)) rfl,
    Object.isSound_equation_iff, ← and_assoc]
  exact and_congr Object.isWellFormed_equation_iff mayBeCarried_float_iff

theorem isSound_system_iff {s : LinearSystem Float} :
    (system s).IsSound allowed ↔
      s.WellFormed ∧ allowed (float s.tolerance) ∧ ∀ e ∈ s.equations, (equation e).IsSound allowed := by
  have hequations : (∀ e ∈ (s.mapTolerance float).equations, (Object.equation e).IsSound allowed) ↔
      ∀ e ∈ s.equations, (equation e).IsSound allowed := by
    rw [LinearSystem.mapTolerance, List.forall_mem_map]
    exact forall₂_congr fun e _ => (isSound_iff_of_object? rfl).symm
  rw [isSound_iff_of_object? (x := .system (s.mapTolerance float)) rfl, Object.isSound_system_iff,
    hequations]
  refine and_congr ?_ (and_congr mayBeCarried_float_iff Iff.rfl)
  exact (Object.isWellFormed_map_iff float).trans Object.isWellFormed_system_iff

theorem isSound_params_iff {m d : Nat} {r : Report Float m d} :
    (params m d r).IsSound allowed ↔
      (∀ v, r.solution = some v → (vec v).IsSound allowed) ∧
      ∀ p, r.parametrization = some p →
        (vec p.basePoint).IsSound allowed ∧ ∀ v ∈ p.directions, (vec v).IsSound allowed := by
  -- The columns of a report are listed as objects; each is sound as a value if it is as an object.
  have hvec {w : Vec Float} : (vec w).IsSound allowed ↔
      (vec w).IsWellFormed ∧ ∀ τ, (vec w).tolerance? = some τ → allowed τ := by
    simp only [IsSound, objects_vec, List.forall_mem_singleton]
  simp only [hvec]
  simp only [IsSound, objects_params, List.forall_mem_append, List.forall_mem_flatMap,
    List.forall_mem_cons, List.forall_mem_map, Option.mem_toList, Option.map_eq_some_iff,
    forall_exists_index, and_imp, forall_apply_eq_imp_iff₂]

theorem isSound_solution_iff {s : Solution Float} :
    (solution s).IsSound allowed ↔
      (system s.system).IsSound allowed ∧ (params _ _ s.report).IsSound allowed := by
  have hobjects : (solution s).objects = (system s.system).objects ++ (params _ _ s.report).objects :=
    rfl
  simp only [IsSound, hobjects, List.forall_mem_append]

theorem isSound_ofParametrization_iff {p : Parametrization Float} :
    (ofParametrization p).IsSound allowed ↔
      (vec p.basePoint).IsSound allowed ∧ ∀ v ∈ p.directions, (vec v).IsSound allowed := by
  have hfree : (tuple (p.freeVariables.map int)).IsSound allowed :=
    isSound_tuple_map (fun _ => isSound_of_objects_eq_nil rfl) p.freeVariables
  have hdimensions : (int p.dimensions).IsSound allowed := isSound_of_objects_eq_nil rfl
  rw [ofParametrization, isSound_parametrization_iff, isSound_tuple_iff, List.forall_mem_map,
    and_iff_right hdimensions, and_iff_left hfree]

end Value

end LinearSystems
