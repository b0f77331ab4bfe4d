import Mathlib
import LinearSystems.Proofs.Session.Objects
import LinearSystems.Value.Fields

/-!
# Parts of sound values

Whatever is taken out of a sound value is sound: its items, its elements as an array, the item under an
index, the value of a field.  A part is either an object that the value holds, or plain data; and what
comparisons answer with is plain data.
-/

namespace LinearSystems

/-! ## Entries of arrays -/

theorem mem_of_mem_partAt {α : Type} {shape : List Nat} {entries : List α} {place : Nat} {x : α}
    (h : x ∈ partAt shape entries place) : x ∈ entries :=
  List.mem_of_mem_drop (List.mem_of_mem_take h)

namespace Tensor

variable {K : Type} {t s : Tensor K} {x : K}

theorem mem_entries_of_mem_slices (hs : s ∈ t.slices) (hx : x ∈ s.entries) : x ∈ t.entries := by
  unfold slices at hs
  split at hs
  · cases hs
  · obtain ⟨i, -, rfl⟩ := List.mem_map.1 hs
    exact mem_of_mem_partAt hx

theorem mem_entries_of_mem_select {selection : Selection}
    (hx : x ∈ (t.select selection).entries) : x ∈ t.entries := by
  obtain ⟨place, -, hplace⟩ := List.mem_filterMap.1 hx
  exact List.mem_toArray.1 (Array.mem_of_getElem? hplace)

end Tensor

namespace Value

variable {allowed : Value → Prop} {v x : Value}

theorem isSound_ofTensor (t : Tensor Float) : (ofTensor t).IsSound allowed := by
  unfold ofTensor
  split
  · exact isSound_of_objects_eq_nil rfl
  · exact isSound_of_objects_eq_nil rfl

theorem isSound_ofOption {o : Option Value} (h : ∀ w, o = some w → w.IsSound allowed) :
    (ofOption o).IsSound allowed := by
  cases o with
  | none => exact isSound_of_objects_eq_nil rfl
  | some w => exact h w rfl

theorem isSound_ofNats (ns : List Nat) : (ofNats ns).IsSound allowed :=
  isSound_tuple_map (fun _ => isSound_of_objects_eq_nil rfl) ns

end Value

namespace Bulk

variable {allowed : Value → Prop} {b : Bulk}

theorem isSound_toValue (h : ∀ x ∈ b.elements.entries, x.IsSound allowed) :
    b.toValue.IsSound allowed := by
  unfold toValue
  split
  case h_1 x _ _ hentries =>
    rw [hentries] at h
    exact h x List.mem_cons_self
  case h_6 => exact Value.isSound_bulk_iff.2 h
  all_goals exact Value.isSound_of_objects_eq_nil rfl

end Bulk

namespace Value

variable {allowed : Value → Prop} {v x : Value} {items : List Value}

/-! ## Items and elements -/

/-- What iteration yields of a sound value is sound. -/
theorem isSound_of_items_eq_ok (hv : v.IsSound allowed) (h : v.items = .ok items) :
    ∀ x ∈ items, x.IsSound allowed := by
  unfold Value.items at h
  split at h
  case h_1 => exact Except.ok.inj h ▸ isSound_list_iff.1 hv
  case h_2 => exact Except.ok.inj h ▸ isSound_tuple_iff.1 hv
  case h_7 =>
    split at h
    · cases h
    · rw [← Except.ok.inj h, List.forall_mem_map]
      exact fun slice _ => isSound_ofTensor slice
  case h_8 =>
    rw [← Except.ok.inj h, List.forall_mem_map]
    intro slice hslice
    exact Bulk.isSound_toValue fun x hx =>
      isSound_bulk_iff.1 hv x (Tensor.mem_entries_of_mem_slices hslice hx)
  case h_9 => cases h
  -- Characters, bytes and keys.
  all_goals
    rw [← Except.ok.inj h, List.forall_mem_map]
    exact fun _ _ => isSound_of_objects_eq_nil rfl

mutual

/-- The elements of a sound value are sound. -/
theorem isSound_of_mem_elements {v x : Value} (hv : v.IsSound allowed) (hx : x ∈ v.elements) :
    x.IsSound allowed := by
  cases v with
  | list vs => exact isSound_of_mem_elementsOf (isSound_list_iff.1 hv) hx
  | tuple vs => exact isSound_of_mem_elementsOf (isSound_tuple_iff.1 hv) hx
  | array t =>
      obtain ⟨y, -, rfl⟩ := List.mem_map.1 hx
      exact isSound_of_objects_eq_nil rfl
  | bulk type shape vs => exact isSound_bulk_iff.1 hv x hx
  | _ => exact List.mem_singleton.1 hx ▸ hv

theorem isSound_of_mem_elementsOf {vs : List Value} {x : Value} (hvs : ∀ v ∈ vs, v.IsSound allowed)
    (hx : x ∈ elementsOf vs) : x.IsSound allowed := by
  cases vs with
  | nil => cases hx
  | cons v rest =>
      rcases List.mem_append.1 hx with hx | hx
      · exact isSound_of_mem_elements (hvs v List.mem_cons_self) hx
      · exact isSound_of_mem_elementsOf (fun w hw => hvs w (List.mem_cons_of_mem v hw)) hx

end

/-- The array that a sound value is read as holds sound elements. -/
theorem isSound_of_toBulk_eq_ok {b : Bulk} (hv : v.IsSound allowed) (h : v.toBulk = .ok b) :
    ∀ x ∈ b.elements.entries, x.IsSound allowed := by
  obtain ⟨extents, -, h⟩ := bind_eq_ok_iff.1 h
  rw [← Except.ok.inj h, List.forall_mem_map]
  intro x hx
  -- An element is stored as plain data, or as it is.
  unfold ElementType.store
  split
  case h_6 | h_7 | h_8 => exact isSound_of_mem_elements hv hx
  all_goals exact isSound_of_objects_eq_nil rfl

/-! ## The item under an index -/

theorem isSound_of_itemOfArray_eq_ok {b : Bulk} {index : Value}
    (hb : ∀ x ∈ b.elements.entries, x.IsSound allowed) (h : itemOfArray b index = .ok x) :
    x.IsSound allowed := by
  obtain ⟨t, ht, h⟩ := bind_eq_ok_iff.1 h
  obtain ⟨selection, -, ht⟩ := bind_eq_ok_iff.1 ht
  rw [← Except.ok.inj h]
  refine Bulk.isSound_toValue fun y hy => hb y ?_
  rw [← Except.ok.inj ht] at hy
  exact Tensor.mem_entries_of_mem_select hy

theorem isSound_of_itemOfSequence_eq_ok {container indices : String} {index : Value}
    (hv : v.IsSound allowed) (h : v.itemOfSequence container indices index = .ok x) :
    x.IsSound allowed := by
  unfold itemOfSequence at h
  split at h
  · dsimp only at h
    split at h
    · cases h
    · obtain ⟨items, hitems, h⟩ := bind_eq_ok_iff.1 h
      split at h
      · rw [← Except.ok.inj h]
        exact isSound_of_items_eq_ok hv (mapError_eq_ok_iff.1 hitems) _ (List.get_mem _ _)
      · cases h
  · cases h
  · cases h
  · cases h

theorem isSound_of_lookUp?_eq_ok {entries : List (String × Value)} {key : Value}
    (hentries : ∀ e ∈ entries, e.2.IsSound allowed) (h : lookUp? entries key = .ok (some x)) :
    x.IsSound allowed := by
  obtain ⟨_, -, h⟩ := bind_eq_ok_iff.1 h
  obtain ⟨name, -, hname⟩ := Option.bind_eq_some_iff.1 (Except.ok.inj h)
  obtain ⟨front, behind, rfl, -⟩ := List.lookup_eq_some_iff.1 hname
  exact hentries (name, x) (List.mem_append_right front List.mem_cons_self)

/-- What stands under an index of a sound value is sound. -/
theorem isSound_of_itemAt_eq_ok {index : Value} (hv : v.IsSound allowed)
    (h : v.itemAt index = .ok x) : x.IsSound allowed := by
  have harray {w : Value} (hw : w.IsSound allowed)
      (h : (do itemOfArray (← w.toBulk) index) = .ok x) : x.IsSound allowed := by
    obtain ⟨b, hb, h⟩ := bind_eq_ok_iff.1 h
    exact isSound_of_itemOfArray_eq_ok (isSound_of_toBulk_eq_ok hw hb) h
  have helement {w : Value} (hw : w.IsSound allowed)
      (h : (do (itemOfArray (← w.toBulk) index).mapError fun _ => ArgumentFault.itemOfScalar) =
        .ok x) : x.IsSound allowed := by
    obtain ⟨b, hb, h⟩ := bind_eq_ok_iff.1 h
    exact isSound_of_itemOfArray_eq_ok (isSound_of_toBulk_eq_ok hw hb) (mapError_eq_ok_iff.1 h)
  unfold itemAt at h
  split at h
  case h_1 =>
    obtain ⟨found, hfound, h⟩ := bind_eq_ok_iff.1 h
    split at h
    · obtain rfl := Except.ok.inj h
      exact isSound_of_lookUp?_eq_ok (isSound_dict_iff.1 hv) (mapError_eq_ok_iff.1 hfound)
    · cases h
  case h_2 | h_3 => exact harray hv h
  case h_4 | h_5 | h_6 => exact helement hv h
  case h_7 => exact isSound_of_itemOfSequence_eq_ok hv h
  case h_8 => cases h

/-! ## Truth values of comparisons -/

/-- Arrays compare to truth values, in whichever type their elements are compared. -/
theorem exists_flags_of_compareBulk_eq_ok {c : Comparison} {a b flags : Bulk}
    (h : compareBulk c a b = .ok flags) : ∃ t : Tensor Bool, flags.elements = t.map bool := by
  unfold compareBulk at h
  dsimp only at h
  split at h
  · cases h
  · split at h
    · obtain ⟨_, -, h⟩ := bind_eq_ok_iff.1 h
      obtain ⟨_, -, h⟩ := bind_eq_ok_iff.1 h
      exact ⟨_, congrArg Bulk.elements (Except.ok.inj h).symm⟩
    · split at h
      · obtain ⟨t, -, h⟩ := bind_eq_ok_iff.1 h
        exact ⟨t, congrArg Bulk.elements (Except.ok.inj h).symm⟩
      · obtain ⟨_, -, h⟩ := bind_eq_ok_iff.1 h
        obtain ⟨_, -, h⟩ := bind_eq_ok_iff.1 h
        obtain ⟨t, -, h⟩ := bind_eq_ok_iff.1 h
        exact ⟨t, congrArg Bulk.elements (Except.ok.inj h).symm⟩

theorem isSound_of_compare_eq_ok {c : Comparison} {a b : Value} (h : compare c a b = .ok x) :
    x.IsSound allowed := by
  unfold compare at h
  split at h
  · obtain ⟨_, -, h⟩ := bind_eq_ok_iff.1 h
    obtain ⟨_, -, h⟩ := bind_eq_ok_iff.1 h
    obtain ⟨flags, hflags, h⟩ := bind_eq_ok_iff.1 h
    obtain ⟨t, ht⟩ := exists_flags_of_compareBulk_eq_ok hflags
    rw [← Except.ok.inj h]
    refine Bulk.isSound_toValue ?_
    rw [ht]
    exact List.forall_mem_map.2 fun _ _ => isSound_of_objects_eq_nil rfl
  · obtain ⟨holds, -, h⟩ := bind_eq_ok_iff.1 h
    exact Except.ok.inj h ▸ isSound_of_objects_eq_nil rfl

theorem isSound_of_isZero_eq_ok {value tolerance : Value} (h : isZero value tolerance = .ok x) :
    x.IsSound allowed := by
  obtain ⟨lower, -, h⟩ := bind_eq_ok_iff.1 h
  obtain ⟨above, habove, h⟩ := bind_eq_ok_iff.1 h
  obtain ⟨isAbove, -, h⟩ := bind_eq_ok_iff.1 h
  split at h
  · exact isSound_of_compare_eq_ok h
  · exact Except.ok.inj h ▸ isSound_of_compare_eq_ok habove

theorem isSound_of_isClose_eq_ok {value target tolerance : Value}
    (h : isClose value target tolerance = .ok x) : x.IsSound allowed := by
  obtain ⟨lower, -, h⟩ := bind_eq_ok_iff.1 h
  obtain ⟨above, habove, h⟩ := bind_eq_ok_iff.1 h
  obtain ⟨isAbove, -, h⟩ := bind_eq_ok_iff.1 h
  split at h
  · obtain ⟨upper, -, h⟩ := bind_eq_ok_iff.1 h
    exact isSound_of_compare_eq_ok h
  · exact Except.ok.inj h ▸ isSound_of_compare_eq_ok habove

/-! ## Fields -/

theorem isSound_of_arrayField?_eq_some {extents : List Nat} {name : String}
    (h : arrayField? extents name = some x) : x.IsSound allowed := by
  unfold arrayField? at h
  split at h
  case h_1 => exact Option.some.inj h ▸ isSound_ofNats extents
  case h_4 => cases h
  all_goals exact Option.some.inj h ▸ isSound_of_objects_eq_nil rfl

theorem isSound_of_matField?_eq_some {a : Mat Float} {name : String}
    (h : matField? a name = some x) : x.IsSound allowed := by
  unfold matField? at h
  split at h
  case h_4 => exact Option.some.inj h ▸ isSound_ofNats _
  case h_6 => cases h
  all_goals exact Option.some.inj h ▸ isSound_of_objects_eq_nil rfl

theorem isSound_of_vecField?_eq_some {w : Vec Float} {name : String}
    (h : vecField? w name = some x) : x.IsSound allowed := by
  unfold vecField? at h
  split at h
  case h_4 => exact isSound_of_matField?_eq_some h
  all_goals exact Option.some.inj h ▸ isSound_of_objects_eq_nil rfl

theorem isSound_of_equationField?_eq_some {e : LinearEquation Float} {name : String}
    (he : (equation e).IsSound allowed) (h : equationField? e name = some x) :
    x.IsSound allowed := by
  unfold equationField? at h
  split at h
  case h_1 =>
    obtain ⟨hadmissible, -, hallowed⟩ := isSound_equation_iff.1 he
    exact Option.some.inj h ▸ isSound_vec_iff.2 ⟨hadmissible.normal, hallowed⟩
  case h_5 => cases h
  all_goals exact Option.some.inj h ▸ isSound_of_objects_eq_nil rfl

theorem isSound_of_systemField?_eq_some {s : LinearSystem Float} {name : String}
    (hs : (system s).IsSound allowed) (h : systemField? s name = some x) : x.IsSound allowed := by
  unfold systemField? at h
  split at h
  case h_6 =>
    rw [← Option.some.inj h, isSound_tuple_iff, List.forall_mem_map]
    exact (isSound_system_iff.1 hs).2.2
  case h_7 => cases h
  all_goals exact Option.some.inj h ▸ isSound_of_objects_eq_nil rfl

section Reports

variable {m d : Nat} {r : Report Float m d} {name matrixName : String}

theorem isSound_of_reducedField?_eq_some (hr : (params m d r).IsSound allowed)
    (h : reducedField? matrixName r name = some x) : x.IsSound allowed := by
  obtain ⟨hsolution, hparametrization⟩ := isSound_params_iff.1 hr
  unfold reducedField? at h
  split at h
  · exact Option.some.inj h ▸ isSound_of_objects_eq_nil rfl
  · split at h
    case h_3 =>
      rw [← Option.some.inj h]
      exact isSound_tuple_map (fun _ => isSound_ofNats _) r.pivots
    case h_5 =>
      rw [← Option.some.inj h]
      refine isSound_ofOption fun w hw => ?_
      obtain ⟨v, hv, rfl⟩ := Option.map_eq_some_iff.1 hw
      exact hsolution v hv
    case h_6 =>
      rw [← Option.some.inj h]
      refine isSound_ofOption fun w hw => ?_
      obtain ⟨p, hp, rfl⟩ := Option.map_eq_some_iff.1 hw
      exact isSound_ofParametrization_iff.2 (hparametrization p hp)
    case h_7 => cases h
    all_goals exact Option.some.inj h ▸ isSound_of_objects_eq_nil rfl

theorem isSound_of_reportField?_eq_some (hr : (params m d r).IsSound allowed)
    (h : reportField? r name = some x) : x.IsSound allowed := by
  unfold reportField? at h
  split at h
  · rw [← Option.some.inj h]
    exact isSound_tuple_map (fun _ => isSound_of_objects_eq_nil rfl) r.smallPivots
  · exact isSound_of_reducedField?_eq_some hr h

end Reports

/-- The metadata of a solve is plain data beside its tolerance. -/
theorem isSound_ofInfo {info : SolveInfo Float} {tolerance : Value} (h : tolerance.IsSound allowed) :
    (ofInfo info tolerance).IsSound allowed := by
  simp only [ofInfo, isSound_dict_iff, List.forall_mem_cons, List.not_mem_nil, false_implies,
    implies_true, and_true]
  refine ⟨?_, ?_, ?_, isSound_list_map (fun _ => isSound_ofNats _) info.pivots, ?_, ?_, ?_, h⟩
  all_goals exact isSound_of_objects_eq_nil rfl

theorem isSound_texts (texts : List String) : (tuple (texts.map text)).IsSound allowed :=
  isSound_tuple_map (fun _ => isSound_of_objects_eq_nil rfl) texts

theorem isSound_of_solutionField?_eq_some {s : Solution Float} {name : String}
    (hs : (solution s).IsSound allowed) (h : solutionField? s name = some x) :
    x.IsSound allowed := by
  obtain ⟨hsystem, hreport⟩ := isSound_solution_iff.1 hs
  unfold solutionField? at h
  split at h
  case h_1 => exact Option.some.inj h ▸ hreport
  case h_2 => exact Option.some.inj h ▸ hsystem
  case h_6 => exact Option.some.inj h ▸ isSound_ofNats _
  case h_7 => exact Option.some.inj h ▸ isSound_ofInfo (isSound_of_objects_eq_nil rfl)
  case h_9 => exact Option.some.inj h ▸ isSound_texts _
  case h_11 => cases h
  case h_12 => exact isSound_of_reducedField?_eq_some hreport h
  all_goals exact Option.some.inj h ▸ isSound_of_objects_eq_nil rfl

/-! ### Objects under any tolerance -/

/-- The typed object in the place of a loose one is sound, if the default tolerance is allowed. -/
theorem isSound_tame (hdefault : allowed (float Tolerance.default)) (hv : v.IsSound allowed) :
    v.tame.IsSound allowed := by
  cases v with
  | loose x =>
      have hx := isSound_loose_iff.1 hv
      have hfloats : (x.map fun _ => (Tolerance.default : Float)).map float =
          x.map fun _ => float Tolerance.default := Object.map_map _ _ x
      rw [tame, ← ofObject_map_float, hfloats, isSound_ofObject_iff]
      exact isSound_map_const hx (mayBeCarried_float_iff.2 hdefault) hx.answer
  | _ => exact hv

theorem isSound_of_mem_parts {x p : Object Value} (hx : x.IsSound allowed)
    (hp : ∀ q ∈ p.parts, q ∈ x.parts) (hanswer : answerObjects p = []) :
    (ofObject p).IsSound allowed := by
  refine isSound_ofObject_iff.2 ⟨fun q hq => hx.wellFormed q (hp q hq), fun t ht => ?_, ?_⟩
  · obtain ⟨q, hq, hqt⟩ := Object.exists_part_of_mem_tolerances ht
    exact hx.tolerances t
      (Object.mem_tolerances_of_mem_parts (hp q hq) (Object.mem_tolerances_of_tolerance? hqt))
  · rw [hanswer]
    exact nofun

/-- The fields that show a tolerance show one of the object, and the others an object that it consists
of. -/
theorem isSound_of_looseField?_eq_some {y : Object Value} {name : String} (hy : y.IsSound allowed)
    (h : looseField? y name = some x) : x.IsSound allowed := by
  have hself {t : Value} (ht : y.tolerance? = some t) : t.IsSound allowed :=
    (hy.tolerances t (Object.mem_tolerances_of_tolerance? ht)).isSound
  unfold looseField? at h
  split at h
  case h_1 | h_2 | h_3 | h_5 => exact Option.some.inj h ▸ hself rfl
  case h_4 e =>
    refine Option.some.inj h ▸ isSound_of_mem_parts hy (fun q hq => ?_) rfl
    exact List.mem_cons_of_mem _ hq
  case h_6 s =>
    rw [← Option.some.inj h, isSound_tuple_iff, List.forall_mem_map]
    refine fun e he => isSound_of_mem_parts hy (fun q hq => ?_) rfl
    exact List.mem_cons_of_mem _ (List.mem_flatMap.2 ⟨e, he, hq⟩)
  case h_7 => exact Option.some.inj h ▸ isSound_of_mem_parts hy (fun _ hq => hq) rfl
  case h_8 =>
    exact Option.some.inj h ▸ isSound_ofInfo (hy.tolerances _ List.mem_cons_self).isSound
  case h_9 => exact Option.some.inj h ▸ isSound_texts _
  case h_10 => cases h

theorem isSound_of_field?_eq_some {name : String} (hv : v.IsSound allowed)
    (h : v.field? name = some x) : x.IsSound allowed := by
  unfold field? at h
  split at h
  case h_1 => exact isSound_of_matField?_eq_some h
  case h_2 => exact isSound_of_vecField?_eq_some h
  case h_3 => exact isSound_of_equationField?_eq_some hv h
  case h_4 => exact isSound_of_systemField?_eq_some hv h
  case h_5 => exact isSound_of_solutionField?_eq_some hv h
  case h_6 => exact isSound_of_reducedField?_eq_some hv h
  case h_7 => exact isSound_of_reportField?_eq_some hv h
  case h_8 => exact Option.some.inj h ▸ (isSound_parametrization_iff.1 hv).1
  case h_9 => exact Option.some.inj h ▸ (isSound_parametrization_iff.1 hv).2.1
  case h_10 => exact Option.some.inj h ▸ (isSound_parametrization_iff.1 hv).2.2.1
  case h_11 => exact Option.some.inj h ▸ (isSound_parametrization_iff.1 hv).2.2.2
  case h_12 =>
    obtain ⟨n, -, rfl⟩ := Option.map_eq_some_iff.1 h
    exact isSound_of_objects_eq_nil rfl
  case h_13 => exact Option.some.inj h ▸ (isSound_outcome_iff.1 hv).1
  case h_14 => exact Option.some.inj h ▸ (isSound_outcome_iff.1 hv).2.1
  case h_15 => exact Option.some.inj h ▸ (isSound_outcome_iff.1 hv).2.2.1
  case h_16 => exact Option.some.inj h ▸ (isSound_outcome_iff.1 hv).2.2.2.1
  case h_17 => exact Option.some.inj h ▸ (isSound_outcome_iff.1 hv).2.2.2.2
  case h_18 => exact Option.some.inj h ▸ (isSound_tierOf_iff.1 hv).1.isSound
  case h_19 => exact Option.some.inj h ▸ (isSound_tierOf_iff.1 hv).2.1
  case h_20 => exact Option.some.inj h ▸ (isSound_tierOf_iff.1 hv).2.2
  case h_23 =>
    obtain ⟨extents, -, h⟩ := Option.bind_eq_some_iff.1 h
    exact isSound_of_arrayField?_eq_some h
  all_goals exact Option.some.inj h ▸ isSound_of_objects_eq_nil rfl

/-- The field of a sound value is sound. -/
theorem isSound_of_field_eq_ok {name : String} (hdefault : allowed (float Tolerance.default))
    (hv : v.IsSound allowed) (h : v.field name = .ok x) : x.IsSound allowed := by
  unfold field at h
  rcases Option.or_eq_some_iff.1 (elim_eq_ok_iff.1 h) with h | ⟨-, h⟩
  · split at h
    · exact isSound_of_looseField?_eq_some (isSound_loose_iff.1 hv) h
    · cases h
  · exact isSound_of_field?_eq_some (isSound_tame hdefault hv) h

theorem isSound_of_fieldAt_eq_ok {name : Value} (hdefault : allowed (float Tolerance.default))
    (hv : v.IsSound allowed) (h : v.fieldAt name = .ok x) : x.IsSound allowed := by
  cases name with
  | text name => exact isSound_of_field_eq_ok hdefault hv h
  | _ => cases h

end Value

end LinearSystems
