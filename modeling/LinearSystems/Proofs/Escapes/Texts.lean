import Mathlib
import LinearSystems.Proofs.Escapes.Readings

/-!
# Values that cannot be written down

The literal form of a value may be missing: an object shows its tolerance, or leaves out what is zero
within that, and then its tolerance has to be a number that can be compared and written.  No such
failure is one of the library's (`Value.isForeign_literal`), just as no failure to compare values is
(`Value.isForeign_compare`).

Whatever is read as a float has a literal form (`Value.exists_literal_of_toFloat_eq_ok`).
-/

namespace LinearSystems

namespace Value

/-! ## Comparisons -/

theorem isForeign_compareBulk (c : Comparison) (a b : Bulk) :
    IsForeign ArgumentFault.kind (compareBulk c a b) := by
  rw [compareBulk]
  split
  · exact isForeign_error nofun
  dsimp only
  split
  -- Objects are compared one by one, and everything else in a common type.
  · exact (isForeign_zipWith _ _ _).bind fun _ => (isForeign_liftM_sort _).bind fun _ => isForeign_ok _
  · split
    · exact (isForeign_zipWith _ _ _).bind fun _ => isForeign_ok _
    · exact (isForeign_toType _ a).bind fun _ => (isForeign_toType _ b).bind fun _ =>
        (isForeign_zipWith _ _ _).bind fun _ => isForeign_ok _

theorem isForeign_compare (c : Comparison) (a b : Value) :
    IsForeign ArgumentFault.kind (a.compare c b) := by
  rw [compare]
  split
  · exact (isForeign_toBulk a).bind fun _ => (isForeign_toBulk b).bind fun _ =>
      (isForeign_compareBulk _ _ _).bind fun _ => isForeign_ok _
  · exact (isForeign_liftM_sort _).bind fun _ => isForeign_ok _

theorem isForeign_holds (c : Comparison) (a b : Value) :
    IsForeign ArgumentFault.kind (a.holds c b) :=
  (isForeign_compare c a b).bind fun _ => isForeign_liftM_sort _

theorem isForeign_isZero (value tolerance : Value) :
    IsForeign ArgumentFault.kind (value.isZero tolerance) := by
  refine (isForeign_liftM_sort _).bind fun _ => (isForeign_compare _ _ _).bind fun _ =>
    (isForeign_liftM_sort _).bind fun _ => ?_
  split
  · exact isForeign_compare _ _ _
  · exact isForeign_ok _

theorem isForeign_shortText (v : Value) : IsForeign ArgumentFault.kind v.shortText := by
  unfold shortText numberText
  split
  · exact isForeign_error nofun
  · exact isForeign_error nofun
  · exact isForeign_ok _
  · exact isForeign_ok _
  · exact isForeign_ok _
  · exact (Number.isForeign_toFloat _).map _
  · exact isForeign_error nofun

end Value

/-! ## Literal forms -/

theorem AnyEquation.isForeign_addTerm {tolerance : Value} {label : Except ArgumentFault String}
    {digits : Except ArgumentFault Nat} (hlabel : IsForeign ArgumentFault.kind label)
    (hdigits : IsForeign ArgumentFault.kind digits) (terms : String) (coefficient : Float × Nat) :
    IsForeign ArgumentFault.kind (addTerm tolerance label digits terms coefficient) := by
  refine (Value.isForeign_isZero _ _).bind fun _ => (isForeign_liftM_sort _).bind fun _ => ?_
  split
  · exact isForeign_ok _
  · refine hlabel.bind fun _ => (Value.isForeign_holds _ _ _).bind fun _ => ?_
    split
    · exact isForeign_ok _
    · exact hdigits.bind fun _ => isForeign_ok _

theorem AnyEquation.isForeign_format {label : Except ArgumentFault String}
    {digits : Except ArgumentFault Nat} (hlabel : IsForeign ArgumentFault.kind label)
    (hdigits : IsForeign ArgumentFault.kind digits) (e : AnyEquation) :
    IsForeign ArgumentFault.kind (e.format label digits) :=
  (isForeign_foldlM (isForeign_addTerm hlabel hdigits) _ _).bind fun _ =>
    hdigits.bind fun _ => isForeign_ok _

namespace Value

theorem isForeign_objectText (x : Object Value) : IsForeign ArgumentFault.kind (objectText x) := by
  cases x with
  | mat a => exact (isForeign_shortText a.tolerance).map _
  | vec v => exact isForeign_ok _
  | equation e =>
      exact (AnyEquation.isForeign_format (isForeign_ok "v") (isForeign_ok 6) e).bind fun _ =>
        isForeign_ok _
  | system s => exact (isForeign_shortText s.tolerance).map _
  | solution m d A b tolerance equations r => exact isForeign_ok _

mutual

/-- **Whatever keeps a value from being written down, it is no failure of the library.** -/
theorem isForeign_literal (v : Value) : IsForeign ArgumentFault.kind v.literal := by
  cases v with
  | list items => exact (isForeign_literals items).map _
  | tuple items => exact (isForeign_literals items).map _
  | dict entries => exact (isForeign_literalEntries entries).bind fun _ => isForeign_ok _
  | bulk type shape items =>
      -- Truth values are written by themselves, whatever else stands among them.
      cases type with
      | bool => exact isForeign_ok _
      | _ => exact (isForeign_literals items).bind fun _ => isForeign_ok _
  | tierOf value name description =>
      exact (isForeign_literal value).bind fun _ => (isForeign_literal name).bind fun _ =>
        (isForeign_literal description).bind fun _ => isForeign_ok _
  | parametrization dimensions basePoint directions freeVariables =>
      exact (isForeign_literal dimensions).bind fun _ => (isForeign_literal basePoint).bind fun _ =>
        (isForeign_literal directions).bind fun _ => (isForeign_literal freeVariables).bind fun _ =>
          isForeign_ok _
  | outcome payload info timing backendName warnings =>
      exact (isForeign_literal payload).bind fun _ => (isForeign_literal info).bind fun _ =>
        (isForeign_literal timing).bind fun _ => (isForeign_literal backendName).bind fun _ =>
          (isForeign_literal warnings).bind fun _ => isForeign_ok _
  | loose x => exact isForeign_objectText x
  | _ => exact isForeign_ok _

theorem isForeign_literals (vs : List Value) : IsForeign ArgumentFault.kind (literals vs) := by
  cases vs with
  | nil => exact isForeign_ok _
  | cons v rest =>
      exact (isForeign_literal v).bind fun _ => (isForeign_literals rest).bind fun _ => isForeign_ok _

theorem isForeign_literalEntries (entries : List (String × Value)) :
    IsForeign ArgumentFault.kind (literalEntries entries) := by
  cases entries with
  | nil => exact isForeign_ok _
  | cons entry rest =>
      exact (isForeign_literal entry.2).bind fun _ =>
        (isForeign_literalEntries rest).bind fun _ => isForeign_ok _

end

/-- A value with a number behind it is written as that number. -/
theorem exists_literal_of_toNumber? {v : Value} {number : Number} (h : v.toNumber? = some number) :
    ∃ written, v.literal = .ok written := by
  unfold toNumber? at h
  split at h
  any_goals exact ⟨_, rfl⟩
  cases h

/-- **Whatever is read as a float has a literal form.** -/
theorem exists_literal_of_toFloat_eq_ok {v : Value} {x : Float} (h : v.toFloat = .ok x) :
    ∃ written, v.literal = .ok written := by
  unfold toFloat at h
  split at h
  · exact ⟨_, rfl⟩
  · exact ⟨_, rfl⟩
  · exact ⟨_, rfl⟩
  · exact ⟨_, rfl⟩
  · cases h
  · split at h
    · next number hnumber => exact exists_literal_of_toNumber? hnumber
    · cases h

end Value

/-! ## Wordings -/

namespace Refusal

variable {cause : ArgumentFault} {v : Value}

/-- A refusal that shows a value stands if the value can be written down. -/
theorem worded_of_literal_eq_ok {written : String} (hshown : cause.shown? = some v)
    (h : v.literal = .ok written) : (argument cause).worded = argument cause := by
  rw [worded, hshown, Option.map_some, h]

/-- Otherwise it gives way to the failure to write it. -/
theorem worded_of_literal_eq_error {failure : ArgumentFault} (hshown : cause.shown? = some v)
    (h : v.literal = .error failure) : (argument cause).worded = argument failure := by
  rw [worded, hshown, Option.map_some, h]

end Refusal

end LinearSystems
