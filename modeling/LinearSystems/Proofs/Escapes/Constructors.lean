import Mathlib
import LinearSystems.Proofs.Escapes.Readings

/-!
# What escapes from the constructors

Each constructor reads its arguments, checks them, and reads the tolerance last.  The checks let nothing
escape, so what does is one of the readings between them: a tolerance that is too large for a float
(`EscapesByTolerance`), an offset that is no number (`LinearEquation.IsUnreadable`), something without
items where equations are listed, and a choice that is made by an array.  **Each constructor, and the
solver, lets a failure escape exactly there** (`constructors_escape_iff`), and only once everything that
is looked at before has passed.
-/

namespace LinearSystems

/-- Of what makes something under a tolerance, nothing escapes but a tolerance that is too large, and
only when everything else is accepted. -/
def EscapesByTolerance {α : Type} (make : Value → Except Refusal α) : Prop :=
  ∀ t, Escapes Refusal.kind (make t) ↔ (∃ a, make (.tier .default) = .ok a) ∧ t.IsTooLarge

namespace EscapesByTolerance

variable {α β : Type}

theorem of_toTolerance {f : Float → Except Refusal β} (hf : ∀ τ, ¬Escapes Refusal.kind (f τ))
    (hmade : ∃ b, f Tolerance.default = .ok b) :
    EscapesByTolerance fun t => t.toTolerance >>= f := by
  intro t
  rw [escapes_bind_iff, Value.escapes_toTolerance_iff]
  constructor
  · rintro (h | ⟨τ, -, h⟩)
    · exact ⟨hmade, h⟩
    · exact absurd h (hf τ)
  · exact fun h => Or.inl h.2

/-- What is refused whatever the tolerance. -/
theorem of_error {r : Refusal} (h : r.kind.IsOwn) :
    EscapesByTolerance fun _ => (.error r : Except Refusal α) := fun _ =>
  iff_of_false (fun hescapes => escapes_error_iff.1 hescapes h) fun ⟨⟨_, h⟩, _⟩ => nomatch h

/-- A reading before what is made. -/
theorem escapes_bind_iff {x : Except Refusal α} {make : α → Value → Except Refusal β}
    (hmake : ∀ a, x = .ok a → EscapesByTolerance (make a)) (t : Value) :
    Escapes Refusal.kind (x >>= fun a => make a t) ↔
      Escapes Refusal.kind x ∨
        (∃ b, (x >>= fun a => make a (.tier .default)) = .ok b) ∧ t.IsTooLarge := by
  rw [LinearSystems.escapes_bind_iff]
  refine or_congr_right ?_
  constructor
  · rintro ⟨a, ha, h⟩
    obtain ⟨⟨b, hb⟩, ht⟩ := (hmake a ha t).1 h
    exact ⟨⟨b, bind_eq_ok_iff.2 ⟨a, ha, hb⟩⟩, ht⟩
  · rintro ⟨⟨b, hb⟩, ht⟩
    obtain ⟨a, ha, hb⟩ := bind_eq_ok_iff.1 hb
    exact ⟨a, ha, (hmake a ha t).2 ⟨⟨b, hb⟩, ht⟩⟩

/-- A check before what is made. -/
theorem bind {x : Except Refusal α} {make : α → Value → Except Refusal β}
    (hx : ¬Escapes Refusal.kind x) (hmake : ∀ a, x = .ok a → EscapesByTolerance (make a)) :
    EscapesByTolerance fun t => x >>= fun a => make a t :=
  fun t => (escapes_bind_iff hmake t).trans (or_iff_right hx)

/-- A check of the data before what is made. -/
theorem bind_fault {x : Except (Fault Float) α} {make : α → Value → Except Refusal β}
    (hx : ¬Escapes Fault.kind x) (hmake : ∀ a, x = .ok a → EscapesByTolerance (make a)) :
    EscapesByTolerance fun t => (liftM x : Except Refusal α) >>= fun a => make a t :=
  bind (mt escapes_liftM_fault_iff.1 hx) fun a ha => hmake a (mapError_eq_ok_iff.1 ha)

/-- An array that is read before what is made. -/
theorem bind_toTensor (argument : String) (v : Value)
    {make : Tensor Float → Value → Except Refusal β} (hmake : ∀ a, EscapesByTolerance (make a)) :
    EscapesByTolerance fun t =>
      (liftM (v.toTensor argument) : Except Refusal (Tensor Float)) >>= fun a => make a t :=
  bind (mt escapes_liftM_argument_iff.1 (Value.not_escapes_toTensor argument v)) fun a _ => hmake a

end EscapesByTolerance

theorem Mat.escapesByTolerance_ofValue (elements : Value) :
    EscapesByTolerance (ofValue elements) := by
  refine .bind_toTensor "elements" elements fun t => ?_
  dsimp only
  split
  · exact .bind_fault (not_escapes_requireElements _) fun _ _ =>
      .of_toTolerance (fun _ => not_escapes_ok _) ⟨_, rfl⟩
  · exact .of_error ⟨_, rfl⟩

namespace Vec

theorem escapesByTolerance_ofOriented {n : Nat} (x : Vector Float n) (o : Orientation) :
    EscapesByTolerance (ofOriented x o) :=
  .bind_fault not_escapes_requireComponents fun _ _ =>
    .of_toTolerance (fun _ => not_escapes_ok _) ⟨_, rfl⟩

theorem escapesByTolerance_ofValue (elements : Value) :
    EscapesByTolerance (ofValue elements) := by
  refine .bind_toTensor "elements" elements fun t => ?_
  split
  · exact escapesByTolerance_ofOriented _ _
  · exact escapesByTolerance_ofOriented _ _
  · exact escapesByTolerance_ofOriented _ _
  · exact .of_error ⟨_, rfl⟩

theorem escapes_orientationOf_iff {horizontal : Value} :
    Escapes SortFault.kind (orientationOf horizontal) ↔ ∃ e, horizontal.isTruthy = .error e := by
  rw [orientationOf, escapes_bind_iff, (isForeign_sort _).escapes_iff]
  exact or_iff_left fun ⟨_, _, h⟩ => not_escapes_ok _ h

/-- What is to be horizontal is asked after the values have been read. -/
theorem escapes_ofValues_iff (values horizontal tolerance : Value) :
    Escapes Refusal.kind (ofValues values horizontal tolerance) ↔
      (∃ a, values.toTensor "values" = .ok a) ∧ (∃ e, horizontal.isTruthy = .error e) ∨
      (∃ v, ofValues values horizontal (.tier .default) = .ok v) ∧ tolerance.IsTooLarge := by
  -- Everything that comes before the tolerance is one reading.
  let read : Except Refusal (Tensor Float × Orientation) := do
    let t ← values.toTensor "values"
    return (t, ← orientationOf horizontal)
  have hread (t : Value) : ofValues values horizontal t =
      read >>= fun p => ofOriented p.1.toVector p.2 t := by
    simp only [ofValues, read, bind_assoc, pure_bind]
  have hescapes : Escapes Refusal.kind read ↔
      (∃ a, values.toTensor "values" = .ok a) ∧ ∃ e, horizontal.isTruthy = .error e := by
    rw [escapes_bind_iff, escapes_liftM_argument_iff,
      or_iff_right (Value.not_escapes_toTensor "values" values), ← exists_and_right]
    refine exists_congr fun a => and_congr mapError_eq_ok_iff ?_
    rw [escapes_bind_iff, escapes_liftM_sort_iff, escapes_orientationOf_iff]
    exact or_iff_left fun ⟨_, _, h⟩ => not_escapes_ok _ h
  simp only [hread]
  rw [EscapesByTolerance.escapes_bind_iff fun _ _ => escapesByTolerance_ofOriented _ _, hescapes]

end Vec

namespace LinearEquation

theorem escapes_ofValues_iff (normal offset : Value) :
    Escapes Refusal.kind (ofValues normal offset) ↔
      (∃ v, normal = .vec v) ∧ ∃ e, offset.toFloat = .error e := by
  cases normal with
  | vec v =>
      have hmade : Escapes Refusal.kind (ofValues (.vec v) offset) ↔
          ∃ e, offset.toFloat = .error e := by
        rw [ofValues, escapes_bind_iff, escapes_liftM_argument_iff,
          (Value.isForeign_toFloat offset).escapes_iff]
        exact or_iff_left fun ⟨_, _, h⟩ => not_escapes_ofNormal (escapes_liftM_fault_iff.1 h)
      rw [hmade, and_iff_right ⟨v, rfl⟩]
  | _ => exact iff_of_false (not_escapes_error rfl) nofun

/-- The coefficients are accepted, and then the tolerance is too large or, after an accepted tolerance,
the offset is no number. -/
def IsUnreadable (coefficients offset tolerance : Value) : Prop :=
  (∃ v, Vec.ofValues coefficients (.bool false) (.tier .default) = .ok v) ∧
      tolerance.IsTooLarge ∨
  (∃ v, Vec.ofValues coefficients (.bool false) tolerance = .ok v) ∧
      ∃ e, offset.toFloat = .error e

theorem escapes_ofCoefficients_iff (coefficients offset tolerance : Value) (form : EquationForm) :
    Escapes Refusal.kind (ofCoefficients coefficients offset tolerance form) ↔
      IsUnreadable coefficients offset tolerance := by
  rw [ofCoefficients, escapes_bind_iff, Vec.escapes_ofValues_iff, IsUnreadable]
  refine or_congr (or_iff_right fun h => ?_) ?_
  -- Coefficients are always a column, and this choice does not fail.
  · obtain ⟨-, e, he⟩ := h
    cases he
  · rw [← exists_and_right]
    refine exists_congr fun v => and_congr_right fun _ => ?_
    rw [escapes_bind_iff, escapes_liftM_argument_iff,
      (Value.isForeign_toFloat offset).escapes_iff]
    exact or_iff_left fun ⟨_, _, h⟩ => not_escapes_ofNormal (escapes_liftM_fault_iff.1 h)

end LinearEquation

theorem Value.not_escapes_toEquations (position : Nat) (items : List Value) :
    ¬Escapes ArgumentFault.kind (toEquations position items) := by
  induction items generalizing position with
  | nil => exact not_escapes_ok _
  | cons v rest ih =>
      cases v with
      | equation e =>
          rw [toEquations, escapes_bind_iff, not_or, not_exists]
          exact ⟨ih (position + 1), fun _ h => not_escapes_ok _ h.2⟩
      | _ => exact not_escapes_error rfl

namespace LinearSystem

theorem escapesByTolerance_ofTensors (a b : Tensor Float) (m d : Nat) :
    EscapesByTolerance (ofTensors a b m d) := by
  refine .bind_fault (not_escapes_requireArrays _ _) fun same hpassed => .of_toTolerance ?_ ?_
  · exact fun τ h => not_escapes_ofArrays _ _ _ (escapes_liftM_fault_iff.1 h)
  · have hadmissible := admissible_of_requireArrays_eq_ok hpassed
    exact ⟨_, mapError_eq_ok_iff.2 (hadmissible.ofArrays_eq_ok_iff.2
      ⟨rfl, if_pos (by decide +kernel)⟩)⟩

theorem escapesByTolerance_ofArrayValues (coefficients offsets : Value) :
    EscapesByTolerance (ofArrayValues coefficients offsets) := by
  refine .bind_toTensor "A" coefficients fun a => .bind_toTensor "b" offsets fun b => ?_
  dsimp only
  split
  · exact escapesByTolerance_ofTensors a b _ _
  · exact escapesByTolerance_ofTensors a b _ _
  · exact escapesByTolerance_ofTensors a b _ _
  · exact .of_error ⟨_, rfl⟩
  · exact .of_error ⟨_, rfl⟩

theorem escapesByTolerance_ofEquationList (es : List (LinearEquation Float)) :
    EscapesByTolerance (ofEquationList es) := by
  cases es with
  | nil =>
      intro t
      have hrefused (t : Value) : ofEquationList [] t = .error (.fault (.noEquations "equations")) := by
        cases t <;> rfl
      rw [hrefused, hrefused]
      refine iff_of_false (not_escapes_error rfl) ?_
      rintro ⟨⟨_, h⟩, -⟩
      cases h
  | cons first rest =>
      -- A tolerance that is given is read once the dimensions agree; without one there is nothing
      -- to read.
      have hgiven : EscapesByTolerance fun t => (do
          let _ ← (requireEqualDimensions first rest)
          let chosen ← some <$> t.toTolerance
          ofEquations (first :: rest) chosen : Except Refusal (LinearSystem Float)) := by
        refine .bind_fault (not_escapes_requireEqualDimensions first rest) fun shared hshared => ?_
        simp only [bind_map_left]
        have hmade : ofEquations (first :: rest) (some Tolerance.default) =
            .ok (assemble (first :: rest) first.dimensions shared.down Tolerance.default) := by
          rw [ofEquations, hshared]
          rfl
        exact .of_toTolerance (fun τ h => not_escapes_ofEquations _ _
          (escapes_liftM_fault_iff.1 h)) ⟨_, mapError_eq_ok_iff.2 hmade⟩
      have htier : Value.tier .default ≠ .none := by
        intro h
        cases h
      intro t
      by_cases ht : t = .none
      · subst ht
        rw [ofEquationList_none, escapes_mapError_iff fun _ => rfl]
        exact iff_of_false (not_escapes_ofEquations _ _) fun h => Value.not_isTooLarge rfl h.2
      · rw [ofEquationList_of_ne_none first rest ht, ofEquationList_of_ne_none first rest htier]
        exact hgiven t

theorem escapes_ofEquationValues_iff (equations tolerance : Value) :
    Escapes Refusal.kind (ofEquationValues equations tolerance) ↔
      (∃ e, equations.items = .error e) ∨
      (∃ s, ofEquationValues equations (.tier .default) = .ok s) ∧ tolerance.IsTooLarge := by
  let read : Except Refusal (List (LinearEquation Float)) := do
    let items ← equations.items
    Value.toEquations 0 items
  have hread (t : Value) : ofEquationValues equations t = read >>= fun es => ofEquationList es t := by
    simp only [ofEquationValues, read, bind_assoc]
  have hescapes : Escapes Refusal.kind read ↔ ∃ e, equations.items = .error e := by
    rw [escapes_bind_iff, escapes_liftM_sort_iff, (isForeign_sort _).escapes_iff]
    exact or_iff_left fun ⟨_, _, h⟩ =>
      Value.not_escapes_toEquations _ _ (escapes_liftM_argument_iff.1 h)
  simp only [hread]
  rw [EscapesByTolerance.escapes_bind_iff fun es _ => escapesByTolerance_ofEquationList es, hescapes]

/-- The solver that is asked for is looked up once there is a system. -/
theorem escapes_solveValue_iff (equations tolerance backend : Value) :
    Escapes Refusal.kind (solveValue equations tolerance backend) ↔
      Escapes Refusal.kind (ofValue equations tolerance) ∨
      (∃ s, ofValue equations tolerance = .ok s) ∧
        ∃ e, backend.isAmong (solverNames.map .text) = .error e := by
  have hunknown : ¬Escapes ArgumentFault.kind
      (.error (.unknownBackend backend) : Except ArgumentFault Unit) := not_escapes_error rfl
  have hsolver : Escapes ArgumentFault.kind (requireSolver backend) ↔
      ∃ e, backend.isAmong (solverNames.map .text) = .error e := by
    rw [requireSolver, escapes_bind_iff, (Value.isForeign_isAmong backend solverNames).escapes_iff]
    refine or_iff_left fun ⟨found, _, h⟩ => ?_
    cases found with
    | true => exact not_escapes_ok _ h
    | false => exact hunknown h
  rw [solveValue, escapes_bind_iff, ← exists_and_right]
  refine or_congr_right (exists_congr fun s => and_congr_right fun _ => ?_)
  rw [escapes_bind_iff, escapes_liftM_argument_iff, hsolver]
  exact or_iff_left fun ⟨_, _, h⟩ => not_escapes_solve s (escapes_liftM_fault_iff.1 h)

/-- A system is made anew under its tolerance; a single equation is refused; and everything else is
read as a sequence of equations. -/
theorem escapes_ofValue_iff (equations tolerance : Value) :
    Escapes Refusal.kind (ofValue equations tolerance) ↔
      (∃ s, equations = .system s) ∧ tolerance.IsTooLarge ∨
      (∀ s, equations ≠ .system s) ∧ (∀ e, equations ≠ .equation e) ∧
        Escapes Refusal.kind (ofEquationValues equations tolerance) := by
  cases equations with
  | system s =>
      rw [and_iff_right ⟨s, rfl⟩, or_iff_left fun h => h.1 s rfl]
      by_cases ht : tolerance = .none
      -- Without a new tolerance the system is handed back as it is.
      · subst ht
        exact iff_of_false (not_escapes_ok s) (Value.not_isTooLarge rfl)
      · rw [ofValue_system_of_ne_none s ht, escapes_bind_iff, Value.escapes_toTolerance_iff]
        exact or_iff_left fun ⟨_, _, h⟩ =>
          not_escapes_ofEquations _ _ (escapes_liftM_fault_iff.1 h)
  | equation e =>
      have hsingle : ¬Escapes Refusal.kind
          (.error (.argument .singleEquation) : Except Refusal (LinearSystem Float)) :=
        not_escapes_error rfl
      refine iff_of_false hsingle ?_
      rintro (⟨⟨_, h⟩, -⟩ | ⟨-, h, -⟩)
      · cases h
      · exact h e rfl
  | _ =>
      refine ⟨fun h => Or.inr ⟨nofun, nofun, h⟩, ?_⟩
      rintro (⟨⟨_, h⟩, -⟩ | ⟨-, -, h⟩)
      · cases h
      · exact h

end LinearSystem

/-- **What escapes from the constructors and from the solver**, with values of every sort in every
place.  Of the data nothing does.  A tolerance that is too large escapes once everything else is
accepted, and so do an offset that is no number, a choice that an array makes, and something without
items in the place of the equations. -/
theorem constructors_escape_iff
    (data horizontal tolerance normal offset coefficients a b c equations offsets backend : Value) :
    EscapesByTolerance (Mat.ofValue data) ∧
    EscapesByTolerance (Vec.ofValue data) ∧
    (Escapes Refusal.kind (Vec.ofValues data horizontal tolerance) ↔
      (∃ t, data.toTensor "values" = .ok t) ∧ (∃ e, horizontal.isTruthy = .error e) ∨
      (∃ v, Vec.ofValues data horizontal (.tier .default) = .ok v) ∧ tolerance.IsTooLarge) ∧
    (Escapes Refusal.kind (LinearEquation.ofValues normal offset) ↔
      (∃ v, normal = .vec v) ∧ ∃ e, offset.toFloat = .error e) ∧
    (Escapes Refusal.kind (LinearEquation.ofCoefficients coefficients offset tolerance) ↔
      LinearEquation.IsUnreadable coefficients offset tolerance) ∧
    (Escapes Refusal.kind (LinearEquation.line a b offset tolerance) ↔
      LinearEquation.IsUnreadable (.list [a, b]) offset tolerance) ∧
    (Escapes Refusal.kind (LinearEquation.plane a b c offset tolerance) ↔
      LinearEquation.IsUnreadable (.list [a, b, c]) offset tolerance) ∧
    (Escapes Refusal.kind (LinearSystem.ofEquationValues equations tolerance) ↔
      (∃ e, equations.items = .error e) ∨
      (∃ s, LinearSystem.ofEquationValues equations (.tier .default) = .ok s) ∧
        tolerance.IsTooLarge) ∧
    EscapesByTolerance (LinearSystem.ofArrayValues data offsets) ∧
    (Escapes Refusal.kind (LinearSystem.solveValue equations tolerance backend) ↔
      (∃ s, equations = .system s) ∧ tolerance.IsTooLarge ∨
      (∀ s, equations ≠ .system s) ∧ (∀ e, equations ≠ .equation e) ∧
        ((∃ e, equations.items = .error e) ∨
          (∃ s, LinearSystem.ofEquationValues equations (.tier .default) = .ok s) ∧
            tolerance.IsTooLarge) ∨
      (∃ s, LinearSystem.ofValue equations tolerance = .ok s) ∧
        ∃ e, backend.isAmong (LinearSystem.solverNames.map .text) = .error e) := by
  refine ⟨Mat.escapesByTolerance_ofValue data, Vec.escapesByTolerance_ofValue data,
    Vec.escapes_ofValues_iff data horizontal tolerance,
    LinearEquation.escapes_ofValues_iff normal offset,
    LinearEquation.escapes_ofCoefficients_iff coefficients offset tolerance _,
    LinearEquation.escapes_ofCoefficients_iff _ offset tolerance _,
    LinearEquation.escapes_ofCoefficients_iff _ offset tolerance _,
    LinearSystem.escapes_ofEquationValues_iff equations tolerance,
    LinearSystem.escapesByTolerance_ofArrayValues data offsets, ?_⟩
  rw [LinearSystem.escapes_solveValue_iff, LinearSystem.escapes_ofValue_iff,
    LinearSystem.escapes_ofEquationValues_iff, or_assoc]

/-- An offset that is missing, one that is no numeral, a tolerance beyond the range of floats, and
nothing in the place of the equations: none of these failures is the library's. -/
theorem offsets_and_tolerances_escape :
    Escapes Refusal.kind (LinearEquation.line (.int 1) (.int 1) .none .none) ∧
    Escapes Refusal.kind (LinearEquation.line (.int 1) (.int 1) (.text "x") .none) ∧
    Escapes Refusal.kind (Mat.ofValue (.list [.list [.int 1]]) (.int (10 ^ 400))) ∧
    Escapes Refusal.kind (LinearSystem.ofEquationValues .none .none) ∧
    Escapes Refusal.kind (LinearSystem.solveValue .none .none (.text "auto")) := by
  have hcolumn : ∃ v, Vec.ofValues (.list [.int 1, .int 1]) (.bool false) .none = .ok v :=
    exists_eq_ok_of_isSome (by decide +kernel)
  have hmatrix : ∃ a, Mat.ofValue (.list [.list [.int 1]]) (.tier .default) = .ok a :=
    exists_eq_ok_of_isSome (by decide +kernel)
  refine ⟨?_, ?_, ?_, ?_, ?_⟩
  · exact (LinearEquation.escapes_ofCoefficients_iff _ _ _ _).2 (Or.inr ⟨hcolumn, _, rfl⟩)
  · have hnumeral : Decimal.ofText? "x" = none := by decide +kernel
    refine (LinearEquation.escapes_ofCoefficients_iff _ _ _ _).2
      (Or.inr ⟨hcolumn, .unreadableNumeral (.text "x"), ?_⟩)
    rw [Value.toFloat, hnumeral]
    rfl
  · exact (Mat.escapesByTolerance_ofValue _ _).2 ⟨hmatrix, _, rfl, by decide +kernel⟩
  · exact (LinearSystem.escapes_ofEquationValues_iff _ _).2 (Or.inl ⟨_, rfl⟩)
  · refine (LinearSystem.escapes_solveValue_iff _ _ _).2 (Or.inl ?_)
    exact (LinearSystem.escapes_ofEquationValues_iff _ _).2 (Or.inl ⟨_, rfl⟩)

end LinearSystems
