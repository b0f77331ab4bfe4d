import Mathlib
import LinearSystems.Proofs.Escapes.Texts
import LinearSystems.Proofs.FloatingPoint.Magnitude
import LinearSystems.Proofs.Session.Runs

/-!
# Which tolerances objects carry

A tolerance that is asked for is positive and finite, or it is refused as invalid, with three exceptions:
tiers are taken at their word, whatever their values are; integers beyond the range of floats are refused
as such; and what can neither be read nor be written down is not refused as invalid, since the message
would show it (`Value.isProperlyRead_iff`).

So an object of a run carries a positive finite float, or the value of a tier that the run has made
(`Session.tolerances_of_run`).
-/

namespace LinearSystems

/-- The tolerance is positive and finite. -/
structure Tolerance.IsProper (τ : Float) : Prop where
  pos : 0 < τ
  finite : Scalar.isFinite τ = true

theorem Tolerance.isProper_of_require_eq_ok {τ : Float} (h : require τ = .ok τ) : IsProper τ := by
  refine ⟨FloatingPoint.pos_of_require_eq_ok h, ?_⟩
  unfold require at h
  split at h
  · next htests => exact (Bool.and_eq_true_iff.1 htests).1
  · cases h

namespace Value

variable {v : Value}

/-! ## Reading a tolerance -/

/-- A positive finite float, be it plain or out of an array. -/
def IsProperTolerance (t : Value) : Prop :=
  ∃ τ, Tolerance.IsProper τ ∧ (t = float τ ∨ t = wordFloat τ)

/-- The value stands for a positive finite tolerance, or it is refused as invalid. -/
def IsProperlyRead (v : Value) : Prop :=
  (∃ t, v.resolve = .ok t ∧ t.IsProperTolerance) ∨
    ∃ r, v.resolve = .error r ∧ r.kind = .own .validation

/-- Why a tolerance is refused: it is too large; or it can be written down, and the refusal says that it is
invalid; or the refusal is about to show it. -/
theorem toTolerance_eq_error_cases {r : Refusal} (h : v.toTolerance = .error r) :
    (v.IsTooLarge ∧ r = .argument .tooLarge) ∨
      ((∃ written, v.literal = .ok written) ∧ r.kind = .own .validation ∧ r.worded = r) ∨
      r = .argument (.unreadableTolerance v) := by
  unfold toTolerance at h
  split at h
  · cases h
  · cases h
  · split at h
    · cases h
    · exact Except.error.inj h ▸ Or.inr (Or.inl ⟨⟨_, rfl⟩, rfl, rfl⟩)
  · exact Except.error.inj h ▸ Or.inr (Or.inl ⟨⟨_, rfl⟩, rfl, rfl⟩)
  · exact Except.error.inj h ▸ Or.inr (Or.inl ⟨⟨_, rfl⟩, rfl, rfl⟩)
  · split at h
    · next x hx =>
        cases hrequired : (Tolerance.require x : Except (Fault Float) Float) with
        | ok τ =>
            rw [hrequired] at h
            cases h
        | error fault =>
            rw [hrequired] at h
            obtain rfl := Tolerance.require_eq_error hrequired
            have hwritten := exists_literal_of_toFloat_eq_ok hx
            exact Except.error.inj h ▸ Or.inr (Or.inl ⟨hwritten, rfl, rfl⟩)
    · next hlarge => exact Or.inl ⟨toFloat_eq_tooLarge_iff.1 hlarge, (Except.error.inj h).symm⟩
    · exact Or.inr (Or.inr (Except.error.inj h).symm)

theorem resolve_of_isTooLarge (hlarge : v.IsTooLarge) :
    v.resolve = .error (.argument .tooLarge) := by
  have hother : ∀ value name description, v ≠ tierOf value name description := by
    rintro value name description rfl
    exact not_isTooLarge rfl hlarge
  obtain ⟨r, hread, hforeign⟩ := escapes_toTolerance_iff.2 hlarge
  rcases toTolerance_eq_error_cases hread with ⟨-, rfl⟩ | ⟨-, hkind, -⟩ | rfl
  · rw [resolve_of_ne_tierOf hother, hread]
    rfl
  · exact absurd ⟨_, hkind⟩ hforeign
  · exact absurd ⟨_, rfl⟩ hforeign

section NoTier

variable (hother : ∀ value name description, v ≠ tierOf value name description)

include hother

theorem isProperTolerance_of_toTolerance_eq_ok {τ : Float} (h : v.toTolerance = .ok τ) :
    (float τ).IsProperTolerance := by
  have haccepted (σ : Float) (hσ : Tolerance.require σ = .ok σ) : (float σ).IsProperTolerance :=
    ⟨σ, Tolerance.isProper_of_require_eq_ok hσ, Or.inl rfl⟩
  exact allowed_of_toTolerance_eq_ok_of_ne_tierOf haccepted hother h

theorem exists_literal_of_toTolerance_eq_ok {τ : Float} (h : v.toTolerance = .ok τ) :
    ∃ written, v.literal = .ok written := by
  unfold toTolerance at h
  split at h
  · exact ⟨_, rfl⟩
  · exact absurd rfl (hother _ _ _)
  · exact ⟨_, rfl⟩
  · cases h
  · cases h
  · split at h
    · next x hx => exact exists_literal_of_toFloat_eq_ok hx
    · cases h
    · cases h

/-- What can be written down is read as a positive finite tolerance or refused as invalid, unless it is too
large. -/
theorem isProperlyRead_of_literal_eq_ok (hsmall : ¬v.IsTooLarge) {written : String}
    (hwritten : v.literal = .ok written) : v.IsProperlyRead := by
  have hresolve := resolve_of_ne_tierOf hother
  cases hread : v.toTolerance with
  | ok τ =>
      rw [hread] at hresolve
      exact Or.inl ⟨float τ, hresolve, isProperTolerance_of_toTolerance_eq_ok hother hread⟩
  | error r =>
      rw [hread] at hresolve
      rcases toTolerance_eq_error_cases hread with ⟨hlarge, -⟩ | ⟨-, hkind, hworded⟩ | rfl
      · exact absurd hlarge hsmall
      · exact Or.inr ⟨r, hresolve.trans (congrArg Except.error hworded), hkind⟩
      · have hworded : (Refusal.argument (.unreadableTolerance v)).worded = _ :=
          Refusal.worded_of_literal_eq_ok rfl hwritten
        exact Or.inr ⟨_, hresolve.trans (congrArg Except.error hworded), rfl⟩

/-- What cannot be written down is refused with the failure to write it. -/
theorem resolve_of_literal_eq_error {failure : ArgumentFault} (h : v.literal = .error failure) :
    v.resolve = .error (.argument failure) := by
  have hunwritten : ¬∃ written, v.literal = .ok written := by
    rintro ⟨written, hwritten⟩
    cases hwritten.symm.trans h
  rw [resolve_of_ne_tierOf hother]
  cases hread : v.toTolerance with
  | ok τ => exact absurd (exists_literal_of_toTolerance_eq_ok hother hread) hunwritten
  | error r =>
      rcases toTolerance_eq_error_cases hread with ⟨⟨n, hn, -⟩, -⟩ | ⟨hwritten, -⟩ | rfl
      · exact absurd (exists_literal_of_toNumber? hn) hunwritten
      · exact absurd hwritten hunwritten
      · exact congrArg Except.error (Refusal.worded_of_literal_eq_error rfl h)

end NoTier

/-- **When a tolerance is read properly**: the value of a tier has to be a positive finite float, and
everything else must not be too large, and it must have a literal form. -/
theorem isProperlyRead_iff : v.IsProperlyRead ↔
    (∀ value name description, v = tierOf value name description → value.IsProperTolerance) ∧
      ¬v.IsTooLarge ∧
      ((∀ value name description, v ≠ tierOf value name description) →
        ∃ written, v.literal = .ok written) := by
  constructor
  · intro h
    refine ⟨?_, fun hlarge => ?_, fun hother => ?_⟩
    · rintro value name description rfl
      rcases h with ⟨t, ht, hproper⟩ | ⟨r, hr, -⟩
      · exact Except.ok.inj ht ▸ hproper
      · cases hr
    · have hread := resolve_of_isTooLarge hlarge
      rcases h with ⟨t, ht, -⟩ | ⟨r, hr, hkind⟩
      · cases hread.symm.trans ht
      · cases hread.symm.trans hr
        cases hkind
    · cases hwritten : v.literal with
      | ok written => exact ⟨written, rfl⟩
      | error failure =>
          have hread := resolve_of_literal_eq_error hother hwritten
          rcases h with ⟨t, ht, -⟩ | ⟨r, hr, hkind⟩
          · cases hread.symm.trans ht
          · cases hread.symm.trans hr
            exact absurd ⟨_, hkind⟩ (isForeign_literal v failure hwritten)
  · rintro ⟨htier, hsmall, hwritten⟩
    by_cases hother : ∀ value name description, v ≠ tierOf value name description
    · obtain ⟨written, hwritten⟩ := hwritten hother
      exact isProperlyRead_of_literal_eq_ok hother hsmall hwritten
    · push Not at hother
      obtain ⟨value, name, description, rfl⟩ := hother
      exact Or.inl ⟨value, rfl, htier value name description rfl⟩

end Value

/-! ## The tolerances of a run -/

namespace Session

/-- **A tolerance is read as a positive finite float or refused as invalid, but for tiers with other
values, for integers that are too large and for what has no literal form; and every object of a run carries
a positive finite float, or the value of a tier that the run has made.** -/
theorem tolerances_of_run (room : Nat) (tolerance : Value) (requests : List Request) :
    (tolerance.IsProperlyRead ↔
      (∀ value name description, tolerance = .tierOf value name description →
        value.IsProperTolerance) ∧
        ¬tolerance.IsTooLarge ∧
        ((∀ value name description, tolerance ≠ .tierOf value name description) →
          ∃ written, tolerance.literal = .ok written)) ∧
    ∀ v, .ok v ∈ run room [] requests → ∀ w ∈ v.objects, ∀ t, w.tolerance? = some t →
      (∃ τ, t = .float τ ∧ Tolerance.IsProper τ) ∨ MakesTier (run room [] requests) t := by
  refine ⟨Value.isProperlyRead_iff, fun v hv w hw t ht => ?_⟩
  -- The invariant of runs, for the floats that are proper and the tiers of this very run.
  have hsound : v.IsSound fun t =>
      (∃ τ, t = .float τ ∧ Tolerance.IsProper τ) ∨ MakesTier (run room [] requests) t :=
    (isSound_run (fun τ h => Or.inl ⟨τ, rfl, Tolerance.isProper_of_require_eq_ok h⟩)
      Store.isSound_nil fun _ => Or.inr).1 v hv
  exact (hsound w hw).2 t ht

/-- A run without tiers: the matrix that it makes carries the default tolerance. -/
theorem tolerances_of_run_default :
    let matrix : Request :=
      { operation := "Matrix", positional := [.list [.list [.atom (.int 1) rfl]]] }
    (Value.int 1).IsProperlyRead ∧
      ∃ v, .ok v ∈ run 0 [] [matrix] ∧
        ∃ w ∈ v.objects, w.tolerance? = some (.float 1e-9) ∧ Tolerance.IsProper 1e-9 := by
  intro matrix
  obtain ⟨hread, hcarried⟩ := tolerances_of_run 0 (.int 1) [matrix]
  constructor
  · refine hread.2 ⟨nofun, ?_, fun _ => ⟨_, rfl⟩⟩
    rintro ⟨n, hn, hinf⟩
    obtain rfl := Number.int.inj (Option.some.inj hn)
    revert hinf
    decide +kernel
  · obtain ⟨v, hv, hobject⟩ : ∃ v, matrix.answer 0 [] = .ok v ∧
        v.objects.head?.bind Value.tolerance? = some (.float 1e-9) := exists_eq_ok_of_bind rfl
    have hname : (matrix.answer 0 []).map Value.typeName = .ok "Matrix" := rfl
    obtain ⟨w, hw, hτ⟩ := Option.bind_eq_some_iff.1 hobject
    have hw := List.mem_of_mem_head? hw
    have hmem : .ok v ∈ run 0 [] [matrix] := List.mem_cons.2 (Or.inl hv.symm)
    refine ⟨v, hmem, w, hw, hτ, ?_⟩
    rcases hcarried v hmem w hw _ hτ with ⟨τ, hτ, hproper⟩ | ⟨name, description, ht⟩
    · exact Value.float.inj hτ ▸ hproper
    -- The only answer is a matrix, so the run has made no tier.
    · rcases List.mem_cons.1 ht with ht | ht
      · rw [← ht] at hname
        have hname : "ToleranceTier" = "Matrix" := Except.ok.inj hname
        exact absurd hname (by decide)
      · cases ht

/-- Two tolerances that are not as they should be: an integer that is too large is refused in a foreign
way, and a matrix carries the negative value of a tier. -/
theorem negative_tier_at_its_word :
    let tier : Request :=
      { operation := "ToleranceTier",
        positional := [.atom (.float (-1)) rfl, .atom (.text "x") rfl, .atom (.text "y") rfl],
        keep? := some "t" }
    let matrix : Request :=
      { operation := "Matrix", positional := [.list [.list [.atom (.int 1) rfl]], .ref "t"] }
    ¬(Value.int (10 ^ 400)).IsProperlyRead ∧
      ∃ v, .ok v ∈ run 0 [] [tier, matrix] ∧
        ∃ w ∈ v.objects, ∃ t, w.tolerance? = some t ∧ ¬t.IsProperTolerance := by
  intro tier matrix
  constructor
  · rw [Value.isProperlyRead_iff]
    rintro ⟨-, hsmall, -⟩
    exact hsmall ⟨_, rfl, by decide +kernel⟩
  · obtain ⟨v, hv, hobject⟩ : ∃ v, matrix.answer 0 (after 0 [] [tier]) = .ok v ∧
        v.objects.head?.bind Value.tolerance? = some (.float (-1)) := exists_eq_ok_of_bind rfl
    obtain ⟨w, hw, ht⟩ := Option.bind_eq_some_iff.1 hobject
    have hmem : .ok v ∈ run 0 [] [tier, matrix] :=
      List.mem_cons_of_mem _ (List.mem_cons.2 (Or.inl hv.symm))
    refine ⟨v, hmem, w, List.mem_of_mem_head? hw, _, ht, ?_⟩
    rintro ⟨τ, hproper, hτ⟩
    obtain rfl := Value.float.inj (hτ.resolve_right nofun)
    exact absurd hproper.pos (by decide +kernel)

end Session

end LinearSystems
