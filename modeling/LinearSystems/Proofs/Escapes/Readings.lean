import Mathlib
import LinearSystems.Proofs.Elimination.PivotGuard
import LinearSystems.Proofs.WellFormed

/-!
# Which failures are foreign

The classes of faults have one root, so that a caller can handle whatever the library refuses in one
place.  A failure that belongs to no such class *escapes* him (`Escapes`).

The checks of the library never let one escape, and neither does a solve, whatever numbers it ends
with (`LinearSystem.not_escapes_solve`).  With the readings that stand between the checks it is the
other way round: no failure to read a float, to iterate or to choose is one of the library's
(`IsForeign`).  Tolerances are read with both: of them only integers that are too large for a float
escape (`Value.escapes_toTolerance_iff`).
-/

namespace LinearSystems

/-! ## Faults of the library -/

/-- The kind of a failure is a class of faults of the library. -/
def FaultKind.IsOwn (k : FaultKind) : Prop := ∃ c, k = .own c

/-- The computation fails in a way that is none of the library's. -/
def Escapes {ε α : Type} (kind : ε → FaultKind) (x : Except ε α) : Prop :=
  ∃ e, x = .error e ∧ ¬(kind e).IsOwn

section Steps

variable {ε δ α β : Type} {kind : ε → FaultKind} {x : Except ε α}

theorem escapes_error_iff {e : ε} :
    Escapes kind (.error e : Except ε α) ↔ ¬(kind e).IsOwn :=
  ⟨fun ⟨_, he, h⟩ => Except.error.inj he ▸ h, fun h => ⟨e, rfl, h⟩⟩

theorem not_escapes_ok (a : α) : ¬Escapes kind (.ok a : Except ε α) := fun ⟨_, he, _⟩ => nomatch he

theorem not_escapes_iff : ¬Escapes kind x ↔ ∀ e, x = .error e → (kind e).IsOwn := by
  simp only [Escapes, not_exists, not_and, not_not]

theorem not_escapes_error {e : ε} {c : FaultClass} (h : kind e = .own c) :
    ¬Escapes kind (.error e : Except ε α) :=
  fun hescapes => escapes_error_iff.1 hescapes ⟨c, h⟩

/-- One of the steps lets a failure escape. -/
theorem escapes_bind_iff {f : α → Except ε β} :
    Escapes kind (x >>= f) ↔ Escapes kind x ∨ ∃ a, x = .ok a ∧ Escapes kind (f a) := by
  constructor
  · rintro ⟨e, he, hkind⟩
    rcases bind_eq_error_iff.1 he with hx | ⟨a, ha, hfa⟩
    · exact Or.inl ⟨e, hx, hkind⟩
    · exact Or.inr ⟨a, ha, e, hfa, hkind⟩
  · rintro (⟨e, hx, hkind⟩ | ⟨a, ha, e, hfa, hkind⟩)
    · exact ⟨e, bind_eq_error_iff.2 (Or.inl hx), hkind⟩
    · exact ⟨e, bind_eq_error_iff.2 (Or.inr ⟨a, ha, hfa⟩), hkind⟩

/-- A reading that is lifted into a larger one fails in the same way. -/
theorem escapes_mapError_iff {kind' : δ → FaultKind} {g : ε → δ} (hg : ∀ e, kind' (g e) = kind e) :
    Escapes kind' (x.mapError g) ↔ Escapes kind x := by
  cases x with
  | error e =>
      have hmap : (.error e : Except ε α).mapError g = .error (g e) := rfl
      rw [hmap, escapes_error_iff, escapes_error_iff, hg]
  | ok a => exact iff_of_false (not_escapes_ok a) (not_escapes_ok a)

theorem not_escapes_mapM {f : α → Except ε β} {l : List α} (h : ∀ a ∈ l, ¬Escapes kind (f a)) :
    ¬Escapes kind (l.mapM f) := by
  rintro ⟨e, he, hkind⟩
  obtain ⟨a, ha, hfa⟩ := exists_eq_error_of_mapM he
  exact h a ha ⟨e, hfa, hkind⟩

/-- No failure of the computation is one of the library's. -/
def IsForeign (kind : ε → FaultKind) (x : Except ε α) : Prop :=
  ∀ e, x = .error e → ¬(kind e).IsOwn

theorem IsForeign.escapes_iff (h : IsForeign kind x) : Escapes kind x ↔ ∃ e, x = .error e :=
  exists_congr fun e => and_iff_left_of_imp (h e)

theorem isForeign_ok (a : α) : IsForeign kind (.ok a : Except ε α) := nofun

theorem isForeign_error {e : ε} (h : ∀ c, kind e ≠ .own c) :
    IsForeign kind (.error e : Except ε α) :=
  fun _ he ⟨c, hc⟩ => h c (Except.error.inj he ▸ hc)

theorem IsForeign.bind {f : α → Except ε β} (hx : IsForeign kind x)
    (hf : ∀ a, IsForeign kind (f a)) : IsForeign kind (x >>= f) := by
  intro e he
  rcases bind_eq_error_iff.1 he with hx' | ⟨a, -, hfa⟩
  · exact hx e hx'
  · exact hf a e hfa

theorem IsForeign.map (hx : IsForeign kind x) (f : α → β) : IsForeign kind (f <$> x) :=
  fun e he => hx e (map_eq_error_iff.1 he)

theorem isForeign_foldlM {f : β → α → Except ε β} (hf : ∀ b a, IsForeign kind (f b a))
    (l : List α) (b : β) : IsForeign kind (l.foldlM f b) := by
  induction l generalizing b with
  | nil => exact isForeign_ok b
  | cons a l ih =>
      rw [List.foldlM_cons]
      exact (hf b a).bind ih

end Steps

section Lifts

variable {α : Type}

@[simp] theorem escapes_liftM_fault_iff {x : Except (Fault Float) α} :
    Escapes Refusal.kind (liftM x : Except Refusal α) ↔ Escapes Fault.kind x :=
  escapes_mapError_iff fun _ => rfl

@[simp] theorem escapes_liftM_argument_iff {x : Except ArgumentFault α} :
    Escapes Refusal.kind (liftM x : Except Refusal α) ↔ Escapes ArgumentFault.kind x :=
  escapes_mapError_iff fun _ => rfl

@[simp] theorem escapes_liftM_sort_iff {x : Except SortFault α} :
    Escapes Refusal.kind (liftM x : Except Refusal α) ↔ Escapes SortFault.kind x :=
  (escapes_mapError_iff (x := x.mapError ArgumentFault.sort) (g := Refusal.argument)
    fun _ => rfl).trans (escapes_mapError_iff fun _ => rfl)

/-- What general operations on data refuse has nothing to do with the library. -/
theorem SortFault.not_isOwn_kind (cause : SortFault) : ¬cause.kind.IsOwn := by
  rintro ⟨c, hc⟩
  cases cause <;> cases hc

theorem isForeign_sort (x : Except SortFault α) : IsForeign SortFault.kind x :=
  fun cause _ => cause.not_isOwn_kind

theorem isForeign_liftM_sort (x : Except SortFault α) :
    IsForeign ArgumentFault.kind (liftM x : Except ArgumentFault α) := by
  cases x with
  | error cause => exact isForeign_error fun c hc => cause.not_isOwn_kind ⟨c, hc⟩
  | ok a => exact isForeign_ok a

end Lifts

/-! ## Checks -/

section Checks

variable {K : Type} [Scalar K]

omit [Scalar K] in
theorem not_escapes_requireNonempty (argument : String) (shape : List Nat) :
    ¬Escapes Fault.kind (requireNonempty argument shape : Except (Fault K) Unit) := by
  unfold requireNonempty
  split
  · exact not_escapes_error rfl
  · exact not_escapes_ok ()

theorem not_escapes_requireFinite (argument : String) (entries : List K) :
    ¬Escapes Fault.kind (requireFinite argument entries) := by
  refine not_escapes_iff.2 fun fault h => ?_
  obtain ⟨_, _, rfl⟩ := requireFinite_eq_error h
  exact ⟨_, rfl⟩

theorem not_escapes_require (τ : K) : ¬Escapes Fault.kind (Tolerance.require τ) := by
  refine not_escapes_iff.2 fun fault h => ?_
  obtain rfl := Tolerance.require_eq_error h
  exact ⟨_, rfl⟩

theorem Mat.not_escapes_requireElements {m d : Nat} (g : Grid K m d) :
    ¬Escapes Fault.kind (requireElements g) := by
  simp only [requireElements, escapes_bind_iff, not_escapes_requireNonempty,
    not_escapes_requireFinite, and_false, exists_false, or_false, not_false_iff]

namespace Vec

variable {n : Nat} {x : Vector K n} {o : Orientation}

theorem not_escapes_requireComponents : ¬Escapes Fault.kind (requireComponents x o) := by
  simp only [requireComponents, escapes_bind_iff, not_escapes_requireNonempty,
    not_escapes_requireFinite, and_false, exists_false, or_false, not_false_iff]

theorem not_escapes_ofComponents {τ : K} : ¬Escapes Fault.kind (ofComponents x τ o) := by
  simp only [ofComponents, escapes_bind_iff, not_escapes_requireComponents, not_escapes_require,
    false_or, not_exists, not_and]
  exact fun _ _ _ _ => not_escapes_ok _

end Vec

theorem LinearEquation.not_escapes_ofNormal {v : Vec K} {k : K} {form : EquationForm} :
    ¬Escapes Fault.kind (ofNormal v k form) := by
  cases hk : Scalar.isFinite k with
  | false =>
      have hrefused : ofNormal v k form = .error (.nonFiniteOffset k) := by
        rw [ofNormal, hk]
        rfl
      rw [hrefused]
      exact not_escapes_error rfl
  | true =>
      -- Once the offset is accepted, standing the normal upright is the only step that can fail.
      have hmade : ofNormal v k form =
          (if v.isHorizontal then v.transpose else pure v) >>= fun w => pure ⟨w, k, form⟩ := by
        rw [ofNormal, hk]
        cases v.isHorizontal <;> rfl
      rw [hmade, escapes_bind_iff, not_or, not_exists]
      constructor
      · split
        · exact Vec.not_escapes_ofComponents
        · exact not_escapes_ok v
      · exact fun _ h => not_escapes_ok _ h.2

namespace LinearSystem

omit [Scalar K] in
theorem not_escapes_requireEqualDimensions (first : LinearEquation K)
    (rest : List (LinearEquation K)) : ¬Escapes Fault.kind (requireEqualDimensions first rest) := by
  unfold requireEqualDimensions
  split
  · exact not_escapes_ok _
  · exact not_escapes_error rfl

theorem not_escapes_ofEquations (es : List (LinearEquation K)) (chosen : Option K) :
    ¬Escapes Fault.kind (ofEquations es chosen) := by
  cases es with
  | nil => exact not_escapes_error rfl
  | cons first rest =>
      have hcommon : ¬Escapes Fault.kind (commonTolerance first rest) := by
        unfold commonTolerance
        split
        · exact not_escapes_ok _
        · exact not_escapes_error rfl
      rw [ofEquations, escapes_bind_iff, not_or, not_exists]
      refine ⟨not_escapes_requireEqualDimensions first rest, fun _ h => ?_⟩
      cases chosen with
      | some τ => exact not_escapes_ok _ h.2
      | none =>
          rcases escapes_bind_iff.1 h.2 with h | ⟨_, -, h⟩
          · exact hcommon h
          · exact not_escapes_ok _ h

theorem not_escapes_requireArrays {m d n : Nat} (A : Grid K m d) (b : Vector K n) :
    ¬Escapes Fault.kind (requireArrays A b) := by
  -- The refusals one by one, in the order in which they are looked for.
  by_cases hm : m = 0
  · have hrefused : requireArrays A b = .error (.noEquations "A") := by
      rw [requireArrays, if_pos hm]
      rfl
    rw [hrefused]
    exact not_escapes_error rfl
  by_cases hd : d = 0
  · have hrefused : requireArrays A b = .error .noUnknowns := by
      rw [requireArrays, if_neg hm, if_pos hd]
      rfl
    rw [hrefused]
    exact not_escapes_error rfl
  by_cases hn : n = m
  · have hchecked : requireArrays A b =
        requireFinite "A" A.toList >>= fun _ => requireFinite "b" b.toList >>= fun _ => .ok ⟨hn⟩ := by
      rw [requireArrays, if_neg hm, if_neg hd, dif_pos hn]
      rfl
    rw [hchecked, escapes_bind_iff, not_or, not_exists]
    refine ⟨not_escapes_requireFinite "A" _, fun _ h => ?_⟩
    rcases escapes_bind_iff.1 h.2 with h | ⟨_, -, h⟩
    · exact not_escapes_requireFinite "b" _ h
    · exact not_escapes_ok _ h
  · have hrefused : requireArrays A b = .error (.unequalLengths [("A", m), ("b", n)]) := by
      rw [requireArrays, if_neg hm, if_neg hd, dif_neg hn]
      rfl
    rw [hrefused]
    exact not_escapes_error rfl

theorem not_escapes_ofArrays {m d : Nat} (A : Grid K m d) (b : Vector K m) (τ : K) :
    ¬Escapes Fault.kind (ofArrays A b τ) := by
  rw [ofArrays, escapes_bind_iff, not_or, not_exists]
  refine ⟨not_escapes_mapM fun i _ => ?_, fun _ h => not_escapes_ok _ h.2⟩
  rw [rowEquation, escapes_bind_iff, not_or, not_exists]
  exact ⟨Vec.not_escapes_ofComponents, fun _ h => LinearEquation.not_escapes_ofNormal h.2⟩

/-- **A solve lets nothing escape**, whatever numbers it ends with. -/
theorem not_escapes_solve [LawfulZeroTest K] (s : LinearSystem K) :
    ¬Escapes Fault.kind s.solve := by
  rw [solve, escapes_bind_iff, not_or, not_exists]
  refine ⟨not_escapes_iff.2 fun fault h => ?_, fun _ h => not_escapes_ok _ h.2⟩
  -- Only the answer can fail, and only one of its columns.
  obtain ⟨done, pivots, -, hconclude⟩ := Elimination.exists_conclude_eq_error h
  obtain ⟨x, -, hx⟩ := Elimination.exists_ofComponents_eq_error hconclude
  exact not_escapes_iff.1 Vec.not_escapes_ofComponents fault hx

end LinearSystem

end Checks

/-! ## Readings -/

/-- Of the numbers only integers that are too large fail to be read as floats. -/
theorem Number.toFloat_eq_error_iff {number : Number} {e : ArgumentFault} :
    number.toFloat = .error e ↔
      (∃ n, number = .int n ∧ (Float.ofInt n).isInf = true) ∧ e = .tooLarge := by
  cases number with
  | float x => exact iff_of_false nofun fun ⟨⟨_, h, _⟩, _⟩ => nomatch h
  | int n =>
      have hread : (int n).toFloat =
          if (Float.ofInt n).isInf = true then .error .tooLarge else .ok (Float.ofInt n) := rfl
      rw [hread]
      split
      · next hinf =>
          constructor
          · exact fun h => ⟨⟨n, rfl, hinf⟩, (Except.error.inj h).symm⟩
          · exact fun h => congrArg _ h.2.symm
      · next hinf =>
          refine iff_of_false nofun ?_
          rintro ⟨⟨_, hn, h⟩, -⟩
          cases hn
          exact hinf h

theorem Number.isForeign_toFloat (number : Number) : IsForeign ArgumentFault.kind number.toFloat := by
  intro e he
  obtain ⟨-, rfl⟩ := toFloat_eq_error_iff.1 he
  exact nofun

namespace Value

/-- An integer, or a truth value, of which the nearest float is infinite. -/
def IsTooLarge (v : Value) : Prop := ∃ n, v.toNumber? = some (.int n) ∧ (Float.ofInt n).isInf = true

theorem not_isTooLarge {v : Value} (h : v.toNumber? = .none) : ¬v.IsTooLarge := by
  rintro ⟨_, hn, -⟩
  rw [h] at hn
  cases hn

theorem not_escapes_toTensor (argument : String) (v : Value) :
    ¬Escapes ArgumentFault.kind (v.toTensor argument) := by
  rw [toTensor, escapes_bind_iff, not_or, not_exists]
  constructor
  · cases v.extents with
    | ok extents => exact not_escapes_ok extents
    | error cause => exact not_escapes_error rfl
  · rintro extents ⟨-, h⟩
    revert h
    dsimp only
    split
    · exact not_escapes_error rfl
    · exact not_escapes_error rfl
    · split
      · exact not_escapes_error rfl
      · exact not_escapes_ok _

theorem isTooLarge_iff_of_toNumber? {v : Value} {number : Number} (h : v.toNumber? = some number) :
    v.IsTooLarge ↔ ∃ n, number = .int n ∧ (Float.ofInt n).isInf = true := by
  simp only [IsTooLarge, h, Option.some.injEq]

/-- A number fails to be read as a float only when it is too large, and what is no number fails in
another way. -/
theorem toFloat_cases (v : Value) :
    (v.IsTooLarge ∧ v.toFloat = .error .tooLarge) ∨
      (¬v.IsTooLarge ∧ ∀ e, v.toFloat = .error e → e ≠ .tooLarge ∧ ¬e.kind.IsOwn) := by
  have hforeign {e : ArgumentFault} (h : e.kind = .illValued ∨ e.kind = .illTyped) :
      e ≠ .tooLarge ∧ ¬e.kind.IsOwn := by
    constructor
    · rintro rfl
      rcases h with h | h <;> cases h
    · rintro ⟨c, hc⟩
      rw [hc] at h
      rcases h with h | h <;> cases h
  unfold toFloat
  split
  -- Texts, bytes and arrays stand for no number of their own, whatever can be read of them.
  · exact Or.inr ⟨not_isTooLarge rfl, fun e he => (elim_eq_error_iff.1 he).2 ▸ hforeign (Or.inl rfl)⟩
  · exact Or.inr ⟨not_isTooLarge rfl, fun e he => (elim_eq_error_iff.1 he).2 ▸ hforeign (Or.inl rfl)⟩
  · exact Or.inr ⟨not_isTooLarge rfl, fun e he => Except.error.inj he ▸ hforeign (Or.inl rfl)⟩
  · refine Or.inr ⟨not_isTooLarge rfl, fun e he => ?_⟩
    split at he
    · cases he
    · exact Except.error.inj he ▸ hforeign (Or.inr rfl)
  · next type _ _ _ =>
      refine Or.inr ⟨not_isTooLarge (by cases type <;> rfl), fun e he => ?_⟩
      exact Except.error.inj he ▸ hforeign (Or.inr rfl)
  · split
    · next number hn =>
        by_cases hlarge : v.IsTooLarge
        · have hint := (isTooLarge_iff_of_toNumber? hn).1 hlarge
          exact Or.inl ⟨hlarge, Number.toFloat_eq_error_iff.2 ⟨hint, rfl⟩⟩
        · refine Or.inr ⟨hlarge, fun e he => absurd ?_ hlarge⟩
          exact (isTooLarge_iff_of_toNumber? hn).2 (Number.toFloat_eq_error_iff.1 he).1
    · next hn =>
        refine Or.inr ⟨not_isTooLarge hn, fun e he => ?_⟩
        exact Except.error.inj he ▸ hforeign (Or.inr rfl)

theorem toFloat_eq_tooLarge_iff {v : Value} : v.toFloat = .error .tooLarge ↔ v.IsTooLarge := by
  rcases toFloat_cases v with ⟨hlarge, h⟩ | ⟨hsmall, h⟩
  · exact iff_of_true h hlarge
  · exact iff_of_false (fun he => (h _ he).1 rfl) hsmall

/-- No failure to read a float is one of the library's. -/
theorem isForeign_toFloat (v : Value) : IsForeign ArgumentFault.kind v.toFloat := by
  intro e he
  rcases toFloat_cases v with ⟨-, h⟩ | ⟨-, h⟩
  · obtain rfl := Except.error.inj (h.symm.trans he)
    exact nofun
  · exact (h e he).2

theorem escapes_toTolerance_iff {v : Value} :
    Escapes Refusal.kind v.toTolerance ↔ v.IsTooLarge := by
  unfold toTolerance
  split
  · exact iff_of_false (not_escapes_ok _) (not_isTooLarge rfl)
  · exact iff_of_false (not_escapes_ok _) (not_isTooLarge rfl)
  · refine iff_of_false ?_ (not_isTooLarge rfl)
    split
    · exact not_escapes_ok _
    · exact not_escapes_error rfl
  · exact iff_of_false (not_escapes_error rfl) (not_isTooLarge rfl)
  · next b =>
      -- A truth value is refused as one, before the number that it stands for is looked at.
      refine iff_of_false (not_escapes_error rfl) ?_
      rintro ⟨n, hn, hinf⟩
      obtain rfl := Number.int.inj (Option.some.inj hn)
      revert hinf
      cases b <;> decide +kernel
  · next v _ _ _ _ _ =>
      rw [← toFloat_eq_tooLarge_iff]
      split
      · next x hx =>
          rw [escapes_mapError_iff fun _ => rfl]
          exact iff_of_false (not_escapes_require x) (by rw [hx]; exact nofun)
      · next hx =>
          exact iff_of_true (escapes_error_iff.2 nofun) hx
      · next e hne hx =>
          refine iff_of_false (not_escapes_error rfl) fun h => ?_
          exact hne (Except.error.inj (hx.symm.trans h))

theorem isForeign_toBulk (v : Value) : IsForeign ArgumentFault.kind v.toBulk := by
  rw [toBulk]
  refine IsForeign.bind ?_ fun _ => isForeign_ok _
  cases v.extents with
  | ok extents => exact isForeign_ok extents
  | error cause => exact isForeign_error nofun

theorem isForeign_toType (type : ElementType) (b : Bulk) :
    IsForeign ArgumentFault.kind (b.toType type) := by
  unfold Bulk.toType
  split
  · split
    · split
      · exact isForeign_error nofun
      · exact isForeign_ok _
    · exact (Number.isForeign_toFloat _).bind fun _ => isForeign_ok _
  · exact isForeign_ok _

theorem isForeign_zipWith {α β γ : Type} (f : α → β → γ) (a : Tensor α) (b : Tensor β) :
    IsForeign ArgumentFault.kind (liftM (a.zipWith f b) : Except ArgumentFault (Tensor γ)) := by
  unfold Tensor.zipWith
  split
  · exact isForeign_error nofun
  · exact isForeign_ok _

theorem isForeign_equalPlaces (a b : Value) : IsForeign ArgumentFault.kind (a.equalPlaces b) := by
  rw [equalPlaces]
  refine (isForeign_toBulk a).bind fun x => (isForeign_toBulk b).bind fun y => ?_
  dsimp only
  split
  · exact (isForeign_toType _ x).bind fun _ => (isForeign_toType _ y).bind fun _ =>
      (isForeign_zipWith _ _ _).bind fun _ => isForeign_ok _
  · exact (isForeign_zipWith _ _ _).bind fun _ => isForeign_ok _

theorem isForeign_isEqualAtom (a b : Value) : IsForeign ArgumentFault.kind (a.isEqualAtom b) := by
  rw [isEqualAtom]
  split
  · refine (isForeign_equalPlaces a b).bind fun places => ?_
    split
    · exact isForeign_ok _
    · exact isForeign_error nofun
  · exact isForeign_ok _

/-- Where a value is looked for among texts, only an array leaves the answer open. -/
theorem isForeign_isAmong (v : Value) (names : List String) :
    IsForeign ArgumentFault.kind (v.isAmong (names.map text)) := by
  induction names with
  | nil => exact isForeign_ok false
  | cons name names ih =>
      -- A text has no items, so it is compared as a whole.
      have hatom : (text name).isEqualTo v = (text name).isEqualAtom v := by
        rw [isEqualTo] <;> exact nofun
      rw [List.map_cons, isAmong, hatom]
      split
      · exact isForeign_ok true
      · refine (isForeign_isEqualAtom _ v).bind fun same => ?_
        split
        · exact isForeign_ok true
        · exact ih

end Value

end LinearSystems
