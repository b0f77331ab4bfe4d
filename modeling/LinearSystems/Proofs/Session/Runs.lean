import Mathlib
import LinearSystems.Proofs.Session.Calls
import LinearSystems.Session.Basic

/-!
# Runs of requests

A request hands over results of earlier ones and data without objects, so its arguments are sound if
everything that is kept is (`Request.isSound_of_arguments_eq_ok`).  Operations answer sound arguments
with sound values; so what is kept after one request is sound again (`Session.isSound_step`), and by
induction every answer of a run is (`Session.isSound_of_mem_run`).

Therefore **all objects that a run produces are well formed, and what is derived from an object carries
what its tolerance is read as** (`Session.run_wellFormed_and_inherits`).  That is the same tolerance if it
is a float, as all tolerances are but the values of tiers.
-/

namespace LinearSystems

variable {allowed : Value → Prop}

/-! ## Arguments -/

/-- Everything that is kept is sound. -/
def Store.IsSound (allowed : Value → Prop) (store : Store) : Prop :=
  ∀ e ∈ store, e.2.IsSound allowed

theorem Store.isSound_nil : Store.IsSound allowed [] := nofun

theorem Store.isSound_of_find_eq_ok {store : Store} (hstore : store.IsSound allowed) {name : String}
    {v : Value} (h : store.find name = .ok v) : v.IsSound allowed := by
  obtain ⟨front, behind, rfl, -⟩ := List.lookup_eq_some_iff.1 (elim_eq_ok_iff.1 h)
  exact hstore (name, v) (List.mem_append_right front List.mem_cons_self)

namespace Term

variable {store : Store}

mutual

/-- A term has a sound value: it refers to what is kept, or it is put together from such terms and
plain data. -/
theorem isSound_of_eval_eq_ok (hstore : store.IsSound allowed) {term : Term} {v : Value}
    (h : term.eval store = .ok v) : v.IsSound allowed := by
  cases term with
  | ref name => exact Store.isSound_of_find_eq_ok hstore h
  | atom w hw => exact Except.ok.inj h ▸ Value.isSound_of_isAtom hw
  | list items =>
      obtain ⟨vs, hvs, rfl⟩ := map_eq_ok_iff.1 h
      exact Value.isSound_list_iff.2 (isSound_of_evalAll_eq_ok hstore hvs)
  | tuple items =>
      obtain ⟨vs, hvs, rfl⟩ := map_eq_ok_iff.1 h
      exact Value.isSound_tuple_iff.2 (isSound_of_evalAll_eq_ok hstore hvs)
  | dict entries =>
      obtain ⟨es, hes, rfl⟩ := map_eq_ok_iff.1 h
      exact Value.isSound_dict_iff.2 (isSound_of_evalEntries_eq_ok hstore hes)
  | bulk type shape items =>
      obtain ⟨vs, hvs, rfl⟩ := map_eq_ok_iff.1 h
      exact Value.isSound_bulk_iff.2 (isSound_of_evalAll_eq_ok hstore hvs)

theorem isSound_of_evalAll_eq_ok (hstore : store.IsSound allowed) {terms : List Term}
    {vs : List Value} (h : evalAll store terms = .ok vs) : ∀ v ∈ vs, v.IsSound allowed := by
  cases terms with
  | nil => exact Except.ok.inj h ▸ nofun
  | cons term rest =>
      obtain ⟨v, hv, h⟩ := bind_eq_ok_iff.1 h
      obtain ⟨vs, hvs, h⟩ := bind_eq_ok_iff.1 h
      rw [← Except.ok.inj h, List.forall_mem_cons]
      exact ⟨isSound_of_eval_eq_ok hstore hv, isSound_of_evalAll_eq_ok hstore hvs⟩

theorem isSound_of_evalEntries_eq_ok (hstore : store.IsSound allowed)
    {terms : List (String × Term)} {es : List (String × Value)}
    (h : evalEntries store terms = .ok es) : ∀ e ∈ es, e.2.IsSound allowed := by
  cases terms with
  | nil => exact Except.ok.inj h ▸ nofun
  | cons entry rest =>
      obtain ⟨v, hv, h⟩ := bind_eq_ok_iff.1 h
      obtain ⟨es, hes, h⟩ := bind_eq_ok_iff.1 h
      rw [← Except.ok.inj h, List.forall_mem_cons]
      exact ⟨isSound_of_eval_eq_ok hstore hv, isSound_of_evalEntries_eq_ok hstore hes⟩

end

end Term

namespace Request

variable {store : Store} {r : Request} {a : Arguments} {on : Option Value} {operation : String}
  {v : Value}

theorem isSound_of_arguments_eq_ok (hstore : store.IsSound allowed)
    (h : r.arguments store = .ok a) : a.IsSound allowed := by
  obtain ⟨positional, hpositional, h⟩ := bind_eq_ok_iff.1 h
  obtain ⟨named, hnamed, h⟩ := bind_eq_ok_iff.1 h
  obtain rfl := Except.ok.inj h
  exact ⟨Term.isSound_of_evalAll_eq_ok hstore hpositional,
    Term.isSound_of_evalEntries_eq_ok hstore hnamed⟩

/-! ## Single requests -/

/-- A request has the result of its operation. -/
theorem eq_some_of_elim_eq_ok {performed : Option (Except Refusal Value)}
    (h : (performed.elim (.error (Denial.unknown operation)) fun result =>
      result.mapError fun r => Denial.refusal r.worded) = .ok v) : performed = some (.ok v) := by
  cases performed with
  | none => cases h
  | some result => exact congrArg some (mapError_eq_ok_iff.1 h)

variable {room : Nat}

theorem function?_of_perform_eq_ok (h : perform room none operation a = .ok v) :
    Call.function? room operation a = some (.ok v) := by
  obtain ⟨_, -, h⟩ := bind_eq_ok_iff.1 h
  exact eq_some_of_elim_eq_ok h

theorem method?_of_perform_eq_ok {x : Value} (h : perform room (some x) operation a = .ok v) :
    Call.method? x operation a = some (.ok v) := by
  obtain ⟨_, -, h⟩ := bind_eq_ok_iff.1 h
  exact eq_some_of_elim_eq_ok h

theorem answer_eq_ok_iff : r.answer room store = .ok v ↔
    ∃ a on, r.arguments store = .ok a ∧ r.on?.mapM store.find = .ok on ∧
      perform room on r.operation a = .ok v := by
  rw [answer, bind_eq_ok_iff]
  refine exists_congr fun a => ?_
  rw [bind_eq_ok_iff, ← exists_and_left]

/-- The object of a request is kept under the name that it gives. -/
theorem exists_find_of_mapM_eq_ok {x : Value} (h : r.on?.mapM store.find = .ok (some x)) :
    ∃ name, r.on? = some name ∧ store.find name = .ok x := by
  cases hon : r.on? with
  | none =>
      rw [hon] at h
      cases h
  | some name =>
      rw [hon] at h
      obtain ⟨y, hy, h⟩ := map_eq_ok_iff.1 h
      cases h
      exact ⟨name, rfl, hy⟩

section Invariant

variable (hallowed : ∀ τ : Float, Tolerance.require τ = .ok τ → allowed (.float τ))
  (hstore : store.IsSound allowed)

include hallowed hstore

/-- **The answer to a request is sound** if everything that is kept is, and if it is no tier with a
value that is not allowed. -/
theorem isSound_of_answer_eq_ok
    (htier : ∀ value name description, v = .tierOf value name description → allowed value)
    (h : r.answer room store = .ok v) : v.IsSound allowed := by
  obtain ⟨a, on, ha, hon, h⟩ := answer_eq_ok_iff.1 h
  have ha := isSound_of_arguments_eq_ok hstore ha
  cases on with
  | none =>
      have hv := function?_of_perform_eq_ok h
      refine Call.yields_isSound_function? hallowed ha (fun value name description ht => ?_) v hv
      exact htier value name description (Except.ok.inj (Option.some.inj (hv.symm.trans ht)))
  | some x =>
      obtain ⟨name, -, hx⟩ := exists_find_of_mapM_eq_ok hon
      have hx := Store.isSound_of_find_eq_ok hstore hx
      exact (Call.yields_isAnswerOf_method? hallowed hx v (method?_of_perform_eq_ok h)).isSound

/-- **What is derived from an object carries what its tolerance is read as**, and that tolerance is an
allowed one. -/
theorem exists_tolerance_of_answer_eq_ok (hderives : r.operation ∈ Call.derivations)
    (h : r.answer room store = .ok v) :
    ∃ name x t t', r.on? = some name ∧ store.find name = .ok x ∧ x.tolerance? = some t ∧
      v.tolerance? = some t' ∧ Call.inherited r.operation t = .ok t' ∧ allowed t := by
  obtain ⟨a, on, -, hon, h⟩ := answer_eq_ok_iff.1 h
  cases on with
  | none =>
      -- Nothing that stands alone derives an object.
      have hv := function?_of_perform_eq_ok h
      rw [Call.function?_eq_none_of_mem_derivations hderives] at hv
      cases hv
  | some x =>
      obtain ⟨name, hname, hfind⟩ := exists_find_of_mapM_eq_ok hon
      have hx := Store.isSound_of_find_eq_ok hstore hfind
      have hanswer := Call.yields_isAnswerOf_method? hallowed hx v (method?_of_perform_eq_ok h)
      obtain ⟨t, t', ht, ht', hinherited⟩ := hanswer.carries hderives
      exact ⟨name, x, t, t', hname, hfind, ht, Value.tolerance?_of_carried? ht', hinherited,
        (hx.mayBeCarried ht).isAllowed⟩

end Invariant

end Request

/-! ## Tolerances that are handed on -/

namespace Call

variable {name : String} {t t' : Value}

/-- Reading a tolerance makes a float of it, or it takes a tier apart. -/
theorem exists_float_or_sizeOf_lt (h : t.resolve = .ok t') :
    (∃ τ, t' = .float τ) ∨ sizeOf t' < sizeOf t := by
  rcases Value.resolve_eq_ok_cases h with ⟨name, description, rfl⟩ | ⟨-, τ, -, rfl⟩
  · refine Or.inr ?_
    rw [Value.tierOf.sizeOf_spec]
    omega
  · exact Or.inl ⟨τ, rfl⟩

/-- **Only a float is handed on as it is.** -/
theorem inherited_eq_self_iff (h : inherited name t = .ok t') :
    t' = t ↔ ∃ τ, t = .float τ := by
  obtain ⟨first, hfirst, hsecond⟩ := bind_eq_ok_iff.1 h
  clear h
  constructor
  · rintro rfl
    split at hsecond
    -- After two readings there is a float, or the tolerance has been taken apart twice.
    · rcases exists_float_or_sizeOf_lt hsecond with hfloat | hlt
      · exact hfloat
      · rcases exists_float_or_sizeOf_lt hfirst with ⟨τ, rfl⟩ | hlt'
        · exact ⟨τ, (Value.resolve_float_eq_ok_iff.1 hsecond).2⟩
        · omega
    · obtain rfl := Except.ok.inj hsecond
      exact (exists_float_or_sizeOf_lt hfirst).resolve_right (lt_irrefl _)
  · rintro ⟨τ, rfl⟩
    obtain rfl := (Value.resolve_float_eq_ok_iff.1 hfirst).2
    split at hsecond
    · exact (Value.resolve_float_eq_ok_iff.1 hsecond).2
    · exact (Except.ok.inj hsecond).symm

end Call

/-! ## Runs -/

namespace Session

variable {room : Nat} {store : Store} {requests : List Request} {v : Value}

/-- Among the answers is a tier that was made with this value. -/
def MakesTier (answers : List (Except Denial Value)) (value : Value) : Prop :=
  ∃ name description, .ok (.tierOf value name description) ∈ answers

theorem run_cons (r : Request) :
    run room store (r :: requests) =
      (step room store r).1 :: run room (step room store r).2 requests := rfl

theorem makesTier_of_cons {answer : Except Denial Value} {answers : List (Except Denial Value)}
    {value : Value} (h : MakesTier answers value) : MakesTier (answer :: answers) value := by
  obtain ⟨name, description, h⟩ := h
  exact ⟨name, description, List.mem_cons_of_mem _ h⟩

theorem isSound_keep {r : Request} {answer : Except Denial Value} (hstore : store.IsSound allowed)
    (hanswer : ∀ v, answer = .ok v → v.IsSound allowed) : (keep store r answer).IsSound allowed := by
  unfold keep
  split
  · exact hstore
  · exact hstore
  · exact hstore
  · exact List.forall_mem_cons.2 ⟨hanswer _ rfl, hstore⟩

section Invariant

variable (hallowed : ∀ τ : Float, Tolerance.require τ = .ok τ → allowed (.float τ))

include hallowed

/-- The answer to one request is sound, and so is what is kept with it. -/
theorem isSound_step {r : Request} (hstore : store.IsSound allowed)
    (htier : ∀ value, MakesTier [(step room store r).1] value → allowed value) :
    (∀ v, (step room store r).1 = .ok v → v.IsSound allowed) ∧
      (step room store r).2.IsSound allowed := by
  have hanswer : ∀ v, (step room store r).1 = .ok v → v.IsSound allowed := by
    intro v hv
    refine Request.isSound_of_answer_eq_ok hallowed hstore (fun value name description ht => ?_) hv
    exact htier value ⟨name, description, List.mem_singleton.2 (ht ▸ hv.symm)⟩
  exact ⟨hanswer, isSound_keep hstore hanswer⟩

/-- **Every answer of a run is sound if the tiers that it makes are**, and so is what is kept
afterwards. -/
theorem isSound_run (hstore : store.IsSound allowed)
    (htier : ∀ value, MakesTier (run room store requests) value → allowed value) :
    (∀ v, .ok v ∈ run room store requests → v.IsSound allowed) ∧
      (after room store requests).IsSound allowed := by
  -- The store is general, since each request starts from what the ones before it have kept.
  induction requests generalizing store with
  | nil => exact ⟨nofun, hstore⟩
  | cons r rest ih =>
      rw [run_cons] at htier ⊢
      obtain ⟨hfirst, hkept⟩ := isSound_step hallowed hstore fun value ⟨name, description, h⟩ =>
        htier value ⟨name, description, List.mem_cons.2 (Or.inl (List.mem_singleton.1 h))⟩
      obtain ⟨hanswers, hafter⟩ := ih hkept fun value h => htier value (makesTier_of_cons h)
      refine ⟨fun v hv => ?_, hafter⟩
      rcases List.mem_cons.1 hv with hv | hv
      · exact hfirst v hv.symm
      · exact hanswers v hv

end Invariant

/-- **Whatever is asked for, and whatever of it is refused, all objects that are answered with are well
formed.**  And whenever an object is derived from another one, it carries what the tolerance of that one
is read as: of the left operand, or of the base point of a general solution.  It is the same tolerance
exactly if that is a float, and everything else is the value of a tier that was made before. -/
theorem run_wellFormed_and_inherits (room : Nat) (requests : List Request) :
    (∀ v, .ok v ∈ run room [] requests → ∀ w ∈ v.objects, w.IsWellFormed) ∧
    ∀ (r : Request) (v : Value), r.operation ∈ Call.derivations →
      r.answer room (after room [] requests) = .ok v →
        ∃ name x t t', r.on? = some name ∧ (after room [] requests).find name = .ok x ∧
          x.tolerance? = some t ∧ v.tolerance? = some t' ∧ Call.inherited r.operation t = .ok t' ∧
          (t' = t ↔ ∃ τ, t = .float τ) ∧
          ((∃ τ, t = .float τ) ∨ MakesTier (run room [] requests) t) := by
  have hrun : (∀ v, .ok v ∈ run room [] requests → v.IsSound fun t =>
        (∃ τ, t = .float τ) ∨ MakesTier (run room [] requests) t) ∧
      (after room [] requests).IsSound fun t =>
        (∃ τ, t = .float τ) ∨ MakesTier (run room [] requests) t :=
    isSound_run (fun τ _ => Or.inl ⟨τ, rfl⟩) Store.isSound_nil fun _ => Or.inr
  obtain ⟨hanswers, hafter⟩ := hrun
  refine ⟨fun v hv w hw => (hanswers v hv w hw).1, fun r v hderives hanswer => ?_⟩
  obtain ⟨name, x, t, t', hname, hx, ht, ht', hinherited, hsource⟩ :=
    Request.exists_tolerance_of_answer_eq_ok (fun τ _ => Or.inl ⟨τ, rfl⟩) hafter hderives hanswer
  exact ⟨name, x, t, t', hname, hx, ht, ht', hinherited, Call.inherited_eq_self_iff hinherited, hsource⟩

/-- A column under a tolerance of its own is asked for, and then its direction. -/
theorem run_wellFormed_and_inherits_direction :
    let column : Request :=
      { operation := "Vector",
        positional := [.list [.atom (.int 3) rfl, .atom (.int 4) rfl], .atom (.float 1e-3) rfl],
        keep? := some "v" }
    let direction : Request := { operation := "normalize", on? := some "v" }
    (∃ v, .ok v ∈ run 0 [] [column] ∧ ∃ w ∈ v.objects, w.IsWellFormed) ∧
      direction.operation ∈ Call.derivations ∧
      ∃ v, direction.answer 0 (after 0 [] [column]) = .ok v ∧ v.tolerance? = some (.float 1e-3) := by
  intro column direction
  obtain ⟨hobjects, hinherits⟩ := run_wellFormed_and_inherits 0 [column]
  have hderives : direction.operation ∈ Call.derivations := by decide
  refine ⟨?_, hderives, ?_⟩
  · obtain ⟨v, hv, hobject⟩ : ∃ v, column.answer 0 [] = .ok v ∧ 0 < v.objects.length :=
      exists_eq_ok_of_any (by decide +kernel)
    obtain ⟨w, hw⟩ := List.exists_mem_of_length_pos hobject
    have hmem : .ok v ∈ run 0 [] [column] := List.mem_cons.2 (Or.inl hv.symm)
    exact ⟨v, hmem, w, hw, hobjects v hmem w hw⟩
  · obtain ⟨v, hv⟩ : ∃ v, direction.answer 0 (after 0 [] [column]) = .ok v :=
      exists_eq_ok_of_isSome (by decide +kernel)
    obtain ⟨name, x, t, t', hname, hx, ht, hresult, -, hsame, -⟩ := hinherits direction v hderives hv
    obtain rfl := Option.some.inj hname
    have hcolumn : ((after 0 [] [column]).find "v").toOption.bind Value.tolerance? =
        some (.float 1e-3) := rfl
    rw [hx] at hcolumn
    obtain rfl := Option.some.inj (ht.symm.trans hcolumn)
    exact ⟨v, hv, hresult.trans (congrArg some (hsame.2 ⟨1e-3, rfl⟩))⟩

/-- The value of a tier is an integer that no float equals: a matrix carries it, and its transpose does
not. -/
theorem transpose_under_integer_tier :
    let tier : Request :=
      { operation := "ToleranceTier",
        positional := [.atom (.int 9007199254740993) rfl, .atom (.text "x") rfl,
          .atom (.text "y") rfl],
        keep? := some "t" }
    let matrix : Request :=
      { operation := "Matrix", positional := [.list [.list [.atom (.int 1) rfl]], .ref "t"],
        keep? := some "m" }
    let transposed : Request := { operation := "transpose", on? := some "m" }
    transposed.operation ∈ Call.derivations ∧
      ∃ x v, (after 0 [] [tier, matrix]).find "m" = .ok x ∧
        transposed.answer 0 (after 0 [] [tier, matrix]) = .ok v ∧
        x.tolerance? = some (.int 9007199254740993) ∧
        v.tolerance? = some (.float 9007199254740992) ∧ x.tolerance? ≠ v.tolerance? ∧
        Number.eq (.int 9007199254740993) (.float 9007199254740992) = false := by
  intro tier matrix transposed
  obtain ⟨x, hx, hcarried⟩ : ∃ x, (after 0 [] [tier, matrix]).find "m" = .ok x ∧
      x.tolerance? = some (.int 9007199254740993) := exists_eq_ok_of_bind rfl
  obtain ⟨v, hv, hresult⟩ : ∃ v, transposed.answer 0 (after 0 [] [tier, matrix]) = .ok v ∧
      v.tolerance? = some (.float 9007199254740992) := exists_eq_ok_of_bind rfl
  refine ⟨by decide, x, v, hx, hv, hcarried, hresult, fun h => ?_, by decide +kernel⟩
  exact nomatch hcarried.symm.trans (h.trans hresult)

end Session

end LinearSystems
