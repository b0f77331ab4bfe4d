import Mathlib
import LinearSystems.Elimination.Reduction

/-!
# How an answer can fail

What an elimination answers with are columns of numbers: a solution, or a base point with its
directions.  A column without an entry, with an undefined or infinite entry, or with a tolerance
that is not positive and finite is refused (`Vec.ofComponents_eq_error`), and every other one is
made (`Vec.ofComponents_eq_ok_iff`).  Nothing else in the answer can fail: **a fault of the
answer is the fault of one of its columns** (`Elimination.exists_ofComponents_eq_error`), and an
answer that is given holds finite numbers only (`Elimination.hasFiniteAnswer_of_conclude_eq_ok`).
-/

namespace LinearSystems

/-! ## Builds in steps -/

section Steps

variable {ε α β : Type} {x : Except ε α}

/-- What a build in two steps says of its steps. -/
theorem bind_eq_ok_iff {f : α → Except ε β} {b : β} :
    (x >>= f) = .ok b ↔ ∃ a, x = .ok a ∧ f a = .ok b := by
  cases x with
  | error e => exact iff_of_false nofun fun ⟨_, ha, _⟩ => nomatch ha
  | ok a => exact ⟨fun h => ⟨a, rfl, h⟩, fun ⟨_, ha, h⟩ => Except.ok.inj ha ▸ h⟩

/-- Where the build fails, one of the steps does. -/
theorem bind_eq_error_iff {f : α → Except ε β} {e : ε} :
    (x >>= f) = .error e ↔ x = .error e ∨ ∃ a, x = .ok a ∧ f a = .error e := by
  cases x with
  | error e' =>
      constructor
      · exact fun h => Or.inl (congrArg _ (Except.error.inj h))
      · rintro (h | ⟨_, ha, -⟩)
        · exact congrArg _ (Except.error.inj h)
        · cases ha
  | ok a =>
      constructor
      · exact fun h => Or.inr ⟨a, rfl, h⟩
      · rintro (h | ⟨_, ha, h⟩)
        · cases h
        · exact Except.ok.inj ha ▸ h

theorem map_eq_ok_iff {f : α → β} {b : β} : f <$> x = .ok b ↔ ∃ a, x = .ok a ∧ f a = b := by
  cases x with
  | error e => exact iff_of_false nofun fun ⟨_, ha, _⟩ => nomatch ha
  | ok a =>
      constructor
      · exact fun h => ⟨a, rfl, Except.ok.inj h⟩
      · rintro ⟨_, ha, rfl⟩
        exact Except.ok.inj ha ▸ rfl

theorem map_eq_error_iff {f : α → β} {e : ε} : f <$> x = .error e ↔ x = .error e := by
  cases x with
  | error e' =>
      exact ⟨fun h => congrArg _ (Except.error.inj h), fun h => congrArg _ (Except.error.inj h)⟩
  | ok a => exact iff_of_false nofun nofun

theorem mapError_eq_ok_iff {g : ε → β} {a : α} : x.mapError g = .ok a ↔ x = .ok a := by
  cases x with
  | error e => exact iff_of_false nofun nofun
  | ok a' => exact ⟨fun h => congrArg _ (Except.ok.inj h), fun h => congrArg _ (Except.ok.inj h)⟩

/-- A search that has to find something finds it. -/
theorem elim_eq_ok_iff {found? : Option α} {e : ε} {a : α} :
    found?.elim (.error e) Except.ok = .ok a ↔ found? = some a := by
  cases found? with
  | none => exact iff_of_false nofun nofun
  | some b =>
      exact ⟨fun h => congrArg some (Except.ok.inj h), fun h => congrArg _ (Option.some.inj h)⟩

theorem elim_eq_error_iff {found? : Option α} {e e' : ε} :
    found?.elim (.error e) Except.ok = .error e' ↔ found? = none ∧ e = e' := by
  cases found? with
  | none => exact ⟨fun h => ⟨rfl, Except.error.inj h⟩, fun h => congrArg _ h.2⟩
  | some b => exact iff_of_false nofun nofun

/-- A result that a computation finds, with a property that it checks. -/
theorem exists_eq_ok_of_any {P : α → Prop} [DecidablePred P]
    (h : x.toOption.any (fun a => decide (P a)) = true) : ∃ a, x = .ok a ∧ P a := by
  cases x with
  | error e => cases h
  | ok a => exact ⟨a, rfl, of_decide_eq_true h⟩

/-- A result that a computation finds, with what is read of it. -/
theorem exists_eq_ok_of_bind {f : α → Option β} {b : β} (h : x.toOption.bind f = some b) :
    ∃ a, x = .ok a ∧ f a = some b := by
  cases x with
  | ok a => exact ⟨a, rfl, h⟩
  | error e => cases h

theorem exists_eq_ok_of_isSome (h : x.toOption.isSome = true) : ∃ a, x = .ok a := by
  cases x with
  | error e => cases h
  | ok a => exact ⟨a, rfl⟩

theorem exists_eq_error_of_isNone (h : x.toOption.isNone = true) : ∃ e, x = .error e := by
  cases x with
  | error e => exact ⟨e, rfl⟩
  | ok a => cases h

/-- Where a list of results cannot be had, one of them fails. -/
theorem exists_eq_error_of_mapM {f : α → Except ε β} {l : List α} {e : ε}
    (h : l.mapM f = .error e) : ∃ a ∈ l, f a = .error e := by
  induction l with
  | nil => cases h
  | cons a l ih =>
      rw [List.mapM_cons, bind_eq_error_iff] at h
      obtain hfirst | ⟨b, -, h⟩ := h
      · exact ⟨a, List.mem_cons_self, hfirst⟩
      · obtain hrest | ⟨bs, -, h⟩ := bind_eq_error_iff.1 h
        · obtain ⟨a', ha', hfails⟩ := ih hrest
          exact ⟨a', List.mem_cons_of_mem a ha', hfails⟩
        · cases h

/-- A list of results can be had when each of them can. -/
theorem mapM_eq_ok_map {f : α → Except ε β} {g : α → β} {l : List α} (h : ∀ a ∈ l, f a = .ok (g a)) :
    l.mapM f = .ok (l.map g) := by
  induction l with
  | nil => rfl
  | cons a l ih =>
      obtain ⟨ha, hl⟩ := List.forall_mem_cons.1 h
      rw [List.mapM_cons, ha, ih hl]
      rfl

/-- Computations that all go by one answer ask for it as often as they like. -/
theorem mapM_eq_map_of_ne_nil {γ : Type} {f : α → Except ε β} {g : γ → α → β} {x : Except ε γ}
    {l : List α} (h : ∀ a ∈ l, f a = (g · a) <$> x) (hne : l ≠ []) :
    l.mapM f = (fun c => l.map (g c)) <$> x := by
  cases x with
  | error e =>
      obtain ⟨a, l, rfl⟩ := List.exists_cons_of_ne_nil hne
      rw [List.mapM_cons, h a List.mem_cons_self]
      rfl
  | ok c => exact mapM_eq_ok_map h

theorem forall₂_of_mapM_eq_ok {f : α → Except ε β} {l : List α} {r : List β}
    (h : l.mapM f = .ok r) : List.Forall₂ (fun a b => f a = .ok b) l r := by
  induction l generalizing r with
  | nil =>
      obtain rfl := Except.ok.inj h
      exact .nil
  | cons a l ih =>
      rw [List.mapM_cons, bind_eq_ok_iff] at h
      obtain ⟨b, hfirst, h⟩ := h
      obtain ⟨bs, hrest, h⟩ := bind_eq_ok_iff.1 h
      obtain rfl := Except.ok.inj h
      exact .cons hfirst (ih hrest)

/-- What each pair says of its second part holds of all second parts. -/
theorem forall_mem_of_forall₂ {R : α → β → Prop} {P : β → Prop} {l : List α} {r : List β}
    (h : List.Forall₂ R l r) (hP : ∀ a b, R a b → P b) : ∀ b ∈ r, P b := by
  induction h with
  | nil => exact nofun
  | cons hfirst _ ih => exact List.forall_mem_cons.2 ⟨hP _ _ hfirst, ih⟩

end Steps

/-! ## Checks -/

variable {K : Type} [Scalar K] {m d n : Nat}

theorem requireFinite_eq_ok_iff {argument : String} {entries : List K} :
    requireFinite argument entries = .ok () ↔ ∀ x ∈ entries, Scalar.isFinite x = true := by
  unfold requireFinite
  simp only [ite_eq_left_iff, reduceCtorEq, imp_false, not_not, List.countP_eq_zero,
    Scalar.isFinite, Bool.and_eq_true, Bool.not_eq_true', Bool.not_eq_true]
  exact forall₂_and.symm

theorem requireFinite_eq_error {argument : String} {entries : List K} {fault : Fault K}
    (h : requireFinite argument entries = .error fault) :
    ∃ undefined infinite, fault = .nonFinite argument undefined infinite := by
  simp only [requireFinite] at h
  split at h
  · cases h
  · exact ⟨_, _, (Except.error.inj h).symm⟩

theorem Tolerance.require_eq_error {τ : K} {fault : Fault K}
    (h : Tolerance.require τ = .error fault) : fault = .tolerance τ := by
  unfold Tolerance.require at h
  split at h
  · cases h
  · exact (Except.error.inj h).symm

theorem Tolerance.eq_of_require_eq_ok {τ σ : K} (h : Tolerance.require τ = .ok σ) : σ = τ := by
  unfold Tolerance.require at h
  split at h
  · exact (Except.ok.inj h).symm
  · cases h

omit [Scalar K] in
theorem requireIndex_natCast (argument : String) (i : Fin n) :
    (requireIndex argument (i : Nat) n : Except (Fault K) (Fin n)) = .ok i := by
  have hrange : 0 ≤ ((i : Nat) : Int) ∧ ((i : Nat) : Int) < n := by omega
  rw [requireIndex, dif_pos hrange]
  rfl

/-! ## Vectors -/

namespace Vec

variable {x : Vector K n} {τ : K}

omit [Scalar K] in
/-- The component at an index is the one in the list, where there is one. -/
theorem element_eq_ok_iff {v : Vec K} {j : Nat} {c : K} :
    v.element (j : Int) = .ok c ↔ v.toList[j]? = some c := by
  by_cases hj : j < v.dimensions
  · have helement : v.element (j : Int) = .ok v.components[j] := by
      rw [element, requireIndex_natCast "position" ⟨j, hj⟩]
      rfl
    rw [helement, Except.ok.injEq, toList, Vector.getElem?_toList, Vector.getElem?_eq_getElem hj,
      Option.some_inj]
  · have hnone : v.toList[j]? = none := by
      rw [List.getElem?_eq_none_iff, toList, Vector.length_toList]
      exact Nat.not_lt.1 hj
    have hrange : ¬ (0 ≤ (j : Int) ∧ (j : Int) < v.dimensions) := by omega
    rw [hnone, element, requireIndex, dif_neg hrange]
    exact iff_of_false nofun nofun

/-- Where there is a component, only the components are looked at, not how they lie. -/
theorem requireComponents_of_pos (hn : 0 < n) (o : Orientation) :
    requireComponents x o = requireFinite "elements" x.toList := by
  cases o <;> simp [requireComponents, requireNonempty, extents, hn.ne, bind, Except.bind]

/-- A column is refused for its extent, for its entries or for its tolerance. -/
theorem ofComponents_eq_error {fault : Fault K} (h : ofComponents x τ = .error fault) :
    (n = 0 ∧ fault = .empty "elements" [n, 1]) ∨
      (∃ undefined infinite, fault = .nonFinite "elements" undefined infinite) ∨
      (Tolerance.require τ = .error fault ∧ fault = .tolerance τ) := by
  rcases Nat.eq_zero_or_pos n with rfl | hn
  · left
    exact ⟨rfl, (Except.error.inj h).symm⟩
  · right
    rw [ofComponents, requireComponents_of_pos hn, bind_eq_error_iff] at h
    obtain hfinite | ⟨_, -, h⟩ := h
    · exact Or.inl (requireFinite_eq_error hfinite)
    · obtain htolerance | ⟨_, -, h⟩ := bind_eq_error_iff.1 h
      · exact Or.inr ⟨htolerance, Tolerance.require_eq_error htolerance⟩
      · cases h

/-- No fault of a column is one of the library's own making. -/
theorem kind_ne_of_ofComponents_eq_error {fault : Fault K} (h : ofComponents x τ = .error fault) :
    fault.kind ≠ .own .invariantViolation := by
  rcases ofComponents_eq_error h with ⟨-, rfl⟩ | ⟨_, _, rfl⟩ | ⟨-, rfl⟩ <;> exact nofun

/-- No component is infinite or undefined. -/
def IsFinite (v : Vec K) : Prop := ∀ y ∈ v.toList, Scalar.isFinite y = true

/-- What every vector has passed: a component, and none that is undefined or infinite. -/
structure IsAdmissible (v : Vec K) : Prop where
  pos : 0 < v.dimensions
  finite : v.IsFinite

theorem requireComponents_eq_ok_iff {o : Orientation} :
    requireComponents x o = .ok () ↔ (⟨n, x, o, τ⟩ : Vec K).IsAdmissible := by
  rcases Nat.eq_zero_or_pos n with rfl | hn
  · have hempty : requireComponents x o ≠ .ok () := by
      cases o <;> exact nofun
    exact iff_of_false hempty fun h => lt_irrefl 0 h.pos
  · rw [requireComponents_of_pos hn, requireFinite_eq_ok_iff]
    exact ⟨fun h => ⟨hn, h⟩, fun h => h.finite⟩

theorem ofComponents_eq_ok_iff {o : Orientation} {v : Vec K} :
    ofComponents x τ o = .ok v ↔
      v = ⟨n, x, o, τ⟩ ∧ v.IsAdmissible ∧ Tolerance.require τ = .ok τ := by
  rw [ofComponents, bind_eq_ok_iff]
  constructor
  · rintro ⟨_, hcomponents, hmade⟩
    obtain ⟨σ, hτ, hv⟩ := bind_eq_ok_iff.1 hmade
    obtain rfl := Tolerance.eq_of_require_eq_ok hτ
    obtain rfl := Except.ok.inj hv
    exact ⟨rfl, requireComponents_eq_ok_iff.1 hcomponents, hτ⟩
  · rintro ⟨rfl, hadmissible, hτ⟩
    exact ⟨(), requireComponents_eq_ok_iff.2 hadmissible, bind_eq_ok_iff.2 ⟨τ, hτ, rfl⟩⟩

theorem isFinite_of_ofComponents_eq_ok {v : Vec K} (h : ofComponents x τ = .ok v) :
    v.IsFinite :=
  (ofComponents_eq_ok_iff.1 h).2.1.finite

/-- However it lies, a vector of numbers is made. -/
theorem ofComponents_eq_ok_of_finite {o : Orientation} (hn : 0 < n)
    (hτ : Tolerance.require τ = .ok τ) (hx : ∀ i, Scalar.isFinite (x.get i) = true) :
    ofComponents x τ o = .ok ⟨n, x, o, τ⟩ := by
  refine ofComponents_eq_ok_iff.2 ⟨rfl, ⟨hn, fun y hy => ?_⟩, hτ⟩
  obtain ⟨i, hi, rfl⟩ := List.mem_iff_getElem.1 hy
  rw [toList, Vector.length_toList] at hi
  exact hx ⟨i, hi⟩

end Vec

/-! ## Answers -/

/-- The column is read off the table and its offsets: the coordinates at some pivots, or the
direction of a column. -/
def IsRead (g : Grid K m d) (b : Vector K m) (x : Vector K d) : Prop :=
  ∃ pivots : List (Pivot m d), x = pivotPoint pivots b ∨ ∃ j, x = freeDirection pivots g j

/-- No number that the report answers with is infinite or undefined. -/
def Report.HasFiniteAnswer (r : Report K m d) : Prop :=
  (∀ x, r.solution = some x → x.IsFinite) ∧
    ∀ q, r.parametrization = some q → q.basePoint.IsFinite ∧ ∀ v ∈ q.directions, v.IsFinite

namespace Parametrization

variable {τ : K} {g : Grid K m d} {b : Vector K m} {q : Parametrization K}

omit [Scalar K] in
theorem ofParts_eq_ok_iff {dimensions : Int} {base : Vec K} {directions : List (Vec K)}
    {free : List Int} :
    ofParts dimensions base directions free = .ok q ↔
      directions.length = free.length ∧ q = ⟨dimensions, base, directions, free⟩ := by
  unfold ofParts
  split
  · next hlength =>
      rw [Except.ok.injEq, eq_comm]
      exact (and_iff_right hlength).symm
  · next hlength => exact iff_of_false nofun fun h => hlength h.1

/-- What a parametrization says of the table that it was read off. -/
theorem columns_of_ofReduced_eq_ok (h : ofReduced g b τ = .ok q) :
    Vec.ofComponents (pivotPoint (g.pivots τ) b) τ = .ok q.basePoint ∧
      List.Forall₂ (fun j v => Vec.ofComponents (freeDirection (g.pivots τ) g j) τ = .ok v)
        (freeColumns (g.pivots τ)) q.directions ∧
      q.directions.length = q.freeVariables.length ∧
      q.freeVariables = (freeColumns (g.pivots τ)).map fun j : Fin d => (j.val : Int) + 1 := by
  obtain ⟨directions, hdirections, h⟩ := bind_eq_ok_iff.1 h
  obtain ⟨base, hbase, h⟩ := bind_eq_ok_iff.1 h
  obtain ⟨hlength, rfl⟩ := ofParts_eq_ok_iff.1 h
  exact ⟨hbase, forall₂_of_mapM_eq_ok hdirections, hlength, rfl⟩

theorem isFinite_of_ofReduced_eq_ok (h : ofReduced g b τ = .ok q) :
    q.basePoint.IsFinite ∧ ∀ v ∈ q.directions, v.IsFinite := by
  obtain ⟨hbase, hdirections, -, -⟩ := columns_of_ofReduced_eq_ok h
  exact ⟨Vec.isFinite_of_ofComponents_eq_ok hbase,
    forall_mem_of_forall₂ hdirections fun _ _ => Vec.isFinite_of_ofComponents_eq_ok⟩

theorem exists_ofComponents_eq_error {fault : Fault K} (h : ofReduced g b τ = .error fault) :
    ∃ x, IsRead g b x ∧ Vec.ofComponents x τ = .error fault := by
  obtain hdirections | ⟨directions, hdirections, h⟩ := bind_eq_error_iff.1 h
  · obtain ⟨j, -, hj⟩ := exists_eq_error_of_mapM hdirections
    exact ⟨_, ⟨_, Or.inr ⟨j, rfl⟩⟩, hj⟩
  · obtain hbase | ⟨base, -, h⟩ := bind_eq_error_iff.1 h
    · exact ⟨_, ⟨_, Or.inl rfl⟩, hbase⟩
    · -- There is one free variable for each direction, so the parts always fit.
      have hlength : directions.length =
          ((freeColumns (g.pivots τ)).map fun j : Fin d => (j.val : Int) + 1).length := by
        rw [List.length_map]
        exact (forall₂_of_mapM_eq_ok hdirections).length_eq.symm
      rw [ofParts_eq_ok_iff.2 ⟨hlength, rfl⟩] at h
      cases h

end Parametrization

/-- **What makes an answer fail is a column of numbers that cannot be made.** -/
theorem Elimination.exists_ofComponents_eq_error {e : Elimination K m d}
    {pivots : List (Pivot m d)} {fault : Fault K} (h : e.conclude pivots = .error fault) :
    ∃ x, IsRead e.tableau.rows e.tableau.offsets x ∧
      Vec.ofComponents x e.tolerance = .error fault := by
  unfold conclude at h
  cases hkind : e.tableau.classify e.tolerance pivots.length with
  | inconsistent =>
      simp only [hkind] at h
      cases h
  | unique =>
      simp only [hkind] at h
      obtain hx | ⟨_, -, h⟩ := bind_eq_error_iff.1 h
      · exact ⟨_, ⟨_, Or.inl rfl⟩, map_eq_error_iff.1 hx⟩
      · cases h
  | infinite =>
      simp only [hkind] at h
      obtain hnone | ⟨_, -, h⟩ := bind_eq_error_iff.1 h
      · cases hnone
      obtain hq | ⟨_, -, h⟩ := bind_eq_error_iff.1 h
      · exact Parametrization.exists_ofComponents_eq_error (map_eq_error_iff.1 hq)
      · cases h

/-- What a report holds, by its verdict. -/
theorem Elimination.conclude_eq_ok_cases {e : Elimination K m d} {pivots : List (Pivot m d)}
    {r : Report K m d} (h : e.conclude pivots = .ok r) :
    (e.tableau.classify e.tolerance pivots.length = .inconsistent ∧
      r = ⟨.inconsistent, e.tableau.rows, e.tableau.offsets, pivots, none, none, e.smallPivots⟩) ∨
    (∃ x, e.tableau.classify e.tolerance pivots.length = .unique ∧
      e.tableau.uniqueSolution e.tolerance pivots = .ok x ∧
      r = ⟨.unique, e.tableau.rows, e.tableau.offsets, pivots, some x, none, e.smallPivots⟩) ∨
    ∃ q, e.tableau.classify e.tolerance pivots.length = .infinite ∧
      Parametrization.ofReduced e.tableau.rows e.tableau.offsets e.tolerance = .ok q ∧
      r = ⟨.infinite, e.tableau.rows, e.tableau.offsets, pivots, none, some q, e.smallPivots⟩ := by
  unfold conclude at h
  cases hkind : e.tableau.classify e.tolerance pivots.length with
  | inconsistent =>
      simp only [hkind] at h
      exact Or.inl ⟨rfl, (Except.ok.inj h).symm⟩
  | unique =>
      simp only [hkind] at h
      obtain ⟨_, hsolution, h⟩ := bind_eq_ok_iff.1 h
      obtain ⟨x, hx, rfl⟩ := map_eq_ok_iff.1 hsolution
      exact Or.inr (Or.inl ⟨x, rfl, hx, (Except.ok.inj h).symm⟩)
  | infinite =>
      simp only [hkind] at h
      obtain ⟨_, hnone, h⟩ := bind_eq_ok_iff.1 h
      obtain rfl := Except.ok.inj hnone
      obtain ⟨_, hparametrization, h⟩ := bind_eq_ok_iff.1 h
      obtain ⟨q, hq, rfl⟩ := map_eq_ok_iff.1 hparametrization
      exact Or.inr (Or.inr ⟨q, rfl, hq, (Except.ok.inj h).symm⟩)

/-- **An answer that is given is finite.** -/
theorem Elimination.hasFiniteAnswer_of_conclude_eq_ok {e : Elimination K m d}
    {pivots : List (Pivot m d)} {r : Report K m d} (h : e.conclude pivots = .ok r) :
    r.HasFiniteAnswer := by
  rcases conclude_eq_ok_cases h with ⟨-, rfl⟩ | ⟨x, -, hx, rfl⟩ | ⟨q, -, hq, rfl⟩
  · exact ⟨nofun, nofun⟩
  · refine ⟨fun y hy => ?_, nofun⟩
    obtain rfl := Option.some.inj hy
    exact Vec.isFinite_of_ofComponents_eq_ok hx
  · refine ⟨nofun, fun p hp => ?_⟩
    obtain rfl := Option.some.inj hp
    exact Parametrization.isFinite_of_ofReduced_eq_ok hq

end LinearSystems
