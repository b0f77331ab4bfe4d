import Mathlib
import LinearSystems.Proofs.Answers
import LinearSystems.LinearSystem

/-!
# What the constructors let in

The normal of an equation passed the check of its components, and its offset is a finite number
(`LinearEquation.IsAdmissible`).  Each constructor is characterized by what it lets in and what it
makes of it, so that nobody unfolds it again.

A system is made of arrays or of equations.  Both constructors give the same system, up to the
equations that it remembers, when the equations state the rows of the arrays (`StatesRows`,
`StatesRows.ofEquations_some`, `LinearSystem.AdmissibleArrays.ofArrays_eq_ok_iff`).
-/

namespace LinearSystems

variable {K : Type} [Scalar K]

/-! ## Normals that stand upright -/

namespace Vec

omit [Scalar K] in
/-- The column of the same components; a single component stays as it is. -/
def upright (v : Vec K) : Vec K := if v.isHorizontal then { v with orientation := .column } else v

omit [Scalar K] in
@[simp] theorem toList_upright (v : Vec K) : v.upright.toList = v.toList := by
  unfold upright
  split <;> rfl

omit [Scalar K] in
@[simp] theorem tolerance_upright (v : Vec K) : v.upright.tolerance = v.tolerance := by
  unfold upright
  split <;> rfl

omit [Scalar K] in
theorem orientation_of_isHorizontal {v : Vec K} (h : v.isHorizontal = true) :
    v.orientation = .row := by
  rw [isHorizontal, Bool.and_eq_true] at h
  exact eq_of_beq h.1

theorem IsAdmissible.upright {v : Vec K} (h : v.IsAdmissible) : v.upright.IsAdmissible := by
  refine ⟨?_, fun y hy => h.finite y (toList_upright v ▸ hy)⟩
  unfold Vec.upright
  split <;> exact h.pos

theorem transpose_eq_ok_iff {v w : Vec K} (hv : v.IsAdmissible) (h : v.isHorizontal = true) :
    v.transpose = .ok w ↔ w = v.upright ∧ Tolerance.require v.tolerance = .ok v.tolerance := by
  have hupright : v.upright = ⟨v.dimensions, v.components, v.orientation.flip, v.tolerance⟩ := by
    rw [Vec.upright, if_pos h, orientation_of_isHorizontal h]
    rfl
  rw [transpose, ofComponents_eq_ok_iff, ← hupright]
  exact ⟨fun hw => ⟨hw.1, hw.2.2⟩, fun hw => ⟨hw.1, hw.1 ▸ hv.upright, hw.2⟩⟩

end Vec

namespace LinearEquation

variable {v : Vec K} {k : K} {form : EquationForm} {e : LinearEquation K}

/-- What every equation has passed. -/
structure IsAdmissible (e : LinearEquation K) : Prop where
  normal : e.normal.IsAdmissible
  offset : Scalar.isFinite e.offset = true

theorem ofNormal_eq_ok_iff (hv : v.IsAdmissible) :
    ofNormal v k form = .ok e ↔ e = ⟨v.upright, k, form⟩ ∧ Scalar.isFinite k = true ∧
      (v.isHorizontal = true → Tolerance.require v.tolerance = .ok v.tolerance) := by
  cases hk : Scalar.isFinite k with
  | false =>
      have hfails : ofNormal v k form = .error (.nonFiniteOffset k) := by
        rw [ofNormal, hk]
        rfl
      rw [hfails]
      exact iff_of_false nofun fun h => Bool.noConfusion h.2.1
  | true =>
      cases hhorizontal : v.isHorizontal with
      | false =>
          have hkept : v.upright = v := by
            rw [Vec.upright, hhorizontal]
            rfl
          have hmade : ofNormal v k form = .ok ⟨v, k, form⟩ := by
            rw [ofNormal, hk, hhorizontal]
            rfl
          rw [hmade, hkept, Except.ok.injEq, eq_comm]
          exact ⟨fun h => ⟨h, rfl, nofun⟩, fun h => h.1⟩
      | true =>
          have hturned : ofNormal v k form = v.transpose >>= fun w => .ok ⟨w, k, form⟩ := by
            rw [ofNormal, hk, hhorizontal]
            rfl
          rw [hturned, bind_eq_ok_iff]
          constructor
          · rintro ⟨w, hw, he⟩
            obtain ⟨rfl, hτ⟩ := (Vec.transpose_eq_ok_iff hv hhorizontal).1 hw
            exact ⟨(Except.ok.inj he).symm, rfl, fun _ => hτ⟩
          · rintro ⟨rfl, -, hτ⟩
            exact ⟨_, (Vec.transpose_eq_ok_iff hv hhorizontal).2 ⟨rfl, hτ rfl⟩, rfl⟩

theorem isAdmissible_of_ofNormal_eq_ok (hv : v.IsAdmissible) (h : ofNormal v k form = .ok e) :
    e.IsAdmissible := by
  obtain ⟨rfl, hk, -⟩ := (ofNormal_eq_ok_iff hv).1 h
  exact ⟨hv.upright, hk⟩

end LinearEquation

/-! ## Systems -/

section Systems

variable {m d : Nat} {τ : K} {A : Grid K m d} {b : Vector K m} {es : List (LinearEquation K)}

/-- The equations state the rows of the table with the offsets beside them, in order. -/
structure StatesRows (es : List (LinearEquation K)) (A : Grid K m d) (b : Vector K m) : Prop where
  length : es.length = m
  row : ∀ i : Fin m, ∃ e, es[i.val]? = some e ∧ e.normal.toList = (A.row i).toList ∧
    e.offset = b.get i

namespace LinearSystem

omit [Scalar K] in
/-- The equations that a system is assembled of state its rows. -/
theorem statesRows_assemble (shared : ∀ e ∈ es, e.dimensions = d) (τ : K) :
    StatesRows es (assemble es d shared τ).coefficients (assemble es d shared τ).offsets := by
  refine ⟨rfl, fun i => ⟨es[i.val], List.getElem?_eq_getElem i.isLt, ?_, ?_⟩⟩
  · have hd : es[i.val].normal.dimensions = d := shared _ (List.getElem_mem i.isLt)
    apply List.ext_getElem
    · rw [Vec.toList, Vector.length_toList, Vector.length_toList, hd]
      rfl
    · intro j hj hj'
      rw [Vector.length_toList] at hj'
      have hentry : (assemble es d shared τ).coefficients.entry i ⟨j, hj'⟩ =
          (es.get i).normal.component (Fin.cast hd.symm ⟨j, hj'⟩) := Grid.entry_ofFn _ i ⟨j, hj'⟩
      rw [Vector.getElem_toList]
      exact (Vector.getElem_toList _).trans hentry.symm
  · have hoffset : (assemble es d shared τ).offsets.get i = (es.get i).offset :=
      Vector.getElem_ofFn i.isLt
    exact hoffset.symm

end LinearSystem

namespace StatesRows

omit [Scalar K] in
theorem exists_row (h : StatesRows es A b) {e : LinearEquation K} (he : e ∈ es) :
    ∃ i, e.normal.toList = (A.row i).toList ∧ e.offset = b.get i := by
  obtain ⟨n, hn, rfl⟩ := List.mem_iff_getElem.1 he
  obtain ⟨e, hget, hrow, hoffset⟩ := h.row ⟨n, h.length ▸ hn⟩
  obtain rfl := Option.some.inj ((List.getElem?_eq_getElem hn).symm.trans hget)
  exact ⟨_, hrow, hoffset⟩

omit [Scalar K] in
theorem dimensions_eq (h : StatesRows es A b) {e : LinearEquation K} (he : e ∈ es) :
    e.dimensions = d := by
  obtain ⟨i, hrow, -⟩ := h.exists_row he
  have hlength := congrArg List.length hrow
  rwa [Vec.toList, Vector.length_toList, Vector.length_toList] at hlength

end StatesRows

namespace LinearSystem

/-- What every pair of arrays has passed that was read as a system. -/
structure AdmissibleArrays (A : Grid K m d) (b : Vector K m) : Prop where
  equations_pos : 0 < m
  unknowns_pos : 0 < d
  entries : ∀ i j, Scalar.isFinite (A.entry i j) = true
  offsets : ∀ i, Scalar.isFinite (b.get i) = true

theorem admissible_of_requireArrays_eq_ok {n : Nat} {c : Vector K n} {same : PLift (n = m)}
    (h : requireArrays A c = .ok same) : AdmissibleArrays A (c.cast same.down) := by
  unfold requireArrays at h
  by_cases hm : m = 0
  · rw [if_pos hm] at h
    cases h
  by_cases hd : d = 0
  · rw [if_neg hm, if_pos hd] at h
    cases h
  by_cases hn : n = m
  · subst hn
    simp only [if_neg hm, if_neg hd, dif_pos] at h
    obtain ⟨_, hentries, h⟩ := bind_eq_ok_iff.1 h
    obtain ⟨_, hoffsets, -⟩ := bind_eq_ok_iff.1 h
    refine ⟨Nat.pos_of_ne_zero hm, Nat.pos_of_ne_zero hd, fun i j => ?_, fun i => ?_⟩
    · refine requireFinite_eq_ok_iff.1 hentries _ (List.mem_flatten.2 ⟨(A.row i).toList, ?_, ?_⟩)
      · exact List.mem_map_of_mem (Vector.mem_toList_iff.2 (Vector.getElem_mem i.isLt))
      · exact Vector.mem_toList_iff.2 (Vector.getElem_mem j.isLt)
    · exact requireFinite_eq_ok_iff.1 hoffsets _
        (Vector.mem_toList_iff.2 (Vector.getElem_mem i.isLt))
  · rw [if_neg hm, if_neg hd, dif_neg hn] at h
    cases h

/-- The equations that a system of arrays remembers. -/
def rowEquations (A : Grid K m d) (b : Vector K m) (τ : K) : List (LinearEquation K) :=
  (List.finRange m).map fun i => ⟨⟨d, A.row i, .column, τ⟩, b.get i, .general⟩

omit [Scalar K] in
theorem statesRows_rowEquations (A : Grid K m d) (b : Vector K m) (τ : K) :
    StatesRows (rowEquations A b τ) A b := by
  refine ⟨by simp [rowEquations], fun i =>
    ⟨⟨⟨d, A.row i, .column, τ⟩, b.get i, .general⟩, ?_, rfl, rfl⟩⟩
  simp [rowEquations]

namespace AdmissibleArrays

theorem isAdmissible_row (h : AdmissibleArrays A b) (i : Fin m) (o : Orientation) (τ : K) :
    (⟨d, A.row i, o, τ⟩ : Vec K).IsAdmissible := by
  refine ⟨h.unknowns_pos, fun y hy => ?_⟩
  obtain ⟨j, hj, rfl⟩ := List.mem_iff_getElem.1 hy
  rw [Vec.toList, Vector.length_toList] at hj
  exact h.entries i ⟨j, hj⟩

theorem rowEquation_eq_ok_iff (h : AdmissibleArrays A b) {i : Fin m} {e : LinearEquation K} :
    rowEquation A b τ i = .ok e ↔
      e = ⟨⟨d, A.row i, .column, τ⟩, b.get i, .general⟩ ∧ Tolerance.require τ = .ok τ := by
  have hnormal := h.isAdmissible_row i .column τ
  have hequation : LinearEquation.ofNormal ⟨d, A.row i, .column, τ⟩ (b.get i) = .ok e ↔
      e = ⟨⟨d, A.row i, .column, τ⟩, b.get i, .general⟩ := by
    rw [LinearEquation.ofNormal_eq_ok_iff hnormal]
    exact ⟨fun he => he.1, fun he => ⟨he, h.offsets i, nofun⟩⟩
  rw [rowEquation, bind_eq_ok_iff]
  constructor
  · rintro ⟨v, hv, he⟩
    obtain ⟨rfl, -, hτ⟩ := Vec.ofComponents_eq_ok_iff.1 hv
    exact ⟨hequation.1 he, hτ⟩
  · rintro ⟨he, hτ⟩
    exact ⟨_, Vec.ofComponents_eq_ok_iff.2 ⟨rfl, hnormal, hτ⟩, hequation.2 he⟩

/-- The system of arrays is theirs under every tolerance that is accepted. -/
theorem ofArrays_eq_ok_iff (h : AdmissibleArrays A b) {s : LinearSystem K} :
    ofArrays A b τ = .ok s ↔
      s = ⟨m, d, A, b, τ, rowEquations A b τ⟩ ∧ Tolerance.require τ = .ok τ := by
  rw [ofArrays, bind_eq_ok_iff]
  have hmade (hτ : Tolerance.require τ = .ok τ) :
      (List.finRange m).mapM (rowEquation A b τ) = .ok (rowEquations A b τ) := by
    have hrows : rowEquation A b τ =
        fun i => pure ⟨⟨d, A.row i, .column, τ⟩, b.get i, .general⟩ :=
      funext fun i => h.rowEquation_eq_ok_iff.2 ⟨rfl, hτ⟩
    rw [hrows, List.mapM_pure]
    rfl
  constructor
  · rintro ⟨equations, hequations, hs⟩
    -- There is a first row, and making its equation checked the tolerance.
    have hrows := forall₂_of_mapM_eq_ok hequations
    have hfirst : 0 < (List.finRange m).length := by
      rw [List.length_finRange]
      exact h.equations_pos
    have hτ := (h.rowEquation_eq_ok_iff.1 (hrows.get hfirst (hrows.length_eq ▸ hfirst))).2
    rw [hmade hτ] at hequations
    obtain rfl := Except.ok.inj hequations
    exact ⟨(Except.ok.inj hs).symm, hτ⟩
  · rintro ⟨rfl, hτ⟩
    exact ⟨_, hmade hτ, rfl⟩

end AdmissibleArrays

end LinearSystem

end Systems

end LinearSystems
