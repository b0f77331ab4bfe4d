import Mathlib
import LinearSystems.Proofs.Elimination.ReducedForm
import LinearSystems.Proofs.Elimination.Solutions

/-!
# Reading a reduced system

In reduced row-echelon form the row of a pivot holds one at the pivot, nothing at the other pivots,
and anything at the columns without a pivot, the free columns.  So a vector in the null space is
determined by its free coordinates (`Grid.IsReduced.eq_zero_of_mulVec_eq_zero`), the pivot point
solves the system when no row without a pivot has an offset (`Grid.IsReduced.mulVec_pivotPoint`),
and the direction of each free column lies in the null space
(`Grid.IsReduced.mulVec_freeDirection`).
-/

namespace LinearSystems

variable {m d : Nat}

/-! ## Free columns -/

section FreeColumns

variable {pivots : List (Pivot m d)} {j : Fin d}

theorem pivotRow?_eq_none_iff : pivotRow? pivots j = none ↔ j ∉ pivots.map Prod.snd := by
  rw [pivotRow?, Option.map_eq_none_iff, List.find?_eq_none]
  constructor
  · intro hnone hj
    obtain ⟨p, hp, rfl⟩ := List.mem_map.1 hj
    exact hnone p (List.mem_reverse.2 hp) (beq_self_eq_true p.2)
  · intro hj p hp heq
    exact hj (List.mem_map.2 ⟨p, List.mem_reverse.1 hp, beq_iff_eq.1 heq⟩)

theorem mem_freeColumns : j ∈ freeColumns pivots ↔ j ∉ pivots.map Prod.snd := by
  rw [freeColumns, List.mem_filter, Option.isNone_iff_eq_none, pivotRow?_eq_none_iff]
  exact and_iff_right (List.mem_finRange j)

theorem nodup_freeColumns (pivots : List (Pivot m d)) : (freeColumns pivots).Nodup :=
  (List.nodup_finRange d).filter _

theorem IsStaircase.pivotRow?_eq_some (h : IsStaircase pivots) {p : Pivot m d} (hp : p ∈ pivots) :
    pivotRow? pivots p.2 = some p.1 := by
  cases hfound : pivots.reverse.find? fun q => q.2 == p.2 with
  | none =>
      have hnone := List.find?_eq_none.1 hfound p (List.mem_reverse.2 hp)
      exact absurd (beq_self_eq_true p.2) hnone
  | some q =>
      have hq : q ∈ pivots := List.mem_reverse.1 (List.mem_of_find?_eq_some hfound)
      have hqp := List.find?_some hfound
      obtain rfl := h.eq_of_snd_eq hq hp (beq_iff_eq.1 hqp)
      rw [pivotRow?, hfound]
      rfl

/-- Every column is the column of one pivot or a free one. -/
theorem IsStaircase.perm_columns (h : IsStaircase pivots) :
    (pivots.map Prod.snd ++ freeColumns pivots).Perm (List.finRange d) := by
  have hdisjoint : (pivots.map Prod.snd).Disjoint (freeColumns pivots) :=
    fun _ hpivot hfree => mem_freeColumns.1 hfree hpivot
  have hnodup : (pivots.map Prod.snd ++ freeColumns pivots).Nodup :=
    h.nodup_columns.append (nodup_freeColumns pivots) hdisjoint
  refine (List.perm_ext_iff_of_nodup hnodup (List.nodup_finRange d)).2 fun j => ?_
  rw [List.mem_append, mem_freeColumns]
  exact iff_of_true (em _) (List.mem_finRange j)

theorem IsStaircase.length_add_length_freeColumns (h : IsStaircase pivots) :
    pivots.length + (freeColumns pivots).length = d := by
  have hlength := h.perm_columns.length_eq
  rwa [List.length_append, List.length_map, List.length_finRange] at hlength

end FreeColumns

/-! ## What is read off -/

section Reading

variable {K : Type} [Scalar K] {g : Grid K m d} {b : Vector K m} {pivots : List (Pivot m d)}

theorem get_pivotPoint (j : Fin d) : (pivotPoint pivots b).get j =
    match pivotRow? pivots j with
    | some i => b.get i
    | none => 0 :=
  Vector.getElem_ofFn j.isLt

theorem get_freeDirection (f j : Fin d) : (freeDirection pivots g f).get j =
    (if j = f then 1 else -match pivotRow? pivots j with
      | some i => g.entry i f
      | none => 0) + 0 :=
  Vector.getElem_ofFn j.isLt

theorem get_pivotPoint_of_mem (h : IsStaircase pivots) {p : Pivot m d} (hp : p ∈ pivots) :
    (pivotPoint pivots b).get p.2 = b.get p.1 := by
  rw [get_pivotPoint, h.pivotRow?_eq_some hp]

theorem get_pivotPoint_of_notMem {j : Fin d} (hj : j ∉ pivots.map Prod.snd) :
    (pivotPoint pivots b).get j = 0 := by
  rw [get_pivotPoint, pivotRow?_eq_none_iff.2 hj]

theorem get_freeDirection_at_pivot (h : IsStaircase pivots) {f : Fin d}
    (hf : f ∉ pivots.map Prod.snd) {p : Pivot m d} (hp : p ∈ pivots) :
    (freeDirection pivots g f).get p.2 = -g.entry p.1 f + 0 := by
  have hne : p.2 ≠ f := fun heq => hf (heq ▸ List.mem_map_of_mem hp)
  rw [get_freeDirection, if_neg hne, h.pivotRow?_eq_some hp]

theorem get_freeDirection_at_own (f : Fin d) : (freeDirection pivots g f).get f = 1 + 0 := by
  rw [get_freeDirection, if_pos rfl]

theorem get_freeDirection_at_other {f j : Fin d} (hj : j ∉ pivots.map Prod.snd) (hne : j ≠ f) :
    (freeDirection pivots g f).get j = -0 + 0 := by
  rw [get_freeDirection, if_neg hne, pivotRow?_eq_none_iff.2 hj]

end Reading

section ExactReading

variable {g : Grid ℚ m d} {pivots : List (Pivot m d)}

theorem get_freeDirection_of_mem (h : IsStaircase pivots) {f : Fin d}
    (hf : f ∉ pivots.map Prod.snd) {p : Pivot m d} (hp : p ∈ pivots) :
    (freeDirection pivots g f).get p.2 = -g.entry p.1 f :=
  (get_freeDirection_at_pivot h hf hp).trans (add_zero _)

theorem get_freeDirection_self (f : Fin d) : (freeDirection pivots g f).get f = 1 :=
  (get_freeDirection_at_own f).trans (add_zero 1)

theorem get_freeDirection_of_notMem {f j : Fin d} (hj : j ∉ pivots.map Prod.snd) (hne : j ≠ f) :
    (freeDirection pivots g f).get j = 0 :=
  (get_freeDirection_at_other hj hne).trans (by rw [neg_zero, add_zero])

end ExactReading

/-! ## The system of a reduced table -/

namespace Grid.IsReduced

variable {g : Grid ℚ m d} {b : Vector ℚ m} {pivots : List (Pivot m d)}

theorem entry_of_notMem (h : g.IsReduced pivots) {p : Pivot m d} (hp : p ∈ pivots) {q : Pivot m d}
    (hq : q ∈ pivots) (hne : q ≠ p) : g.entry p.1 q.2 = 0 :=
  h.column q hq p.1 (h.fst_ne_of_ne hp hq hne.symm)

/-- The row of a pivot, at a vector whose free coordinates are zero, is its pivot coordinate. -/
theorem mulVec_of_free_eq_zero (h : g.IsReduced pivots) {x : Fin d → ℚ}
    (hfree : ∀ j, j ∉ pivots.map Prod.snd → x j = 0) {p : Pivot m d} (hp : p ∈ pivots) :
    g.toMatrix.mulVec x p.1 = x p.2 := by
  have hother (j : Fin d) (hj : j ≠ p.2) : g.entry p.1 j * x j = 0 := by
    by_cases hcolumn : j ∈ pivots.map Prod.snd
    · obtain ⟨q, hq, rfl⟩ := List.mem_map.1 hcolumn
      have hne : q ≠ p := fun heq => hj (congrArg Prod.snd heq)
      rw [h.entry_of_notMem hp hq hne, zero_mul]
    · rw [hfree j hcolumn, mul_zero]
  calc g.toMatrix.mulVec x p.1
      = ∑ j, g.entry p.1 j * x j := rfl
    _ = g.entry p.1 p.2 * x p.2 := Fintype.sum_eq_single p.2 hother
    _ = x p.2 := by rw [h.one p hp, one_mul]

theorem mulVec_of_length_le (h : g.IsReduced pivots) (x : Fin d → ℚ) {i : Fin m}
    (hi : pivots.length ≤ i) : g.toMatrix.mulVec x i = 0 := by
  show ∑ j, g.entry i j * x j = 0
  apply Finset.sum_eq_zero
  intro j _
  rw [h.rest i hi j, zero_mul]

/-- A vector of the null space is determined by its free coordinates. -/
theorem eq_zero_of_mulVec_eq_zero (h : g.IsReduced pivots) {x : Fin d → ℚ}
    (hx : g.toMatrix.mulVec x = 0) (hfree : ∀ j, j ∉ pivots.map Prod.snd → x j = 0) : x = 0 := by
  funext j
  by_cases hcolumn : j ∈ pivots.map Prod.snd
  · obtain ⟨p, hp, rfl⟩ := List.mem_map.1 hcolumn
    rw [← h.mulVec_of_free_eq_zero hfree hp, hx]
    rfl
  · exact hfree j hcolumn

/-- The pivot point solves the system if no row without a pivot has an offset. -/
theorem mulVec_pivotPoint (h : g.IsReduced pivots)
    (hrest : ∀ i : Fin m, pivots.length ≤ i → b.get i = 0) :
    g.toMatrix.mulVec (pivotPoint pivots b).get = b.get := by
  funext i
  rcases lt_or_ge i.val pivots.length with hlt | hge
  · obtain ⟨p, hp, rfl⟩ := h.exists_of_lt hlt
    rw [h.mulVec_of_free_eq_zero (fun j hj => get_pivotPoint_of_notMem hj) hp,
      get_pivotPoint_of_mem h.toIsStaircase hp]
  · rw [h.mulVec_of_length_le _ hge, hrest i hge]

theorem mulVec_freeDirection (h : g.IsReduced pivots) {f : Fin d}
    (hf : f ∉ pivots.map Prod.snd) :
    g.toMatrix.mulVec (freeDirection pivots g f).get = 0 := by
  funext i
  rcases lt_or_ge i.val pivots.length with hlt | hge
  · obtain ⟨p, hp, rfl⟩ := h.exists_of_lt hlt
    have hne : p.2 ≠ f := fun heq => hf (heq ▸ List.mem_map_of_mem hp)
    -- Row and direction share two columns, the one of the pivot and the free one.
    have hother (j : Fin d) (hj : j ≠ p.2 ∧ j ≠ f) :
        g.entry p.1 j * (freeDirection pivots g f).get j = 0 := by
      by_cases hcolumn : j ∈ pivots.map Prod.snd
      · obtain ⟨q, hq, rfl⟩ := List.mem_map.1 hcolumn
        have hqp : q ≠ p := fun heq => hj.1 (congrArg Prod.snd heq)
        rw [h.entry_of_notMem hp hq hqp, zero_mul]
      · rw [get_freeDirection_of_notMem hcolumn hj.2, mul_zero]
    calc g.toMatrix.mulVec (freeDirection pivots g f).get p.1
        = ∑ j, g.entry p.1 j * (freeDirection pivots g f).get j := rfl
      _ = g.entry p.1 p.2 * (freeDirection pivots g f).get p.2 +
            g.entry p.1 f * (freeDirection pivots g f).get f :=
          Fintype.sum_eq_add p.2 f hne hother
      _ = 0 := by
          rw [h.one p hp, get_freeDirection_of_mem h.toIsStaircase hf hp, get_freeDirection_self]
          ring
  · exact h.mulVec_of_length_le _ hge

/-! ### Its solutions -/

theorem nonempty_solutionSet_iff (h : g.IsReduced pivots) :
    (solutionSet g b).Nonempty ↔ ∀ i : Fin m, pivots.length ≤ i → b.get i = 0 := by
  constructor
  · rintro ⟨x, hx⟩ i hi
    rw [← congrFun hx i, h.mulVec_of_length_le x hi]
  · intro hrest
    exact ⟨_, h.mulVec_pivotPoint hrest⟩

/-- With a pivot in every column there is at most one solution. -/
theorem solutionSet_eq_singleton (h : g.IsReduced pivots)
    (hrest : ∀ i : Fin m, pivots.length ≤ i → b.get i = 0) (hfull : pivots.length = d) :
    solutionSet g b = {(pivotPoint pivots b).get} := by
  have hfree (j : Fin d) : j ∈ pivots.map Prod.snd := by
    by_contra hj
    have hlength := h.length_add_length_freeColumns
    have hpos : 0 < (freeColumns pivots).length :=
      List.length_pos_of_mem (mem_freeColumns.2 hj)
    omega
  have hbase := h.mulVec_pivotPoint hrest
  refine Set.eq_singleton_iff_unique_mem.2 ⟨hbase, fun x hx => ?_⟩
  have hzero : x - (pivotPoint pivots b).get = 0 := by
    apply h.eq_zero_of_mulVec_eq_zero
    · rw [Matrix.mulVec_sub, hbase, hx, sub_self]
    · exact fun j hj => absurd (hfree j) hj
  exact sub_eq_zero.1 hzero

/-- A free column gives a second solution. -/
theorem nontrivial_solutionSet (h : g.IsReduced pivots)
    (hrest : ∀ i : Fin m, pivots.length ≤ i → b.get i = 0) (hlt : pivots.length < d) :
    (solutionSet g b).Nontrivial := by
  have hpos : 0 < (freeColumns pivots).length := by
    have hlength := h.length_add_length_freeColumns
    omega
  obtain ⟨f, hf⟩ := List.exists_mem_of_length_pos hpos
  have hbase := h.mulVec_pivotPoint hrest
  refine ⟨(pivotPoint pivots b).get, hbase,
    (pivotPoint pivots b).get + (freeDirection pivots g f).get, ?_, ?_⟩
  · show g.toMatrix.mulVec _ = b.get
    rw [Matrix.mulVec_add, hbase, h.mulVec_freeDirection (mem_freeColumns.1 hf), add_zero]
  · intro heq
    have hzero : (freeDirection pivots g f).get f = 0 := by
      have hcoordinate := congrFun heq f
      rw [Pi.add_apply] at hcoordinate
      linarith
    rw [get_freeDirection_self] at hzero
    exact one_ne_zero hzero

end Grid.IsReduced

end LinearSystems
