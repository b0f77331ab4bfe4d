import Mathlib
import LinearSystems.Proofs.FloatingPoint.Order
import LinearSystems.Proofs.Parametrization.NullSpace

/-!
# Reading a reduced table of floats

What a parametrization holds are entries of the table and of its offsets, some of them negated, and
zeros and ones.  None of these is rounded, so the columns of the parametrization stand for exactly
the numbers that an exact reading of the same table gives (`FloatingPoint.Reads`).

Hence **the parametrization of a reduced table of floats describes the solutions of its system
exactly**, in rational arithmetic, each solution once
(`FloatingPoint.exists_parametrization_of_isReduced`).  The tolerance only serves to find the
pivots: it is at most one, so each pivot is found, and what stands between the pivots may be smaller
than the tolerance.
-/

namespace LinearSystems

variable {m d : Nat}

namespace FloatingPoint

/-- The components of the column are finite and stand for the coordinates of the point. -/
def Reads (v : Vec Float) (x : Fin d → ℚ) : Prop := List.Forall₂ IsExactly v.toList (List.ofFn x)

section Reading

variable {R : Grid Float m d} {c : Vector Float m} {pivots : List (Pivot m d)} {τ : Float}

theorem get_map_toRat (c : Vector Float m) (i : Fin m) : (c.map toRat).get i = toRat (c.get i) :=
  Vector.getElem_map _ _

theorem isExactly_pivotPoint (hc : ∀ i, Scalar.isFinite (c.get i) = true) (j : Fin d) :
    IsExactly ((pivotPoint pivots c).get j) ((pivotPoint pivots (c.map toRat)).get j) := by
  rw [get_pivotPoint, get_pivotPoint]
  cases pivotRow? pivots j with
  | none => exact isExactly_zero
  | some i =>
      show IsExactly (c.get i) ((c.map toRat).get i)
      rw [get_map_toRat]
      exact isExactly_toRat (hc i)

theorem isExactly_freeDirection (hR : ∀ i j, Scalar.isFinite (R.entry i j) = true) (f j : Fin d) :
    IsExactly ((freeDirection pivots R f).get j)
      ((freeDirection pivots (R.map toRat) f).get j) := by
  rw [get_freeDirection, get_freeDirection, add_zero (M := ℚ)]
  apply IsExactly.add_zero
  split
  · exact isExactly_one
  · apply IsExactly.neg
    cases pivotRow? pivots j with
    | none => exact isExactly_zero
    | some i =>
        show IsExactly (R.entry i f) ((R.map toRat).entry i f)
        rw [Grid.entry_map]
        exact isExactly_toRat (hR i f)

theorem isFinite_of_pos_of_le_one (hτ : 0 < τ) (hτ1 : τ ≤ 1) : Scalar.isFinite τ = true :=
  isFinite_of_le_of_le rfl rfl (lt_iff_le_and_beq.1 hτ).1 hτ1

theorem require_eq_ok_of_le_one (hτ : 0 < τ) (hτ1 : τ ≤ 1) : Tolerance.require τ = .ok τ := by
  have hfinite := isFinite_of_pos_of_le_one hτ hτ1
  have hnot : ¬ τ ≤ 0 := not_le_of_lt hτ
  rw [Tolerance.require, if_pos]
  rw [Bool.and_eq_true, Bool.not_eq_true', decide_eq_false_iff_not]
  exact ⟨hfinite, hnot⟩

/-- The search finds the pivots of a reduced table, whatever stands between them. -/
theorem pivots_eq_of_isReduced (h : (R.map toRat).IsReduced pivots)
    (hR : ∀ i j, Scalar.isFinite (R.entry i j) = true) (hτ : 0 < τ) (hτ1 : τ ≤ 1) :
    R.pivots τ = pivots := by
  have hfinite := isFinite_of_pos_of_le_one hτ hτ1
  have hpos : 0 < toRat τ := (lt_iff_toRat rfl hfinite).1 hτ
  have hone : toRat τ ≤ 1 := ((le_iff_toRat hfinite isExactly_one.1).1 hτ1).trans_eq isExactly_one.2
  have hbelow : R.IsClearBelow τ pivots := by
    intro i j hbelow _
    have hzero := h.entry_of_belowPivots hbelow
    rw [Grid.entry_map] at hzero
    rw [Bool.eq_false_iff, ne_eq, isSignificant_iff_toRat hfinite (hR i j), hzero, abs_zero, not_le]
    exact hpos
  rw [h.pivots_eq_iff hbelow]
  intro p hp
  have hentry := h.one p hp
  rw [Grid.entry_map] at hentry
  rw [isSignificant_iff_toRat hfinite (hR p.1 p.2), hentry, abs_one]
  exact hone

/-- Every column that is read off a table of finite numbers can be made. -/
theorem exists_ofReduced_eq_ok (hd : 0 < d) (hR : ∀ i j, Scalar.isFinite (R.entry i j) = true)
    (hc : ∀ i, Scalar.isFinite (c.get i) = true) (hτ : Tolerance.require τ = .ok τ) :
    ∃ p, Parametrization.ofReduced R c τ = .ok p := by
  cases hmade : Parametrization.ofReduced R c τ with
  | ok p => exact ⟨p, rfl⟩
  | error fault =>
      obtain ⟨x, ⟨pivots, hx⟩, hfails⟩ := Parametrization.exists_ofComponents_eq_error hmade
      have hfinite (j : Fin d) : Scalar.isFinite (x.get j) = true := by
        obtain rfl | ⟨f, rfl⟩ := hx
        · exact (isExactly_pivotPoint hc j).1
        · exact (isExactly_freeDirection hR f j).1
      rw [Vec.ofComponents_eq_ok_of_finite hd hτ hfinite] at hfails
      cases hfails

theorem reads_of_ofComponents_eq_ok {x : Vector Float d} {v : Vec Float} {y : Fin d → ℚ}
    (h : Vec.ofComponents x τ = .ok v) (hxy : ∀ j, IsExactly (x.get j) (y j)) : Reads v y := by
  obtain ⟨rfl, -, -⟩ := Vec.ofComponents_eq_ok_iff.1 h
  rw [Reads, List.forall₂_iff_get]
  refine ⟨by simp [Vec.toList], fun j hj _ => ?_⟩
  have hlt : j < d := by simpa [Vec.toList] using hj
  have hcomponent : IsExactly x[j] (y ⟨j, hlt⟩) := hxy ⟨j, hlt⟩
  simpa [Vec.toList] using hcomponent

/-- The exact directions, as a list over the free columns. -/
theorem ofFn_direction (pivots : List (Pivot m d)) (g : Grid ℚ m d) :
    List.ofFn (direction pivots g) =
      (freeColumns pivots).map fun f => (freeDirection pivots g f).get := by
  apply List.ext_getElem
  · simp
  · intro k hk hk'
    simp [direction, freeColumn]

end Reading

/-- **The parametrization of a reduced table of floats describes the solutions exactly**: its
columns stand for a point and directions such that every solution is the point and a sum of
multiples of the directions, for exactly one choice of multiples, and nothing else is.  The table
has a column, as no vector is empty. -/
theorem exists_parametrization_of_isReduced {R : Grid Float m d} {c : Vector Float m}
    {pivots : List (Pivot m d)} {τ : Float} (hd : 0 < d)
    (hR : ∀ i j, Scalar.isFinite (R.entry i j) = true)
    (hc : ∀ i, Scalar.isFinite (c.get i) = true) (hreduced : (R.map toRat).IsReduced pivots)
    (hrest : ∀ i, (∀ j, toRat (R.entry i j) = 0) → toRat (c.get i) = 0) (hτ : 0 < τ)
    (hτ1 : τ ≤ 1) :
    ∃ p, Parametrization.ofReduced R c τ = .ok p ∧
      ∃ (base : Fin d → ℚ) (n : Nat) (v : Fin n → Fin d → ℚ), Reads p.basePoint base ∧
        List.Forall₂ Reads p.directions (List.ofFn v) ∧
        Set.BijOn (fun t : Fin n → ℚ => base + ∑ k, t k • v k) Set.univ
          (solutionSet (R.map toRat) (c.map toRat)) := by
  have hpivots := pivots_eq_of_isReduced hreduced hR hτ hτ1
  obtain ⟨p, hp⟩ := exists_ofReduced_eq_ok hd hR hc (require_eq_ok_of_le_one hτ hτ1)
  obtain ⟨hbase, hdirections, -, -⟩ := Parametrization.columns_of_ofReduced_eq_ok hp
  rw [hpivots] at hbase hdirections
  refine ⟨p, hp, (pivotPoint pivots (c.map toRat)).get, (freeColumns pivots).length,
    direction pivots (R.map toRat), ?_, ?_, ?_⟩
  · exact reads_of_ofComponents_eq_ok hbase (isExactly_pivotPoint hc)
  · rw [ofFn_direction, List.forall₂_map_right_iff]
    refine (hdirections.imp fun f v hv => ?_).flip
    exact reads_of_ofComponents_eq_ok hv (isExactly_freeDirection hR f)
  · apply hreduced.bijOn_pointAt
    intro i hi
    rw [get_map_toRat]
    apply hrest
    intro j
    rw [← Grid.entry_map toRat R]
    exact hreduced.rest i hi j

/-- A reduced table with an entry of `1e-12` right of a pivot, which the tolerance calls zero. -/
theorem exists_parametrization_of_small_entry :
    ∃ p, Parametrization.ofReduced
        (Grid.ofFn ![![1, 1e-12, 0, -3], ![0, 0, 1, 0.5], ![0, 0, 0, 0]])
        (Vector.ofFn ![5, 7, 0]) (1e-9 : Float) = .ok p ∧
      ∃ (base : Fin 4 → ℚ) (n : Nat) (v : Fin n → Fin 4 → ℚ), Reads p.basePoint base ∧
        List.Forall₂ Reads p.directions (List.ofFn v) ∧
        Set.BijOn (fun t : Fin n → ℚ => base + ∑ k, t k • v k) Set.univ
          (solutionSet
            ((Grid.ofFn ![![1, 1e-12, 0, -3], ![0, 0, 1, 0.5], ![0, 0, 0, 0]]).map toRat)
            ((Vector.ofFn ![5, 7, 0]).map toRat)) := by
  have hreduced :
      (Grid.map toRat (Grid.ofFn ![![1, 1e-12, 0, -3], ![0, 0, 1, 0.5], ![0, 0, 0, 0]])).IsReduced
        [(0, 0), (1, 2)] :=
    ⟨⟨by decide +kernel, by decide +kernel⟩, by decide +kernel, by decide +kernel,
      by decide +kernel, by decide +kernel⟩
  exact exists_parametrization_of_isReduced (by decide) (by decide +kernel) (by decide +kernel)
    hreduced (by decide +kernel) (by decide +kernel) (by decide +kernel)

end FloatingPoint

end LinearSystems
