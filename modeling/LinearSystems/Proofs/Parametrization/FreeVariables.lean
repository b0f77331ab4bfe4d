import Mathlib
import LinearSystems.Proofs.Elimination.ReducedSystem
import LinearSystems.Proofs.FloatingPoint.Order

/-!
# Free variables and parameters

A parametrization that is read off any table, reduced or not, lists the columns without a pivot as
its free variables, in increasing order and counted from one.  At the free variables the base point
is zero, and each direction is one at its own and zero at the others
(`FloatingPoint.ShowsFreeVariables`).

A point is reached by one step along each direction.  At a free variable each step adds the
parameter times zero or times one, which is not rounded, so **the coordinate of a point at a free
variable is the parameter of that variable**, and points of different parameters differ
(`FloatingPoint.coordinates_at_free_variables`).
-/

namespace LinearSystems

variable {m d : Nat}

theorem pairwise_freeColumns (pivots : List (Pivot m d)) :
    (freeColumns pivots).Pairwise (· < ·) :=
  (List.pairwise_lt_finRange d).filter _

namespace FloatingPoint

/-! ## Steps -/

/-- The component at `j` is finite and stands for `q`. -/
def StandsAt (x : List Float) (j : Nat) (q : ℚ) : Prop := ∃ c, x[j]? = some c ∧ IsExactly c q

section Walking

open Parametrization

variable {x y : List Float} {t z w : Float} {v : Vec Float} {j : Nat} {q r : ℚ}

theorem advance_eq_ok_iff (hlength : x.length = v.toList.length) :
    advance x t v = .ok y ↔ y = List.zipWith (· + ·) x (v.toList.map (t * ·)) := by
  have hmap : x.length = (v.toList.map (t * ·)).length := by rw [hlength, List.length_map]
  unfold advance addComponents
  rw [if_pos hmap, Except.ok.injEq, eq_comm]

/-- A step whose product and sum are floats is taken without rounding. -/
theorem StandsAt.advance (hx : StandsAt x j q) (hv : StandsAt v.toList j r)
    (ht : Scalar.isFinite t = true) (hz : IsExactly z (toRat t * r))
    (hw : IsExactly w (q + toRat t * r)) :
    StandsAt (List.zipWith (· + ·) x (v.toList.map (t * ·))) j (q + toRat t * r) := by
  obtain ⟨a, ha, hq⟩ := hx
  obtain ⟨b, hb, hr⟩ := hv
  refine ⟨a + t * b, ?_, hq.add ((isExactly_toRat ht).mul hr hz) hw⟩
  rw [List.getElem?_zipWith, List.getElem?_map, ha, hb]
  rfl

/-- A direction that is zero at `j` does not move the component there. -/
theorem StandsAt.advance_of_zero (hx : StandsAt x j q) (hv : StandsAt v.toList j 0)
    (ht : Scalar.isFinite t = true) :
    StandsAt (List.zipWith (· + ·) x (v.toList.map (t * ·))) j q := by
  have ⟨a, _, hq⟩ := hx
  have hstep := hx.advance hv ht (z := 0) (w := a) (by simpa using isExactly_zero)
    (by simpa using hq)
  simpa using hstep

/-- A direction that is one at `j` moves a zero there onto the parameter. -/
theorem StandsAt.advance_of_one (hx : StandsAt x j 0) (hv : StandsAt v.toList j 1)
    (ht : Scalar.isFinite t = true) :
    StandsAt (List.zipWith (· + ·) x (v.toList.map (t * ·))) j (toRat t) := by
  have hstep := hx.advance hv ht (z := t) (w := t) (by simpa using isExactly_toRat ht)
    (by simpa using isExactly_toRat ht)
  simpa using hstep

theorem length_zipWith_map (hlength : x.length = v.toList.length) :
    (List.zipWith (· + ·) x (v.toList.map (t * ·))).length = x.length := by
  rw [List.length_zipWith, List.length_map, hlength, min_self]

/-- A walk along vectors of equal lengths goes on from where its first step ends. -/
theorem walk_cons_eq_ok {ts : List Float} {vs : List (Vec Float)}
    (h : walk x (t :: ts) (v :: vs) = .ok y)
    (hlength : ∀ u ∈ v :: vs, x.length = u.toList.length) :
    ∃ x', x' = List.zipWith (· + ·) x (v.toList.map (t * ·)) ∧ walk x' ts vs = .ok y ∧
      ∀ u ∈ vs, x'.length = u.toList.length := by
  obtain ⟨x', hx', hrest⟩ := bind_eq_ok_iff.1 h
  have hv := hlength v List.mem_cons_self
  obtain rfl := (advance_eq_ok_iff hv).1 hx'
  refine ⟨_, rfl, hrest, fun u hu => ?_⟩
  rw [length_zipWith_map hv]
  exact hlength u (List.mem_cons_of_mem v hu)

/-- Directions that are zero at `j` do not move the component there. -/
theorem StandsAt.walk_of_zero {ts : List Float} {vs : List (Vec Float)}
    (h : walk x ts vs = .ok y) (hlength : ∀ v ∈ vs, x.length = v.toList.length)
    (hx : StandsAt x j q) (hvs : ∀ v ∈ vs, StandsAt v.toList j 0)
    (hts : ∀ t ∈ ts, Scalar.isFinite t = true) : StandsAt y j q := by
  induction vs generalizing x ts with
  | nil =>
      rw [walk] at h
      · exact Except.ok.inj h ▸ hx
      · exact nofun
  | cons v vs ih =>
      cases ts with
      | nil => exact Except.ok.inj h ▸ hx
      | cons t ts =>
          obtain ⟨_, rfl, hrest, hlength'⟩ := walk_cons_eq_ok h hlength
          exact ih hrest hlength'
            (hx.advance_of_zero (hvs v List.mem_cons_self) (hts t List.mem_cons_self))
            (fun u hu => hvs u (List.mem_cons_of_mem v hu))
            fun s hs => hts s (List.mem_cons_of_mem t hs)

/-- Of the directions one is one at `j`, and its parameter ends up there. -/
theorem StandsAt.walk_of_one {ts : List Float} {vs : List (Vec Float)} (h : walk x ts vs = .ok y)
    (hlength : ∀ v ∈ vs, x.length = v.toList.length) (hx : StandsAt x j 0) {l : Nat}
    (hl : l < vs.length) (hown : StandsAt vs[l].toList j 1)
    (hother : ∀ (k : Nat) (hk : k < vs.length), k ≠ l → StandsAt vs[k].toList j 0)
    (hts : ∀ t ∈ ts, Scalar.isFinite t = true) (hlt : l < ts.length) :
    StandsAt y j (toRat ts[l]) := by
  induction vs generalizing x ts l with
  | nil => exact absurd hl (Nat.not_lt_zero l)
  | cons v vs ih =>
      cases ts with
      | nil => exact absurd hlt (Nat.not_lt_zero l)
      | cons t ts =>
          obtain ⟨_, rfl, hrest, hlength'⟩ := walk_cons_eq_ok h hlength
          have ht := hts t List.mem_cons_self
          have hts' (s : Float) (hs : s ∈ ts) := hts s (List.mem_cons_of_mem t hs)
          cases l with
          | zero =>
              -- The parameter is reached with the first step and kept by all others.
              refine (hx.advance_of_one hown ht).walk_of_zero hrest hlength' (fun u hu => ?_) hts'
              obtain ⟨k, hk, rfl⟩ := List.mem_iff_getElem.1 hu
              exact hother (k + 1) (Nat.succ_lt_succ hk) (Nat.succ_ne_zero k)
          | succ l =>
              have hfirst := hother 0 (Nat.succ_pos _) (Nat.succ_ne_zero l).symm
              refine ih hrest hlength' (hx.advance_of_zero hfirst ht) (Nat.lt_of_succ_lt_succ hl)
                hown (fun k hk hne => ?_) hts' (Nat.lt_of_succ_lt_succ hlt)
              exact hother (k + 1) (Nat.succ_lt_succ hk) fun heq => hne (Nat.succ.inj heq)

end Walking

/-! ## What is read off a table -/

/-- The free variables are the columns without a pivot, and what stands at them. -/
structure ShowsFreeVariables (p : Parametrization Float) (pivots : List (Pivot m d)) : Prop where
  increasing : p.freeVariables.Pairwise (· < ·)
  mem_iff : ∀ f, f ∈ p.freeVariables ↔ ∃ j : Fin d, j ∉ pivots.map Prod.snd ∧ f = (j : Nat) + 1
  length_eq : p.directions.length = p.freeVariables.length
  base : ∀ f ∈ p.freeVariables, p.basePoint.element (f - 1) = .ok 0
  direction : ∀ (k l : Nat) (hk : k < p.directions.length) (hl : l < p.freeVariables.length),
    p.directions[k].element (p.freeVariables[l] - 1) = .ok (if k = l then 1 else 0)

section Reading

open Parametrization

variable {g : Grid Float m d} {b : Vector Float m} {τ : Float} {p : Parametrization Float}

theorem toList_of_ofComponents_eq_ok {x : Vector Float d} {v : Vec Float}
    (h : Vec.ofComponents x τ = .ok v) : v.toList = x.toList := by
  obtain ⟨rfl, -, -⟩ := Vec.ofComponents_eq_ok_iff.1 h
  rfl

theorem getElem?_toList (x : Vector Float d) (j : Fin d) : x.toList[j.val]? = some (x.get j) := by
  rw [Vector.getElem?_toList, Vector.getElem?_eq_getElem j.isLt]
  rfl

/-- The `k`-th direction is the one of the `k`-th free column. -/
theorem toList_directions_getElem (h : ofReduced g b τ = .ok p) {k : Nat}
    (hk : k < p.directions.length) (hf : k < (freeColumns (g.pivots τ)).length) :
    p.directions[k].toList =
      (freeDirection (g.pivots τ) g (freeColumns (g.pivots τ))[k]).toList := by
  obtain ⟨-, hdirections, -, -⟩ := columns_of_ofReduced_eq_ok h
  exact toList_of_ofComponents_eq_ok ((List.forall₂_iff_get.1 hdirections).2 k hf hk)

theorem element_direction_own (h : ofReduced g b τ = .ok p) {k : Nat}
    (hk : k < p.directions.length) (hf : k < (freeColumns (g.pivots τ)).length) :
    p.directions[k].toList[((freeColumns (g.pivots τ))[k]).val]? = some 1 := by
  rw [toList_directions_getElem h hk hf, getElem?_toList, get_freeDirection_at_own]
  rfl

theorem element_direction_other (h : ofReduced g b τ = .ok p) {k l : Nat}
    (hk : k < p.directions.length) (hl : l < (freeColumns (g.pivots τ)).length) (hne : k ≠ l) :
    p.directions[k].toList[((freeColumns (g.pivots τ))[l]).val]? = some 0 := by
  have hlength := (columns_of_ofReduced_eq_ok h).2.1.length_eq
  have hf : k < (freeColumns (g.pivots τ)).length := hlength.symm ▸ hk
  have hcolumn := mem_freeColumns.1 (List.getElem_mem hl)
  have hdiffer : (freeColumns (g.pivots τ))[l] ≠ (freeColumns (g.pivots τ))[k] := by
    intro heq
    exact hne ((nodup_freeColumns _).getElem_inj_iff.1 heq.symm)
  rw [toList_directions_getElem h hk hf, getElem?_toList,
    get_freeDirection_at_other hcolumn hdiffer]
  rfl

theorem element_basePoint (h : ofReduced g b τ = .ok p) {j : Fin d}
    (hj : j ∉ (g.pivots τ).map Prod.snd) : p.basePoint.toList[j.val]? = some 0 := by
  obtain ⟨hbase, -, -, -⟩ := columns_of_ofReduced_eq_ok h
  rw [toList_of_ofComponents_eq_ok hbase, getElem?_toList, get_pivotPoint_of_notMem hj]
  rfl

/-- The `l`-th free variable, counted from zero, is the `l`-th free column. -/
theorem freeVariables_getElem (h : ofReduced g b τ = .ok p) {l : Nat}
    (hl : l < p.freeVariables.length) : ∃ hf : l < (freeColumns (g.pivots τ)).length,
      p.freeVariables[l] - 1 = ((freeColumns (g.pivots τ))[l]).val := by
  obtain ⟨-, -, -, hfree⟩ := columns_of_ofReduced_eq_ok h
  refine ⟨by rwa [hfree, List.length_map] at hl, ?_⟩
  simp only [hfree, List.getElem_map, Int.add_sub_cancel]

theorem showsFreeVariables_of_ofReduced_eq_ok (h : ofReduced g b τ = .ok p) :
    ShowsFreeVariables p (g.pivots τ) := by
  obtain ⟨-, -, hlength, hfree⟩ := columns_of_ofReduced_eq_ok h
  have hmem (f : Int) : f ∈ p.freeVariables ↔
      ∃ j : Fin d, j ∉ (g.pivots τ).map Prod.snd ∧ f = (j : Nat) + 1 := by
    rw [hfree, List.mem_map]
    simp only [mem_freeColumns, eq_comm]
  refine ⟨?_, hmem, hlength, fun f hf => ?_, fun k l hk hl => ?_⟩
  · rw [hfree, List.pairwise_map]
    exact (pairwise_freeColumns _).imp fun hlt => by omega
  · obtain ⟨j, hj, rfl⟩ := (hmem f).1 hf
    rw [Int.add_sub_cancel, Vec.element_eq_ok_iff]
    exact element_basePoint h hj
  · obtain ⟨hf, hvariable⟩ := freeVariables_getElem h hl
    rw [hvariable, Vec.element_eq_ok_iff]
    split
    · next heq =>
        subst heq
        exact element_direction_own h hk hf
    · next hne => exact element_direction_other h hk hf hne

/-- A point that is returned is where the walk along the directions ends. -/
theorem exists_walk_of_point_eq_ok {ts : List Float} {x : Vec Float} (h : p.point ts = .ok x) :
    ts.length = p.directions.length ∧ walk p.basePoint.toList ts p.directions = .ok x.toList := by
  obtain ⟨_, hcount, h⟩ := bind_eq_ok_iff.1 h
  obtain ⟨y, hwalk, h⟩ := bind_eq_ok_iff.1 h
  have hlength : ts.length = p.parameterCount := by
    by_contra hne
    rw [requireParameters, if_neg hne] at hcount
    cases hcount
  rw [toList_of_ofComponents_eq_ok h]
  exact ⟨hlength, hwalk⟩

/-- At a free variable a point has its parameter. -/
theorem standsAt_point (h : ofReduced g b τ = .ok p) {ts : List Float} {x : Vec Float}
    (hts : ∀ t ∈ ts, Scalar.isFinite t = true) (hx : p.point ts = .ok x) {l : Nat}
    (hl : l < (freeColumns (g.pivots τ)).length) (hlt : l < ts.length) :
    StandsAt x.toList ((freeColumns (g.pivots τ))[l]).val (toRat ts[l]) := by
  obtain ⟨hbase, hdirections, -, -⟩ := columns_of_ofReduced_eq_ok h
  obtain ⟨hcount, hwalk⟩ := exists_walk_of_point_eq_ok hx
  have hcolumn := mem_freeColumns.1 (List.getElem_mem hl)
  refine StandsAt.walk_of_one hwalk (fun v hv => ?_)
    ⟨0, element_basePoint h hcolumn, isExactly_zero⟩ (hcount ▸ hlt)
    ⟨1, element_direction_own h _ hl, isExactly_one⟩
    (fun k hk hne => ⟨0, element_direction_other h hk hl hne, isExactly_zero⟩) hts hlt
  obtain ⟨k, hk, rfl⟩ := List.mem_iff_getElem.1 hv
  rw [toList_of_ofComponents_eq_ok hbase,
    toList_directions_getElem h hk (hdirections.length_eq.symm ▸ hk), Vector.length_toList,
    Vector.length_toList]

end Reading

/-- Lists are equal if they are as long as each other and equal place by place. -/
theorem beq_list_iff {xs ys : List Float} : (xs == ys) = true ↔
    xs.length = ys.length ∧
      ∀ (i : Nat) (hi : i < xs.length) (hi' : i < ys.length), (xs[i] == ys[i]) = true := by
  have hbeq : (xs == ys) = xs.isEqv ys (· == ·) := List.beq_eq_isEqv
  rw [hbeq, List.isEqv_eq_decide]
  by_cases hlength : xs.length = ys.length
  · rw [dif_pos hlength, decide_eq_true_iff]
    exact ⟨fun h => ⟨hlength, fun i hi _ => h i hi⟩, fun h i hi => h.2 i hi (hlength ▸ hi)⟩
  · rw [dif_neg hlength]
    exact iff_of_false nofun fun h => hlength h.1

/-- Equal points stand for the same numbers. -/
theorem StandsAt.eq_of_beq {x y : List Float} (h : (x == y) = true) {j : Nat} {q r : ℚ}
    (hx : StandsAt x j q) (hy : StandsAt y j r) : q = r := by
  obtain ⟨a, ha, hafinite, rfl⟩ := hx
  obtain ⟨b, hb, hbfinite, rfl⟩ := hy
  obtain ⟨hj, rfl⟩ := List.getElem?_eq_some_iff.1 ha
  obtain ⟨hj', rfl⟩ := List.getElem?_eq_some_iff.1 hb
  exact (beq_iff_toRat hafinite hbfinite).1 ((beq_list_iff.1 h).2 j hj hj')

/-- **The coordinate of a point at a free variable is the parameter of that variable**, so points of
different parameters are different points. -/
theorem coordinates_at_free_variables {g : Grid Float m d} {b : Vector Float m} {τ : Float}
    {p : Parametrization Float} (h : Parametrization.ofReduced g b τ = .ok p) :
    ShowsFreeVariables p (g.pivots τ) ∧
    (∀ ts x, (∀ t ∈ ts, Scalar.isFinite t = true) → p.point ts = .ok x →
      ts.length = p.freeVariables.length ∧
        ∀ (l : Nat) (hl : l < p.freeVariables.length) (hlt : l < ts.length),
          ∃ c, x.element (p.freeVariables[l] - 1) = .ok c ∧ (c == ts[l]) = true) ∧
    ∀ ts us x y, (∀ t ∈ ts, Scalar.isFinite t = true) → (∀ u ∈ us, Scalar.isFinite u = true) →
      p.point ts = .ok x → p.point us = .ok y → (ts == us) = false →
        (x.toList == y.toList) = false := by
  have hshows := showsFreeVariables_of_ofReduced_eq_ok h
  have hcount (ts x) (hx : p.point ts = .ok x) : ts.length = p.freeVariables.length :=
    (exists_walk_of_point_eq_ok hx).1.trans hshows.length_eq
  refine ⟨hshows, fun ts x hts hx => ⟨hcount ts x hx, fun l hl hlt => ?_⟩,
    fun ts us x y hts hus hx hy hne => ?_⟩
  · obtain ⟨hf, hvariable⟩ := freeVariables_getElem h hl
    obtain ⟨c, hc, hfinite, hsame⟩ := standsAt_point h hts hx hf hlt
    refine ⟨c, ?_, ?_⟩
    · rw [hvariable, Vec.element_eq_ok_iff]
      exact hc
    · exact (beq_iff_toRat hfinite (hts _ (List.getElem_mem hlt))).2 hsame
  · -- Equal points have equal coordinates at the free variables, hence equal parameters.
    rw [← Bool.not_eq_true] at hne ⊢
    intro heq
    apply hne
    have hlength := (hcount ts x hx).trans (hcount us y hy).symm
    refine beq_list_iff.2 ⟨hlength, fun l hl hl' => ?_⟩
    obtain ⟨hcolumn, -⟩ := freeVariables_getElem h (hcount ts x hx ▸ hl)
    exact (beq_iff_toRat (hts _ (List.getElem_mem hl)) (hus _ (List.getElem_mem hl'))).2
      ((standsAt_point h hts hx hcolumn hl).eq_of_beq heq (standsAt_point h hus hy hcolumn hl'))

/-- Two rows that are not reduced: the pivots stand in the first two columns, the other two are
free, and the point at `0.1` and `3` has the second parameter at a free variable. -/
theorem coordinates_of_unreduced_rows :
    ∃ p x, Parametrization.ofReduced (Grid.ofFn ![![2, 4, 1, 3], ![4, 8, 3, 0]])
        (Vector.ofFn ![1, 2]) (1e-9 : Float) = .ok p ∧ p.point [0.1, 3] = .ok x ∧
      ShowsFreeVariables p
        ((Grid.ofFn ![![2, 4, 1, 3], ![4, 8, 3, 0]] : Grid Float 2 4).pivots 1e-9) ∧
      ∃ f ∈ p.freeVariables, ∃ c, x.element (f - 1) = .ok c ∧ (c == 3) = true := by
  obtain ⟨p, hp, hcount, hpoint⟩ := exists_eq_ok_of_any
    (x := Parametrization.ofReduced (Grid.ofFn ![![2, 4, 1, 3], ![4, 8, 3, 0]])
      (Vector.ofFn ![1, 2]) (1e-9 : Float))
    (P := fun p => p.freeVariables.length = 2 ∧ (p.point [0.1, 3]).toOption.isSome = true)
    (by decide +kernel)
  obtain ⟨x, hx⟩ := exists_eq_ok_of_isSome hpoint
  obtain ⟨hshows, hcoordinates, -⟩ := coordinates_at_free_variables hp
  have hlast : 1 < p.freeVariables.length := by omega
  obtain ⟨-, hcoordinate⟩ := hcoordinates _ x (by decide +kernel) hx
  exact ⟨p, x, hp, hx, hshows, _, List.getElem_mem hlast, hcoordinate 1 hlast (by decide)⟩

end FloatingPoint

end LinearSystems
