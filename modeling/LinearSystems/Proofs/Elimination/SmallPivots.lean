import Mathlib
import LinearSystems.Proofs.Elimination.Passes
import LinearSystems.Proofs.Elimination.Staircase
import LinearSystems.Proofs.FloatingPoint

/-!
# Small pivots

The triangular pass notes a pivot as small when it places it; the reduced pass reads the pivot once
more, just before it scales the row.  In between only other rows change, so both read the same
value (`Sweep.smallPivots_run`, `Tableau.reduceNoting_run_eq_ok`).

What the reduced pass reads is made visible by a walk that notes something at each pivot and
otherwise does the same (`Grid.noting`).  **The report lists the pivots as they were placed, and as
small those that are read below a multiple of the tolerance, with the value read**
(`Elimination.pivots_and_smallPivots_eq`): in any arithmetic whose zero tests are lawful, whatever
the row operations make of the other entries.
-/

namespace LinearSystems

variable {K : Type} {m d : Nat}

namespace Grid

variable {σ ε β : Type}

/-- The action together with a list of what was noted before each turn. -/
def noting (act : σ → Pivot m d → Except ε σ) (note : σ → Pivot m d → β) :
    σ × List β → Pivot m d → Except ε (σ × List β)
  | (s, notes), p => do
    let next ← act s p
    return (next, notes ++ [note s p])

/-- Notes do not change the walk. -/
theorem scan_noting [Scalar K] (τ : K) (view : σ → Grid K m d) (act : σ → Pivot m d → Except ε σ)
    (note : σ → Pivot m d → β) (rows : List (Fin m)) (start : Nat) (s : σ) (notes : List β) :
    (fun walk => (walk.1.1, walk.2)) <$>
        scan τ (fun state => view state.1) (noting act note) rows start (s, notes) =
      scan τ view act rows start s := by
  induction rows generalizing start s notes with
  | nil => rfl
  | cons i rows ih =>
      simp only [scan]
      cases hj : (view s).leading? τ i start with
      | none => exact ih start s notes
      | some j =>
          cases hact : act s (i, j) with
          | error fault => simp [noting, hact, bind, Except.bind, Functor.map, Except.map]
          | ok next =>
              have htail := ih (j + 1) next (notes ++ [note s (i, j)])
              simp only [noting, hact, bind, Except.bind, pure, Except.pure] at htail ⊢
              rw [← htail]
              cases scan τ (fun state => view state.1) (noting act note) rows (j + 1)
                (next, notes ++ [note s (i, j)]) <;> rfl

end Grid

variable [Scalar K] {τ : K}

/-- The pairs whose value is small against the tolerance. -/
def nearZero (τ : K) (notes : List (Pivot m d × K)) : List (Pivot m d × K) :=
  notes.filter fun note => Scalar.abs note.2 < Tolerance.nearZeroFactor * τ

/-- The pivots with the values that stand at them. -/
def Tableau.readAt (t : Tableau K m d) (pivots : List (Pivot m d)) : List (Pivot m d × K) :=
  pivots.map fun p => (p, t.entry p.1 p.2)

theorem nearZero_cons (τ : K) (note : Pivot m d × K) (notes : List (Pivot m d × K)) :
    nearZero τ (note :: notes) = nearZero τ [note] ++ nearZero τ notes :=
  List.filter_append [note] notes

omit [Scalar K] in
theorem Tableau.readAt_cons (t : Tableau K m d) (p : Pivot m d) (pivots : List (Pivot m d)) :
    t.readAt (p :: pivots) = (p, t.entry p.1 p.2) :: t.readAt pivots :=
  rfl

/-! ## The triangular pass -/

namespace Sweep

variable {s : Sweep K m d} {i : Fin m}

theorem smallPivots_step_of_none (h : s.tableau.findPivot τ i s.next = none) :
    (s.step τ i).smallPivots = s.smallPivots := by
  rw [step_of_none h]

theorem smallPivots_step_of_some {p : Fin m} {c : Fin d}
    (h : s.tableau.findPivot τ i s.next = some (p, c)) :
    (s.step τ i).smallPivots =
      s.smallPivots ++ nearZero τ [((i, c), s.tableau.entry p c)] := by
  simp only [step, h, Tableau.entry_swap_clearBlock, nearZero, List.filter_cons, List.filter_nil]
  split <;> simp

/-- The value of a pivot stays as it is once the pivot is placed. -/
theorem entry_runFrom_of_some {p : Fin m} {c : Fin d}
    (h : s.tableau.findPivot τ i s.next = some (p, c)) :
    (runFrom τ i s).tableau.entry i c = s.tableau.entry p c := by
  rw [Tableau.entry_eq_line, line_runFrom_of_some h]
  exact if_neg fun hcleared => lt_irrefl _ hcleared.2

/-- From any row on, the pass notes the pivots that it leaves with a small value. -/
theorem smallPivots_runFrom {k : Nat} (hk : k ≤ m) (s : Sweep K m d) :
    (runFrom τ k s).smallPivots = s.smallPivots ++
      nearZero τ ((runFrom τ k s).tableau.readAt (pivotsFrom τ (rowsFrom m k) s)) := by
  induction k, hk using rows_induction generalizing s with
  | done => simp [runFrom_self, rowsFrom_self, pivotsFrom, nearZero, Tableau.readAt]
  | row i ih =>
      cases h : s.tableau.findPivot τ i s.next with
      | none =>
          have hnext : d ≤ (s.step τ i).next := by
            rw [step_of_none h]
          have htail := ih (s.step τ i)
          rw [pivotsFrom_of_exhausted hnext, smallPivots_step_of_none h, ← runFrom_fin] at htail
          rw [pivotsFrom_fin_of_none h]
          exact htail
      | some q =>
          obtain ⟨p, c⟩ := q
          have htail := ih (s.step τ i)
          rw [smallPivots_step_of_some h, ← runFrom_fin] at htail
          rw [htail, pivotsFrom_fin_of_some h, Tableau.readAt_cons, entry_runFrom_of_some h,
            List.append_assoc, ← nearZero_cons]

/-- The small pivots are those that the finished tableau shows with a small value. -/
theorem smallPivots_run (t : Tableau K m d) :
    (run τ t).smallPivots = nearZero τ ((run τ t).tableau.readAt (pivots τ t)) := by
  rw [run_eq_runFrom, smallPivots_runFrom (Nat.zero_le m)]
  rfl

end Sweep

/-! ## The reduced pass -/

namespace Tableau

/-- What the reduced pass reads just before it scales the row of the pivot. -/
def pivotValue (τ : K) (t : Tableau K m d) (p : Pivot m d) : K :=
  (t.eliminateAbove τ p.1 p.2).entry p.1 p.2

theorem pivotValue_eq (τ : K) (t : Tableau K m d) (p : Pivot m d) :
    t.pivotValue τ p = t.entry p.1 p.2 := by
  rw [pivotValue, entry_eq_line, line_eliminateAbove, if_neg (lt_irrefl p.1), ← entry_eq_line]

/-- The reduced pass before it cleans, noting the value of each pivot as it is read. -/
def reduceNoting (τ : K) (t : Tableau K m d) :
    Except (Fault K) ((Tableau K m d × List (Pivot m d × K)) × List (Pivot m d)) :=
  Grid.scan τ (fun state => state.1.rows)
    (Grid.noting (reduceAt τ) fun t p => (p, t.pivotValue τ p)) (List.finRange m) 0 (t, [])

/-- Apart from the notes it is the reduced pass. -/
theorem reduce_eq_map_reduceNoting (τ : K) (t : Tableau K m d) :
    t.reduce τ = (fun walk => (walk.1.1.clean τ, walk.2)) <$> t.reduceNoting τ := by
  have hwalk := Grid.scan_noting τ Tableau.rows (reduceAt τ)
    (fun t p => (p, t.pivotValue τ p)) (List.finRange m) 0 t []
  rw [reduce, ← hwalk]
  change _ = _ <$> Grid.scan τ _ _ (List.finRange m) 0 (t, [])
  cases Grid.scan τ (fun state => Tableau.rows state.1)
    (Grid.noting (reduceAt τ) fun t p => (p, t.pivotValue τ p)) (List.finRange m) 0 (t, []) <;> rfl

theorem foldlM_noting_eq_ok {pivots : List (Pivot m d)}
    (hrows : pivots.Pairwise fun p q => p.1 < q.1) {t : Tableau K m d}
    (hpivots : ∀ p ∈ pivots, Scalar.isZero (t.entry p.1 p.2) τ = false)
    (notes : List (Pivot m d × K)) :
    pivots.foldlM (Grid.noting (reduceAt τ) fun t p => (p, t.pivotValue τ p)) (t, notes) =
      .ok (t.backSubstitute τ pivots, notes ++ t.readAt pivots) := by
  induction pivots generalizing t notes with
  | nil => simp [backSubstitute, readAt, pure, Except.pure]
  | cons p pivots ih =>
      obtain ⟨hp, hrows⟩ := List.pairwise_cons.1 hrows
      have hbelow (q : Pivot m d) (hq : q ∈ pivots) :
          (t.normalizeAt τ p).entry q.1 q.2 = t.entry q.1 q.2 :=
        entry_normalizeAt_of_lt τ t p (hp q hq) q.2
      have htail := ih hrows (t := t.normalizeAt τ p)
        (fun q hq => (hbelow q hq).symm ▸ hpivots q (List.mem_cons_of_mem p hq))
        (notes ++ [(p, t.pivotValue τ p)])
      have hread : (t.normalizeAt τ p).readAt pivots = t.readAt pivots :=
        List.map_congr_left fun q hq => by rw [hbelow q hq]
      rw [hread, List.append_assoc] at htail
      have hfirst : Grid.noting (reduceAt τ) (fun t p => (p, t.pivotValue τ p)) (t, notes) p =
          .ok (t.normalizeAt τ p, notes ++ [(p, t.pivotValue τ p)]) := by
        rw [Grid.noting, reduceAt_eq_ok (hpivots p List.mem_cons_self)]
        rfl
      rw [List.foldlM_cons, hfirst]
      refine htail.trans ?_
      rw [pivotValue_eq]
      rfl

/-- A turn of the noting walk leaves the rows below its pivot alone. -/
theorem rows_eq_of_noting_eq_ok {state next : Tableau K m d × List (Pivot m d × K)}
    {p : Pivot m d}
    (h : Grid.noting (reduceAt τ) (fun t p => (p, t.pivotValue τ p)) state p = .ok next)
    {i : Fin m} (hi : p.1 < i) : next.1.rows.entry i = state.1.rows.entry i := by
  obtain ⟨t, notes⟩ := state
  cases hact : t.reduceAt τ p with
  | error fault =>
      rw [Grid.noting, hact] at h
      cases h
  | ok u =>
      rw [Grid.noting, hact] at h
      obtain rfl := Except.ok.inj h
      exact rows_eq_of_reduceAt_eq_ok hact hi

/-- From any tableau the reduced pass reads every pivot with the value that stood there before. -/
theorem reduceNoting_eq_ok [LawfulZeroTest K] (τ : K) (t : Tableau K m d) :
    t.reduceNoting τ = .ok ((t.backSubstitute τ (t.rows.pivots τ), t.readAt (t.rows.pivots τ)),
      t.rows.pivots τ) := by
  have hscan := Grid.scan_eq_foldlM τ (fun state => Tableau.rows state.1)
    (Grid.noting (reduceAt τ) fun t p => (p, t.pivotValue τ p))
    (fun _ _ _ h _ hi => rows_eq_of_noting_eq_ok h hi) (List.pairwise_lt_finRange m) 0
    (t, ([] : List (Pivot m d × K)))
  have hfold := foldlM_noting_eq_ok (τ := τ) (t := t)
    ((Grid.pairwise_pivots τ t.rows).imp And.left)
    (fun p hp => LawfulZeroTest.isZero_of_isSignificant (Grid.isSignificant_of_mem_pivots hp)) []
  change _ = (do
    let last ← (t.rows.pivots τ).foldlM _ (t, [])
    return (last, t.rows.pivots τ)) at hscan
  rw [hfold] at hscan
  exact hscan

/-- The reduced pass reads every pivot with the value that the triangular pass left there. -/
theorem reduceNoting_run_eq_ok [LawfulZeroTest K] (hτ : 0 < τ) (t : Tableau K m d) :
    (Sweep.run τ t).tableau.reduceNoting τ =
      .ok (((Sweep.run τ t).tableau.backSubstitute τ (Sweep.pivots τ t),
        (Sweep.run τ t).tableau.readAt (Sweep.pivots τ t)), Sweep.pivots τ t) := by
  have hfound : (Sweep.run τ t).tableau.rows.pivots τ = Sweep.pivots τ t :=
    Sweep.pivots_run (LawfulZeroTest.isSignificant_zero hτ) t
  rw [← hfound]
  exact reduceNoting_eq_ok τ _

end Tableau

namespace Elimination

/-- **The pivots of the report are those that the triangular pass placed**, in its order: one in
each of the first rows, in strictly increasing columns.  The reduced pass meets the same ones, and
the small pivots of the report are those that it reads with a small value just before it scales
them, each with that value. -/
theorem pivots_and_smallPivots_eq [LawfulZeroTest K] {s : LinearSystem K}
    (hτ : 0 < s.tolerance) :
    ∃ placed notes reduced,
      placed = Sweep.pivots s.tolerance ⟨s.coefficients, s.offsets⟩ ∧
      IsStaircase placed ∧ placed.length ≤ min s.equationCount s.dimensions ∧
      (ofSystem s).triangular.tableau.reduceNoting s.tolerance = .ok ((reduced, notes), placed) ∧
      (ofSystem s).triangular.tableau.reduce s.tolerance =
        .ok (reduced.clean s.tolerance, placed) ∧
      notes.map Prod.fst = placed ∧
      ∀ r, (ofSystem s).solve.1 = .ok r → r.pivots = placed ∧
        r.smallPivots = notes.filter fun note =>
          Scalar.abs note.2 < Tolerance.nearZeroFactor * s.tolerance := by
  have hstairs := Sweep.isStaircase_pivots hτ ⟨s.coefficients, s.offsets⟩
  have hwalk := Tableau.reduceNoting_run_eq_ok hτ ⟨s.coefficients, s.offsets⟩
  refine ⟨_, _, _, rfl, hstairs, hstairs.length_le_min, hwalk, ?_, ?_, ?_⟩
  · exact (Tableau.reduce_eq_map_reduceNoting _ _).trans (congrArg _ hwalk)
  · rw [Tableau.readAt, List.map_map]
    exact List.map_id _
  · intro r hr
    have hreport := concludes_of_solve_eq_ok hτ hr
    exact ⟨hreport.pivots, hreport.smallPivots.trans (Sweep.smallPivots_run _)⟩

/-- In binary floating point, at tolerance `1/8`: the pivot `256` is above the bound `125`, the
pivot `1` below it. -/
theorem smallPivots_of_uneven_pivots :
    ∃ s, LinearSystem.ofArrays (Grid.ofFn ![![256, 1], ![0, 1]]) (Vector.ofFn ![1, 1])
        (0.125 : Float) = .ok s ∧
      ∃ r, (ofSystem s).solve.1 = .ok r ∧
        r.pivots.map (fun p => (p.1.val, p.2.val)) = [(0, 0), (1, 1)] ∧
        r.smallPivots.map (fun note => (note.1.1.val, note.1.2.val, note.2)) = [(1, 1, 1)] := by
  refine ⟨⟨2, 2, Grid.ofFn ![![256, 1], ![0, 1]], Vector.ofFn ![1, 1], 0.125,
    [⟨⟨2, #v[256, 1], .column, 0.125⟩, 1, .general⟩,
      ⟨⟨2, #v[0, 1], .column, 0.125⟩, 1, .general⟩]⟩, rfl, ?_⟩
  obtain ⟨r, hsolve, -⟩ := exists_solve_eq_ok (K := Float) (m := 2) (d := 2)
    (e := ⟨⟨Grid.ofFn ![![256, 1], ![0, 1]], Vector.ofFn ![1, 1]⟩, 0.125, [], none⟩)
    (P := fun _ => True) (by decide +kernel)
  refine ⟨r, hsolve, ?_⟩
  obtain ⟨placed, notes, reduced, rfl, -, -, hwalk, -, -, hreport⟩ := pivots_and_smallPivots_eq
    (s := (⟨2, 2, Grid.ofFn ![![256, 1], ![0, 1]], Vector.ofFn ![1, 1], 0.125,
      [⟨⟨2, #v[256, 1], .column, 0.125⟩, 1, .general⟩,
        ⟨⟨2, #v[0, 1], .column, 0.125⟩, 1, .general⟩]⟩ : LinearSystem Float)) (by decide)
  obtain ⟨hpivots, hsmall⟩ := hreport r hsolve
  have hread : ((Sweep.run (0.125 : Float) ⟨Grid.ofFn ![![256, 1], ![0, 1]],
      Vector.ofFn ![1, 1]⟩).tableau.reduceNoting 0.125).toOption.map (fun walk => walk.1.2) =
      some [(((0 : Fin 2), (0 : Fin 2)), 256), (((1 : Fin 2), (1 : Fin 2)), 1)] := by
    decide +kernel
  have hnotes : notes = [((0, 0), 256), ((1, 1), 1)] :=
    Option.some.inj ((congrArg (fun walk => walk.toOption.map fun w => w.1.2) hwalk).symm.trans
      hread)
  constructor
  · rw [hpivots]
    decide +kernel
  · rw [hsmall, hnotes]
    decide +kernel

end Elimination

end LinearSystems
