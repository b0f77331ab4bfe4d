import Mathlib
import LinearSystems.Proofs.Elimination.PivotGuard
import LinearSystems.Proofs.Elimination.Residue

/-!
# The offsets do not steer the elimination

Offsets are carried along: they are exchanged, scaled and combined with their rows, but every
search, every zero test and every multiplier reads entries only.  Two eliminations that start from
the same coefficients, with any two columns of offsets, therefore hold the same rows after each step
(`Sweep.SameRows.step`, `Tableau.rows_normalizeAt_congr`), and **they end both passes with the same
rows, the same pivots and the same small pivots** (`Elimination.passes_ignore_offsets`).

Nothing is asked of sums and products, so this holds whatever the row operations make of the numbers,
infinities and undefined values included.
-/

namespace LinearSystems

variable {K : Type} {m d : Nat}

namespace Tableau

/-- The rows are the coefficient parts of the lines. -/
theorem rows_eq_iff {t u : Tableau K m d} :
    t.rows = u.rows ↔ ∀ i j, (t.line i).1 j = (u.line i).1 j := by
  constructor
  · intro h i j
    show t.rows.entry i j = u.rows.entry i j
    rw [h]
  · exact Grid.ext_entry

end Tableau

variable [Scalar K] {τ : K}

theorem Line.clear_apply_congr {l l' : Line K d} {j : Fin d} (h : l.1 j = l'.1 j)
    (start stop : Nat) : (l.clear start stop).1 j = (l'.clear start stop).1 j := by
  simp only [Line.clear, h]

/-! ## The triangular pass -/

theorem Tableau.findPivot_eq_of_rows_eq {t u : Tableau K m d} (h : t.rows = u.rows)
    (row column : Nat) : t.findPivot τ row column = u.findPivot τ row column := by
  simp only [findPivot, Tableau.entry, h]

namespace Sweep

/-- Two triangular passes on their way that differ in nothing but offsets. -/
structure SameRows (s s' : Sweep K m d) : Prop where
  rows : s.tableau.rows = s'.tableau.rows
  next : s.next = s'.next
  smallPivots : s.smallPivots = s'.smallPivots

namespace SameRows

variable {s s' : Sweep K m d}

theorem findPivot (h : s.SameRows s') (i : Fin m) :
    s.tableau.findPivot τ i s.next = s'.tableau.findPivot τ i s'.next := by
  rw [h.next, Tableau.findPivot_eq_of_rows_eq h.rows]

/-- A step reads no offset. -/
theorem step (h : s.SameRows s') (i : Fin m) : (s.step τ i).SameRows (s'.step τ i) := by
  have hline := Tableau.rows_eq_iff.1 h.rows
  cases hfound : s.tableau.findPivot τ i s.next with
  | none =>
      have hfound' := (h.findPivot i).symm.trans hfound
      rw [step_of_none hfound, step_of_none hfound']
      refine ⟨Tableau.rows_eq_iff.2 fun r j => ?_, rfl, h.smallPivots⟩
      rw [Tableau.line_clearBlock, Tableau.line_clearBlock, h.next]
      split
      · exact Line.clear_apply_congr (hline r j) _ _
      · exact hline r j
  | some q =>
      obtain ⟨p, c⟩ := q
      have hfound' := (h.findPivot i).symm.trans hfound
      refine ⟨Tableau.rows_eq_iff.2 fun r j => ?_, ?_, ?_⟩
      · -- Multipliers are quotients of entries, so they agree too.
        have hclear (r : Fin m) (j : Fin d) : ((s.tableau.line r).clear s.next c).1 j =
            ((s'.tableau.line r).clear s'.next c).1 j := by
          rw [h.next]
          exact Line.clear_apply_congr (hline r j) _ _
        rw [line_step_of_some hfound, line_step_of_some hfound']
        split
        · exact Line.eliminate_apply_congr (hclear p c) (hclear _ c) (hclear p j) (hclear _ j)
        · split
          · exact hclear p j
          · exact hline r j
      · rw [next_step_of_some hfound, next_step_of_some hfound']
      · have hvalue : s.tableau.entry p c = s'.tableau.entry p c := hline p c
        rw [smallPivots_step_of_some hfound, smallPivots_step_of_some hfound', h.smallPivots,
          hvalue]

theorem foldl (h : s.SameRows s') (rows : List (Fin m)) :
    (rows.foldl (Sweep.step τ) s).SameRows (rows.foldl (Sweep.step τ) s') := by
  induction rows generalizing s s' with
  | nil => exact h
  | cons i rows ih => exact ih (h.step i)

end SameRows

theorem sameRows_run {t u : Tableau K m d} (h : t.rows = u.rows) :
    (run τ t).SameRows (run τ u) := by
  have hstart : (⟨t, 0, []⟩ : Sweep K m d).SameRows ⟨u, 0, []⟩ := ⟨h, rfl, rfl⟩
  exact hstart.foldl (List.finRange m)

end Sweep

/-! ## The reduced pass -/

namespace Tableau

theorem rows_normalizeAt_congr {t u : Tableau K m d} (h : t.rows = u.rows) (p : Pivot m d) :
    (t.normalizeAt τ p).rows = (u.normalizeAt τ p).rows := by
  have hline := rows_eq_iff.1 h
  refine rows_eq_iff.2 fun i j => ?_
  rw [line_normalizeAt, line_normalizeAt]
  split
  · exact Line.eliminate_apply_congr (hline p.1 p.2) (hline i p.2) (hline p.1 j) (hline i j)
  · split
    · exact Line.normalize_apply_congr (hline p.1 p.2) (hline p.1 j)
    · exact hline i j

theorem rows_backSubstitute_congr {t u : Tableau K m d} (h : t.rows = u.rows)
    (pivots : List (Pivot m d)) :
    (t.backSubstitute τ pivots).rows = (u.backSubstitute τ pivots).rows := by
  induction pivots generalizing t u with
  | nil => exact h
  | cons p pivots ih => exact ih (rows_normalizeAt_congr h p)

theorem rows_clean_congr {t u : Tableau K m d} (h : t.rows = u.rows) :
    (t.clean τ).rows = (u.clean τ).rows := by
  refine rows_eq_iff.2 fun i j => ?_
  rw [← entry_eq_line, ← entry_eq_line, entry_clean, entry_clean, entry_eq_line, entry_eq_line,
    rows_eq_iff.1 h i j]

end Tableau

namespace Elimination

/-- The report of a fresh elimination is what both of its passes lead to. -/
theorem concludes_of_reduced_eq_ok {s : LinearSystem K}
    {done : Elimination K s.equationCount s.dimensions}
    {pivots : List (Pivot s.equationCount s.dimensions)}
    (hpasses : (ofSystem s).triangular.reduced = .ok (done, pivots))
    {r : Report K s.equationCount s.dimensions} (hsolve : (ofSystem s).solve.1 = .ok r) :
    done.Concludes pivots r := by
  have hnone : (ofSystem s).report = none := rfl
  simp only [solve, hnone, hpasses] at hsolve
  split at hsolve
  · cases hsolve
  · next hconclude =>
      obtain rfl := Except.ok.inj hsolve
      exact concludes_of_eq_ok hconclude

/-- From states with the same rows the reduced pass meets the same pivots and leaves the same rows. -/
theorem exists_reduced_eq_ok [LawfulZeroTest K] (e e' : Elimination K m d)
    (hτ : e.tolerance = e'.tolerance) (h : e.tableau.rows = e'.tableau.rows) :
    ∃ t t' pivots, e.reduced = .ok ({ e with tableau := t }, pivots) ∧
      e'.reduced = .ok ({ e' with tableau := t' }, pivots) ∧ t.rows = t'.rows := by
  -- The pass reads its pivots off the rows.
  refine ⟨_, (e'.tableau.backSubstitute e.tolerance (e.tableau.rows.pivots e.tolerance)).clean
    e.tolerance, _, reduced_eq_ok e, ?_, ?_⟩
  · rw [reduced_eq_ok, ← hτ, ← h]
  · exact Tableau.rows_clean_congr (Tableau.rows_backSubstitute_congr h _)

/-- **The offsets do not steer the elimination.**  Whatever stands beside the coefficients, both
passes get through, and they end with the same rows, the same pivots and the same small pivots; so
the reports, where they are given, show one reduced matrix, one rank and the same small pivots. -/
theorem passes_ignore_offsets [LawfulZeroTest K] (A : Grid K m d) (τ : K) (b b' : Vector K m)
    (equations equations' : List (LinearEquation K)) :
    ∃ done done' pivots,
      (ofSystem ⟨m, d, A, b, τ, equations⟩).triangular.reduced = .ok (done, pivots) ∧
      (ofSystem ⟨m, d, A, b', τ, equations'⟩).triangular.reduced = .ok (done', pivots) ∧
      done.tableau.rows = done'.tableau.rows ∧ done.smallPivots = done'.smallPivots ∧
      ∀ r r', (ofSystem ⟨m, d, A, b, τ, equations⟩).solve.1 = .ok r →
        (ofSystem ⟨m, d, A, b', τ, equations'⟩).solve.1 = .ok r' →
        r.rows = r'.rows ∧ r.pivots = r'.pivots ∧ r.rank = r'.rank ∧
          r.smallPivots = r'.smallPivots := by
  have hswept : (Sweep.run τ ⟨A, b⟩).SameRows (Sweep.run τ ⟨A, b'⟩) := Sweep.sameRows_run rfl
  obtain ⟨t, t', pivots, hpasses, hpasses', hrows⟩ := exists_reduced_eq_ok
    (ofSystem ⟨m, d, A, b, τ, equations⟩).triangular
    (ofSystem ⟨m, d, A, b', τ, equations'⟩).triangular rfl hswept.rows
  refine ⟨_, _, pivots, hpasses, hpasses', hrows, hswept.smallPivots, fun r r' hr hr' => ?_⟩
  have hreport := concludes_of_reduced_eq_ok hpasses hr
  have hreport' := concludes_of_reduced_eq_ok hpasses' hr'
  have hfound : r.pivots = r'.pivots := hreport.pivots.trans hreport'.pivots.symm
  refine ⟨?_, hfound, congrArg List.length hfound, ?_⟩
  · rw [hreport.rows, hreport'.rows]
    exact hrows
  · rw [hreport.smallPivots, hreport'.smallPivots]
    exact hswept.smallPivots

/-- In binary floating point eliminating with the first row overflows.  Beside the offsets `1e200`
the passes end with an undefined offset, beside zeros with none, and in the same rows. -/
theorem passes_ignore_offsets_of_overflow :
    ∃ (e e' done done' : Elimination Float 2 2) (pivots : List (Pivot 2 2)),
      e.tableau = ⟨Grid.ofFn ![![1, 1e200], ![-1e200, 1]], Vector.ofFn ![1e200, 1e200]⟩ ∧
      e'.tableau = ⟨Grid.ofFn ![![1, 1e200], ![-1e200, 1]], Vector.ofFn ![0, 0]⟩ ∧
      e.triangular.reduced = .ok (done, pivots) ∧ e'.triangular.reduced = .ok (done', pivots) ∧
      (∃ i, Scalar.isFinite (done.tableau.offset i) = false) ∧
      (∀ i, Scalar.isFinite (done'.tableau.offset i) = true) ∧
      done.tableau.rows = done'.tableau.rows := by
  have hpasses := passes_ignore_offsets (Grid.ofFn ![![1, 1e200], ![-1e200, 1]]) (1e-9 : Float)
    (Vector.ofFn ![1e200, 1e200]) (Vector.ofFn ![0, 0]) [] []
  obtain ⟨a, ha, hundefined⟩ := exists_eq_ok_of_any (x := (ofSystem (⟨2, 2,
      Grid.ofFn ![![1, 1e200], ![-1e200, 1]], Vector.ofFn ![1e200, 1e200], 1e-9, []⟩ :
        LinearSystem Float)).triangular.reduced)
    (P := fun a => ∃ i, Scalar.isFinite (a.1.tableau.offset i) = false) (by decide +kernel)
  obtain ⟨a', ha', hfinite⟩ := exists_eq_ok_of_any (x := (ofSystem (⟨2, 2,
      Grid.ofFn ![![1, 1e200], ![-1e200, 1]], Vector.ofFn ![0, 0], 1e-9, []⟩ :
        LinearSystem Float)).triangular.reduced)
    (P := fun a => ∀ i, Scalar.isFinite (a.1.tableau.offset i) = true) (by decide +kernel)
  obtain ⟨done, done', pivots, hdone, hdone', hrows, -⟩ := hpasses
  have hfound := Except.ok.inj (hdone.symm.trans ha)
  have hfound' := Except.ok.inj (hdone'.symm.trans ha')
  subst hfound hfound'
  exact ⟨_, _, done, done', pivots, rfl, rfl, hdone, hdone', hundefined, hfinite, hrows⟩

end Elimination

end LinearSystems
