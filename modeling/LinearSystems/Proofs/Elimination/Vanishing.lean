import Mathlib
import LinearSystems.Proofs.Elimination.Passes
import LinearSystems.Proofs.Elimination.Staircase

/-!
# What vanishes below the staircase

A column that vanishes from some row down keeps vanishing there, whatever the row operations make
of the other columns.  The triangular pass sets the columns that it skips to zero, so every column
without a pivot vanishes below the staircase, after this pass (`Sweep.vanishes_entry_run`) and after
the reduced one (`Tableau.vanishes_entry_backSubstitute`).

The values in the pivot columns are another matter: nothing is said about them here.
-/

namespace LinearSystems

variable {K : Type} {m d : Nat}

open LawfulVanishing Scalar

namespace Line

variable [Scalar K] [LawfulVanishing K] {τ : K} {c j : Fin d} {l source target : Line K d}

theorem vanishes_eliminate (hsource : vanishes (source.1 j) = true)
    (htarget : vanishes (target.1 j) = true) :
    vanishes ((eliminate τ c source target).1 j) = true := by
  rw [eliminate]
  split
  · exact htarget
  · show vanishes (if j = c then 0 else _) = true
    split
    · exact vanishes_zero
    · exact vanishes_add_mul _ htarget hsource

theorem vanishes_normalize (hj : j ≠ c) (h : vanishes (l.1 j) = true) :
    vanishes ((normalize c l).1 j) = true := by
  show vanishes (if j = c then 1 else l.1 j * (1 / l.1 c)) = true
  rw [if_neg hj]
  exact vanishes_mul _ h

theorem vanishes_clear {start stop : Nat}
    (h : vanishes (l.1 j) = true ∨ start ≤ j ∧ j < stop) :
    vanishes ((l.clear start stop).1 j) = true := by
  show vanishes (if start ≤ j.val ∧ j.val < stop then 0 else l.1 j) = true
  split
  · exact vanishes_zero
  · next hkept => exact h.resolve_right hkept

end Line

/-! ## The triangular pass -/

namespace Sweep

variable [Scalar K] [LawfulVanishing K] {τ : K} {s : Sweep K m d} {i : Fin m} {j : Fin d}

/-- A column that vanishes from the current row down keeps vanishing there. -/
theorem vanishes_entry_step (h : ∀ r, i ≤ r → vanishes (s.tableau.entry r j) = true) {r : Fin m}
    (hr : i ≤ r) : vanishes ((s.step τ i).tableau.entry r j) = true := by
  rw [Tableau.entry_eq_line]
  cases hfound : s.tableau.findPivot τ i s.next with
  | none =>
      rw [step_of_none hfound, Tableau.line_clearBlock, if_pos (Fin.le_def.1 hr)]
      exact Line.vanishes_clear (Or.inl (h r hr))
  | some q =>
      obtain ⟨p, c⟩ := q
      have hp : i ≤ p := (Tableau.findPivot_eq_some_iff.1 hfound).1.2.1
      have hsource : vanishes (((s.tableau.line p).clear s.next c).1 j) = true :=
        Line.vanishes_clear (Or.inl (h p hp))
      rw [line_step_of_some hfound]
      split
      · apply Line.vanishes_eliminate hsource
        exact Line.vanishes_clear (Or.inl (h _ (Tableau.le_exchange hp hr)))
      · next hlt =>
          rw [if_pos (le_antisymm (not_lt.1 hlt) hr)]
          exact hsource

/-- A column that the step skips vanishes from the current row down. -/
theorem vanishes_entry_step_of_skipped {p : Fin m} {c : Fin d}
    (hfound : s.tableau.findPivot τ i s.next = some (p, c)) (hj : s.next ≤ j) (hjc : j < c)
    {r : Fin m} (hr : i ≤ r) : vanishes ((s.step τ i).tableau.entry r j) = true := by
  have hcleared (l : Line K d) : vanishes ((l.clear s.next c).1 j) = true :=
    Line.vanishes_clear (Or.inr ⟨hj, Fin.lt_def.1 hjc⟩)
  rw [Tableau.entry_eq_line, line_step_of_some hfound]
  split
  · exact Line.vanishes_eliminate (hcleared _) (hcleared _)
  · next hlt =>
      rw [if_pos (le_antisymm (not_lt.1 hlt) hr)]
      exact hcleared _

theorem vanishes_entry_runFrom {k : Nat} (hk : k ≤ m) (s : Sweep K m d)
    (h : ∀ r : Fin m, k ≤ r → vanishes (s.tableau.entry r j) = true) (r : Fin m) (hr : k ≤ r) :
    vanishes ((runFrom τ k s).tableau.entry r j) = true := by
  induction k, hk using rows_induction generalizing s r with
  | done =>
      rw [runFrom_self]
      exact h r hr
  | row i ih =>
      have hstep (r : Fin m) (hr : i ≤ r) :
          vanishes ((s.step τ i).tableau.entry r j) = true :=
        vanishes_entry_step (fun r hr => h r (Fin.le_def.1 hr)) hr
      rw [runFrom_fin]
      rcases Nat.eq_or_lt_of_le hr with heq | hlt
      · rw [Tableau.entry_eq_line, line_runFrom_of_lt i.isLt (by omega), ← Tableau.entry_eq_line]
        exact hstep r hr
      · exact ih (s.step τ i) (fun r hr => hstep r (Fin.le_def.2 (by omega))) r hlt

/-- A column that vanishes from row `i` on after the step of that row keeps vanishing there. -/
theorem vanishes_entry_runFrom_succ {s : Sweep K m d} {i : Fin m}
    (h : ∀ r : Fin m, i ≤ r → vanishes (s.tableau.entry r j) = true) {r : Fin m} (hr : i ≤ r) :
    vanishes ((runFrom τ (i + 1) s).tableau.entry r j) = true := by
  rcases eq_or_lt_of_le hr with rfl | hlt
  · rw [Tableau.entry_eq_line, line_runFrom_of_lt i.isLt (Nat.lt_succ_self i),
      ← Tableau.entry_eq_line]
    exact h i hr
  · refine vanishes_entry_runFrom i.isLt s ?_ r (Fin.lt_def.1 hlt)
    intro r hr
    exact h r (Fin.le_def.2 (Nat.le_of_succ_le hr))

theorem vanishes_entry_runFrom_of_below {k : Nat} (hk : k ≤ m) (s : Sweep K m d) (r : Fin m)
    (j : Fin d) (hr : k ≤ r) (hj : s.next ≤ j)
    (hbelow : BelowPivots (pivotsFrom τ (rowsFrom m k) s) r j)
    (hcolumn : j ∉ (pivotsFrom τ (rowsFrom m k) s).map Prod.snd) :
    vanishes ((runFrom τ k s).tableau.entry r j) = true := by
  induction k, hk using rows_induction generalizing s r with
  | done => exact absurd r.isLt (not_lt.2 hr)
  | row i ih =>
      cases hfound : s.tableau.findPivot τ i s.next with
      | none =>
          -- No pivot is left: what remains from row `i` down is cleared and stays.
          rw [Tableau.entry_eq_line, line_runFrom_of_none hfound, if_pos (Fin.le_def.2 hr)]
          exact Line.vanishes_clear (Or.inr ⟨hj, j.isLt⟩)
      | some q =>
          obtain ⟨p, c⟩ := q
          rw [runFrom_fin]
          rw [pivotsFrom_fin_of_some hfound] at hbelow hcolumn
          rw [List.map_cons, List.mem_cons, not_or] at hcolumn
          rcases lt_or_ge j c with hjc | hcj
          · -- Column `j` is skipped: it is cleared from row `i` down, and nothing returns to it.
            apply vanishes_entry_runFrom_succ _ (Fin.le_def.2 hr)
            intro r hr
            exact vanishes_entry_step_of_skipped hfound hj hjc hr
          · -- The place lies below a later step of the staircase.
            have hir : i < r := hbelow (i, c) List.mem_cons_self hcj
            have hne : j ≠ c := hcolumn.1
            refine ih (s.step τ i) r (Fin.lt_def.1 hir) ?_
              (fun p hp => hbelow p (List.mem_cons_of_mem _ hp)) hcolumn.2
            rw [next_step_of_some hfound]
            exact Nat.succ_le_of_lt (Fin.lt_def.1 (lt_of_le_of_ne hcj (Ne.symm hne)))

/-- Below the staircase every column without a pivot vanishes after the triangular pass. -/
theorem vanishes_entry_run (t : Tableau K m d) {i : Fin m} {j : Fin d}
    (hbelow : BelowPivots (pivots τ t) i j) (hcolumn : j ∉ (pivots τ t).map Prod.snd) :
    vanishes ((run τ t).tableau.entry i j) = true := by
  rw [run_eq_runFrom]
  exact vanishes_entry_runFrom_of_below (Nat.zero_le m) ⟨t, 0, []⟩ i j (Nat.zero_le i)
    (Nat.zero_le j) hbelow hcolumn

end Sweep

/-! ## The reduced pass -/

namespace Tableau

variable [Scalar K] [LawfulVanishing K] {τ : K} {pivots : List (Pivot m d)} {j : Fin d}

/-- A column that vanishes below the staircase keeps doing so. -/
theorem vanishes_entry_normalizeAt {t : Tableau K m d} {q : Pivot m d} (hq : q ∈ pivots)
    (h : ∀ i, BelowPivots pivots i j → vanishes (t.entry i j) = true) {i : Fin m}
    (hi : BelowPivots pivots i j) : vanishes ((t.normalizeAt τ q).entry i j) = true := by
  rw [entry_eq_line, line_normalizeAt]
  split
  · next hlt =>
      have hbelow : BelowPivots pivots q.1 j := fun p hp hpj => (hi p hp hpj).trans hlt
      exact Line.vanishes_eliminate (h q.1 hbelow) (h i hi)
  · split
    · next heq =>
        subst heq
        have hne : j ≠ q.2 := fun heq => lt_irrefl q.1 (hi q hq heq.ge)
        exact Line.vanishes_normalize hne (h q.1 hi)
    · exact h i hi

theorem vanishes_entry_backSubstitute {done : List (Pivot m d)} (hdone : ∀ q ∈ done, q ∈ pivots)
    {t : Tableau K m d} (h : ∀ i, BelowPivots pivots i j → vanishes (t.entry i j) = true)
    {i : Fin m} (hi : BelowPivots pivots i j) :
    vanishes ((t.backSubstitute τ done).entry i j) = true := by
  induction done generalizing t with
  | nil => exact h i hi
  | cons q done ih =>
      exact ih (fun p hp => hdone p (List.mem_cons_of_mem q hp)) fun i hi =>
        vanishes_entry_normalizeAt (hdone q List.mem_cons_self) h hi

theorem vanishes_entry_clean {t : Tableau K m d} {i : Fin m} (h : vanishes (t.entry i j) = true) :
    vanishes ((t.clean τ).entry i j) = true := by
  rw [entry_clean]
  split
  · exact vanishes_zero
  · exact h

/-- After both passes nothing below the staircase is significant outside its columns. -/
theorem isClearBelow_gaussJordan (hτ : 0 < τ) (t : Tableau K m d) :
    (t.gaussJordan τ).rows.IsClearBelow τ (Sweep.pivots τ t) := by
  intro i j hbelow hcolumn
  apply isSignificant_of_vanishes hτ
  apply vanishes_entry_clean
  exact vanishes_entry_backSubstitute (fun _ hq => hq)
    (fun _ hi => Sweep.vanishes_entry_run t hi hcolumn) hbelow

end Tableau

end LinearSystems
