import Mathlib
import LinearSystems.Proofs.Answers
import LinearSystems.Proofs.Elimination.SmallPivots

/-!
# No pivot vanishes

The reduced pass finds a pivot with one zero test and reads it again with another, after the rows
above it have changed.  It refuses a pivot that reads as zero then.  The rows above are all that
changes in between, and a significant value never reads as zero, so **it refuses none**: whatever
tableau it starts from, in echelon form or not, and whatever the row operations make of the other
entries (`Elimination.no_pivot_vanishes`).  What else can fail is the answer, for its numbers.

Neither a sign of the tolerance nor its being a number at all is asked for.
-/

namespace LinearSystems

variable {K : Type} [Scalar K] {m d : Nat}

/-- The second zero test lets every value pass that the reduced pass reads. -/
theorem Tableau.isZero_eq_false_of_mem_readAt [LawfulZeroTest K] {τ : K} {t : Tableau K m d}
    {note : Pivot m d × K} (hnote : note ∈ t.readAt (t.rows.pivots τ)) :
    Scalar.isSignificant τ note.2 = true ∧ Scalar.isZero note.2 τ = false := by
  obtain ⟨p, hp, rfl⟩ := List.mem_map.1 hnote
  have hsignificant : Scalar.isSignificant τ (t.entry p.1 p.2) = true :=
    Grid.isSignificant_of_mem_pivots hp
  exact ⟨hsignificant, LawfulZeroTest.isZero_of_isSignificant hsignificant⟩

namespace Elimination

/-- The reduced pass gets through from every state. -/
theorem reduced_eq_ok [LawfulZeroTest K] (e : Elimination K m d) :
    e.reduced = .ok
      (⟨(e.tableau.backSubstitute e.tolerance (e.tableau.rows.pivots e.tolerance)).clean
          e.tolerance, e.tolerance, e.smallPivots, e.report⟩,
        e.tableau.rows.pivots e.tolerance) := by
  rw [reduced, Tableau.reduce_eq_ok fun _ => LawfulZeroTest.isZero_of_isSignificant]
  rfl

/-- A solve fails only where an answer fails. -/
theorem exists_conclude_eq_error [LawfulZeroTest K] {e : Elimination K m d} {fault : Fault K}
    (h : e.solve.1 = .error fault) :
    ∃ (done : Elimination K m d) (pivots : List (Pivot m d)),
      done.tolerance = e.tolerance ∧ done.conclude pivots = .error fault := by
  unfold solve at h
  cases hreport : e.report with
  | some r =>
      simp only [hreport] at h
      cases h
  | none =>
      simp only [hreport, reduced_eq_ok] at h
      split at h
      · next refused hconclude =>
          obtain rfl := Except.error.inj h
          refine ⟨_, _, ?_, hconclude⟩
          rfl
      · cases h

/-- **No pivot vanishes.**  From no state does a solve end with a pivot that reads as zero: the
reduced pass gets through, and each pivot that it meets, read once the rows above have been
eliminated and just before its row is scaled, is significant and not zero within tolerance. -/
theorem no_pivot_vanishes [LawfulZeroTest K] (e : Elimination K m d) :
    (∀ fault, e.solve.1 = .error fault → fault.kind ≠ .own .invariantViolation) ∧
      ∃ done reduced notes, e.reduced = .ok (done, notes.map Prod.fst) ∧
        done.tableau = reduced.clean e.tolerance ∧
        e.tableau.reduceNoting e.tolerance = .ok ((reduced, notes), notes.map Prod.fst) ∧
        ∀ note ∈ notes, Scalar.isSignificant e.tolerance note.2 = true ∧
          Scalar.isZero note.2 e.tolerance = false := by
  constructor
  · -- Only the answer can fail, and only one of its columns, which never fails for this reason.
    intro fault hfault
    obtain ⟨done, pivots, -, hconclude⟩ := exists_conclude_eq_error hfault
    obtain ⟨x, -, hx⟩ := exists_ofComponents_eq_error hconclude
    exact Vec.kind_ne_of_ofComponents_eq_error hx
  · have hplaces : (e.tableau.readAt (e.tableau.rows.pivots e.tolerance)).map Prod.fst =
        e.tableau.rows.pivots e.tolerance := by
      rw [Tableau.readAt, List.map_map]
      exact List.map_id _
    have hwalk := Tableau.reduceNoting_eq_ok e.tolerance e.tableau
    have hpass := reduced_eq_ok e
    rw [← hplaces] at hpass
    refine ⟨_, _, _, hpass, rfl, ?_, ?_⟩
    · rw [hplaces]
      exact hwalk
    · exact fun note hnote => Tableau.isZero_eq_false_of_mem_readAt hnote

/-- In binary floating point, from rows that are no echelon form and hold undefined and infinite
entries: the pass meets the infinite pivot, and the solve fails for its numbers alone. -/
theorem no_pivot_vanishes_beside_infinities :
    ∃ e : Elimination Float 2 2,
      e.tableau = ⟨Grid.ofFn ![![0 / 0, 1 / 0], ![0.5, -1 / 0]], Vector.ofFn ![1, 0 / 0]⟩ ∧
      e.tolerance = 0.25 ∧
      (∃ fault, e.solve.1 = .error fault ∧ fault.kind ≠ .own .invariantViolation) ∧
      ∃ (done : Elimination Float 2 2) (notes : List (Pivot 2 2 × Float)),
        e.reduced = .ok (done, notes.map Prod.fst) ∧
        notes.map Prod.fst = [((0 : Fin 2), (1 : Fin 2))] ∧
        ∀ note ∈ notes, Scalar.isZero note.2 0.25 = false := by
  refine ⟨⟨⟨Grid.ofFn ![![0 / 0, 1 / 0], ![0.5, -1 / 0]], Vector.ofFn ![1, 0 / 0]⟩, 0.25, [], none⟩,
    rfl, rfl, ?_⟩
  obtain ⟨hfaults, done, reduced, notes, hpass, -, hwalk, hnotes⟩ := no_pivot_vanishes
    (⟨⟨Grid.ofFn ![![0 / 0, 1 / 0], ![0.5, -1 / 0]], Vector.ofFn ![1, 0 / 0]⟩, 0.25, [], none⟩ :
      Elimination Float 2 2)
  constructor
  · have hfails : (⟨⟨Grid.ofFn ![![0 / 0, 1 / 0], ![0.5, -1 / 0]], Vector.ofFn ![1, 0 / 0]⟩, 0.25,
        [], none⟩ : Elimination Float 2 2).solve.1.toOption.isNone = true := by
      decide +kernel
    obtain ⟨fault, hfault⟩ := exists_eq_error_of_isNone hfails
    exact ⟨fault, hfault, hfaults fault hfault⟩
  · have hplaces : ((⟨⟨Grid.ofFn ![![0 / 0, 1 / 0], ![0.5, -1 / 0]], Vector.ofFn ![1, 0 / 0]⟩, 0.25,
        [], none⟩ : Elimination Float 2 2).reduced.toOption.map Prod.snd) =
        some [((0 : Fin 2), (1 : Fin 2))] := by
      decide +kernel
    rw [hpass] at hplaces
    exact ⟨done, notes, hpass, Option.some.inj hplaces, fun note hnote => (hnotes note hnote).2⟩

end Elimination

end LinearSystems
