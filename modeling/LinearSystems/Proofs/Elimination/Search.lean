import LinearSystems.Elimination.Reduction
import Mathlib.Data.Fin.Tuple.Basic
import Mathlib.Data.List.FinRange

/-!
# What the pivot searches find

`Grid.leading?` looks along one row and `Tableau.findPivot` through a block column by column; both
are characterized by what they skip.  `Grid.scan_eq_foldlM` says that a walk whose action leaves the
rows below a pivot alone meets exactly the pivots that the table shows before the walk.

Nothing here asks for a law of the arithmetic.
-/

namespace LinearSystems

variable {K : Type} [Scalar K] {m d : Nat}

namespace Grid

variable {τ : K} {g h : Grid K m d}

theorem leading?_eq_some_iff {i : Fin m} {start : Nat} {j : Fin d} :
    g.leading? τ i start = some j ↔
      start ≤ j ∧ Scalar.isSignificant τ (g.entry i j) = true ∧
        ∀ j' < j, start ≤ j'.val → Scalar.isSignificant τ (g.entry i j') = false := by
  rw [leading?, ← Fin.find?_eq_find?_finRange, Fin.find?_eq_some_iff]
  simp [and_assoc]

theorem leading?_eq_none_iff {i : Fin m} {start : Nat} :
    g.leading? τ i start = none ↔
      ∀ j : Fin d, start ≤ j → Scalar.isSignificant τ (g.entry i j) = false := by
  rw [leading?, ← Fin.find?_eq_find?_finRange, Fin.find?_eq_none_iff]
  simp

/-- A search depends on the table only through what is significant in it. -/
theorem leading?_congr {σ : K} {i : Fin m} (same : ∀ j,
      Scalar.isSignificant τ (g.entry i j) = Scalar.isSignificant σ (h.entry i j)) (start : Nat) :
    g.leading? τ i start = h.leading? σ i start := by
  simp only [leading?, same]

theorem pivotsFrom_congr {σ : K} {rows : List (Fin m)} (same : ∀ i ∈ rows, ∀ j,
      Scalar.isSignificant τ (g.entry i j) = Scalar.isSignificant σ (h.entry i j)) (start : Nat) :
    g.pivotsFrom τ rows start = h.pivotsFrom σ rows start := by
  induction rows generalizing start with
  | nil => rfl
  | cons i rows ih =>
      have hrows := fun start => ih (fun i' hi' => same i' (List.mem_cons_of_mem i hi')) start
      simp only [pivotsFrom, leading?_congr (same i List.mem_cons_self), hrows]

/-- Rows that hold nothing significant from the start on have no pivots. -/
theorem pivotsFrom_eq_nil {rows : List (Fin m)} {start : Nat}
    (insignificant : ∀ i ∈ rows, ∀ j : Fin d, start ≤ j →
      Scalar.isSignificant τ (g.entry i j) = false) : g.pivotsFrom τ rows start = [] := by
  induction rows with
  | nil => rfl
  | cons i rows ih =>
      have hi := leading?_eq_none_iff.2 (insignificant i List.mem_cons_self)
      rw [pivotsFrom, hi]
      exact ih fun i' hi' => insignificant i' (List.mem_cons_of_mem i hi')

theorem fst_mem_of_mem_pivotsFrom {rows : List (Fin m)} {start : Nat} {p : Pivot m d}
    (hp : p ∈ g.pivotsFrom τ rows start) : p.1 ∈ rows := by
  induction rows generalizing start with
  | nil => simp [pivotsFrom] at hp
  | cons i rows ih =>
      rw [pivotsFrom] at hp
      split at hp
      · exact List.mem_cons_of_mem i (ih hp)
      · rcases List.mem_cons.1 hp with rfl | hp
        · exact List.mem_cons_self
        · exact List.mem_cons_of_mem i (ih hp)

theorem isSignificant_of_mem_pivotsFrom {rows : List (Fin m)} {start : Nat} {p : Pivot m d}
    (hp : p ∈ g.pivotsFrom τ rows start) :
    Scalar.isSignificant τ (g.entry p.1 p.2) = true := by
  induction rows generalizing start with
  | nil => simp [pivotsFrom] at hp
  | cons i rows ih =>
      rw [pivotsFrom] at hp
      split at hp
      · exact ih hp
      · next j hj =>
          rcases List.mem_cons.1 hp with rfl | hp
          · exact (leading?_eq_some_iff.1 hj).2.1
          · exact ih hp

theorem le_snd_of_mem_pivotsFrom {rows : List (Fin m)} {start : Nat} {p : Pivot m d}
    (hp : p ∈ g.pivotsFrom τ rows start) : start ≤ p.2 := by
  induction rows generalizing start with
  | nil => simp [pivotsFrom] at hp
  | cons i rows ih =>
      rw [pivotsFrom] at hp
      split at hp
      · exact ih hp
      · next j hj =>
          have hstart : start ≤ j := (leading?_eq_some_iff.1 hj).1
          rcases List.mem_cons.1 hp with rfl | hp
          · exact hstart
          · exact hstart.trans ((Nat.le_succ j).trans (ih hp))

/-- Pivots strictly increase in both coordinates. -/
theorem pairwise_pivotsFrom {rows : List (Fin m)} (hrows : rows.Pairwise (· < ·)) (start : Nat) :
    (g.pivotsFrom τ rows start).Pairwise fun p q => p.1 < q.1 ∧ p.2 < q.2 := by
  induction rows generalizing start with
  | nil => exact List.Pairwise.nil
  | cons i rows ih =>
      obtain ⟨hi, hrows⟩ := List.pairwise_cons.1 hrows
      rw [pivotsFrom]
      split
      · exact ih hrows start
      · next j hj =>
          refine List.pairwise_cons.2 ⟨?_, ih hrows (j + 1)⟩
          intro q hq
          exact ⟨hi q.1 (fst_mem_of_mem_pivotsFrom hq), Fin.lt_def.2 (le_snd_of_mem_pivotsFrom hq)⟩

/-- A walk whose action leaves every row below the pivot alone meets the pivots of the table as it
was before the walk, and acts on them in order. -/
theorem scan_eq_foldlM {σ ε : Type} (τ : K) (view : σ → Grid K m d)
    (act : σ → Pivot m d → Except ε σ)
    (frame : ∀ s p s', act s p = .ok s' →
      ∀ i, p.1 < i → (view s').entry i = (view s).entry i)
    {rows : List (Fin m)} (hrows : rows.Pairwise (· < ·)) (start : Nat) (s : σ) :
    scan τ view act rows start s = (do
      let last ← ((view s).pivotsFrom τ rows start).foldlM act s
      return (last, (view s).pivotsFrom τ rows start)) := by
  induction rows generalizing start s with
  | nil => rfl
  | cons i rows ih =>
      obtain ⟨hi, hrows⟩ := List.pairwise_cons.1 hrows
      rw [scan, pivotsFrom]
      cases hj : (view s).leading? τ i start with
      | none => exact ih hrows start s
      | some j =>
          simp only [List.foldlM_cons]
          cases hact : act s (i, j) with
          | error e => rfl
          | ok s' =>
              have hsame : (view s').pivotsFrom τ rows (j + 1) =
                  (view s).pivotsFrom τ rows (j + 1) := by
                apply pivotsFrom_congr
                intro i' hi' j'
                rw [frame s (i, j) s' hact i' (hi i' hi')]
              have htail := ih hrows (j + 1) s'
              rw [hsame] at htail
              simp only [bind, Except.bind] at htail ⊢
              rw [htail]
              cases ((view s).pivotsFrom τ rows (j + 1)).foldlM act s' <;> rfl

theorem pairwise_pivots (τ : K) (g : Grid K m d) :
    (g.pivots τ).Pairwise fun p q => p.1 < q.1 ∧ p.2 < q.2 :=
  pairwise_pivotsFrom (List.pairwise_lt_finRange m) 0

theorem isSignificant_of_mem_pivots {p : Pivot m d} (hp : p ∈ g.pivots τ) :
    Scalar.isSignificant τ (g.entry p.1 p.2) = true :=
  isSignificant_of_mem_pivotsFrom hp

end Grid

namespace Tableau

variable {τ : K} {t : Tableau K m d}

theorem findPivot_congr {σ : K} (same : ∀ i j,
      Scalar.isSignificant τ (t.entry i j) = Scalar.isSignificant σ (t.entry i j))
    (row column : Nat) : t.findPivot τ row column = t.findPivot σ row column := by
  simp only [findPivot, same]

theorem findPivot_eq_none_iff {row column : Nat} :
    t.findPivot τ row column = none ↔ ∀ (i : Fin m) (j : Fin d), row ≤ i → column ≤ j →
      Scalar.isSignificant τ (t.entry i j) = false := by
  rw [findPivot, ← Fin.findSome?_eq_findSome?_finRange, Fin.findSome?_eq_none_iff]
  simp only [← Fin.find?_eq_find?_finRange, ite_eq_right_iff, Option.map_eq_none_iff,
    Fin.find?_eq_none_iff, Bool.and_eq_false_imp, decide_eq_true_eq]
  exact ⟨fun h i j hi hj => h j hj i hi, fun h j hj i hi => h i j hi hj⟩

/-- The pivot stands in the leftmost column with a significant entry, and in the first row that has
one there. -/
theorem findPivot_eq_some_iff {row column : Nat} {p : Fin m} {c : Fin d} :
    t.findPivot τ row column = some (p, c) ↔
      (column ≤ c ∧ row ≤ p ∧ Scalar.isSignificant τ (t.entry p c) = true) ∧
        (∀ i < p, row ≤ i.val → Scalar.isSignificant τ (t.entry i c) = false) ∧
        ∀ j < c, column ≤ j.val →
          ∀ i : Fin m, row ≤ i → Scalar.isSignificant τ (t.entry i j) = false := by
  rw [findPivot, ← Fin.findSome?_eq_findSome?_finRange, Fin.findSome?_eq_some_iff]
  simp only [← Fin.find?_eq_find?_finRange, ite_eq_right_iff, Option.map_eq_none_iff,
    Fin.find?_eq_none_iff, Bool.and_eq_false_imp, decide_eq_true_eq]
  constructor
  · rintro ⟨j, hj, hbefore⟩
    split at hj
    · next hcolumn =>
        obtain ⟨i, hi, hij⟩ := Option.map_eq_some_iff.1 hj
        obtain ⟨rfl, rfl⟩ := Prod.mk.inj hij
        obtain ⟨hi, hfirst⟩ := Fin.find?_eq_some_iff.1 hi
        rw [Bool.and_eq_true, decide_eq_true_eq] at hi
        refine ⟨⟨hcolumn, hi⟩, ?_, hbefore⟩
        intro i' hi' hrow
        simpa [hrow] using hfirst i' hi'
    · cases hj
  · rintro ⟨⟨hcolumn, hrow, hsig⟩, hfirst, hbefore⟩
    refine ⟨c, ?_, hbefore⟩
    rw [if_pos hcolumn, Option.map_eq_some_iff]
    refine ⟨p, Fin.find?_eq_some_iff.2 ⟨by simp [hrow, hsig], ?_⟩, rfl⟩
    intro i hi
    by_cases hi' : row ≤ i.val
    · simp [hfirst i hi hi']
    · simp [hi']

end Tableau

end LinearSystems
