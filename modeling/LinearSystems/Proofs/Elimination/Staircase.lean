import LinearSystems.Proofs.Elimination.Triangular
import Mathlib.Data.Fintype.Card

/-!
# Staircases

Pivots form a *staircase* if there is one in each of the first rows and their columns strictly
increase; the places that every pivot at or left of them stands above are below it.  The pivots of
the triangular pass form one (`Sweep.isStaircase_pivots`), in any arithmetic whose zero tests are
lawful.

A reader of a table that has nothing significant below a staircase, outside its columns, finds the
pivots of the staircase exactly if each of them is still significant
(`IsStaircase.pivots_eq_iff`).
-/

namespace LinearSystems

variable {K : Type} {m d : Nat}

/-- Every pivot at or left of column `j` stands above row `i`: the place `(i, j)` is below the
staircase. -/
def BelowPivots (pivots : List (Pivot m d)) (i : Fin m) (j : Fin d) : Prop :=
  ∀ p ∈ pivots, p.2 ≤ j → p.1 < i

/-- The `k`-th pivot stands in row `k`, and the columns strictly increase. -/
structure IsStaircase (pivots : List (Pivot m d)) : Prop where
  row : ∀ (k : Nat) (h : k < pivots.length), (pivots[k]).1.val = k
  increasing : (pivots.map Prod.snd).Pairwise (· < ·)

/-- The first `k` pivots stand left of column `start`, the others at it or right of it. -/
structure Separates (pivots : List (Pivot m d)) (k start : Nat) : Prop where
  before : ∀ (l : Nat) (hl : l < pivots.length), l < k → pivots[l].2 < start
  after : ∀ (l : Nat) (hl : l < pivots.length), k ≤ l → start ≤ pivots[l].2

/-- Nothing below the staircase is significant, except perhaps in the columns of its pivots. -/
def Grid.IsClearBelow [Scalar K] (τ : K) (pivots : List (Pivot m d)) (g : Grid K m d) : Prop :=
  ∀ i j, BelowPivots pivots i j → j ∉ pivots.map Prod.snd →
    Scalar.isSignificant τ (g.entry i j) = false

namespace Separates

variable {pivots : List (Pivot m d)} {k start : Nat}

theorem zero (pivots : List (Pivot m d)) : Separates pivots 0 0 :=
  ⟨fun _ _ hl => absurd hl (Nat.not_lt_zero _), fun _ _ _ => Nat.zero_le _⟩

theorem succ_of_length_le (h : Separates pivots k start)
    (hk : pivots.length ≤ k) : Separates pivots (k + 1) start :=
  ⟨fun l hl _ => h.before l hl (hl.trans_le hk),
    fun _ hl hkl => absurd (hk.trans (Nat.le_of_succ_le hkl)) (not_le.2 hl)⟩

/-- A column from the start on that comes before the remaining pivots belongs to no pivot. -/
theorem notMem (h : Separates pivots k start) {j : Fin d}
    (hstart : start ≤ j)
    (hafter : ∀ (l : Nat) (hl : l < pivots.length), k ≤ l → j < pivots[l].2) :
    j ∉ pivots.map Prod.snd := by
  intro hj
  obtain ⟨p, hp, hpj⟩ := List.mem_map.1 hj
  obtain ⟨l, hl, rfl⟩ := List.mem_iff_getElem.1 hp
  rcases lt_or_ge l k with hlk | hkl
  · exact (Fin.lt_def.2 ((h.before l hl hlk).trans_le hstart)).ne hpj
  · exact (hafter l hl hkl).ne hpj.symm

end Separates

namespace IsStaircase

variable {pivots : List (Pivot m d)}

theorem lt_length (h : IsStaircase pivots) {p : Pivot m d} (hp : p ∈ pivots) :
    p.1.val < pivots.length := by
  obtain ⟨k, hk, rfl⟩ := List.mem_iff_getElem.1 hp
  rw [h.row k hk]
  exact hk

theorem exists_of_lt (h : IsStaircase pivots) {i : Fin m} (hi : i.val < pivots.length) :
    ∃ p ∈ pivots, p.1 = i :=
  ⟨pivots[i.val], List.getElem_mem hi, Fin.ext (h.row i hi)⟩

/-- Pivots further down the list stand further right. -/
theorem snd_lt_of_lt (h : IsStaircase pivots) {k l : Nat} (hk : k < pivots.length)
    (hl : l < pivots.length) (hkl : k < l) : pivots[k].2 < pivots[l].2 :=
  List.pairwise_iff_getElem.1 (List.pairwise_map.1 h.increasing) k l hk hl hkl

theorem fst_lt_iff (h : IsStaircase pivots) {p q : Pivot m d} (hp : p ∈ pivots)
    (hq : q ∈ pivots) : p.1 < q.1 ↔ p.2 < q.2 := by
  obtain ⟨k, hk, rfl⟩ := List.mem_iff_getElem.1 hp
  obtain ⟨l, hl, rfl⟩ := List.mem_iff_getElem.1 hq
  rw [Fin.lt_def, h.row k hk, h.row l hl]
  constructor
  · exact h.snd_lt_of_lt hk hl
  · intro hlt
    by_contra hkl
    rcases Nat.eq_or_lt_of_le (Nat.not_lt.1 hkl) with heq | hlk
    · subst heq
      exact lt_irrefl _ hlt
    · exact lt_asymm hlt (h.snd_lt_of_lt hl hk hlk)

theorem eq_of_snd_eq (h : IsStaircase pivots) {p q : Pivot m d} (hp : p ∈ pivots)
    (hq : q ∈ pivots) (heq : p.2 = q.2) : p = q := by
  have hpq : ¬ p.1 < q.1 := fun hlt => ((h.fst_lt_iff hp hq).1 hlt).ne heq
  have hqp : ¬ q.1 < p.1 := fun hlt => ((h.fst_lt_iff hq hp).1 hlt).ne heq.symm
  exact Prod.ext (le_antisymm (not_lt.1 hqp) (not_lt.1 hpq)) heq

theorem fst_ne_of_ne (h : IsStaircase pivots) {p q : Pivot m d} (hp : p ∈ pivots)
    (hq : q ∈ pivots) (hne : p ≠ q) : p.1 ≠ q.1 := by
  intro heq
  have hpq : ¬ p.2 < q.2 := fun hlt => ((h.fst_lt_iff hp hq).2 hlt).ne heq
  have hqp : ¬ q.2 < p.2 := fun hlt => ((h.fst_lt_iff hq hp).2 hlt).ne heq.symm
  exact hne (Prod.ext heq (le_antisymm (not_lt.1 hqp) (not_lt.1 hpq)))

/-- A row without a pivot lies below the staircase. -/
theorem belowPivots_of_length_le (h : IsStaircase pivots) {i : Fin m}
    (hi : pivots.length ≤ i) (j : Fin d) : BelowPivots pivots i j :=
  fun _ hp _ => Fin.lt_def.2 ((h.lt_length hp).trans_le hi)

/-- What is left of a pivot in its row lies below the staircase. -/
theorem belowPivots_of_lt (h : IsStaircase pivots) {p : Pivot m d} (hp : p ∈ pivots) {j : Fin d}
    (hj : j < p.2) : BelowPivots pivots p.1 j :=
  fun _ hq hqj => (h.fst_lt_iff hq hp).2 (hqj.trans_lt hj)

/-- What is below a pivot in its column lies below the staircase. -/
theorem belowPivots_of_fst_lt (h : IsStaircase pivots) {p : Pivot m d} (hp : p ∈ pivots)
    {i : Fin m} (hi : p.1 < i) : BelowPivots pivots i p.2 := by
  intro q hq hqp
  have hle : q.1 ≤ p.1 :=
    not_lt.1 fun hlt => absurd ((h.fst_lt_iff hp hq).1 hlt) (not_lt.2 hqp)
  exact hle.trans_lt hi

/-! ## Extents -/

theorem length_le_rows (h : IsStaircase pivots) : pivots.length ≤ m := by
  by_contra hlt
  have hm : m < pivots.length := not_le.1 hlt
  have hrow : (pivots[m]).1.val = m := h.row m hm
  have hbound : (pivots[m]).1.val < m := (pivots[m]).1.isLt
  omega

theorem nodup_columns (h : IsStaircase pivots) : (pivots.map Prod.snd).Nodup :=
  h.increasing.imp ne_of_lt

theorem length_le_columns (h : IsStaircase pivots) : pivots.length ≤ d := by
  have hcard := h.nodup_columns.length_le_card
  rwa [List.length_map, Fintype.card_fin] at hcard

theorem length_le_min (h : IsStaircase pivots) : pivots.length ≤ min m d :=
  le_min h.length_le_rows h.length_le_columns

/-! ## What a reader finds -/

/-- Behind a pivot the next ones begin. -/
theorem separates_succ (h : IsStaircase pivots) {k : Nat} (hk : k < pivots.length) :
    Separates pivots (k + 1) (pivots[k].2 + 1) := by
  constructor
  · intro l hl hlk
    rcases Nat.eq_or_lt_of_le (Nat.le_of_lt_succ hlk) with rfl | hlt
    · exact Nat.lt_succ_self _
    · exact Nat.lt_succ_of_lt (Fin.lt_def.1 (h.snd_lt_of_lt hl hk hlt))
  · intro l hl hkl
    exact Fin.lt_def.1 (h.snd_lt_of_lt hk hl hkl)

variable [Scalar K] {τ : K} {g : Grid K m d}

/-- In the row of a pivot the search stops at the pivot. -/
theorem leading?_of_lt_length (h : IsStaircase pivots) (hbelow : g.IsClearBelow τ pivots)
    {i : Fin m} (hi : i.val < pivots.length)
    (hpivot : Scalar.isSignificant τ (g.entry pivots[i.val].1 pivots[i.val].2) = true)
    {start : Nat} (hstart : Separates pivots i start) :
    g.leading? τ i start = some pivots[i.val].2 := by
  have hrow : pivots[i.val].1 = i := Fin.ext (h.row i hi)
  rw [hrow] at hpivot
  refine Grid.leading?_eq_some_iff.2 ⟨hstart.after i hi le_rfl, hpivot, ?_⟩
  intro j hj hle
  apply hbelow
  · have hleft := h.belowPivots_of_lt (List.getElem_mem hi) hj
    rwa [hrow] at hleft
  · apply hstart.notMem hle
    intro l hl hil
    rcases Nat.eq_or_lt_of_le hil with rfl | hlt
    · exact hj
    · exact hj.trans (h.snd_lt_of_lt hi hl hlt)

/-- Past the rows of the pivots there is nothing to find. -/
theorem leading?_of_length_le (h : IsStaircase pivots) (hbelow : g.IsClearBelow τ pivots)
    {i : Fin m} (hi : pivots.length ≤ i) {start : Nat} (hstart : Separates pivots i start) :
    g.leading? τ i start = none := by
  apply Grid.leading?_eq_none_iff.2
  intro j hle
  apply hbelow i j (h.belowPivots_of_length_le hi j)
  apply hstart.notMem hle
  exact fun l hl hil => absurd (hi.trans hil) (not_le.2 hl)

theorem pivotsFrom_eq_drop (h : IsStaircase pivots) (hbelow : g.IsClearBelow τ pivots)
    (hpivots : ∀ p ∈ pivots, Scalar.isSignificant τ (g.entry p.1 p.2) = true) {k : Nat}
    (hk : k ≤ m) {start : Nat} (hstart : Separates pivots k start) :
    g.pivotsFrom τ (rowsFrom m k) start = pivots.drop k := by
  induction k, hk using rows_induction generalizing start with
  | done =>
      rw [rowsFrom_self, List.drop_eq_nil_of_le h.length_le_rows]
      rfl
  | row i ih =>
      rcases lt_or_ge i.val pivots.length with hi | hi
      · have hrow : (i, pivots[i.val].2) = pivots[i.val] :=
          Prod.ext (Fin.ext (h.row i hi)).symm rfl
        have hleading := h.leading?_of_lt_length hbelow hi (hpivots _ (List.getElem_mem hi)) hstart
        rw [rowsFrom_fin, Grid.pivotsFrom, hleading, List.drop_eq_getElem_cons hi]
        show (i, pivots[i.val].2) :: g.pivotsFrom τ (rowsFrom m (i + 1)) _ = _
        rw [ih (h.separates_succ hi), hrow]
      · have hleading := h.leading?_of_length_le hbelow hi hstart
        rw [rowsFrom_fin, Grid.pivotsFrom, hleading, List.drop_eq_nil_of_le hi]
        show g.pivotsFrom τ (rowsFrom m (i + 1)) start = []
        rw [ih (hstart.succ_of_length_le hi), List.drop_eq_nil_of_le (hi.trans (Nat.le_succ _))]

/-- **A reader finds the pivots of a staircase with nothing significant below it** exactly if each
of them is significant. -/
theorem pivots_eq_iff (h : IsStaircase pivots) (hbelow : g.IsClearBelow τ pivots) :
    g.pivots τ = pivots ↔ ∀ p ∈ pivots, Scalar.isSignificant τ (g.entry p.1 p.2) = true := by
  constructor
  · intro heq p hp
    rw [← heq] at hp
    exact Grid.isSignificant_of_mem_pivots hp
  · intro hpivots
    rw [Grid.pivots, ← rowsFrom_zero]
    exact h.pivotsFrom_eq_drop hbelow hpivots (Nat.zero_le m) (.zero pivots)

end IsStaircase

/-! ## The staircase of the triangular pass -/

namespace Sweep

variable [Scalar K] [LawfulZeroTest K] {τ : K}

theorem pairwise_pivots (hτ : 0 < τ) (t : Tableau K m d) :
    (pivots τ t).Pairwise fun p q => p.1 < q.1 ∧ p.2 < q.2 := by
  rw [← pivots_run (LawfulZeroTest.isSignificant_zero hτ)]
  exact Grid.pairwise_pivots τ _

theorem pairwise_fst_pivots (hτ : 0 < τ) (t : Tableau K m d) :
    (pivots τ t).Pairwise fun p q => p.1 < q.1 :=
  (pairwise_pivots hτ t).imp And.left

theorem isSignificant_of_mem_pivots (hτ : 0 < τ) (t : Tableau K m d) {p : Pivot m d}
    (hp : p ∈ pivots τ t) : Scalar.isSignificant τ ((run τ t).tableau.entry p.1 p.2) = true := by
  rw [← pivots_run (LawfulZeroTest.isSignificant_zero hτ)] at hp
  exact Grid.isSignificant_of_mem_pivots hp

/-- The pivots of the triangular pass form a staircase. -/
theorem isStaircase_pivots (hτ : 0 < τ) (t : Tableau K m d) : IsStaircase (pivots τ t) := by
  constructor
  · intro k hk
    have hrows : (pivots τ t).map Prod.fst =
        (List.finRange m).take (pivots τ t).length := by
      rw [← rowsFrom_zero]
      exact map_fst_pivotsFrom (Nat.zero_le m) ⟨t, 0, []⟩
    have hget := List.getElem_of_eq hrows (i := k) (by simpa using hk)
    simp only [List.getElem_map, List.getElem_take, List.getElem_finRange] at hget
    rw [hget]
    rfl
  · exact List.pairwise_map.2 ((pairwise_pivots hτ t).imp And.right)

end Sweep

end LinearSystems
