import Mathlib
import LinearSystems.Proofs.Elimination.Vanishing
import LinearSystems.Proofs.FloatingPoint.Magnitude

/-!
# How fast floats grow

A pivot is at least as large as the tolerance, and no bound better than that is known of it.  So
where entries are at most `2 ^ a` in the row that eliminates and `2 ^ b` in the row that is
eliminated, and the tolerance is at least `2 ^ -T`, the new row may reach `2 ^ (a + b + T + 1)`:
with `T + 1` added to each exponent, **exponents add up at every elimination**
(`Line.IsBounded.eliminate`).  Each pivot can double them, in the triangular pass
(`Sweep.Grown.step`) and in the reduced one (`Tableau.GrownTo.normalizeAt`), but the second pass
uses the rows as the first one left them, so together the passes double them once for each pivot
(`Tableau.isBounded_gaussJordan`).

Nothing overflows as long as that stays within the range of the floats.
-/

namespace LinearSystems

open FloatingPoint

variable {m d : Nat} {E T : Nat} {τ : Float}

/-! ## Exponents -/

/-- The exponent of the bound after `g` doublings, from `E` on. -/
def growth (E T g : Nat) : Nat := 2 ^ g * (E + T + 1) - (T + 1)

theorem growth_add (E T g : Nat) : growth E T g + (T + 1) = 2 ^ g * (E + T + 1) := by
  have hle : 1 * (T + 1) ≤ 2 ^ g * (E + T + 1) := Nat.mul_le_mul Nat.one_le_two_pow (by omega)
  rw [growth]
  omega

theorem growth_zero (E T : Nat) : growth E T 0 = E := by
  rw [growth]
  omega

theorem growth_mono {g n : Nat} (h : g ≤ n) : growth E T g ≤ growth E T n :=
  Nat.sub_le_sub_right (Nat.mul_le_mul_right _ (Nat.pow_le_pow_right (by decide) h)) _

/-- One elimination, of rows of the same generation. -/
theorem growth_add_growth (E T g : Nat) :
    growth E T g + growth E T g + (T + 1) = growth E T (g + 1) := by
  have hg := growth_add E T g
  have hnext := growth_add E T (g + 1)
  rw [Nat.pow_succ, Nat.mul_right_comm, ← hg] at hnext
  omega

theorem growth_add_le (E T g : Nat) : growth E T g + T ≤ growth E T (g + 1) := by
  have hnext := growth_add_growth E T g
  omega

/-! ## Lines -/

namespace Line

/-- Every number of the line is finite and at most `2 ^ k`. -/
def IsBounded (k : Nat) (l : Line Float d) : Prop := (∀ j, Bounded k (l.1 j)) ∧ Bounded k l.2

instance (k : Nat) (l : Line Float d) : Decidable (l.IsBounded k) :=
  inferInstanceAs (Decidable (_ ∧ _))

namespace IsBounded

variable {k n : Nat} {c : Fin d} {l source target : Line Float d}

theorem mono (h : l.IsBounded k) (hkn : k ≤ n) : l.IsBounded n :=
  ⟨fun j => (h.1 j).mono hkn, h.2.mono hkn⟩

theorem clear (h : l.IsBounded k) (start stop : Nat) : (l.clear start stop).IsBounded k := by
  refine ⟨fun j => ?_, h.2⟩
  show Bounded k (if start ≤ j.val ∧ j.val < stop then 0 else l.1 j)
  split
  · exact .zero k
  · exact h.1 j

/-- Cleaning sets some numbers to zero. -/
theorem clean {t : Tableau Float m d} {i : Fin m} (h : (t.line i).IsBounded k) (τ : Float) :
    ((t.clean τ).line i).IsBounded k := by
  refine ⟨fun j => ?_, ?_⟩
  · show Bounded k ((t.clean τ).entry i j)
    rw [Tableau.entry_clean]
    split
    · exact .zero k
    · exact h.1 j
  · show Bounded k ((t.clean τ).offset i)
    rw [Tableau.offset_clean]
    split
    · exact .zero k
    · exact h.2

/-- **One elimination adds the exponents**, and that of the tolerance once more. -/
theorem eliminate (hτ : AtLeast T τ) (hsource : source.IsBounded k) (htarget : target.IsBounded n)
    (hmax : k + n + (T + 1) ≤ 1023) :
    (eliminate τ c source target).IsBounded (k + n + (T + 1)) := by
  rw [Line.eliminate]
  split
  · exact htarget.mono (by omega)
  · next hskip =>
      rw [isSkipped, Bool.or_eq_true, not_or, Bool.not_eq_true, Bool.not_eq_true] at hskip
      -- The factor takes up the tolerance and each product with it the source; the sum adds one.
      have hfactor : Bounded (n + T) (-target.1 c / source.1 c) :=
        (htarget.1 c).neg.div (hsource.1 c).isFinite hτ hskip.2 (by omega)
      have hsum {x y : Float} (hx : Bounded n x) (hy : Bounded k y) :
          Bounded (k + n + (T + 1)) (x + -target.1 c / source.1 c * y) := by
        have hproduct := hfactor.mul hy (by omega)
        have hadd := (hx.mono (by omega)).add hproduct (by omega)
        exact hadd.mono (by omega)
      refine ⟨fun j => ?_, hsum htarget.2 hsource.2⟩
      show Bounded _ (if j = c then 0 else _)
      split
      · exact .zero _
      · exact hsum (htarget.1 j) (hsource.1 j)

/-- Scaling a row by its pivot adds the exponent of the tolerance. -/
theorem normalize (hτ : AtLeast T τ) (hl : l.IsBounded k) (hpivot : Scalar.isZero (l.1 c) τ = false)
    (hmax : k + T ≤ 1023) : (normalize c l).IsBounded (k + T) := by
  have hinverse : Bounded T (1 / l.1 c) := by
    have hdiv := (Bounded.one 0).div (hl.1 c).isFinite hτ hpivot (by omega)
    rwa [Nat.zero_add] at hdiv
  refine ⟨fun j => ?_, hl.2.mul hinverse hmax⟩
  show Bounded _ (if j = c then 1 else l.1 j * (1 / l.1 c))
  split
  · exact .one _
  · exact (hl.1 j).mul hinverse hmax

end IsBounded

end Line

/-! ## The triangular pass -/

namespace Sweep

/-- Row `i` has been eliminated with at most `i` pivots, those of the first `k` rows. -/
structure Grown (E T k : Nat) (s : Sweep Float m d) : Prop where
  line : ∀ i : Fin m, (s.tableau.line i).IsBounded (growth E T (min i (min k d)))
  next : min k d ≤ s.next

variable {s : Sweep Float m d} {i : Fin m}

/-- The rows from the current one on have met the same pivots. -/
theorem Grown.isBounded_of_le {k : Nat} (h : s.Grown E T k) (hk : k ≤ d) {r : Fin m}
    (hr : k ≤ r.val) : (s.tableau.line r).IsBounded (growth E T k) := by
  have hline := h.line r
  rwa [min_eq_left hk, min_eq_right hr] at hline

theorem Grown.step (hτ : AtLeast T τ) (hmax : growth E T (min m d) ≤ 1023) (h : s.Grown E T i) :
    (s.step τ i).Grown E T (i + 1) := by
  have hlater (r : Fin m) :
      growth E T (min r (min i d)) ≤ growth E T (min r (min (i + 1 : Nat) d)) :=
    growth_mono (by omega)
  cases hfound : s.tableau.findPivot τ i s.next with
  | none =>
      rw [step_of_none hfound]
      refine ⟨fun r => ?_, min_le_right _ _⟩
      rw [Tableau.line_clearBlock]
      split
      · exact ((h.line r).clear _ _).mono (hlater r)
      · exact (h.line r).mono (hlater r)
  | some q =>
      obtain ⟨p, c⟩ := q
      obtain ⟨⟨hnext, hp, -⟩, -⟩ := Tableau.findPivot_eq_some_iff.1 hfound
      -- A pivot is found, so fewer than `d` columns have been passed, and every row had one.
      have hid : i.val < d := by
        have hc := c.isLt
        have hstart := h.next
        omega
      have hsource : ((s.tableau.line p).clear s.next c).IsBounded (growth E T i) :=
        (h.isBounded_of_le hid.le hp).clear _ _
      have hstep := growth_add_growth E T i
      have hbound : growth E T (i + 1) ≤ 1023 := (growth_mono (by omega)).trans hmax
      refine ⟨fun r => ?_, ?_⟩
      · rw [line_step_of_some hfound]
        split
        · next hr =>
            have hle := Tableau.le_exchange (Fin.le_def.2 hp) hr.le
            have htarget := (h.isBounded_of_le hid.le hle).clear s.next c
            refine (hsource.eliminate hτ htarget (hstep.trans_le hbound)).mono ?_
            rw [hstep]
            exact growth_mono (by have := Fin.lt_def.1 hr; omega)
        · split
          · next hr =>
              rw [hr]
              exact hsource.mono (growth_mono (by omega))
          · exact (h.line r).mono (hlater r)
      · rw [next_step_of_some hfound]
        have hstart := h.next
        omega

theorem Grown.runFrom (hτ : AtLeast T τ) (hmax : growth E T (min m d) ≤ 1023) {k : Nat}
    (hk : k ≤ m) (h : s.Grown E T k) : (s.runFrom τ k).Grown E T m := by
  induction k, hk using rows_induction generalizing s with
  | done => rwa [runFrom_self]
  | row i ih =>
      rw [runFrom_fin]
      exact ih (h.step hτ hmax)

end Sweep

/-! ## The reduced pass -/

namespace Tableau

/-- The pivots of the first `k` rows are done: these rows are of generation `k`, and the others as
the triangular pass left them. -/
def GrownTo (E T k : Nat) (t : Tableau Float m d) : Prop :=
  ∀ i : Fin m, (t.line i).IsBounded (growth E T (if i < k then k else min i d))

variable {t : Tableau Float m d}

theorem GrownTo.mono {k n : Nat} (h : t.GrownTo E T k) (hkn : k ≤ n) : t.GrownTo E T n := by
  intro i
  refine (h i).mono (growth_mono ?_)
  split <;> split <;> omega

theorem GrownTo.normalizeAt (hτ : AtLeast T τ) {p : Pivot m d} (h : t.GrownTo E T p.1)
    (hp : p.1.val < d) (hmax : growth E T (p.1 + 1) ≤ 1023)
    (hpivot : Scalar.isZero (t.entry p.1 p.2) τ = false) :
    (t.normalizeAt τ p).GrownTo E T (p.1 + 1) := by
  have hstep := growth_add_growth E T p.1
  have hsource : (t.line p.1).IsBounded (growth E T p.1) := by
    have hline := h p.1
    rwa [if_neg (lt_irrefl _), min_eq_left hp.le] at hline
  intro i
  rcases lt_trichotomy i p.1 with hlt | heq | hgt
  · have htarget : (t.line i).IsBounded (growth E T p.1) := by
      have hline := h i
      rwa [if_pos (Fin.lt_def.1 hlt)] at hline
    rw [line_normalizeAt, if_pos hlt, if_pos (Nat.lt_succ_of_lt (Fin.lt_def.1 hlt)), ← hstep]
    exact hsource.eliminate hτ htarget (hstep.trans_le hmax)
  · have hscale := growth_add_le E T p.1
    rw [line_normalizeAt, heq, if_neg (lt_irrefl _), if_pos rfl, if_pos (Nat.lt_succ_self _)]
    exact (hsource.normalize hτ hpivot (hscale.trans hmax)).mono hscale
  · rw [line_normalizeAt_of_lt τ t p hgt]
    exact h.mono (Nat.le_succ _) i

theorem GrownTo.backSubstitute (hτ : AtLeast T τ) (hmax : growth E T (min m d) ≤ 1023)
    {pivots : List (Pivot m d)} (hrows : pivots.Pairwise fun p q => p.1 < q.1)
    (hd : ∀ p ∈ pivots, p.1.val < d) {k : Nat} (hk : ∀ p ∈ pivots, k ≤ p.1)
    (hkmax : k ≤ min m d) {t : Tableau Float m d} (h : t.GrownTo E T k)
    (hpivots : ∀ p ∈ pivots, Scalar.isZero (t.entry p.1 p.2) τ = false) :
    (t.backSubstitute τ pivots).GrownTo E T (min m d) := by
  induction pivots generalizing k t with
  | nil => exact h.mono hkmax
  | cons p pivots ih =>
      obtain ⟨hp, hrows⟩ := List.pairwise_cons.1 hrows
      obtain ⟨hpd, hd⟩ := List.forall_mem_cons.1 hd
      have hpm := p.1.isLt
      have hstep : (t.normalizeAt τ p).GrownTo E T (p.1 + 1) :=
        (h.mono (hk p List.mem_cons_self)).normalizeAt hτ hpd
          ((growth_mono (by omega)).trans hmax) (hpivots p List.mem_cons_self)
      -- The rows below stay as they were, so the pivots to come do not read as zero either.
      refine ih hrows hd (fun q hq => Fin.lt_def.1 (hp q hq)) (by omega) hstep fun q hq => ?_
      rw [entry_normalizeAt_of_lt τ t p (hp q hq)]
      exact hpivots q (List.mem_cons_of_mem p hq)

/-- **The exponents double at most once for each pivot**, in both passes together. -/
theorem isBounded_gaussJordan (hτ : AtLeast T τ) (hmax : growth E T (min m d) ≤ 1023)
    (h : ∀ i, (t.line i).IsBounded E) (i : Fin m) :
    ((t.gaussJordan τ).line i).IsBounded (growth E T (min m d)) := by
  have hstart : Sweep.Grown E T 0 ⟨t, 0, []⟩ := by
    refine ⟨fun i => ?_, ?_⟩
    · rw [Nat.zero_min, Nat.min_zero, growth_zero]
      exact h i
    · rw [Nat.zero_min]
  have hswept := hstart.runFrom hτ hmax (Nat.zero_le m)
  rw [← Sweep.run_eq_runFrom] at hswept
  have hstaircase : IsStaircase (Sweep.pivots τ t) := Sweep.isStaircase_pivots hτ.pos t
  have hreduced : ((Sweep.run τ t).tableau.backSubstitute τ (Sweep.pivots τ t)).GrownTo E T
      (min m d) := by
    apply GrownTo.backSubstitute hτ hmax (Sweep.pairwise_fst_pivots hτ.pos t) (k := 0)
    · exact fun p hp => (hstaircase.lt_length hp).trans_le hstaircase.length_le_columns
    · exact fun p _ => Nat.zero_le _
    · exact Nat.zero_le _
    · intro i
      have hline := hswept.line i
      rw [if_neg (Nat.not_lt_zero _)]
      exact hline.mono (growth_mono (by omega))
    · intro p hp
      rw [← Sweep.pivots_run (LawfulZeroTest.isSignificant_zero hτ.pos)] at hp
      exact LawfulZeroTest.isZero_of_isSignificant (Grid.isSignificant_of_mem_pivots hp)
  have hline := (hreduced i).mono (growth_mono (n := min m d) (by split <;> omega))
  exact hline.clean τ

end Tableau

end LinearSystems
