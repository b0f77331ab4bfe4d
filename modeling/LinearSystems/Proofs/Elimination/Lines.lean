import LinearSystems.Elimination.Reduction
import Mathlib.Data.List.FinRange
import Mathlib.Data.List.Nodup

/-!
# Elimination line by line

A line of a tableau is a row together with its offset.  Every step of an elimination computes each
new line from at most two old ones, and this module says which: a statement about a step is then a
statement about lines, and the tableau around them stays out of sight.

Nothing here asks for a law of the arithmetic.
-/

namespace LinearSystems

variable {K : Type} {m d : Nat}

/-- The coefficients and the offset of one equation. -/
abbrev Line (K : Type) (d : Nat) := (Fin d → K) × K

namespace Line

/-- The line with the columns from `start` up to, but not including, `stop` set to zero. -/
def clear [Zero K] (start stop : Nat) (l : Line K d) : Line K d :=
  (fun j => if start ≤ j ∧ j < stop then 0 else l.1 j, l.2)

variable [Scalar K]

/-- Elimination leaves the target alone. -/
def isSkipped (τ : K) (c : Fin d) (source target : Line K d) : Bool :=
  Scalar.isZero (target.1 c) τ || Scalar.isZero (source.1 c) τ

/-- The target after its column `c` has been eliminated with the source. -/
def eliminate (τ : K) (c : Fin d) (source target : Line K d) : Line K d :=
  if isSkipped τ c source target then target
  else (fun j => if j = c then 0 else target.1 j + -target.1 c / source.1 c * source.1 j,
    target.2 + -target.1 c / source.1 c * source.2)

/-- The line scaled so that its entry in column `c` is one. -/
def normalize (c : Fin d) (l : Line K d) : Line K d :=
  (fun j => if j = c then 1 else l.1 j * (1 / l.1 c), l.2 * (1 / l.1 c))

end Line

namespace Tableau

def line (t : Tableau K m d) (i : Fin m) : Line K d := (t.entry i, t.offset i)

theorem entry_eq_line (t : Tableau K m d) (i : Fin m) (j : Fin d) :
    t.entry i j = (t.line i).1 j :=
  rfl

theorem offset_eq_line (t : Tableau K m d) (i : Fin m) : t.offset i = (t.line i).2 :=
  rfl

theorem ext_line {t u : Tableau K m d} (same : ∀ i, t.line i = u.line i) : t = u := by
  obtain ⟨g, b⟩ := t
  obtain ⟨h, c⟩ := u
  congr 1
  · apply Grid.ext_entry
    intro i j
    exact congrFun (congrArg Prod.fst (same i)) j
  · apply Vector.ext
    intro i hi
    exact congrArg Prod.snd (same ⟨i, hi⟩)

theorem line_swap (a b : Fin m) (t : Tableau K m d) (i : Fin m) :
    (t.swap a b).line i = t.line (exchange a b i) := by
  simp only [line, offset_swap, Prod.mk.injEq, and_true]
  funext j
  exact entry_swap a b t i j

theorem line_clearBlock [Zero K] (r a b : Nat) (t : Tableau K m d) (i : Fin m) :
    (t.clearBlock r a b).line i = if r ≤ i then (t.line i).clear a b else t.line i := by
  split <;> rename_i h <;>
    (simp only [line, Line.clear, offset_clearBlock, Prod.mk.injEq, and_true]
     funext j
     simp [h])

variable [Scalar K]

theorem line_eliminateIn (τ : K) (c : Fin d) (s r : Fin m) (t : Tableau K m d) (i : Fin m) :
    (t.eliminateIn τ c s r).line i =
      if i = r then (t.line s).eliminate τ c (t.line r) else t.line i := by
  by_cases hskip : Line.isSkipped τ c (t.line s) (t.line r) = true
  · have hstep : t.eliminateIn τ c s r = t := if_pos hskip
    rw [hstep, Line.eliminate, if_pos hskip]
    split
    · next hi => rw [hi]
    · rfl
  · have hstep : t.eliminateIn τ c s r =
        (t.addMultiple (-t.entry r c / t.entry s c) s r).setEntry r c 0 := if_neg hskip
    rw [hstep, Line.eliminate, if_neg hskip]
    by_cases hi : i = r
    · subst hi
      simp only [line, offset_setEntry, offset_addMultiple, if_true, Prod.mk.injEq, and_true]
      funext j
      simp
    · simp only [line, offset_setEntry, offset_addMultiple, hi, if_false, Prod.mk.injEq, and_true]
      funext j
      simp [hi]

theorem line_eliminateIn_of_ne (τ : K) (c : Fin d) (s : Fin m) (t : Tableau K m d) {i r : Fin m}
    (h : i ≠ r) : (t.eliminateIn τ c s r).line i = t.line i := by
  rw [line_eliminateIn, if_neg h]

/-- Eliminating a column from several rows, one after the other: each listed row meets the source as
it was at the start. -/
theorem line_foldl_eliminateIn (τ : K) (c : Fin d) (s : Fin m) (p : Fin m → Prop)
    [DecidablePred p] (hs : ¬ p s) (rows : List (Fin m)) (hrows : rows.Nodup) (t : Tableau K m d)
    (i : Fin m) :
    (rows.foldl (fun t i => if p i then t.eliminateIn τ c s i else t) t).line i =
      if i ∈ rows ∧ p i then (t.line s).eliminate τ c (t.line i) else t.line i := by
  induction rows generalizing t with
  | nil => simp
  | cons a rows ih =>
      obtain ⟨ha, hrows⟩ := List.nodup_cons.1 hrows
      rw [List.foldl_cons, ih hrows]
      by_cases hpa : p a
      · have hsa : s ≠ a := fun h => hs (h ▸ hpa)
        rw [if_pos hpa, line_eliminateIn_of_ne τ c s t hsa]
        by_cases hia : i = a
        · subst hia
          simp [ha, hpa, line_eliminateIn]
        · simp [hia, line_eliminateIn]
      · rw [if_neg hpa]
        by_cases hia : i = a
        · subst hia
          simp [hpa]
        · simp [hia]

theorem line_eliminateBelow (τ : K) (r : Fin m) (c : Fin d) (t : Tableau K m d) (i : Fin m) :
    (t.eliminateBelow τ r c).line i =
      if r < i then (t.line r).eliminate τ c (t.line i) else t.line i := by
  rw [eliminateBelow,
    line_foldl_eliminateIn τ c r (r < ·) (lt_irrefl r) _ (List.nodup_finRange m)]
  simp

theorem line_eliminateAbove (τ : K) (r : Fin m) (c : Fin d) (t : Tableau K m d) (i : Fin m) :
    (t.eliminateAbove τ r c).line i =
      if i < r then (t.line r).eliminate τ c (t.line i) else t.line i := by
  rw [eliminateAbove, line_foldl_eliminateIn τ c r (· < r) (lt_irrefl r) _
    (List.nodup_reverse.2 (List.nodup_finRange m))]
  simp

/-- Scaling a row so that its pivot becomes exactly one. -/
theorem line_scaleToOne (r : Fin m) (c : Fin d) (t : Tableau K m d) (i : Fin m) :
    ((t.scale (1 / t.entry r c) r).setEntry r c 1).line i =
      if i = r then (t.line r).normalize c else t.line i := by
  by_cases hi : i = r
  · subst hi
    simp only [line, Line.normalize, offset_setEntry, offset_scale, if_true, Prod.mk.injEq,
      and_true]
    funext j
    simp
  · simp only [line, offset_setEntry, offset_scale, hi, if_false, Prod.mk.injEq, and_true]
    funext j
    simp [hi]

theorem scalePivotToOne_eq_ok_iff {τ : K} {r : Fin m} {c : Fin d} {t u : Tableau K m d} :
    t.scalePivotToOne τ r c = .ok u ↔ Scalar.isZero (t.entry r c) τ = false ∧
      (t.scale (1 / t.entry r c) r).setEntry r c 1 = u := by
  by_cases hzero : Scalar.isZero (t.entry r c) τ = true <;> simp [scalePivotToOne, hzero]

/-! ## What happens at one pivot of the reduced pass -/

/-- The tableau after one pivot of the reduced pass, when the pivot does not read as zero. -/
def normalizeAt (τ : K) (t : Tableau K m d) (p : Pivot m d) : Tableau K m d :=
  ofFn
    (fun i => if i < p.1 then ((t.line p.1).eliminate τ p.2 (t.line i)).1
      else if i = p.1 then ((t.line p.1).normalize p.2).1 else t.entry i)
    fun i => if i < p.1 then ((t.line p.1).eliminate τ p.2 (t.line i)).2
      else if i = p.1 then ((t.line p.1).normalize p.2).2 else t.offset i

theorem line_normalizeAt (τ : K) (t : Tableau K m d) (p : Pivot m d) (i : Fin m) :
    (t.normalizeAt τ p).line i =
      if i < p.1 then (t.line p.1).eliminate τ p.2 (t.line i)
      else if i = p.1 then (t.line p.1).normalize p.2 else t.line i := by
  have hentry : (t.normalizeAt τ p).entry i = if i < p.1
      then ((t.line p.1).eliminate τ p.2 (t.line i)).1
      else if i = p.1 then ((t.line p.1).normalize p.2).1 else t.entry i := by
    funext j
    rw [normalizeAt, entry_ofFn]
  rw [line, hentry, normalizeAt, offset_ofFn]
  split
  · rfl
  · split <;> rfl

/-- The rows below a pivot are not touched. -/
theorem line_normalizeAt_of_lt (τ : K) (t : Tableau K m d) (p : Pivot m d) {i : Fin m}
    (h : p.1 < i) : (t.normalizeAt τ p).line i = t.line i := by
  rw [line_normalizeAt, if_neg h.asymm, if_neg h.ne']

theorem entry_normalizeAt_of_lt (τ : K) (t : Tableau K m d) (p : Pivot m d) {i : Fin m}
    (h : p.1 < i) (j : Fin d) : (t.normalizeAt τ p).entry i j = t.entry i j :=
  congrFun (congrArg Prod.fst (line_normalizeAt_of_lt τ t p h)) j

theorem reduceAt_eq_ok {τ : K} {t : Tableau K m d} {p : Pivot m d}
    (h : Scalar.isZero (t.entry p.1 p.2) τ = false) : t.reduceAt τ p = .ok (t.normalizeAt τ p) := by
  have hline : (t.eliminateAbove τ p.1 p.2).line p.1 = t.line p.1 := by
    rw [line_eliminateAbove, if_neg (lt_irrefl p.1)]
  have hpivot : (t.eliminateAbove τ p.1 p.2).entry p.1 p.2 = t.entry p.1 p.2 := by
    rw [entry_eq_line, hline, ← entry_eq_line]
  refine scalePivotToOne_eq_ok_iff.2 ⟨hpivot.symm ▸ h, ext_line fun i => ?_⟩
  rw [line_scaleToOne, line_normalizeAt, hline]
  by_cases hi : i = p.1
  · rw [if_pos hi, if_neg hi.not_lt, if_pos hi]
  · rw [if_neg hi, if_neg hi, line_eliminateAbove]

end Tableau

end LinearSystems
