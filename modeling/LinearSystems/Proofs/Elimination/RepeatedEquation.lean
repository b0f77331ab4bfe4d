import Mathlib
import LinearSystems.Proofs.Elimination.RankTest
import LinearSystems.Proofs.Elimination.ReducedSystem
import LinearSystems.Proofs.Elimination.RowSpace
import LinearSystems.Proofs.Elimination.SmallPivots

/-!
# Repeated equations

A copy of an equation, or the equation `0 = 0`, is appended to a system.  The passes on the longer
system do to its first rows what the passes on the shorter one do, and below them stands zero or
still a copy of a row that has not become a pivot row (`Tableau.Prolongs`): the original comes first
in every search, and when it becomes the pivot row its copy is eliminated to zero
(`Sweep.prolongs_step`).  So **the longer report lists the same pivots and small pivots over the
same first rows and offsets, with the same kind and the same solution**.

The parametrization reads its pivots once more.  Where pivots are lost to that reading, residue in
the appended row can be taken for one, and **the parametrization stays the same exactly if the
reading finds no pivot there** (`Elimination.report_of_appended_equation`).
-/

namespace LinearSystems

variable {K : Type} {m d : Nat}

/-- The same place in a table with one more row. -/
def Pivot.lift (p : Pivot m d) : Pivot (m + 1) d := (p.1.castSucc, p.2)

namespace Tableau

/-- The tableau with one more line below. -/
def append (t : Tableau K m d) (l : Line K d) : Tableau K (m + 1) d :=
  ofFn (Fin.snoc (α := fun _ => Fin d → K) t.entry l.1) (Fin.snoc (α := fun _ => K) t.offset l.2)

theorem line_append_castSucc (t : Tableau K m d) (l : Line K d) (i : Fin m) :
    (t.append l).line i.castSucc = t.line i := by
  refine Prod.ext (funext fun j => ?_) ?_
  · exact (entry_ofFn _ _ i.castSucc j).trans (congrFun (Fin.snoc_castSucc _ _ i) j)
  · exact (offset_ofFn _ _ i.castSucc).trans (Fin.snoc_castSucc _ _ i)

theorem line_append_last (t : Tableau K m d) (l : Line K d) :
    (t.append l).line (Fin.last m) = l := by
  refine Prod.ext (funext fun j => ?_) ?_
  · exact (entry_ofFn _ _ (Fin.last m) j).trans (congrFun (Fin.snoc_last _ _) j)
  · exact (offset_ofFn _ _ (Fin.last m)).trans (Fin.snoc_last _ _)

/-! ## Rows that change places -/

theorem exchange_castSucc (a b i : Fin m) :
    exchange a.castSucc b.castSucc i.castSucc = (exchange a b i).castSucc := by
  simp only [exchange, Fin.castSucc_inj]
  split
  · rfl
  · split <;> rfl

theorem exchange_last (a b : Fin m) :
    exchange a.castSucc b.castSucc (Fin.last m) = Fin.last m := by
  rw [exchange, if_neg (Fin.castSucc_lt_last a).ne', if_neg (Fin.castSucc_lt_last b).ne']

/-- A row that gives way to the pivot row moves down. -/
theorem max_le_exchange {i p o : Fin m} {n : Nat} (hip : i ≤ p) (hin : i ≤ n) (hno : n ≤ o)
    (hne : o ≠ p) : max n (i + 1) ≤ exchange i p o := by
  rw [exchange]
  split
  · next hoi =>
      have hlt : i.val < p := Fin.lt_def.1 (lt_of_le_of_ne hip (hoi ▸ hne))
      rw [hoi] at hno
      omega
  · next hoi =>
      have hlt : i.val ≠ o := fun h => hoi (Fin.ext h).symm
      omega

end Tableau

namespace Line

variable {τ : ℚ} {c : Fin d} {l : Line ℚ d}

theorem clear_zero (start stop : Nat) : (0 : Line ℚ d).clear start stop = 0 :=
  Prod.ext (funext fun _ => ite_self 0) rfl

/-- A zero line is skipped. -/
theorem eliminate_zero (hτ : 0 < τ) (c : Fin d) (l : Line ℚ d) : eliminate τ c l 0 = 0 := by
  have hzero : Scalar.isZero (0 : ℚ) τ = true := by
    rw [Scalar.isZero_rat_iff, abs_zero]
    exact hτ
  exact if_pos (Bool.or_eq_true_iff.2 (Or.inl hzero))

/-- A copy of the pivot line is eliminated to zero, beside its offset too. -/
theorem eliminate_self (hτ : 0 < τ) (hc : Scalar.isSignificant τ (l.1 c) = true) :
    eliminate τ c l l = 0 := by
  have hpivot : l.1 c ≠ 0 := abs_pos.1 (hτ.trans_le (Scalar.isSignificant_rat_iff.1 hc))
  have hkept : ¬ isSkipped τ c l l = true := by
    simp [isSkipped, Scalar.isZero_rat_of_isSignificant hc]
  have hcancel (x : ℚ) : x + -l.1 c / l.1 c * x = 0 := by
    rw [neg_div, div_self hpivot]
    ring
  rw [eliminate, if_neg hkept]
  refine Prod.ext (funext fun j => ?_) (hcancel l.2)
  show (if j = c then (0 : ℚ) else _) = 0
  rw [hcancel, ite_self]

end Line

/-! ## The longer run over the shorter one -/

/-- The long tableau holds the short one, and below it zero or a copy of a line from row `n` on. -/
structure Tableau.Prolongs (n : Nat) (long : Tableau ℚ (m + 1) d) (short : Tableau ℚ m d) :
    Prop where
  line : ∀ i : Fin m, long.line i.castSucc = short.line i
  last : long.line (Fin.last m) = 0 ∨
    ∃ o : Fin m, n ≤ o ∧ long.line (Fin.last m) = short.line o

namespace Tableau.Prolongs

variable {τ : ℚ} {n : Nat} {long : Tableau ℚ (m + 1) d} {short : Tableau ℚ m d}

/-- From row `m` on there is no line to copy. -/
theorem last_eq_zero (h : long.Prolongs n short) (hn : m ≤ n) : long.line (Fin.last m) = 0 :=
  h.last.resolve_right fun ⟨o, ho, _⟩ => absurd (hn.trans ho) (not_le.2 o.isLt)

theorem isSignificant_last (hτ : 0 < τ) (h : long.Prolongs n short) {j : Fin d}
    (hcolumn : ∀ o : Fin m, n ≤ o → Scalar.isSignificant τ (short.entry o j) = false) :
    Scalar.isSignificant τ (long.entry (Fin.last m) j) = false := by
  rw [entry_eq_line]
  rcases h.last with hzero | ⟨o, ho, hcopy⟩
  · rw [hzero]
    exact Scalar.isSignificant_rat_zero hτ
  · rw [hcopy]
    exact hcolumn o ho

/-- Both searches find the same pivot: the original comes before its copy. -/
theorem findPivot_of_some (hτ : 0 < τ) (h : long.Prolongs n short) {row column : Nat}
    (hrow : row ≤ n) {p : Fin m} {c : Fin d}
    (hfound : short.findPivot τ row column = some (p, c)) :
    long.findPivot τ row column = some (p.castSucc, c) := by
  obtain ⟨⟨hcolumn, hp, hsig⟩, hfirst, hbefore⟩ := findPivot_eq_some_iff.1 hfound
  refine findPivot_eq_some_iff.2 ⟨⟨hcolumn, hp, ?_⟩, ?_, ?_⟩
  · rw [entry_eq_line, h.line]
    exact hsig
  · intro i hi hirow
    obtain ⟨i, rfl⟩ := Fin.exists_castSucc_eq.2 (hi.trans (Fin.castSucc_lt_last p)).ne
    rw [entry_eq_line, h.line]
    exact hfirst i (Fin.castSucc_lt_castSucc_iff.1 hi) hirow
  · -- A hit in the appended row would be one in the row that it copies.
    intro j hj hjcolumn i hirow
    cases i using Fin.lastCases with
    | last => exact h.isSignificant_last hτ fun o ho => hbefore j hj hjcolumn o (hrow.trans ho)
    | cast i =>
        rw [entry_eq_line, h.line]
        exact hbefore j hj hjcolumn i hirow

theorem findPivot_of_none (hτ : 0 < τ) (h : long.Prolongs n short) {row column : Nat}
    (hrow : row ≤ n) (hnone : short.findPivot τ row column = none) :
    long.findPivot τ row column = none := by
  have hnothing := findPivot_eq_none_iff.1 hnone
  refine findPivot_eq_none_iff.2 fun i j hi hj => ?_
  cases i using Fin.lastCases with
  | last => exact h.isSignificant_last hτ fun o ho => hnothing o j (hrow.trans ho) hj
  | cast i =>
      rw [entry_eq_line, h.line]
      exact hnothing i j hi hj

/-! ### The reduced pass -/

/-- A pivot above the original changes neither it nor its copy. -/
theorem normalizeAt (h : long.Prolongs n short) {p : Pivot m d} (hp : p.1 < n) :
    (long.normalizeAt τ p.lift).Prolongs n (short.normalizeAt τ p) := by
  constructor
  · intro i
    rw [line_normalizeAt, line_normalizeAt]
    simp only [Pivot.lift, Fin.castSucc_lt_castSucc_iff, Fin.castSucc_inj, h.line]
  · rw [line_normalizeAt_of_lt τ long p.lift (Fin.castSucc_lt_last p.1)]
    refine h.last.imp_right fun ⟨o, ho, hcopy⟩ => ⟨o, ho, ?_⟩
    rw [hcopy, line_normalizeAt_of_lt τ short p (Fin.lt_def.2 (hp.trans_le ho))]

theorem backSubstitute {pivots : List (Pivot m d)} (hrows : ∀ p ∈ pivots, p.1 < n)
    (h : long.Prolongs n short) :
    (long.backSubstitute τ (pivots.map Pivot.lift)).Prolongs n (short.backSubstitute τ pivots) := by
  induction pivots generalizing long short with
  | nil => exact h
  | cons p pivots ih =>
      obtain ⟨hp, hrows⟩ := List.forall_mem_cons.1 hrows
      exact ih hrows (h.normalizeAt hp)

theorem clean (h : long.Prolongs n short) : (long.clean τ).Prolongs n (short.clean τ) := by
  have hcongr {i : Fin (m + 1)} {o : Fin m} (hline : long.line i = short.line o) :
      (long.clean τ).line i = (short.clean τ).line o := by
    refine Prod.ext (funext fun j => ?_) ?_
    · rw [← entry_eq_line, ← entry_eq_line, entry_clean, entry_clean, entry_eq_line, hline,
        ← entry_eq_line]
    · rw [← offset_eq_line, ← offset_eq_line, offset_clean, offset_clean, offset_eq_line, hline,
        ← offset_eq_line]
  refine ⟨fun i => hcongr (h.line i), ?_⟩
  rcases h.last with hzero | ⟨o, ho, hcopy⟩
  · refine Or.inl (Prod.ext (funext fun j => ?_) ?_)
    · rw [← entry_eq_line, entry_clean, entry_eq_line, hzero]
      exact ite_self 0
    · rw [← offset_eq_line, offset_clean, offset_eq_line, hzero]
      exact ite_self 0
  · exact Or.inr ⟨o, ho, hcongr hcopy⟩

end Tableau.Prolongs

namespace Sweep

variable {τ : ℚ} {n : Nat} {long : Sweep ℚ (m + 1) d} {short : Sweep ℚ m d}

theorem findPivot_castSucc_of_some (hτ : 0 < τ) (h : long.tableau.Prolongs n short.tableau)
    (hnext : long.next = short.next) {i p : Fin m} {c : Fin d} (hi : i ≤ n)
    (hfound : short.tableau.findPivot τ i short.next = some (p, c)) :
    long.tableau.findPivot τ i.castSucc long.next = some (p.castSucc, c) := by
  rw [hnext]
  exact h.findPivot_of_some hτ hi hfound

/-- One step of both runs that finds a pivot. -/
theorem prolongs_step (hτ : 0 < τ) (h : long.tableau.Prolongs n short.tableau)
    (hnext : long.next = short.next) {i p : Fin m} {c : Fin d} (hi : i ≤ n)
    (hfound : short.tableau.findPivot τ i short.next = some (p, c)) :
    (long.step τ i.castSucc).tableau.Prolongs (max n (i + 1)) (short.step τ i).tableau := by
  obtain ⟨⟨-, hip, hsig⟩, -, -⟩ := Tableau.findPivot_eq_some_iff.1 hfound
  have hlong := findPivot_castSucc_of_some hτ h hnext hi hfound
  constructor
  · intro r
    rw [line_step_of_some hlong, line_step_of_some hfound, hnext]
    simp only [Tableau.exchange_castSucc, Fin.castSucc_lt_castSucc_iff, Fin.castSucc_inj, h.line]
  · rw [line_step_of_some hlong, if_pos (Fin.castSucc_lt_last i), Tableau.exchange_last, h.line,
      hnext]
    rcases h.last with hzero | ⟨o, ho, hcopy⟩
    · rw [hzero, Line.clear_zero, Line.eliminate_zero hτ]
      exact Or.inl rfl
    · rw [hcopy]
      by_cases hop : o = p
      · -- The original becomes the pivot row.
        rw [hop, Line.eliminate_self hτ]
        · exact Or.inl rfl
        · exact (congrArg _ (if_neg fun hc => lt_irrefl _ hc.2)).trans hsig
      · have hmoved := Tableau.max_le_exchange hip hi ho hop
        refine Or.inr ⟨_, hmoved, ?_⟩
        rw [line_step_of_some hfound, if_pos (Fin.lt_def.2 (by omega)), Tableau.exchange_exchange]

/-- Where no pivot is found both passes clear what is left of the columns, and they are done. -/
theorem prolongs_runFrom_of_none (h : long.tableau.Prolongs n short.tableau)
    (hnext : long.next = short.next) {i : Fin m} (hi : i ≤ n)
    (hlong : long.tableau.findPivot τ i.castSucc long.next = none)
    (hshort : short.tableau.findPivot τ i short.next = none) :
    (runFrom τ i long).tableau.Prolongs n (runFrom τ i short).tableau := by
  have hline (r : Fin (m + 1)) := line_runFrom_of_none hlong r
  constructor
  · intro r
    rw [line_runFrom_of_none hshort]
    refine (hline r.castSucc).trans ?_
    rw [hnext, h.line]
    rfl
  · have hlast := (hline (Fin.last m)).trans (if_pos (Fin.le_last _))
    rcases h.last with hzero | ⟨o, ho, hcopy⟩
    · refine Or.inl (hlast.trans ?_)
      rw [hzero, Line.clear_zero]
    · refine Or.inr ⟨o, ho, hlast.trans ?_⟩
      rw [line_runFrom_of_none hshort, if_pos (Fin.le_def.2 (hi.trans ho)), hcopy, hnext]

/-- After the last row of the shorter system only the appended row is left, and it is zero. -/
theorem prolongs_runFrom_last (hτ : 0 < τ) (h : long.tableau.Prolongs n short.tableau)
    (hn : m ≤ n) :
    pivotsFrom τ (rowsFrom (m + 1) m) long = [] ∧
      (runFrom τ m long).tableau.Prolongs n short.tableau := by
  have hzero := h.last_eq_zero hn
  have hnone : long.tableau.findPivot τ (Fin.last m) long.next = none := by
    refine Tableau.findPivot_eq_none_iff.2 fun i j hi _ => ?_
    rw [Fin.le_antisymm (Fin.le_last i) (Fin.le_def.2 hi), Tableau.entry_eq_line, hzero]
    exact Scalar.isSignificant_rat_zero hτ
  refine ⟨pivotsFrom_fin_of_none hnone, fun i => ?_, Or.inl ?_⟩
  · exact (line_runFrom_of_none hnone i.castSucc).trans
      ((if_neg (not_le.2 (Fin.castSucc_lt_last i))).trans (h.line i))
  · refine (line_runFrom_of_none hnone (Fin.last m)).trans ((if_pos le_rfl).trans ?_)
    rw [hzero, Line.clear_zero]

/-- **The passes over both systems from a row on**: they place the same pivots, and the longer one
ends over the shorter one. -/
theorem prolongs_runFrom (hτ : 0 < τ) {k : Nat} (hk : k ≤ m)
    (h : long.tableau.Prolongs n short.tableau) (hnext : long.next = short.next) (hn : k ≤ n) :
    pivotsFrom τ (rowsFrom (m + 1) k) long = (pivotsFrom τ (rowsFrom m k) short).map Pivot.lift ∧
      (runFrom τ k long).tableau.Prolongs (max n (k + (pivotsFrom τ (rowsFrom m k) short).length))
        (runFrom τ k short).tableau := by
  induction k, hk using rows_induction generalizing long short n with
  | done =>
      obtain ⟨hpivots, hrun⟩ := prolongs_runFrom_last hτ h hn
      have hbound : max n (m + (pivotsFrom τ [] short).length) = n := max_eq_left hn
      rw [rowsFrom_self, runFrom_self, hbound]
      exact ⟨hpivots, hrun⟩
  | row i ih =>
      cases hfound : short.tableau.findPivot τ i short.next with
      | none =>
          have hlong : long.tableau.findPivot τ i.castSucc long.next = none := by
            rw [hnext]
            exact h.findPivot_of_none hτ hn hfound
          have hbound : max n (i + ([] : List (Pivot m d)).length) = n := max_eq_left hn
          rw [pivotsFrom_fin_of_none hfound, hbound]
          exact ⟨pivotsFrom_fin_of_none hlong, prolongs_runFrom_of_none h hnext hn hlong hfound⟩
      | some q =>
          obtain ⟨p, c⟩ := q
          have hlong := findPivot_castSucc_of_some hτ h hnext hn hfound
          have hstep := prolongs_step hτ h hnext hn hfound
          have hnext' : (long.step τ i.castSucc).next = (short.step τ i).next := by
            rw [next_step_of_some hlong, next_step_of_some hfound]
          obtain ⟨hpivots, hrun⟩ := ih hstep hnext' (le_max_right _ _)
          constructor
          · rw [pivotsFrom_fin_of_some hfound, List.map_cons, ← hpivots]
            exact pivotsFrom_fin_of_some hlong
          · have hbound : max (max n (i + 1))
                  (i + 1 + (pivotsFrom τ (rowsFrom m (i + 1)) (short.step τ i)).length) =
                max n (i + (pivotsFrom τ (rowsFrom m i) short).length) := by
              rw [pivotsFrom_fin_of_some hfound, List.length_cons]
              omega
            have hlongRun : runFrom τ i long = runFrom τ (i + 1) (long.step τ i.castSucc) :=
              runFrom_fin τ i.castSucc long
            rw [hlongRun, runFrom_fin τ i short, ← hbound]
            exact hrun

end Sweep

namespace Tableau.Prolongs

variable {τ : ℚ} {n : Nat} {long : Tableau ℚ (m + 1) d} {short : Tableau ℚ m d}

theorem run (hτ : 0 < τ) (h : long.Prolongs n short) :
    Sweep.pivots τ long = (Sweep.pivots τ short).map Pivot.lift ∧
      (Sweep.run τ long).tableau.Prolongs (max n (Sweep.pivots τ short).length)
        (Sweep.run τ short).tableau := by
  have hstart : (⟨long, 0, []⟩ : Sweep ℚ (m + 1) d).tableau.Prolongs n
      (⟨short, 0, []⟩ : Sweep ℚ m d).tableau := h
  have hpass := Sweep.prolongs_runFrom hτ (Nat.zero_le m) hstart rfl (Nat.zero_le n)
  rwa [Nat.zero_add, ← Sweep.run_eq_runFrom, ← Sweep.run_eq_runFrom] at hpass

theorem smallPivots_run (hτ : 0 < τ) (h : long.Prolongs n short) :
    (Sweep.run τ long).smallPivots =
      (Sweep.run τ short).smallPivots.map fun note => (Pivot.lift note.1, note.2) := by
  obtain ⟨hpivots, hrun⟩ := h.run hτ
  have hread : (Sweep.run τ long).tableau.readAt (Sweep.pivots τ long) =
      ((Sweep.run τ short).tableau.readAt (Sweep.pivots τ short)).map
        fun note => (Pivot.lift note.1, note.2) := by
    rw [hpivots, readAt, readAt, List.map_map, List.map_map]
    refine List.map_congr_left fun p _ => ?_
    exact Prod.ext rfl (congrFun (congrArg Prod.fst (hrun.line p.1)) p.2)
  rw [Sweep.smallPivots_run, Sweep.smallPivots_run, hread, nearZero, nearZero, List.filter_map]
  rfl

/-- **After both passes** the longer tableau still is over the shorter one. -/
theorem gaussJordan (hτ : 0 < τ) (h : long.Prolongs n short) :
    (long.gaussJordan τ).Prolongs (max n (Sweep.pivots τ short).length)
      (short.gaussJordan τ) := by
  obtain ⟨hpivots, hrun⟩ := h.run hτ
  rw [Tableau.gaussJordan, Tableau.gaussJordan, hpivots]
  refine (hrun.backSubstitute fun p hp => ?_).clean
  exact ((Sweep.isStaircase_pivots hτ short).lt_length hp).trans_le (le_max_right _ _)

/-- A zero line and a copy are consistent with the lines above. -/
theorem classify_eq (hτ : 0 < τ) (h : long.Prolongs n short) (count : Nat) :
    long.classify τ count = short.classify τ count := by
  have hverdict : long.isConsistent τ = false ↔ short.isConsistent τ = false := by
    rw [isConsistent_eq_false_iff, isConsistent_eq_false_iff]
    simp only [entry_eq_line, offset_eq_line]
    constructor
    · rintro ⟨i, hi⟩
      cases i using Fin.lastCases with
      | last =>
          rcases h.last with hzero | ⟨o, -, hcopy⟩
          · rw [hzero] at hi
            exact absurd hi.2 (not_le.2 (abs_zero.trans_lt hτ))
          · rw [hcopy] at hi
            exact ⟨o, hi⟩
      | cast i =>
          rw [h.line] at hi
          exact ⟨i, hi⟩
    · rintro ⟨i, hi⟩
      rw [← h.line] at hi
      exact ⟨i.castSucc, hi⟩
  have hconsistent : long.isConsistent τ = short.isConsistent τ := by
    rw [Bool.eq_iff_iff, ← not_iff_not, Bool.not_eq_true, Bool.not_eq_true]
    exact hverdict
  rw [classify, classify, hconsistent]

end Tableau.Prolongs

/-! ## What the report says -/

section Reading

variable {pivots : List (Pivot m d)} {j : Fin d}

theorem pivotRow?_map_lift :
    pivotRow? (pivots.map Pivot.lift) j = (pivotRow? pivots j).map Fin.castSucc := by
  rw [pivotRow?, pivotRow?, ← List.map_reverse, List.find?_map, Option.map_map, Option.map_map]
  rfl

theorem freeColumns_map_lift : freeColumns (pivots.map Pivot.lift) = freeColumns pivots := by
  simp only [freeColumns, pivotRow?_map_lift, Option.isNone_map]

theorem pivotPoint_map_lift {b : Vector ℚ m} {b' : Vector ℚ (m + 1)}
    (hb : ∀ i : Fin m, b'.get i.castSucc = b.get i) :
    (pivotPoint (pivots.map Pivot.lift) b' : Vector ℚ d) = pivotPoint pivots b := by
  rw [pivotPoint, pivotPoint]
  congr 1
  funext j
  rw [pivotRow?_map_lift]
  cases pivotRow? pivots j with
  | none => rfl
  | some i => exact hb i

theorem freeDirection_map_lift {g : Grid ℚ m d} {g' : Grid ℚ (m + 1) d}
    (hg : ∀ i : Fin m, g'.entry i.castSucc = g.entry i) (free : Fin d) :
    freeDirection (pivots.map Pivot.lift) g' free = freeDirection pivots g free := by
  rw [freeDirection, freeDirection]
  congr 1
  funext j
  rw [pivotRow?_map_lift]
  cases pivotRow? pivots j with
  | none => rfl
  | some i => simp only [Option.map_some, hg]

end Reading

/-! ## Reading the pivots once more -/

namespace Grid

variable {τ : ℚ} {g : Grid ℚ m d} {g' : Grid ℚ (m + 1) d}

theorem leading?_castSucc (hg : ∀ i : Fin m, g'.entry i.castSucc = g.entry i) (i : Fin m)
    (start : Nat) : g'.leading? τ i.castSucc start = g.leading? τ i start := by
  simp only [leading?, hg]

/-- A reading of the longer table can only find one pivot more, in the appended row and right of the
others. -/
theorem pivotsFrom_append_last (hg : ∀ i : Fin m, g'.entry i.castSucc = g.entry i)
    (rows : List (Fin m)) (start : Nat) :
    g'.pivotsFrom τ (rows.map Fin.castSucc ++ [Fin.last m]) start =
        (g.pivotsFrom τ rows start).map Pivot.lift ∨
      ∃ j : Fin d, start ≤ j ∧ (∀ p ∈ g.pivotsFrom τ rows start, p.2 < j) ∧
        g'.pivotsFrom τ (rows.map Fin.castSucc ++ [Fin.last m]) start =
          (g.pivotsFrom τ rows start).map Pivot.lift ++ [(Fin.last m, j)] := by
  induction rows generalizing start with
  | nil =>
      rw [List.map_nil, List.nil_append]
      cases hj : g'.leading? τ (Fin.last m) start with
      | none => exact Or.inl (by simp only [pivotsFrom, hj, List.map_nil])
      | some j =>
          refine Or.inr ⟨j, (leading?_eq_some_iff.1 hj).1, ?_, ?_⟩
          · exact List.forall_mem_nil _
          · simp only [pivotsFrom, hj, List.map_nil, List.nil_append]
  | cons i rows ih =>
      rw [List.map_cons, List.cons_append, pivotsFrom, pivotsFrom, leading?_castSucc hg]
      cases hc : g.leading? τ i start with
      | none => exact ih start
      | some c =>
          refine (ih (c + 1)).imp (fun hsame => congrArg _ hsame) ?_
          rintro ⟨j, hcj, hleft, hmore⟩
          have hstart : start ≤ c := (leading?_eq_some_iff.1 hc).1
          refine ⟨j, hstart.trans (Nat.le_of_succ_le hcj), ?_, congrArg _ hmore⟩
          exact List.forall_mem_cons.2 ⟨Fin.lt_def.2 hcj, hleft⟩

theorem pivots_append_last (hg : ∀ i : Fin m, g'.entry i.castSucc = g.entry i) :
    g'.pivots τ = (g.pivots τ).map Pivot.lift ∨
      ∃ j : Fin d, (∀ p ∈ g.pivots τ, p.2 < j) ∧
        g'.pivots τ = (g.pivots τ).map Pivot.lift ++ [(Fin.last m, j)] := by
  rw [pivots, pivots, List.finRange_succ_last]
  obtain hsame | ⟨j, -, hmore⟩ := pivotsFrom_append_last hg (List.finRange m) 0
  · exact Or.inl hsame
  · exact Or.inr ⟨j, hmore⟩

/-- The reading finds the same pivots, or one in the appended row. -/
theorem pivots_eq_map_lift_iff (hg : ∀ i : Fin m, g'.entry i.castSucc = g.entry i) :
    g'.pivots τ = (g.pivots τ).map Pivot.lift ↔ ∀ p ∈ g'.pivots τ, p.1 ≠ Fin.last m := by
  constructor
  · intro hsame p hp
    rw [hsame] at hp
    obtain ⟨q, -, rfl⟩ := List.mem_map.1 hp
    exact (Fin.castSucc_lt_last q.1).ne
  · intro hnone
    refine (pivots_append_last hg).resolve_right ?_
    rintro ⟨j, -, hmore⟩
    have hmem : (Fin.last m, j) ∈ g'.pivots τ := by
      rw [hmore]
      exact List.mem_append_right _ (List.mem_singleton.2 rfl)
    exact hnone _ hmem rfl

end Grid

/-- A reader finds no pivot in a zero row. -/
theorem Tableau.fst_ne_last_of_line_eq_zero {τ : ℚ} (hτ : 0 < τ) {t : Tableau ℚ (m + 1) d}
    (hrow : t.line (Fin.last m) = 0) {p : Pivot (m + 1) d} (hp : p ∈ t.rows.pivots τ) :
    p.1 ≠ Fin.last m := by
  intro hlast
  have hsig : Scalar.isSignificant τ (t.entry p.1 p.2) = true := Grid.isSignificant_of_mem_pivots hp
  rw [hlast, entry_eq_line, hrow, Prod.fst_zero, Pi.zero_apply,
    Scalar.isSignificant_rat_zero hτ] at hsig
  cases hsig

/-- What is read off the longer table is the same exactly if the same pivots are found in it. -/
theorem Parametrization.read_eq_iff {τ : ℚ} {g : Grid ℚ m d} {b : Vector ℚ m}
    {g' : Grid ℚ (m + 1) d} {b' : Vector ℚ (m + 1)}
    (hg : ∀ i : Fin m, g'.entry i.castSucc = g.entry i)
    (hb : ∀ i : Fin m, b'.get i.castSucc = b.get i) :
    read τ g' b' = read τ g b ↔ ∀ p ∈ g'.pivots τ, p.1 ≠ Fin.last m := by
  rw [← Grid.pivots_eq_map_lift_iff hg]
  constructor
  · intro hread
    refine (Grid.pivots_append_last hg).resolve_right ?_
    rintro ⟨j, hleft, hmore⟩
    -- The further pivot would take a free column away.
    have hvariables : (freeColumns (g'.pivots τ)).map (fun j : Fin d => (j.val : Int) + 1) =
        (freeColumns (g.pivots τ)).map fun j : Fin d => (j.val : Int) + 1 :=
      congrArg Parametrization.freeVariables hread
    have hfree : freeColumns (g'.pivots τ) = freeColumns (g.pivots τ) :=
      List.map_injective_iff.2
        (fun i i' h => Fin.ext (Int.ofNat.inj (add_right_cancel h))) hvariables
    have hj : j ∈ freeColumns (g.pivots τ) := by
      rw [mem_freeColumns]
      intro hj
      obtain ⟨p, hp, hpj⟩ := List.mem_map.1 hj
      exact (hleft p hp).ne hpj
    rw [← hfree, mem_freeColumns, hmore, List.map_append] at hj
    exact hj (List.mem_append_right _ (List.mem_singleton.2 rfl))
  · intro hsame
    simp only [read, hsame, freeColumns_map_lift, pivotPoint_map_lift hb,
      freeDirection_map_lift hg]

/-- The longer report says the same, and of its first rows what the shorter one says. -/
structure Report.Prolongs (long : Report ℚ (m + 1) d) (short : Report ℚ m d) : Prop where
  kind : long.kind = short.kind
  pivots : long.pivots = short.pivots.map Pivot.lift
  freeColumns : freeColumns long.pivots = freeColumns short.pivots
  smallPivots : long.smallPivots = short.smallPivots.map fun note => (Pivot.lift note.1, note.2)
  solution : long.solution = short.solution
  rows : ∀ i : Fin m, long.rows.entry i.castSucc = short.rows.entry i
  offsets : ∀ i : Fin m, long.offsets.get i.castSucc = short.offsets.get i

namespace Elimination

variable {τ : ℚ} {n : Nat} {long : Tableau ℚ (m + 1) d} {short : Tableau ℚ m d}

theorem prolongs_outcome (hτ : 0 < τ) (h : long.Prolongs n short) :
    (outcome τ long).Prolongs (outcome τ short) := by
  have hpivots : Sweep.pivots τ long = (Sweep.pivots τ short).map Pivot.lift := (h.run hτ).1
  have hreduced := h.gaussJordan hτ
  have hoffsets (i : Fin m) : (long.gaussJordan τ).offsets.get i.castSucc =
      (short.gaussJordan τ).offsets.get i := congrArg Prod.snd (hreduced.line i)
  have hkind : (outcome τ long).kind = (outcome τ short).kind := by
    show (long.gaussJordan τ).classify τ _ = (short.gaussJordan τ).classify τ _
    rw [hreduced.classify_eq hτ, hpivots, List.length_map]
  refine ⟨hkind, hpivots, ?_, h.smallPivots_run hτ, ?_,
    fun i => congrArg Prod.fst (hreduced.line i), hoffsets⟩
  · exact (congrArg freeColumns hpivots).trans freeColumns_map_lift
  · show (if (outcome τ long).kind = .unique then _ else _) =
      if (outcome τ short).kind = .unique then _ else _
    rw [hkind, hpivots, pivotPoint_map_lift hoffsets]

theorem parametrization_outcome_eq_iff (hτ : 0 < τ) (h : long.Prolongs n short) :
    (outcome τ long).parametrization = (outcome τ short).parametrization ↔
      ((outcome τ short).kind = .infinite →
        ∀ p ∈ (outcome τ long).rows.pivots τ, p.1 ≠ Fin.last m) := by
  obtain ⟨hkind, -, -, -, -, hrows, hoffsets⟩ := prolongs_outcome hτ h
  have hread : (outcome τ long).parametrization = if (outcome τ short).kind = .infinite
      then some (.read τ (outcome τ long).rows (outcome τ long).offsets) else none := by
    rw [← hkind]
    rfl
  have hread' : (outcome τ short).parametrization = if (outcome τ short).kind = .infinite
      then some (.read τ (outcome τ short).rows (outcome τ short).offsets) else none :=
    rfl
  rw [hread, hread']
  by_cases hinfinite : (outcome τ short).kind = .infinite
  · rw [if_pos hinfinite, if_pos hinfinite, Option.some.injEq,
      Parametrization.read_eq_iff hrows hoffsets]
    exact ⟨fun hnone _ => hnone, fun hnone => hnone hinfinite⟩
  · rw [if_neg hinfinite, if_neg hinfinite]
    exact iff_of_true rfl fun hkind => absurd hkind hinfinite

/-- Where every reported pivot still is significant, the rescan finds the reported pivots only. -/
theorem fst_ne_last_of_isSignificant (hτ : 0 < τ) (h : long.Prolongs n short)
    (hkept : ∀ p ∈ (outcome τ short).pivots,
      Scalar.isSignificant τ ((outcome τ short).rows.entry p.1 p.2) = true)
    {p : Pivot (m + 1) d} (hp : p ∈ (outcome τ long).rows.pivots τ) : p.1 ≠ Fin.last m := by
  have hreport := prolongs_outcome hτ h
  have hstairs : IsStaircase (outcome τ long).pivots := Sweep.isStaircase_pivots hτ long
  have hclear : (outcome τ long).rows.IsClearBelow τ (outcome τ long).pivots :=
    Tableau.isClearBelow_gaussJordan hτ long
  have hrescan : (outcome τ long).rows.pivots τ = (outcome τ long).pivots := by
    rw [hstairs.pivots_eq_iff hclear, hreport.pivots]
    intro q hq
    obtain ⟨q', hq', rfl⟩ := List.mem_map.1 hq
    exact (congrArg _ (congrFun (hreport.rows q'.1) q'.2)).trans (hkept q' hq')
  rw [hrescan, hreport.pivots] at hp
  obtain ⟨q, -, rfl⟩ := List.mem_map.1 hp
  exact (Fin.castSucc_lt_last q.1).ne

/-- **What an appended copy or `0 = 0` changes.**  The longer report has the same kind, pivots, free
columns, small pivots and solution over the same first rows and offsets.  The parametrization is the
same exactly if a rescan of the longer report finds no pivot in the appended row: always beside
`0 = 0`, and beside a copy whenever every reported pivot still is significant in the report. -/
theorem report_of_appended_equation (hd : 0 < d) (hτ : 0 < τ) (A : Grid ℚ m d) (b : Vector ℚ m)
    {l : Line ℚ d} (hl : l = 0 ∨ ∃ k, l = Tableau.line ⟨A, b⟩ k)
    (equations equations' : List (LinearEquation ℚ)) :
    ∃ r r', (ofSystem ⟨m, d, A, b, τ, equations⟩).solve.1 = .ok r ∧
      (ofSystem ⟨m + 1, d, (Tableau.append ⟨A, b⟩ l).rows, (Tableau.append ⟨A, b⟩ l).offsets, τ,
        equations'⟩).solve.1 = .ok r' ∧
      r'.Prolongs r ∧
      (r'.parametrization = r.parametrization ↔
        (r.kind = .infinite → ∀ p ∈ r'.rows.pivots τ, p.1 ≠ Fin.last m)) ∧
      (l = 0 ∨ (∀ p ∈ r.pivots, Scalar.isSignificant τ (r.rows.entry p.1 p.2) = true) →
        r'.parametrization = r.parametrization) := by
  have hlong (n : Nat) (hlast : l = 0 ∨ ∃ o : Fin m, n ≤ o ∧ l = Tableau.line ⟨A, b⟩ o) :
      (Tableau.append ⟨A, b⟩ l).Prolongs n ⟨A, b⟩ := by
    refine ⟨Tableau.line_append_castSucc _ _, ?_⟩
    rw [Tableau.line_append_last]
    exact hlast
  have h := hlong 0 (hl.imp_right fun ⟨k, hk⟩ => ⟨k, Nat.zero_le _, hk⟩)
  have hreport := prolongs_outcome hτ h
  have hiff := parametrization_outcome_eq_iff hτ h
  refine ⟨_, _, solve_ofSystem hd hτ, solve_ofSystem hd hτ, hreport, hiff, ?_⟩
  rintro (hzero | hkept)
  · -- The appended row stays zero.
    have hrow := ((hlong m (Or.inl hzero)).gaussJordan hτ).last_eq_zero (le_max_left _ _)
    exact hiff.2 fun _ _ hp => Tableau.fst_ne_last_of_line_eq_zero hτ hrow hp
  · exact hiff.2 fun _ _ hp => fst_ne_last_of_isSignificant hτ h hkept hp

/-- At tolerance `1/8` the copy of an equation whose first coefficient stays as residue. -/
theorem report_of_copied_equation :
    ∃ r r', (ofSystem ⟨2, 3, Grid.ofFn ![![1, 1, 2], ![1 / 16, 1, 0]], Vector.ofFn ![3, 1],
        (1 / 8 : ℚ), []⟩).solve.1 = .ok r ∧
      (ofSystem ⟨3, 3, (Tableau.append ⟨Grid.ofFn ![![1, 1, 2], ![1 / 16, 1, 0]],
          Vector.ofFn ![3, 1]⟩ (![1 / 16, 1, 0], 1)).rows,
        (Tableau.append ⟨Grid.ofFn ![![1, 1, 2], ![1 / 16, 1, 0]], Vector.ofFn ![3, 1]⟩
          (![1 / 16, 1, 0], 1)).offsets, (1 / 8 : ℚ), []⟩).solve.1 = .ok r' ∧
      r'.Prolongs r ∧ r'.parametrization = r.parametrization := by
  have hcopied : ((![1 / 16, 1, 0], 1) : Line ℚ 3) = Tableau.line
      ⟨Grid.ofFn ![![1, 1, 2], ![1 / 16, 1, 0]], Vector.ofFn ![3, 1]⟩ (1 : Fin 2) := by
    decide +kernel
  obtain ⟨r, r', hsolve, hsolve', hprolongs, -, hsame⟩ := report_of_appended_equation
    (τ := (1 / 8 : ℚ)) (by decide) (by norm_num) (Grid.ofFn ![![1, 1, 2], ![1 / 16, 1, 0]])
    (Vector.ofFn ![3, 1]) (Or.inr ⟨1, hcopied⟩) [] []
  refine ⟨r, r', hsolve, hsolve', hprolongs, hsame (Or.inr ?_)⟩
  rw [solve_ofSystem (by decide) (by norm_num)] at hsolve
  obtain rfl := Except.ok.inj hsolve
  decide +kernel

/-- At tolerance `1/8` the first three pivots are lost to the rescan of the report.  It takes the
residue in the next rows for pivots, also in the row of the copy: one free variable and one
direction are missing there, and the base point is another. -/
theorem copied_equation_loses_a_direction :
    ∃ s r s' r', LinearSystem.ofArrays (Grid.ofFn ![![1 / 8, 1 / 4, 1 / 2, 1, 0],
          ![1 / 16, 1 / 8, 1 / 4, 1 / 2, 0], ![1 / 32, 1 / 16, 1 / 8, 1 / 4, 0],
          ![1 / 64, 1 / 32, 1 / 16, 1 / 8, 0], ![0, 0, 0, 1, 0]])
        (Vector.ofFn ![0, 0, 0, 0, 1]) (1 / 8 : ℚ) = .ok s ∧
      (ofSystem s).solve.1 = .ok r ∧
      LinearSystem.ofArrays (Grid.ofFn ![![1 / 8, 1 / 4, 1 / 2, 1, 0],
          ![1 / 16, 1 / 8, 1 / 4, 1 / 2, 0], ![1 / 32, 1 / 16, 1 / 8, 1 / 4, 0],
          ![1 / 64, 1 / 32, 1 / 16, 1 / 8, 0], ![0, 0, 0, 1, 0], ![0, 0, 0, 1, 0]])
        (Vector.ofFn ![0, 0, 0, 0, 1, 1]) (1 / 8 : ℚ) = .ok s' ∧
      (ofSystem s').solve.1 = .ok r' ∧ r.kind = .infinite ∧ r'.kind = .infinite ∧
      r.parametrization.map Parametrization.freeVariables = some [3, 4, 5] ∧
      r'.parametrization.map Parametrization.freeVariables = some [4, 5] ∧
      r.parametrization.map (fun q => q.basePoint.toList) = some [0, 1, 0, 0, 0] ∧
      r'.parametrization.map (fun q => q.basePoint.toList) = some [0, 1, 1, 0, 0] := by
  have hτ : (0 : ℚ) < 1 / 8 := by norm_num
  refine ⟨_, _, _, _, LinearSystem.ofArrays_eq_ok (by decide) _ _ hτ, solve_ofSystem (by decide) hτ,
    LinearSystem.ofArrays_eq_ok (by decide) _ _ hτ, solve_ofSystem (by decide) hτ, ?_⟩
  decide +kernel

end Elimination

end LinearSystems
