import Mathlib
import LinearSystems.Proofs.Decimal.Numerals
import LinearSystems.Proofs.Display.Cells
import LinearSystems.Proofs.FloatingPoint

/-!
# Reading lines of the parametric layout

A line says whether there is a base value, and which terms there are: the number of each parameter, its
sign and its magnitude, which may go without saying (`Display.LineReading`).  The blanks before and
behind the signs of the later terms split the right side again, as no other blank stands in it
(`Display.append_inj_of_stop`), and what stands first is a base value, a term or the `0` of an empty
side, which are told apart by the letter `t` and by a digit other than zero.  So **a line is read in one
way only** (`Display.LineReading.line_injective`).
-/

namespace LinearSystems

namespace Display

/-! ## Splitting texts -/

/-- Two texts that are equal have the same front, where the fronts end at the same mark. -/
theorem append_inj_of_stop {p : Char → Bool} {w w' r r' : List Char} (hw : ∀ c ∈ w, p c = true)
    (hw' : ∀ c ∈ w', p c = true) (hr : ∀ c ∈ r.head?, p c = false)
    (hr' : ∀ c ∈ r'.head?, p c = false) (h : w ++ r = w' ++ r') : w = w' ∧ r = r' := by
  have hfront {w r : List Char} (hw : ∀ c ∈ w, p c = true) (hr : ∀ c ∈ r.head?, p c = false) :
      (w ++ r).takeWhile p = w := by
    have hstop : r.takeWhile p = [] := by
      cases r with
      | nil => rfl
      | cons c r => exact List.takeWhile_cons_of_neg (by simp [hr c rfl])
    rw [List.takeWhile_append_of_pos hw, hstop, List.append_nil]
  have hsame : w = w' := by rw [← hfront hw hr, h, hfront hw' hr']
  exact ⟨hsame, List.append_cancel_left (hsame ▸ h)⟩

/-! ## Terms -/

/-- A term as it stands in a line: the number of its parameter, its sign and its written magnitude. -/
structure WrittenTerm where
  number : Nat
  negative : Bool
  size : String

namespace WrittenTerm

/-- The magnitude goes without saying or is that of a number. -/
def IsSound (t : WrittenTerm) : Prop := t.size = "" ∨ Decimal.IsMagnitude t.size.toList

/-- The magnitude and the parameter. -/
def scaled (t : WrittenTerm) : List Char := t.size.toList ++ 't' :: Nat.toDigits 10 t.number

/-- The term where it is the first one. -/
def first (t : WrittenTerm) : List Char := (Piece.sign true t.negative).toList ++ t.scaled

/-- The term where something stands before it. -/
def later (t : WrittenTerm) : List Char := (Piece.sign false t.negative).toList ++ t.scaled

variable {t u : WrittenTerm}

theorem IsSound.isNumeralChar (h : t.IsSound) {c : Char} (hc : c ∈ t.size.toList) :
    Decimal.IsNumeralChar c := by
  rcases h with h | h
  · rw [h] at hc
    cases hc
  · exact h.chars c hc

/-- No blank stands in a term but at its sign. -/
theorem IsSound.ne_blank (h : t.IsSound) {c : Char} (hc : c ∈ t.scaled) : (c != ' ') = true := by
  rw [bne_iff_ne]
  rcases List.mem_append.1 hc with hc | hc
  · exact (h.isNumeralChar hc).ne rfl (by decide)
  · rcases List.mem_cons.1 hc with rfl | hc
    · decide
    · rintro rfl
      cases Decimal.isDigit_of_mem_digitsOf hc

theorem toDigits_injective {m n : Nat} (h : Nat.toDigits 10 m = Nat.toDigits 10 n) : m = n := by
  rw [← Nat.ofDigitChars_ten_toDigits (n := m), h, Nat.ofDigitChars_ten_toDigits]

/-- The magnitude ends where the name of the parameter begins. -/
theorem eq_of_scaled_eq (ht : t.IsSound) (hu : u.IsSound) (h : t.scaled = u.scaled) :
    t.number = u.number ∧ t.size = u.size := by
  have hsize {t : WrittenTerm} (ht : t.IsSound) : ∀ c ∈ t.size.toList, (c != 't') = true :=
    fun c hc => bne_iff_ne.2 ((ht.isNumeralChar hc).ne rfl (by decide))
  obtain ⟨hsizes, hnames⟩ := append_inj_of_stop (hsize ht) (hsize hu) (by simp) (by simp) h
  exact ⟨toDigits_injective (List.cons.inj hnames).2, String.toList_inj.1 hsizes⟩

theorem IsSound.head_ne_minus (h : t.IsSound) : t.scaled.head? ≠ some '-' := by
  rcases h with h | ⟨⟨d, rest, h, hd⟩, -⟩
  · rw [scaled, h]
    exact nofun
  · rw [scaled, h, List.cons_append, List.head?_cons]
    rintro ⟨⟩
    cases hd

theorem ext_of_scaled_eq (ht : t.IsSound) (hu : u.IsSound) (hsign : t.negative = u.negative)
    (h : t.scaled = u.scaled) : t = u := by
  obtain ⟨hnumber, hsize⟩ := eq_of_scaled_eq ht hu h
  cases t
  cases u
  congr

theorem first_eq (t : WrittenTerm) :
    t.first = if t.negative = true then '-' :: t.scaled else t.scaled := by
  cases hsign : t.negative <;> rw [first, hsign] <;> rfl

theorem later_eq (t : WrittenTerm) :
    t.later = ' ' :: (if t.negative = true then '-' else '+') :: ' ' :: t.scaled := by
  cases hsign : t.negative <;> rw [later, hsign] <;> rfl

/-- A magnitude does not begin with a sign, so a first term shows whether it is negative. -/
theorem first_injective (ht : t.IsSound) (hu : u.IsSound) (h : t.first = u.first) : t = u := by
  have hhead {t : WrittenTerm} (ht : t.IsSound) : (t.first.head? = some '-') ↔ t.negative = true := by
    rw [first_eq]
    split
    · next hsign => exact iff_of_true rfl hsign
    · next hsign => exact iff_of_false ht.head_ne_minus hsign
  have hsign : t.negative = u.negative := Bool.eq_iff_iff.2 (by rw [← hhead ht, ← hhead hu, h])
  exact ext_of_scaled_eq ht hu hsign
    (List.append_cancel_left (by rwa [first, first, hsign] at h))

theorem mem_first (t : WrittenTerm) : 't' ∈ t.first :=
  List.mem_append_right _ (List.mem_append_right _ List.mem_cons_self)

theorem IsSound.first_ne_blank (h : t.IsSound) {c : Char} (hc : c ∈ t.first) : (c != ' ') = true := by
  rw [first_eq] at hc
  split at hc
  · rcases List.mem_cons.1 hc with rfl | hc
    · rfl
    · exact h.ne_blank hc
  · exact h.ne_blank hc

/-! ### Terms in a row -/

/-- Terms with something before them. -/
def laterTerms (ts : List WrittenTerm) : List Char := ts.flatMap later

theorem blank_of_mem_head?_laterTerms {ts : List WrittenTerm} :
    ∀ c ∈ (laterTerms ts).head?, (c != ' ') = false := by
  cases ts with
  | nil => simp [laterTerms]
  | cons t ts =>
      rw [laterTerms, List.flatMap_cons, later_eq]
      rintro c ⟨⟩
      rfl

/-- Every later term ends at the blank that the next one begins with. -/
theorem laterTerms_injective {ts us : List WrittenTerm} (hts : ∀ t ∈ ts, t.IsSound)
    (hus : ∀ u ∈ us, u.IsSound) (h : laterTerms ts = laterTerms us) : ts = us := by
  induction ts generalizing us with
  | nil =>
      cases us with
      | nil => rfl
      | cons u us =>
          rw [laterTerms, laterTerms, List.flatMap_cons, later_eq] at h
          cases h
  | cons t ts ih =>
      cases us with
      | nil =>
          rw [laterTerms, laterTerms, List.flatMap_cons, later_eq] at h
          cases h
      | cons u us =>
          obtain ⟨ht, hts⟩ := List.forall_mem_cons.1 hts
          obtain ⟨hu, hus⟩ := List.forall_mem_cons.1 hus
          rw [laterTerms, laterTerms, List.flatMap_cons, List.flatMap_cons, later_eq, later_eq] at h
          obtain ⟨hmark, h⟩ := List.cons.inj (List.cons.inj h).2
          -- What is left begins with the magnitudes, and the next blank is that of the next term.
          obtain ⟨hscaled, hrest⟩ := append_inj_of_stop (fun c => ht.ne_blank) (fun c => hu.ne_blank)
            blank_of_mem_head?_laterTerms blank_of_mem_head?_laterTerms (List.cons.inj h).2
          have hsign : t.negative = u.negative := by
            revert hmark
            cases t.negative <;> cases u.negative <;> decide
          rw [ext_of_scaled_eq ht hu hsign hscaled, ih hts hus hrest]

end WrittenTerm

open WrittenTerm

/-! ### Terms of a coordinate -/

/-- The terms for components from one parameter on, each with its sign and its magnitude.  A component
that counts as zero has no term. -/
def termsFrom : Nat → List (Option (Bool × String)) → List WrittenTerm
  | _, [] => []
  | k, none :: cs => termsFrom (k + 1) cs
  | k, some (negative, size) :: cs => ⟨k, negative, size⟩ :: termsFrom (k + 1) cs

variable {k : Nat} {cs cs' : List (Option (Bool × String))}

theorem termsFrom_cons (k : Nat) (c : Option (Bool × String)) (cs : List (Option (Bool × String))) :
    termsFrom k (c :: cs) = termsFrom k [c] ++ termsFrom (k + 1) cs := by
  cases c <;> rfl

theorem le_number_of_mem_termsFrom {t : WrittenTerm} (ht : t ∈ termsFrom k cs) : k ≤ t.number := by
  induction cs generalizing k with
  | nil => cases ht
  | cons c cs ih =>
      cases c with
      | none => exact Nat.le_of_succ_le (ih ht)
      | some c =>
          rcases List.mem_cons.1 ht with rfl | ht
          · exact le_rfl
          · exact Nat.le_of_succ_le (ih ht)

theorem exists_of_mem_termsFrom {t : WrittenTerm} (ht : t ∈ termsFrom k cs) :
    some (t.negative, t.size) ∈ cs := by
  induction cs generalizing k with
  | nil => cases ht
  | cons c cs ih =>
      cases c with
      | none => exact List.mem_cons_of_mem _ (ih ht)
      | some c =>
          rcases List.mem_cons.1 ht with rfl | ht
          · exact List.mem_cons_self
          · exact List.mem_cons_of_mem _ (ih ht)

/-- The numbers of the terms show which components have none. -/
theorem termsFrom_injective (hlength : cs.length = cs'.length)
    (h : termsFrom k cs = termsFrom k cs') : cs = cs' := by
  -- The first term of the one side would have to be among those of later components of the other.
  have hlater {k : Nat} {c : Bool × String} {cs : List (Option (Bool × String))}
      {ts : List WrittenTerm} : termsFrom (k + 1) cs ≠ ⟨k, c.1, c.2⟩ :: ts := by
    intro h
    exact Nat.not_succ_le_self k (le_number_of_mem_termsFrom (h ▸ List.mem_cons_self))
  induction cs generalizing k cs' with
  | nil => exact (List.length_eq_zero_iff.1 hlength.symm).symm
  | cons c cs ih =>
      cases cs' with
      | nil => cases hlength
      | cons c' cs' =>
          have hrest : cs.length = cs'.length := Nat.succ.inj hlength
          cases c with
          | none =>
              cases c' with
              | none => rw [ih hrest h]
              | some c' => exact absurd h hlater
          | some c =>
              cases c' with
              | none => exact absurd h.symm hlater
              | some c' =>
                  obtain ⟨hterm, hterms⟩ := List.cons.inj h
                  obtain ⟨-, hnegative, hsize⟩ := WrittenTerm.mk.inj hterm
                  rw [Prod.ext hnegative hsize, ih hrest hterms]

/-! ## Lines -/

/-- One more term behind what has been written. -/
def appendTerm (text : String) (t : WrittenTerm) : String :=
  text ++ Piece.sign text.isEmpty t.negative ++ t.size ++ numbered "t" t.number

theorem toList_appendTerm (text : String) (t : WrittenTerm) :
    (appendTerm text t).toList =
      text.toList ++ ((Piece.sign text.isEmpty t.negative).toList ++ t.scaled) := by
  simp only [appendTerm, numbered, String.toList_append, scaled, List.append_assoc,
    Nat.toString_eq_ofList_toDigits, String.toList_ofList]
  rfl

theorem toList_foldl_appendTerm {text : String} (htext : text ≠ "") (ts : List WrittenTerm) :
    (ts.foldl appendTerm text).toList = text.toList ++ laterTerms ts := by
  have hempty {text : String} (h : text ≠ "") : text.isEmpty = false := by
    simpa using h
  induction ts generalizing text with
  | nil => exact (List.append_nil _).symm
  | cons t ts ih =>
      have hlist := toList_appendTerm text t
      rw [hempty htext] at hlist
      have hmore : appendTerm text t ≠ "" := by
        rintro h
        rw [h] at hlist
        simp [scaled] at hlist
      rw [List.foldl_cons, ih hmore, hlist, laterTerms, laterTerms, List.flatMap_cons, later,
        List.append_assoc]

/-- What a line says: the base value, unless it counts as zero, and the terms. -/
structure LineReading where
  base : Option String
  terms : List WrittenTerm

namespace LineReading

/-- The right side. -/
def right (r : LineReading) : String :=
  let text := r.terms.foldl appendTerm (r.base.getD "")
  if text.isEmpty then "0" else text

/-- The line for the coordinate at a place. -/
def line (r : LineReading) (place : Nat) : String :=
  numbered "v" (place + 1) ++ " = " ++ r.right

/-- The base value is the text of a number and the magnitudes are sound. -/
structure IsSound (r : LineReading) : Prop where
  base : ∀ text ∈ r.base, Decimal.IsNumberText text
  terms : ∀ t ∈ r.terms, t.IsSound

/-- What stands first on the right side, and the terms behind it. -/
def split (r : LineReading) : List Char × List WrittenTerm :=
  match r.base, r.terms with
  | some text, ts => (text.toList, ts)
  | none, t :: ts => (t.first, ts)
  | none, [] => (['0'], [])

/-- The texts in which a line is split again. -/
theorem toList_right {r : LineReading} (h : r.IsSound) :
    r.right.toList = r.split.1 ++ laterTerms r.split.2 := by
  have hright {text : String} (htext : text ≠ "") (ts : List WrittenTerm) :
      (if (ts.foldl appendTerm text).isEmpty then "0" else ts.foldl appendTerm text).toList =
        text.toList ++ laterTerms ts := by
    have hlist := toList_foldl_appendTerm htext ts
    rw [if_neg, hlist]
    intro hempty
    rw [String.isEmpty_iff.1 hempty] at hlist
    exact htext (String.toList_eq_nil_iff.1 (List.append_eq_nil_iff.1 hlist.symm).1)
  obtain ⟨base, terms⟩ := r
  cases base with
  | some text =>
      obtain ⟨d, hd, -⟩ := (h.base text rfl).nonzero
      exact hright (by rintro rfl; cases hd) terms
  | none =>
      cases terms with
      | nil => rfl
      | cons t ts =>
          have hfirst : (appendTerm "" t).toList = t.first := toList_appendTerm "" t
          have htext : appendTerm "" t ≠ "" := by
            intro hempty
            have hmem := mem_first t
            rw [← hfirst, hempty] at hmem
            cases hmem
          exact (hright htext ts).trans (by rw [hfirst]; rfl)

section Sound

variable {r r' : LineReading}

theorem IsSound.ne_blank (h : r.IsSound) {c : Char} (hc : c ∈ r.split.1) : (c != ' ') = true := by
  obtain ⟨base, terms⟩ := r
  cases base with
  | some text => exact bne_iff_ne.2 (((h.base text rfl).chars c hc).ne rfl (by decide))
  | none =>
      cases terms with
      | nil =>
          rw [List.mem_singleton.1 hc]
          rfl
      | cons t ts => exact (h.terms t List.mem_cons_self).first_ne_blank hc

theorem IsSound.split_terms (h : r.IsSound) : ∀ t ∈ r.split.2, t.IsSound := by
  obtain ⟨base, terms⟩ := r
  cases base with
  | some text => exact h.terms
  | none =>
      cases terms with
      | nil => exact nofun
      | cons t ts => exact fun u hu => h.terms u (List.mem_cons_of_mem t hu)

theorem number_ne_first {text : String} (h : Decimal.IsNumberText text) (t : WrittenTerm) :
    text.toList ≠ t.first := fun heq =>
  (h.chars 't' (heq ▸ mem_first t)).ne rfl (by decide) rfl

theorem number_ne_zero {text : String} (h : Decimal.IsNumberText text) : text.toList ≠ ['0'] := by
  intro heq
  obtain ⟨d, hd, -, hne⟩ := h.nonzero
  exact hne (List.mem_singleton.1 (heq ▸ hd))

theorem first_ne_zero (t : WrittenTerm) : t.first ≠ ['0'] := by
  intro heq
  have hmem := mem_first t
  rw [heq] at hmem
  exact absurd hmem (by decide)

/-- **What stands first tells which of the three it is.**  A first term names a parameter, a base value
has no letter `t`, and `0` alone has no digit other than zero. -/
theorem split_injective (h : r.IsSound) (h' : r'.IsSound) (hsplit : r.split = r'.split) :
    r = r' := by
  obtain ⟨base, terms⟩ := r
  obtain ⟨base', terms'⟩ := r'
  cases base with
  | some text =>
      have htext := h.base text rfl
      cases base' with
      | some text' =>
          obtain ⟨hfirst, hrest⟩ := Prod.mk.inj hsplit
          exact congrArg₂ mk (congrArg some (String.toList_inj.1 hfirst)) hrest
      | none =>
          cases terms' with
          | nil => exact absurd (congrArg Prod.fst hsplit) (number_ne_zero htext)
          | cons t ts => exact absurd (congrArg Prod.fst hsplit) (number_ne_first htext t)
  | none =>
      cases base' with
      | some text' =>
          have htext := h'.base text' rfl
          cases terms with
          | nil => exact absurd (congrArg Prod.fst hsplit).symm (number_ne_zero htext)
          | cons t ts => exact absurd (congrArg Prod.fst hsplit).symm (number_ne_first htext t)
      | none =>
          cases terms with
          | nil =>
              cases terms' with
              | nil => rfl
              | cons t ts => exact absurd (congrArg Prod.fst hsplit).symm (first_ne_zero t)
          | cons t ts =>
              cases terms' with
              | nil => exact absurd (congrArg Prod.fst hsplit) (first_ne_zero t)
              | cons u us =>
                  obtain ⟨hfirst, hrest⟩ := Prod.mk.inj hsplit
                  have hterm : t = u := first_injective (h.terms t List.mem_cons_self)
                    (h'.terms u List.mem_cons_self) hfirst
                  exact congrArg (mk none) (congrArg₂ List.cons hterm hrest)

/-- A sound line is read in one way only. -/
theorem line_injective (h : r.IsSound) (h' : r'.IsSound) {place : Nat}
    (hline : r.line place = r'.line place) : r = r' := by
  have hright : r.right.toList = r'.right.toList := by
    have hlist := congrArg String.toList hline
    simp only [line, String.toList_append] at hlist
    exact List.append_cancel_left hlist
  rw [toList_right h, toList_right h'] at hright
  obtain ⟨hfirst, hrest⟩ := append_inj_of_stop (fun c => h.ne_blank) (fun c => h'.ne_blank)
    blank_of_mem_head?_laterTerms blank_of_mem_head?_laterTerms hright
  exact split_injective h h' (Prod.ext hfirst
    (laterTerms_injective h.split_terms h'.split_terms hrest))

end Sound

end LineReading

end Display

end LinearSystems
