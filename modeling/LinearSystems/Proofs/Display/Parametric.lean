import Mathlib
import LinearSystems.Proofs.Display.Cells
import LinearSystems.Proofs.Display.Lines

/-!
# Reading general solutions back

In the parametric layout a base value stands first unless it counts as zero, and behind it a term for
every component that does not, whose magnitude is left out where it counts as one.  What a line says of
its coordinate is its reading (`Display.readCoordinate`), and the line is that of the reading
(`Display.parametricLineAt_eq`).  Numbers that do not count as zero are written without blanks, without
the letter `t` and with a digit other than zero, so the reading is sound
(`Display.isSound_of_readCoordinate`) whatever number of digits is asked for, and a sound line is read in
one way only.

So **two general solutions have one line at a coordinate exactly when they agree there**: on whether the
base value counts as zero and otherwise on its text, and for every component on whether it counts as
zero and otherwise on its sign and on its magnitude as written (`Display.line_eq_iff_agree`).
-/

namespace LinearSystems

namespace Display

open Value

/-! ## Readings of coordinates -/

section Readings

variable (τ : Float) (precision : Value)

/-- What is written for a number, which is left out where it counts as zero. -/
def unlessSmall {α : Type} (x : Float) (written : Except ArgumentFault α) :
    Except ArgumentFault (Option α) :=
  if Scalar.isSmall τ x then return none else some <$> written

/-- The text of a base value. -/
def readBase (x : Float) : Except ArgumentFault (Option String) :=
  unlessSmall τ x (numberText precision x)

/-- The text of a magnitude; one that counts as one goes without saying. -/
def sizeText (c : Float) : Except ArgumentFault String :=
  if Scalar.isSmall τ (c.abs - 1) then return "" else numberText precision c.abs

/-- The text of a base value as it starts a line: none for one that counts as zero. -/
def baseText (x : Float) : Except ArgumentFault String :=
  if Scalar.isSignificant τ x then numberText precision x else return ""

/-- The sign and the magnitude of a component. -/
def readTerm (c : Float) : Except ArgumentFault (Option (Bool × String)) :=
  unlessSmall τ c ((fun size => (decide (c < 0), size)) <$> sizeText τ precision c)

/-- What the line for a coordinate says, from its base value and its components. -/
def readCoordinate (x : Float) (components : List Float) : Except ArgumentFault LineReading := do
  let base ← readBase τ precision x
  let terms ← components.mapM (readTerm τ precision)
  return ⟨base, termsFrom 1 terms⟩

end Readings

/-! ### Sound readings -/

section Sound

variable {τ x c : Float} {precision : Value} {components : List Float} {r : LineReading}

theorem numberText_eq_ok_iff {text : String} :
    numberText precision x = .ok text ↔
      ∃ p, precision.toPrecision 'g' = .ok p ∧ Decimal.general p (x + 0) = text := by
  rw [numberText, bind_eq_ok_iff]
  exact exists_congr fun p => and_congr_right fun _ => ⟨Except.ok.inj, congrArg Except.ok⟩

theorem unlessSmall_eq_some_iff {α : Type} {written : Except ArgumentFault α} {a : α} :
    unlessSmall τ x written = .ok (some a) ↔ Scalar.isSmall τ x = false ∧ written = .ok a := by
  unfold unlessSmall
  split
  · next hsmall => exact iff_of_false nofun fun h => Bool.noConfusion (hsmall.symm.trans h.1)
  · next hsmall =>
      rw [map_eq_ok_iff]
      constructor
      · rintro ⟨a', ha, hsome⟩
        exact ⟨Bool.eq_false_iff.2 hsmall, ha.trans (congrArg _ (Option.some.inj hsome))⟩
      · exact fun h => ⟨a, h.2, rfl⟩

theorem unlessSmall_eq_none_iff {α : Type} {written : Except ArgumentFault α} :
    unlessSmall τ x written = .ok none ↔ Scalar.isSmall τ x = true := by
  unfold unlessSmall
  split
  · next hsmall => exact iff_of_true rfl hsmall
  · next hsmall =>
      refine iff_of_false (fun h => ?_) hsmall
      obtain ⟨a, -, hsome⟩ := map_eq_ok_iff.1 h
      cases hsome

theorem isNumberText_of_readBase (hτ : 0 < τ) (hx : Scalar.isFinite x = true) {text : String}
    (h : readBase τ precision x = .ok (some text)) : Decimal.IsNumberText text := by
  obtain ⟨hsmall, htext⟩ := unlessSmall_eq_some_iff.1 h
  obtain ⟨p, -, rfl⟩ := numberText_eq_ok_iff.1 htext
  obtain ⟨s, m, e, hm, hvalue⟩ := FloatingPoint.exists_value_of_isSmall_eq_false hτ hx hsmall
  exact Decimal.isNumberText_general hvalue p

theorem isSound_of_readTerm (hτ : 0 < τ) (hc : Scalar.isFinite c = true) {t : WrittenTerm}
    (h : readTerm τ precision c = .ok (some (t.negative, t.size))) : t.IsSound := by
  obtain ⟨hsmall, h⟩ := unlessSmall_eq_some_iff.1 h
  obtain ⟨size, hsize, hpair⟩ := map_eq_ok_iff.1 h
  obtain ⟨-, rfl⟩ := Prod.mk.inj hpair
  unfold sizeText at hsize
  split at hsize
  · exact Or.inl (Except.ok.inj hsize).symm
  · obtain ⟨p, -, htext⟩ := numberText_eq_ok_iff.1 hsize
    obtain ⟨s, m, e, hm, hvalue⟩ := FloatingPoint.exists_value_of_isSmall_eq_false hτ hc hsmall
    right
    rw [← htext]
    exact Decimal.isMagnitude_general_abs hvalue p

theorem readCoordinate_eq_ok_iff :
    readCoordinate τ precision x components = .ok r ↔
      ∃ base, readBase τ precision x = .ok base ∧
        ∃ terms, components.mapM (readTerm τ precision) = .ok terms ∧
          ⟨base, termsFrom 1 terms⟩ = r := by
  rw [readCoordinate, bind_eq_ok_iff]
  refine exists_congr fun base => and_congr_right fun _ => ?_
  rw [bind_eq_ok_iff]
  exact exists_congr fun terms => and_congr_right fun _ => ⟨Except.ok.inj, congrArg Except.ok⟩

theorem isSound_of_readCoordinate (hτ : 0 < τ) (hx : Scalar.isFinite x = true)
    (hcomponents : ∀ c ∈ components, Scalar.isFinite c = true)
    (h : readCoordinate τ precision x components = .ok r) : r.IsSound := by
  obtain ⟨base, hbase, terms, hterms, rfl⟩ := readCoordinate_eq_ok_iff.1 h
  have hnumber : ∀ text ∈ base, Decimal.IsNumberText text := fun text htext =>
    isNumberText_of_readBase hτ hx (hbase.trans (congrArg _ htext))
  refine ⟨hnumber, fun t ht => ?_⟩
  obtain ⟨hlength, hread⟩ := List.forall₂_iff_get.1 (forall₂_of_mapM_eq_ok hterms)
  obtain ⟨k, hk, hterm⟩ := List.getElem_of_mem (exists_of_mem_termsFrom ht)
  have hc : components[k] ∈ components := List.getElem_mem (hlength ▸ hk)
  exact isSound_of_readTerm hτ (hcomponents _ hc) ((hread k (hlength ▸ hk) hk).trans
    (congrArg Except.ok hterm))

end Sound

/-! ### Agreement -/

section Agreement

variable (τ : Float) (precision : Value)

/-- Two base values count as zero both, or neither does and they have one text. -/
def SameBase (x x' : Float) : Prop :=
  Scalar.isSmall τ x = Scalar.isSmall τ x' ∧
    (Scalar.isSmall τ x = false → numberText precision x = numberText precision x')

/-- Two components count as zero both, or neither does and they have one sign and one magnitude as
written. -/
def SameTerm (c c' : Float) : Prop :=
  Scalar.isSmall τ c = Scalar.isSmall τ c' ∧
    (Scalar.isSmall τ c = false →
      (c < 0 ↔ c' < 0) ∧ sizeText τ precision c = sizeText τ precision c')

end Agreement

section Agreement

variable {τ x x' c c' : Float} {precision : Value} {cs cs' : List Float} {r r' : LineReading}

theorem eq_iff_of_unlessSmall {α : Type} {written written' : Except ArgumentFault α}
    {a a' : Option α} (h : unlessSmall τ x written = .ok a)
    (h' : unlessSmall τ x' written' = .ok a') :
    a = a' ↔ Scalar.isSmall τ x = Scalar.isSmall τ x' ∧
      (Scalar.isSmall τ x = false → written = written') := by
  cases a with
  | some b =>
      obtain ⟨hsmall, rfl⟩ := unlessSmall_eq_some_iff.1 h
      cases a' with
      | some b' =>
          obtain ⟨hsmall', rfl⟩ := unlessSmall_eq_some_iff.1 h'
          simp [hsmall, hsmall']
      | none => simp [hsmall, unlessSmall_eq_none_iff.1 h']
  | none =>
      have hsmall := unlessSmall_eq_none_iff.1 h
      cases a' with
      | some b' => simp [hsmall, (unlessSmall_eq_some_iff.1 h').1]
      | none => simp [hsmall, unlessSmall_eq_none_iff.1 h']

theorem eq_iff_sameBase {base base' : Option String} (h : readBase τ precision x = .ok base)
    (h' : readBase τ precision x' = .ok base') : base = base' ↔ SameBase τ precision x x' :=
  eq_iff_of_unlessSmall h h'

theorem eq_iff_sameTerm {t t' : Option (Bool × String)} (h : readTerm τ precision c = .ok t)
    (h' : readTerm τ precision c' = .ok t') : t = t' ↔ SameTerm τ precision c c' := by
  rw [eq_iff_of_unlessSmall h h', SameTerm]
  refine and_congr_right fun hsame => forall_congr' fun hsmall => ?_
  have hread {c : Float} {t : Option (Bool × String)} (h : readTerm τ precision c = .ok t)
      (hsmall : Scalar.isSmall τ c = false) : ∃ size, sizeText τ precision c = .ok size := by
    cases t with
    | none => exact Bool.noConfusion (hsmall.symm.trans (unlessSmall_eq_none_iff.1 h))
    | some pair =>
        obtain ⟨size, hsize, -⟩ := map_eq_ok_iff.1 (unlessSmall_eq_some_iff.1 h).2
        exact ⟨size, hsize⟩
  -- Only where both magnitudes can be written does the sign show.
  obtain ⟨size, hsize⟩ := hread h hsmall
  obtain ⟨size', hsize'⟩ := hread h' (hsame ▸ hsmall)
  simp [hsize, hsize']

theorem eq_iff_forall₂_sameTerm {ts ts' : List (Option (Bool × String))}
    (h : List.Forall₂ (fun c t => readTerm τ precision c = .ok t) cs ts)
    (h' : List.Forall₂ (fun c t => readTerm τ precision c = .ok t) cs' ts') :
    ts = ts' ↔ List.Forall₂ (SameTerm τ precision) cs cs' := by
  induction h generalizing cs' ts' with
  | nil =>
      cases h' with
      | nil => exact iff_of_true rfl .nil
      | cons => exact iff_of_false nofun nofun
  | cons hc hcs ih =>
      cases h' with
      | nil => exact iff_of_false nofun nofun
      | cons hc' hcs' =>
          rw [List.cons.injEq, List.forall₂_cons, eq_iff_sameTerm hc hc', ih hcs']

/-- Two coordinates with as many components have one reading when they agree. -/
theorem readings_eq_iff (hcount : cs.length = cs'.length)
    (h : readCoordinate τ precision x cs = .ok r)
    (h' : readCoordinate τ precision x' cs' = .ok r') :
    r = r' ↔ SameBase τ precision x x' ∧ List.Forall₂ (SameTerm τ precision) cs cs' := by
  obtain ⟨base, hbase, ts, hts, rfl⟩ := readCoordinate_eq_ok_iff.1 h
  obtain ⟨base', hbase', ts', hts', rfl⟩ := readCoordinate_eq_ok_iff.1 h'
  have hread := forall₂_of_mapM_eq_ok hts
  have hread' := forall₂_of_mapM_eq_ok hts'
  have hlength : ts.length = ts'.length := by rw [← hread.length_eq, hcount, hread'.length_eq]
  rw [LineReading.mk.injEq, eq_iff_sameBase hbase hbase', ← eq_iff_forall₂_sameTerm hread hread']
  exact and_congr_right fun _ => ⟨termsFrom_injective hlength, congrArg (termsFrom 1)⟩

end Agreement

/-! ## The lines of the layout -/

section Layout

variable {τ x : Float} {precision : Value} {d : Nat} {i : Fin d}

/-- What directions have at a place. -/
def componentsAt (directions : List (Vector Float d)) (i : Fin d) : List Float :=
  directions.map fun v => v.get i

/-- Directions as they are handed over. -/
def arrays (directions : List (Vector Float d)) : List Value :=
  directions.map fun v => .array (.ofVector v)

/-- A term in its steps: nothing for a component that counts as zero, else its sign, its size and its
name. -/
theorem addTerm_eq_ite (hi : fitsWord (i : Nat) = true) (parameter : String) (v : Vector Float d)
    (k : Nat) (text : String) :
    addTerm (.float τ) (.text parameter) precision i text (.array (.ofVector v), k) =
      if Scalar.isSmall τ (v.get i) then .ok text else
        (fun size => text ++ Piece.sign text.isEmpty (decide (v.get i < 0)) ++ size ++
          numbered parameter k) <$> sizeText τ precision (v.get i) := by
  unfold addTerm
  dsimp only
  rw [itemAt_array v i hi]
  show (if Scalar.isSmall τ (v.get i) then Except.ok text else do
    let size ← if Scalar.isSmall τ ((v.get i).abs - 1) then Except.ok "" else
      cellWith .significant precision (.float (v.get i).abs)
    return text ++ Piece.sign text.isEmpty (decide (v.get i < 0)) ++ size ++ numbered parameter k) = _
  rw [cellWith_float, sizeText]
  split
  · rfl
  · split
    · rfl
    · cases numberText precision (v.get i).abs <;> rfl

theorem addTerm_eq (hi : fitsWord (i : Nat) = true) (v : Vector Float d) (k : Nat) (text : String) :
    addTerm (.float τ) (.text "t") precision i text (.array (.ofVector v), k) =
      (fun t => (termsFrom k [t]).foldl appendTerm text) <$> readTerm τ precision (v.get i) := by
  rw [addTerm_eq_ite hi, readTerm, unlessSmall]
  split
  · rfl
  · cases sizeText τ precision (v.get i) <;> rfl

/-- The terms of a coordinate are written one after the other. -/
theorem foldlM_addTerm_eq (hi : fitsWord (i : Nat) = true) (directions : List (Vector Float d))
    (k : Nat) (text : String) :
    ((arrays directions).zipIdx k).foldlM (addTerm (.float τ) (.text "t") precision i) text =
      (fun ts => (termsFrom k ts).foldl appendTerm text) <$>
        (componentsAt directions i).mapM (readTerm τ precision) := by
  induction directions generalizing k text with
  | nil => rfl
  | cons v directions ih =>
      rw [arrays, List.map_cons, List.zipIdx_cons, List.foldlM_cons, addTerm_eq hi, componentsAt,
        List.map_cons, List.mapM_cons]
      cases readTerm τ precision (v.get i) with
      | error e => rfl
      | ok t =>
          refine (ih _ _).trans ?_
          show _ = (fun ts => _) <$> (do
            let ts ← (componentsAt directions i).mapM (readTerm τ precision)
            return t :: ts)
          cases (componentsAt directions i).mapM (readTerm τ precision) with
          | error e => rfl
          | ok ts =>
              refine congrArg Except.ok ?_
              dsimp only
              rw [termsFrom_cons k t ts, List.foldl_append]

/-- A line in its steps: the base value, the terms behind it, and `0` if there is nothing. -/
theorem parametricLineAt_eq_bind (directions : List (Vector Float d)) (symbol parameter : String)
    (x : Float) (place : Nat) :
    parametricLineAt (.list (arrays directions)) (.float τ) (.text symbol) (.text parameter) precision
        (wordFloat x, place) = (do
      let base ← baseText τ precision x
      let text ← ((arrays directions).zipIdx 1).foldlM
        (addTerm (.float τ) (.text parameter) precision place) base
      return numbered symbol (place + 1) ++ " = " ++ if text.isEmpty then "0" else text) := by
  have hmagnitude : (wordFloat x).magnitude = pure (wordFloat x.abs) := rfl
  have hbase : (wordFloat x.abs).holds .atLeast (.float τ) = pure (Scalar.isSignificant τ x) := by
    rw [holds_wordFloat_float, onNumbers_atLeast]
    rfl
  have hitems : (Value.list (arrays directions)).items = .ok (arrays directions) := rfl
  have hsymbol : (Value.text symbol).display = pure symbol := rfl
  unfold parametricLineAt
  simp only [hmagnitude, hbase, lift_items_eq_pure hitems, hsymbol, cellWith_wordFloat, pure_bind]
  rw [baseText]
  cases Scalar.isSignificant τ x <;> rfl

/-- **The line for a coordinate is that of its reading**, and what cannot be read cannot be written. -/
theorem parametricLineAt_eq (hτ : 0 < τ) (hx : Scalar.isFinite x = true)
    {directions : List (Vector Float d)} (hi : directions = [] ∨ fitsWord (i : Nat) = true) :
    parametricLineAt (.list (arrays directions)) (.float τ) (.text "v") (.text "t") precision
        (wordFloat x, i) =
      (fun r => r.line i) <$> readCoordinate τ precision x (componentsAt directions i) := by
  have hterms (text : String) :
      ((arrays directions).zipIdx 1).foldlM (addTerm (.float τ) (.text "t") precision i) text =
        (fun ts => (termsFrom 1 ts).foldl appendTerm text) <$>
          (componentsAt directions i).mapM (readTerm τ precision) := by
    rcases hi with rfl | hi
    · rfl
    · exact foldlM_addTerm_eq hi directions 1 text
  rw [parametricLineAt_eq_bind, baseText, FloatingPoint.isSignificant_eq_not_isSmall hτ hx,
    readCoordinate, readBase, unlessSmall]
  simp only [hterms]
  cases Scalar.isSmall τ x with
  | true => cases (componentsAt directions i).mapM (readTerm τ precision) <;> rfl
  | false =>
      cases numberText precision x with
      | error e => rfl
      | ok base => cases (componentsAt directions i).mapM (readTerm τ precision) <;> rfl

section Places

variable {directions : List (Vector Float d)} {tolerance symbol parameter : Value} {place : Nat}

/-- Directions are read at no place beyond a machine word. -/
theorem fitsWord_of_foldlM_addTerm_eq_ok {k : Nat} {text terms : String}
    (h : ((arrays directions).zipIdx k).foldlM (addTerm tolerance parameter precision place) text =
      .ok terms) : directions = [] ∨ fitsWord place = true := by
  cases directions with
  | nil => exact Or.inl rfl
  | cons v directions =>
      -- The first direction is read at the place, whether or not its component counts as zero.
      rw [arrays, List.map_cons, List.zipIdx_cons, List.foldlM_cons] at h
      obtain ⟨text', hterm, -⟩ := bind_eq_ok_iff.1 h
      obtain ⟨x, hitem, -⟩ := bind_eq_ok_iff.1 hterm
      refine Or.inr (by_contra fun hfits => ?_)
      exact not_itemAt_array_eq_ok v (Bool.eq_false_iff.2 hfits) x hitem

theorem fitsWord_of_parametricLineAt_eq_ok {base : Value} {line : String}
    (h : parametricLineAt (.list (arrays directions)) tolerance symbol parameter precision
      (base, place) = .ok line) : directions = [] ∨ fitsWord place = true := by
  unfold parametricLineAt at h
  obtain ⟨magnitude, -, h⟩ := bind_eq_ok_iff.1 h
  obtain ⟨isBase, -, h⟩ := bind_eq_ok_iff.1 h
  split at h <;> obtain ⟨text, -, h⟩ := bind_eq_ok_iff.1 h
  all_goals
    obtain ⟨items, hitems, h⟩ := bind_eq_ok_iff.1 h
    obtain rfl : arrays directions = items := Except.ok.inj hitems
    obtain ⟨terms, hterms, -⟩ := bind_eq_ok_iff.1 h
    exact fitsWord_of_foldlM_addTerm_eq_ok hterms

end Places

theorem exists_reading_of_parametricLineAt_eq_ok (hτ : 0 < τ) (hx : Scalar.isFinite x = true)
    {directions : List (Vector Float d)} {line : String}
    (h : parametricLineAt (.list (arrays directions)) (.float τ) (.text "v") (.text "t") precision
      (wordFloat x, i) = .ok line) :
    ∃ r, readCoordinate τ precision x (componentsAt directions i) = .ok r ∧ r.line i = line :=
  map_eq_ok_iff.1 (parametricLineAt_eq hτ hx (fitsWord_of_parametricLineAt_eq_ok h) ▸ h)

/-- There is a line for every coordinate. -/
theorem lines_of_parametricAt_eq_ok {base : Vector Float d}
    {directions tolerance symbol parameter : Value} {lines : List String}
    (h : parametricAt (.array (.ofVector base)) directions tolerance symbol parameter precision =
      .ok lines) :
    lines.length = d ∧ ∀ i : Fin d, ∃ line, lines[(i : Nat)]? = some line ∧
      parametricLineAt directions tolerance symbol parameter precision (wordFloat (base.get i), i) =
        .ok line := by
  rw [parametricAt, items_array] at h
  obtain ⟨items, hitems, h⟩ := bind_eq_ok_iff.1 h
  obtain rfl := Except.ok.inj hitems
  obtain ⟨hlength, hlines⟩ := List.forall₂_iff_get.1 (forall₂_of_mapM_eq_ok h)
  have hcount : lines.length = d := by
    rw [← hlength, List.length_zipIdx, List.length_map, Vector.length_toList]
  refine ⟨hcount, fun i => ⟨_, List.getElem?_eq_getElem (hcount ▸ i.isLt), ?_⟩⟩
  have hline := hlines i (by rw [hlength, hcount]; exact i.isLt) (by rw [hcount]; exact i.isLt)
  simpa [Vector.get_eq_getElem] using hline

theorem exists_readCoordinate_eq_ok {p : Nat} (hp : precision.toPrecision 'g' = .ok p)
    (components : List Float) : ∃ r, readCoordinate τ precision x components = .ok r := by
  have htext (y : Float) : numberText precision y = .ok (Decimal.general p (y + 0)) :=
    numberText_eq_ok_iff.2 ⟨p, hp, rfl⟩
  have hunless {α : Type} (y : Float) (a : α) : ∃ a?, unlessSmall τ y (.ok a) = .ok a? := by
    unfold unlessSmall
    split <;> exact ⟨_, rfl⟩
  have hsize (c : Float) : ∃ size, sizeText τ precision c = .ok size := by
    unfold sizeText
    split
    · exact ⟨"", rfl⟩
    · exact ⟨_, htext _⟩
  have hterm (c : Float) : ∃ t, readTerm τ precision c = .ok t := by
    obtain ⟨size, hsize⟩ := hsize c
    rw [readTerm, hsize]
    exact hunless c (decide (c < 0), size)
  obtain ⟨base, hbase⟩ : ∃ base, readBase τ precision x = .ok base := by
    rw [readBase, htext]
    exact hunless x _
  cases hterms : components.mapM (readTerm τ precision) with
  | ok terms => exact ⟨_, readCoordinate_eq_ok_iff.2 ⟨base, hbase, terms, hterms, rfl⟩⟩
  | error e =>
      obtain ⟨c, -, hfails⟩ := exists_eq_error_of_mapM hterms
      obtain ⟨t, ht⟩ := hterm c
      cases hfails.symm.trans ht

/-- A number of digits that can be read is all that the lines need. -/
theorem exists_parametricAt_eq_ok (hτ : 0 < τ) {base : Vector Float d}
    (hbase : ∀ j, Scalar.isFinite (base.get j) = true) (directions : List (Vector Float d)) {p : Nat}
    (hp : precision.toPrecision 'g' = .ok p) (hfits : ∀ i : Fin d, fitsWord (i : Nat) = true) :
    ∃ lines, parametricAt (.array (.ofVector base)) (.list (arrays directions)) (.float τ) (.text "v")
      (.text "t") precision = .ok lines := by
  cases h : parametricAt (.array (.ofVector base)) (.list (arrays directions)) (.float τ) (.text "v")
    (.text "t") precision with
  | ok lines => exact ⟨lines, rfl⟩
  | error e =>
      rw [parametricAt, items_array] at h
      obtain ⟨⟨y, place⟩, hmem, hfails⟩ := exists_eq_error_of_mapM h
      obtain ⟨hplace, hy⟩ := List.getElem?_eq_some_iff.1 (List.mem_zipIdx_iff_getElem?.1 hmem)
      have hd : place < d := by simpa using hplace
      obtain rfl : wordFloat (base.get ⟨place, hd⟩) = y := by
        simpa [Vector.get_eq_getElem] using hy
      obtain ⟨r, hr⟩ := exists_readCoordinate_eq_ok (τ := τ) (x := base.get ⟨place, hd⟩) hp
        (componentsAt directions ⟨place, hd⟩)
      have hi : directions = [] ∨ fitsWord ((⟨place, hd⟩ : Fin d) : Nat) = true :=
        Or.inr (hfits ⟨place, hd⟩)
      rw [parametricLineAt_eq hτ (hbase ⟨place, hd⟩) hi, hr] at hfails
      cases hfails

/-- **Equal lines say the same.**  At every coordinate, two displays of as many directions have one line
exactly when their base values and all of their components agree there. -/
theorem line_eq_iff_agree (hτ : 0 < τ) {base base' : Vector Float d}
    {directions directions' : List (Vector Float d)}
    (hbase : ∀ j, Scalar.isFinite (base.get j) = true)
    (hbase' : ∀ j, Scalar.isFinite (base'.get j) = true)
    (hdirections : ∀ v ∈ directions, ∀ j, Scalar.isFinite (v.get j) = true)
    (hdirections' : ∀ v ∈ directions', ∀ j, Scalar.isFinite (v.get j) = true)
    (hcount : directions.length = directions'.length) {lines lines' : List String}
    (h : parametricAt (.array (.ofVector base)) (.list (arrays directions)) (.float τ) (.text "v")
      (.text "t") precision = .ok lines)
    (h' : parametricAt (.array (.ofVector base')) (.list (arrays directions')) (.float τ) (.text "v")
      (.text "t") precision = .ok lines') :
    lines.length = d ∧ lines'.length = d ∧ ∀ i : Fin d,
      (lines[(i : Nat)]? = lines'[(i : Nat)]? ↔
        SameBase τ precision (base.get i) (base'.get i) ∧
          List.Forall₂ (SameTerm τ precision) (componentsAt directions i)
            (componentsAt directions' i)) := by
  have hcomponents {directions : List (Vector Float d)} (i : Fin d)
      (h : ∀ v ∈ directions, ∀ j, Scalar.isFinite (v.get j) = true) :
      ∀ c ∈ componentsAt directions i, Scalar.isFinite c = true := by
    intro c hc
    obtain ⟨v, hv, rfl⟩ := List.mem_map.1 hc
    exact h v hv i
  obtain ⟨hlength, hlines⟩ := lines_of_parametricAt_eq_ok h
  obtain ⟨hlength', hlines'⟩ := lines_of_parametricAt_eq_ok h'
  refine ⟨hlength, hlength', fun i => ?_⟩
  obtain ⟨line, hget, hline⟩ := hlines i
  obtain ⟨line', hget', hline'⟩ := hlines' i
  obtain ⟨r, hread, rfl⟩ := exists_reading_of_parametricLineAt_eq_ok hτ (hbase i) hline
  obtain ⟨r', hread', rfl⟩ := exists_reading_of_parametricLineAt_eq_ok hτ (hbase' i) hline'
  have hsound := isSound_of_readCoordinate hτ (hbase i) (hcomponents i hdirections) hread
  have hsound' := isSound_of_readCoordinate hτ (hbase' i) (hcomponents i hdirections') hread'
  have hsame : (componentsAt directions i).length = (componentsAt directions' i).length := by
    rw [componentsAt, componentsAt, List.length_map, List.length_map, hcount]
  rw [hget, hget', Option.some.injEq, ← readings_eq_iff hsame hread hread']
  exact ⟨LineReading.line_injective hsound hsound', fun hreading => by rw [hreading]⟩

/-- Base values that are rounded to one text have one line, and components of opposite signs have not. -/
theorem lines_of_rounded_base : ∃ lines lines',
    parametricAt (.array (.ofVector #v[1, 0])) (.list (arrays [#v[2, 1]])) (.float 0.001)
      (.text "v") (.text "t") (.int 2) = .ok lines ∧
    parametricAt (.array (.ofVector #v[1.0009765625, 0])) (.list (arrays [#v[2, -1]]))
      (.float 0.001) (.text "v") (.text "t") (.int 2) = .ok lines' ∧
    SameBase 0.001 (.int 2) 1 1.0009765625 ∧ ¬ SameTerm 0.001 (.int 2) 1 (-1) := by
  obtain ⟨lines, h, hlines⟩ : ∃ lines,
      parametricAt (.array (.ofVector #v[1, 0])) (.list (arrays [#v[2, 1]])) (.float 0.001)
        (.text "v") (.text "t") (.int 2) = .ok lines ∧ lines = ["v1 = 1 + 2t1", "v2 = t1"] :=
    exists_eq_ok_of_any (by decide +kernel)
  obtain ⟨lines', h', hlines'⟩ : ∃ lines',
      parametricAt (.array (.ofVector #v[1.0009765625, 0])) (.list (arrays [#v[2, -1]]))
        (.float 0.001) (.text "v") (.text "t") (.int 2) = .ok lines' ∧
        lines' = ["v1 = 1 + 2t1", "v2 = -t1"] :=
    exists_eq_ok_of_any (by decide +kernel)
  obtain ⟨-, -, hagree⟩ := line_eq_iff_agree (by decide +kernel) (by decide +kernel)
    (by decide +kernel) (by decide +kernel) (by decide +kernel) (by rfl) h h'
  refine ⟨lines, lines', h, h', ((hagree 0).1 ?_).1, fun hterm => ?_⟩
  · rw [hlines, hlines']
    rfl
  · have hbase (x : Float) : SameBase 0.001 (.int 2) x x := ⟨rfl, fun _ => rfl⟩
    have hsame := (hagree 1).2 ⟨hbase 0, .cons hterm .nil⟩
    rw [hlines, hlines'] at hsame
    exact absurd hsame (by decide)

end Layout

end Display

end LinearSystems
