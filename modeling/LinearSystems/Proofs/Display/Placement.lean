import Mathlib
import LinearSystems.Text.Layout

/-!
# What stands where in a text

Two readings of a line that is laid out in columns.  By places: a part stands at an offset
(`Text.StandsAt`), and in a row of blocks of one width every part of a block is found from the number of
the block (`Text.standsAt_join`).  By words: what blanks part, however many of them there are
(`Text.words`); padding adds no word (`Text.words_padLeft`), and words that are joined by blanks or
line ends are found again in their order (`Text.words_spaced`, `Text.words_lines`).
-/

namespace LinearSystems

namespace Text

/-! ## Places -/

/-- The part stands at an offset in the whole text. -/
def StandsAt (offset : Nat) (part whole : String) : Prop :=
  ∃ front back, front.length = offset ∧ whole = front ++ part ++ back

section Places

variable {offset width : Nat} {part whole block : String} {blocks : List String}

theorem standsAt_start (part back : String) : StandsAt 0 part (part ++ back) :=
  ⟨"", back, rfl, by rw [String.empty_append]⟩

theorem StandsAt.append (h : StandsAt offset part whole) (back : String) :
    StandsAt offset part (whole ++ back) := by
  obtain ⟨front, rest, hoffset, rfl⟩ := h
  exact ⟨front, rest ++ back, hoffset, by rw [String.append_assoc]⟩

theorem StandsAt.prepend (h : StandsAt offset part whole) (front : String) :
    StandsAt (front.length + offset) part (front ++ whole) := by
  obtain ⟨front', back, rfl, rfl⟩ := h
  exact ⟨front ++ front', back, by rw [String.length_append], by simp only [String.append_assoc]⟩

theorem length_join (h : ∀ b ∈ blocks, b.length = width) :
    (String.join blocks).length = blocks.length * width := by
  induction blocks with
  | nil => simp
  | cons b blocks ih =>
      obtain ⟨hb, hblocks⟩ := List.forall_mem_cons.1 h
      rw [String.join_cons, String.length_append, hb, ih hblocks, List.length_cons,
        Nat.succ_mul, Nat.add_comm]

/-- Blocks of one width stand at the multiples of it. -/
theorem standsAt_join (hwidth : ∀ b ∈ blocks, b.length = width) {k : Nat}
    (hk : blocks[k]? = some block) (h : StandsAt offset part block) :
    StandsAt (k * width + offset) part (String.join blocks) := by
  induction blocks generalizing k with
  | nil => simp at hk
  | cons b blocks ih =>
      obtain ⟨hb, hblocks⟩ := List.forall_mem_cons.1 hwidth
      rw [String.join_cons]
      cases k with
      | zero =>
          obtain rfl : b = block := by simpa using hk
          rw [Nat.zero_mul, Nat.zero_add]
          exact h.append _
      | succ k =>
          have hrest := (ih hblocks (by simpa using hk)).prepend b
          rwa [hb, ← Nat.add_assoc, Nat.add_comm width, ← Nat.succ_mul] at hrest

/-- What is spaced behind the first text follows it with a blank in front of each. -/
theorem spaced_cons (text : String) (texts : List String) :
    spaced (text :: texts) = text ++ String.join (texts.map (" " ++ ·)) := by
  induction texts generalizing text with
  | nil => simp [spaced]
  | cons t texts ih =>
      have hrest : " ".intercalate (t :: texts) = t ++ String.join (texts.map (" " ++ ·)) := ih t
      rw [spaced, String.intercalate_cons_cons, hrest, List.map_cons, String.join_cons]
      simp only [String.append_assoc]

/-- Texts of one width, spaced. -/
theorem length_spaced {text : String} {texts : List String}
    (h : ∀ t ∈ text :: texts, t.length = width) :
    (spaced (text :: texts)).length = width + texts.length * (1 + width) := by
  obtain ⟨htext, htexts⟩ := List.forall_mem_cons.1 h
  have hblocks : ∀ b ∈ texts.map (" " ++ ·), b.length = 1 + width := by
    intro b hb
    obtain ⟨t, ht, rfl⟩ := List.mem_map.1 hb
    rw [String.length_append, htexts t ht]
    rfl
  rw [spaced_cons, String.length_append, htext, length_join hblocks, List.length_map]

/-! ### Marks -/

theorem mem_padLeft {c : Char} {s : String} (h : c ∈ (padLeft width s).toList) :
    c = ' ' ∨ c ∈ s.toList := by
  rw [padLeft, String.toList_append, String.toList_ofList, List.mem_append, List.mem_replicate] at h
  exact h.imp_left And.right

theorem mem_spaced {c : Char} {texts : List String} (h : c ∈ (spaced texts).toList) :
    c = ' ' ∨ ∃ t ∈ texts, c ∈ t.toList := by
  cases texts with
  | nil => cases h
  | cons t texts =>
      simp only [spaced_cons, String.toList_append, String.toList_join, List.mem_append,
        List.mem_flatMap, List.mem_map] at h
      rcases h with h | ⟨b, ⟨u, hu, rfl⟩, hc⟩
      · exact Or.inr ⟨t, List.mem_cons_self, h⟩
      · rw [String.toList_append, List.mem_append] at hc
        exact hc.imp List.mem_singleton.1 fun hc => ⟨u, List.mem_cons_of_mem t hu, hc⟩

/-- A mark that stands at one place only. -/
theorem getElem?_eq_mark_iff {mark : Char} {front back : List Char} (hfront : mark ∉ front)
    (hback : mark ∉ back) (k : Nat) :
    (front ++ mark :: back)[k]? = some mark ↔ k = front.length := by
  rcases lt_trichotomy k front.length with hk | rfl | hk
  · rw [List.getElem?_append_left hk]
    exact iff_of_false (fun h => hfront (List.mem_of_getElem? h)) hk.ne
  · simp
  · obtain ⟨j, rfl⟩ := Nat.exists_eq_add_of_lt hk
    rw [List.getElem?_append_right (by omega), Nat.add_assoc, Nat.add_sub_cancel_left,
      List.getElem?_cons_succ]
    exact iff_of_false (fun h => hback (List.mem_of_getElem? h)) (by omega)

end Places

/-! ## Words -/

/-- The longest runs of characters that are no blanks. -/
def wordsOf (cs : List Char) : List (List Char) :=
  (cs.splitOnP Char.isWhitespace).filter fun w => !w.isEmpty

/-- The words of a text: what blanks and line ends part. -/
def words (s : String) : List String := (wordsOf s.toList).map String.ofList

/-- A text that is one word: there is something in it, and no blank. -/
structure IsWord (s : String) : Prop where
  ne_empty : s ≠ ""
  notBlank : ∀ c ∈ s.toList, c.isWhitespace = false

section Words

variable {s : String} {c : Char}

/-- A blank ends a word, if there is one. -/
theorem wordsOf_append_cons (hc : c.isWhitespace = true) (front back : List Char) :
    wordsOf (front ++ c :: back) = wordsOf front ++ wordsOf back := by
  rw [wordsOf, List.splitOnP_append_cons front back hc, List.filter_append, wordsOf, wordsOf]

theorem wordsOf_replicate_append (n : Nat) (cs : List Char) :
    wordsOf (List.replicate n ' ' ++ cs) = wordsOf cs := by
  induction n with
  | zero => rfl
  | succ n ih =>
      rw [List.replicate_succ, List.cons_append]
      exact (wordsOf_append_cons rfl [] _).trans ih

theorem IsWord.words (h : IsWord s) : words s = [s] := by
  have hne : s.toList.isEmpty = false := by simpa using h.ne_empty
  rw [Text.words, wordsOf, List.splitOnP_eq_singleton h.notBlank, List.filter_cons, hne]
  simp

/-- Padding adds no word. -/
theorem words_padLeft (width : Nat) (s : String) : words (padLeft width s) = words s := by
  rw [words, padLeft, String.toList_append, String.toList_ofList, wordsOf_replicate_append, words]

/-- Texts that are joined by a blank keep their words. -/
theorem words_intercalate (hc : c.isWhitespace = true) (texts : List String) :
    words ((String.singleton c).intercalate texts) = texts.flatMap words := by
  induction texts with
  | nil => rfl
  | cons t texts ih =>
      cases texts with
      | nil => simp
      | cons u texts =>
          have hjoin : ((String.singleton c).intercalate (t :: u :: texts)).toList =
              t.toList ++ c :: ((String.singleton c).intercalate (u :: texts)).toList := by
            rw [String.intercalate_cons_cons]
            simp
          rw [List.flatMap_cons, ← ih, words, hjoin, wordsOf_append_cons hc, List.map_append]
          rfl

theorem words_spaced (texts : List String) : words (spaced texts) = texts.flatMap words :=
  words_intercalate (c := ' ') rfl texts

theorem words_lines (texts : List String) : words (lines texts) = texts.flatMap words :=
  words_intercalate (c := '\n') rfl texts

end Words

end Text

end LinearSystems
