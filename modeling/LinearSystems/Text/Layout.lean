/-!
# Padding and joining

Widths count characters.  Padding never cuts: a text that is longer than the width stays as it is.
-/

namespace LinearSystems

namespace Text

/-- Blanks in front, up to a width. -/
def padLeft (width : Nat) (s : String) : String :=
  String.ofList (List.replicate (width - s.length) ' ') ++ s

/-- Blanks behind, up to a width. -/
def padRight (width : Nat) (s : String) : String :=
  s ++ String.ofList (List.replicate (width - s.length) ' ')

theorem length_padLeft (width : Nat) (s : String) :
    (padLeft width s).length = max width s.length := by
  simp [padLeft, String.length_append]
  omega

theorem length_padRight (width : Nat) (s : String) :
    (padRight width s).length = max width s.length := by
  simp [padRight, String.length_append]
  omega

/-- The length of the longest text, zero for none. -/
def widest (texts : List String) : Nat := texts.foldl (fun w s => max w s.length) 0

theorem le_foldl_max_length (texts : List String) (w : Nat) :
    w ≤ texts.foldl (fun w s => max w s.length) w := by
  induction texts generalizing w with
  | nil => exact Nat.le_refl w
  | cons s rest ih => exact Nat.le_trans (Nat.le_max_left w s.length) (ih _)

theorem length_le_widest {texts : List String} {s : String} (h : s ∈ texts) :
    s.length ≤ widest texts := by
  suffices ∀ w, s.length ≤ texts.foldl (fun w s => max w s.length) w from this 0
  induction texts with
  | nil => cases h
  | cons t rest ih =>
    intro w
    rcases List.mem_cons.1 h with rfl | h
    · exact Nat.le_trans (Nat.le_max_right w s.length) (le_foldl_max_length rest _)
    · exact ih h _

/-- The texts with one blank between neighbours. -/
def spaced (texts : List String) : String := " ".intercalate texts

/-- The texts as lines. -/
def lines (texts : List String) : String := "\n".intercalate texts

/-- A text of blanks. -/
def blanks (width : Nat) : String := String.ofList (List.replicate width ' ')

/-- The text without the blanks at its end. -/
def dropEndBlanks (s : String) : String :=
  String.ofList (s.toList.reverse.dropWhile (· == ' ')).reverse

/-- Appends a word to the last line, or to a new one when it would pass the width; an empty line takes
any word. -/
def appendWord (width : Nat) : List String × String → String → List String × String
  | (done, line), word =>
    if line.isEmpty || line.length + word.length ≤ width then (done, line ++ word)
    else (done ++ [dropEndBlanks line], word)

/-- Words on lines of limited width with a separator behind each word but the last.  The separator
does not count for the width. -/
def wrap (width : Nat) (separator : String) (words : List String) : List String :=
  let (done, line) := (words.dropLast.map (·, separator) ++ words.getLast?.toList.map (·, "")).foldl
    (fun state (word, behind) =>
      let (done, line) := appendWord width state word
      (done, line ++ behind))
    ([], "")
  done ++ [line]

/-- The first text stands somewhere in the second. -/
def occursIn (part whole : String) : Bool :=
  (List.range (whole.length + 1)).any fun k => part.toList.isPrefixOf (whole.toList.drop k)

end Text

end LinearSystems
