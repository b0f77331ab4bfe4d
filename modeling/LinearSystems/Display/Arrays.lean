import LinearSystems.Display.Messages
import LinearSystems.Tensor.Basic

/-!
# Arrays as text

All numbers of an array are written alike.  They are *positional* with at most eight places, as long
as the largest magnitude stays below `10 ^ 8`, the smallest one that is not zero reaches `10 ^ -4`,
and the two lie within a factor of a thousand; otherwise all are *scientific* with as many digits as
the longest needs, at most eight after the first.  The points stand below one another.

Numbers stand between brackets, one pair for each axis.  A row that would pass the width goes on in
the next line, and rows are divided by one line break more for each axis that they are below.  Of an
array with more than a thousand entries, only the three at either end of each axis are written.
-/

namespace LinearSystems

universe u

namespace Display

/-! ## Numbers -/

/-- The most digits after the point that are written. -/
def maxPlaces : Nat := 8

/-- The form that the numbers of an array share: how many characters stand before and after the
point, and in scientific notation how many digits follow it and how many an exponent has. -/
structure NumberForm where
  left : Nat
  right : Nat
  scientific : Option (Nat × Nat)

/-- The numbers are too large, too small or too far apart for positional notation. -/
def needsExponents (entries : List Float) : Bool :=
  match (entries.filter fun x => Scalar.isFinite x && x != 0).map Float.abs with
  | [] => false
  | x :: rest =>
    let largest := rest.foldl (fun a b => if a < b then b else a) x
    let smallest := rest.foldl (fun a b => if b < a then b else a) x
    1e8 ≤ largest || smallest < 0.0001 || 1000 < largest / smallest

/-- The longest of some widths, zero for none. -/
def longest (widths : List Nat) : Nat := widths.foldl max 0

/-- Signs, significands and exponents of the finite numbers. -/
def finiteParts (entries : List Float) : List (Bool × Nat × Int) :=
  entries.filterMap fun x => match Binary64.ofFloat x with
    | .finite negative significand exponent => some (negative, significand, exponent)
    | _ => none

/-- A minus in front where the value is negative. -/
def withSign (negative : Bool) (digits : List Char) : List Char :=
  if negative then '-' :: digits else digits

namespace NumberForm

/-- The form of the finite numbers among the entries. -/
def ofFinite (entries : List Float) : NumberForm :=
  let parts := finiteParts entries
  if needsExponents entries then
    let digits := parts.map fun (_, s, e) => Decimal.digitsUpTo maxPlaces s e
    let places := longest (digits.map fun (ds, _) => ds.length - 1)
    let width := longest (digits.map fun (_, e) => (Decimal.exponentPart e).length - 2)
    { left := if parts.any Prod.fst then 2 else 1
      right := width + 2 + places
      scientific := some (places, width) }
  else
    let digits := parts.map fun (negative, s, e) =>
      let (whole, rest) := Decimal.placesUpTo maxPlaces s e
      (withSign negative whole, rest)
    { left := longest (digits.map fun (whole, _) => whole.length)
      right := longest (digits.map fun (_, rest) => rest.length)
      scientific := none }

/-- The form of all entries: undefined and infinite ones take the room of a finite one, which has to
be wide enough for their names. -/
def ofEntries (entries : List Float) : NumberForm :=
  let form := ofFinite entries
  let named := (entries.filter fun x => !Scalar.isFinite x).map fun x =>
    (Decimal.shortestText x).length - (form.right + 1)
  { form with left := longest (form.left :: named) }

/-- A finite number in the form. -/
def finiteText (form : NumberForm) (negative : Bool) (significand : Nat) (exponent : Int) :
    String :=
  match form.scientific with
  | none =>
    let (whole, rest) := Decimal.placesUpTo maxPlaces significand exponent
    Text.padLeft form.left (String.ofList (withSign negative whole)) ++ "." ++
      Text.padRight form.right (String.ofList rest)
  | some (places, width) =>
    let (digits, top) := Decimal.roundedDigits places significand exponent
    Text.padLeft form.left (String.ofList (withSign negative (digits.take 1))) ++ "." ++
      String.ofList (digits.drop 1) ++ (if top < 0 then "e-" else "e+") ++
      String.ofList (Decimal.zeroPadded width (Decimal.digitsOf top.natAbs))

def text (form : NumberForm) (x : Float) : String :=
  match Binary64.ofFloat x with
  | .finite negative significand exponent => form.finiteText negative significand exponent
  | _ => Text.padLeft (form.left + form.right + 1) (Decimal.shortestText x)

end NumberForm

/-! ## Brackets -/

/-- The number of entries from which on an array is abridged. -/
def abridgeAbove : Nat := 1000

/-- How many places at either end of an axis an abridged array shows. -/
def shownAtEnds : Nat := 3

/-- The places of an axis that are shown, with a gap between the ends where there is one. -/
def shownPlaces (isAbridged : Bool) (size : Nat) : List (Option Nat) :=
  if isAbridged && decide (2 * shownAtEnds < size) then
    (List.range shownAtEnds).map some ++ none ::
      (List.range shownAtEnds).map fun k => some (size - shownAtEnds + k)
  else (List.range size).map some

/-- The entries that are written. -/
def shownEntries (isAbridged : Bool) : List Nat → List Float → List Float
  | [], entries => entries
  | size :: shape, entries =>
    (shownPlaces isAbridged size).flatMap fun
      | some place => shownEntries isAbridged shape (partAt shape entries place)
      | none => []

/-- The entries between brackets.  `indent` is the width of what stands before every line but the
first, and `width` what a line may take up with it. -/
def brackets {α : Type u} (write : α → String) (separator : String) (isAbridged : Bool) :
    List Nat → (indent width : Nat) → List α → String
  | [], _, _, entries => (entries.map write).headD ""
  | size :: shape, indent, width, entries =>
    let items := (shownPlaces isAbridged size).map fun
      | some place =>
        brackets write separator isAbridged shape (indent + 1) (width - 1)
          (partAt shape entries place)
      | none => "..."
    let newLine := "\n" ++ Text.blanks indent
    let inside := match shape with
      -- The closing bracket has to fit on the line too.
      | [] => newLine.intercalate (Text.wrap (width - 1 - indent) separator items)
      | shape =>
        (Text.dropEndBlanks separator ++ String.ofList (List.replicate (shape.length - 1) '\n') ++
          newLine).intercalate items
    "[" ++ inside ++ "]"

/-- The brackets of an array behind `indent` characters; an array without entries has one empty
pair. -/
def arrayBrackets (separator : String) (indent width : Nat) (t : Tensor Float) : String :=
  if t.entries.isEmpty then "[]"
  else
    let isAbridged := decide (abridgeAbove < t.entries.length)
    let form := NumberForm.ofEntries (shownEntries isAbridged t.shape t.entries)
    brackets form.text separator isAbridged t.shape (indent + 1) width t.entries

/-- The width of a line. -/
def lineWidth : Nat := 75

/-- What the brackets do not tell about an array: the shape of one that is empty or abridged, and the
type of entries that are not there. -/
def arrayExtras (t : Tensor Float) : List String :=
  let isEmpty := t.entries.isEmpty
  let hidesShape := (isEmpty && t.shape != [0]) || decide (abridgeAbove < t.entries.length)
  (if hidesShape then ["shape=" ++ shape t.shape] else []) ++
    if isEmpty then ["dtype=float64"] else []

/-- The literal form of an array. -/
def arrayLiteral (t : Tensor Float) : String :=
  let lead := "array("
  let written := lead ++ arrayBrackets ", " lead.length (lineWidth - 1) t
  match arrayExtras t with
  | [] => written ++ ")"
  | extras =>
    let behind := ", ".intercalate extras ++ ")"
    let lastLine := (written.toList.reverse.takeWhile (· != '\n')).length + 1
    written ++ "," ++
      (if lastLine + behind.length + 1 > lineWidth then "\n" ++ Text.blanks lead.length else " ") ++
      behind

/-- The form of an array in running text. -/
def arrayText (t : Tensor Float) : String :=
  match t.shape, t.entries with
  | [], [x] => Decimal.shortestText x
  | _, _ => arrayBrackets " " 0 lineWidth t

/-! ## Truth values -/

/-- A truth value in an array; the shorter word is moved to the right. -/
def flagText (b : Bool) : String := if b then " True" else "False"

/-- The brackets of an array of truth values behind `indent` characters. -/
def flagBrackets (separator : String) (indent width : Nat) (t : Tensor Bool) : String :=
  if t.entries.isEmpty then "[]"
  else
    brackets flagText separator (decide (abridgeAbove < t.entries.length)) t.shape (indent + 1) width
      t.entries

/-- The literal form of an array of truth values. -/
def flagArrayLiteral (t : Tensor Bool) : String :=
  let lead := "array("
  lead ++ flagBrackets ", " lead.length (lineWidth - 1) t ++ ")"

end Display

end LinearSystems
