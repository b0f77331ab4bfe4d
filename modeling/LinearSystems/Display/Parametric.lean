import LinearSystems.Display.Piece
import LinearSystems.LinearEquation
import LinearSystems.Parametrization

/-!
# Equations and general solutions as text

A linear equation is written as a sum of named terms, `2v1 - 3v2 = 4`.  Terms whose coefficient is
zero within tolerance are left out, a coefficient of one within tolerance goes without saying, and a
left side without terms is `0`.

A general solution has two layouts of `x = base + t₁ · direction₁ + …`.

*Parametric*: one line per coordinate, `v1 = 1 - t1 + 2t2`.  The base value comes first, if it is
significant, then a term for every direction whose component is not small; a component of one within
tolerance goes without saying, and a right side without terms is `0`.

*Columns*: the base point and every direction as a column of numbers between bars.  On the middle
line stand the equals sign and, before each direction, a plus and the variable that scales it; on
the other lines blanks of the same width stand in their place.
-/

namespace LinearSystems

variable {K : Type} [Scalar K]

/-! ## Equations -/

namespace Display

/-- The name of the variable with this number, counted from one. -/
def numbered (symbol : String) (number : Nat) : String := symbol ++ toString number

/-- The terms of the left side; `isFirst` tells whether none has been written yet. -/
def sideTerms (tolerance : K) (symbol : String) : Bool → List (K × Nat) → List (Piece K)
  | _, [] => []
  | isFirst, (c, number) :: rest =>
    if Scalar.isZero c tolerance then sideTerms tolerance symbol isFirst rest
    else
      Piece.term isFirst c (Piece.magnitude tolerance Piece.number c) (numbered symbol number) ++
        sideTerms tolerance symbol false rest

end Display

namespace LinearEquation

/-- The equation as words and numbers.  The offset is written as it is, with the sign of zero. -/
def pieces (e : LinearEquation K) (symbol : String) : List (Piece K) :=
  let terms := Display.sideTerms e.tolerance symbol true (e.normal.toList.zipIdx 1)
  (if terms.isEmpty then [.word "0"] else terms) ++ [.word " = ", .number e.offset]

def format (e : LinearEquation K) (num : K → String) (symbol : String) : String :=
  Piece.textOf num (e.pieces symbol)

end LinearEquation

/-! ## Parametric layout -/

namespace Display

/-- The terms of one coordinate; `isFirst` tells whether nothing has been written yet. -/
def parameterTerms (tolerance : K) (parameter : String) : Bool → List (K × Nat) → List (Piece K)
  | _, [] => []
  | isFirst, (c, number) :: rest =>
    if Scalar.isSmall tolerance c then parameterTerms tolerance parameter isFirst rest
    else
      Piece.term isFirst c (Piece.magnitude tolerance Piece.plain c) (numbered parameter number) ++
        parameterTerms tolerance parameter false rest

/-- The right side for one coordinate: its base value and its component in each direction. -/
def coordinatePieces (tolerance : K) (parameter : String) (base : K) (components : List K) :
    List (Piece K) :=
  let isBase := Scalar.isSignificant tolerance base
  let terms := parameterTerms tolerance parameter (!isBase) (components.zipIdx 1)
  let all := (if isBase then [Piece.plain base] else []) ++ terms
  if all.isEmpty then [.word "0"] else all

/-- The line for the coordinate with this number, counted from one. -/
def coordinateLine (tolerance : K) (symbol parameter : String) (number : Nat) (base : K)
    (components : List K) : List (Piece K) :=
  .word (numbered symbol number ++ " = ") :: coordinatePieces tolerance parameter base components

/-- One line for each coordinate of the base point.  A direction that is too short counts as zero
where it has no component. -/
def parametricLines (tolerance : K) (symbol parameter : String) (base : List K)
    (directions : List (List K)) : List (List (Piece K)) :=
  (base.zipIdx).map fun (x, i) =>
    coordinateLine tolerance symbol parameter (i + 1) x (directions.map (·.getD i 0))

/-! ## Column layout -/

/-- The middle line of `d` lines, the upper one of two. -/
def middle (d : Nat) : Nat := (d - 1) / 2

/-- A number between bars. -/
def barred (width : Nat) (text : String) : String := "|" ++ Text.padLeft width text ++ "|"

/-- What stands before a direction column. -/
def lead (isMiddle : Bool) (tagWidth : Nat) (tag : String) : String :=
  if isMiddle then "+ " ++ Text.padLeft tagWidth tag ++ " *"
  else String.ofList (List.replicate (tagWidth + 4) ' ')

/-- One of `d` lines of the column layout, from the texts of its base value and its components. -/
def columnLine (symbol : String) (d cellWidth : Nat) (tags : List String) (place : Nat)
    (base : String) (components : List String) : String :=
  let isMiddle := place == middle d
  let name := Text.padRight (numbered symbol d).length (numbered symbol (place + 1))
  Text.spaced <|
    ["|" ++ name ++ "|", if isMiddle then "=" else " ", barred cellWidth base] ++
      (tags.zip components).flatMap fun (tag, component) =>
        [lead isMiddle (Text.widest tags) tag, barred cellWidth component]

/-- The lines of the column layout, from the texts of the numbers. -/
def columnLines (symbol : String) (base : List String) (directions : List (List String))
    (tags : List String) : List String :=
  let cellWidth := Text.widest (base ++ directions.flatten)
  (base.zipIdx).map fun (x, i) =>
    columnLine symbol base.length cellWidth tags i x (directions.map (·.getD i ""))

/-- The tag of a free variable. -/
def tagOf (symbol : String) (variableNumber : Int) : String := symbol ++ toString variableNumber

/-- The column layout with numbers written by `num`. -/
def columns (num : K → String) (symbol : String) (base : List K) (directions : List (List K))
    (freeVariables : List Int) : String :=
  let write (xs : List K) := xs.map fun x => num (x + 0)
  Text.lines <|
    columnLines symbol (write base) (directions.map write) (freeVariables.map (tagOf symbol))

end Display

namespace Parametrization

variable {K : Type} [Scalar K]

/-- The lines of the parametric layout. -/
def lines (p : Parametrization K) (symbol parameter : String) : List (List (Piece K)) :=
  Display.parametricLines p.basePoint.tolerance symbol parameter p.basePoint.toList
    (p.directions.map Vec.toList)

def format (p : Parametrization K) (num : K → String) (symbol parameter : String) : String :=
  Text.lines ((p.lines symbol parameter).map (Piece.textOf num))

def formatAsVectors (p : Parametrization K) (num : K → String) (symbol : String) : String :=
  Display.columns num symbol p.basePoint.toList (p.directions.map Vec.toList) p.freeVariables

end Parametrization

end LinearSystems
