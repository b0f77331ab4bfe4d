import LinearSystems.Scalar
import LinearSystems.Text.Layout

/-!
# Pieces of a display

A display is built of words and numbers, and how a number is written is decided last.  So one
definition serves every notation, and `Piece.numbers` tells beforehand whether a display writes any
number at all, which matters when the notation itself may be refused.
-/

namespace LinearSystems

variable {K : Type}

inductive Piece (K : Type) where
  | word (s : String)
  | number (x : K)

namespace Piece

/-- The text of a piece when numbers are written by `num`. -/
def text (num : K → String) : Piece K → String
  | word s => s
  | number x => num x

/-- The text of a line of pieces, without anything between them. -/
def textOf (num : K → String) (pieces : List (Piece K)) : String :=
  String.join (pieces.map (text num))

/-- The numbers among the pieces. -/
def numbers (pieces : List (Piece K)) : List K :=
  pieces.filterMap fun
    | word _ => none
    | number x => some x

/-- A negative zero counts as zero where a number stands alone: adding zero removes its sign. -/
def plain [Scalar K] (x : K) : Piece K := number (x + 0)

/-- What precedes a term of a sum.  The first term carries its minus directly; every later one is joined
by a sign that stands between blanks. -/
def sign (isFirst negative : Bool) : String :=
  if isFirst then (if negative then "-" else "") else if negative then " - " else " + "

/-- One term of a sum. -/
def term [Scalar K] (isFirst : Bool) (coefficient : K) (magnitude : List (Piece K))
    (name : String) : List (Piece K) :=
  word (sign isFirst (coefficient < 0)) :: magnitude ++ [word name]

/-- The magnitude of a coefficient in front of a name: nothing when it is one within tolerance. -/
def magnitude [Scalar K] (tolerance : K) (written : K → Piece K) (coefficient : K) :
    List (Piece K) :=
  let size := Scalar.abs coefficient
  if Scalar.isSmall tolerance (size - 1) then [] else [written size]

end Piece

end LinearSystems
