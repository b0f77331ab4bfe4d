import LinearSystems.Value.Arithmetic
import LinearSystems.Value.Sequence

/-!
# Comparisons of values

The order of values of any sort.  Plain numbers compare exactly, integers beside floats included, and
complex ones do not compare at all.  When an operand is an array or comes from one, both are read as
arrays and compared entry by entry, integers exactly among themselves and as floats beside floats,
complex numbers by their real parts and then by their imaginary ones.

A comparison answers with a truth value or with an array of them, so a choice that depends on it may
still fail (`Value.isTruthy`).
-/

namespace LinearSystems

inductive Comparison where
  | less
  | atLeast
deriving DecidableEq

namespace Comparison

def symbol : Comparison → String
  | less => "<"
  | atLeast => ">="

def name : Comparison → String
  | less => "less"
  | atLeast => "greater_equal"

def onNumbers : Comparison → Number → Number → Bool
  | less, a, b => Number.lt a b
  | atLeast, a, b => Number.le b a

/-- The order of complex numbers in arrays. -/
def onComplex (c : Comparison) (z w : Float × Float) : Bool :=
  match c with
  | less =>
    (z.1 < w.1 && !z.2.isNaN && !w.2.isNaN) || (z.1 == w.1 && z.2 < w.2)
  | atLeast =>
    (w.1 < z.1 && !z.2.isNaN && !w.2.isNaN) || (z.1 == w.1 && w.2 ≤ z.2)

end Comparison

namespace Value

/-- Compares two plain values. -/
def comparePlain (c : Comparison) (a b : Value) : Except SortFault Bool :=
  match a.toNumber?, b.toNumber? with
  | some x, some y => .ok (c.onNumbers x y)
  | _, _ => .error (.comparison c.symbol a.qualifiedName b.qualifiedName)

/-- Compares two elements of one type. -/
def compareElements (c : Comparison) : Value → Value → Bool
  | complex r s, complex t u => c.onComplex (r, s) (t, u)
  | a, b =>
    match a.toNumber?, b.toNumber? with
    | some x, some y => c.onNumbers x y
    | _, _ => false

/-- Compares two operands of which one comes from an array. -/
def compareBulk (c : Comparison) (a b : Bulk) : Except ArgumentFault Bulk := do
  if a.type.isText || b.type.isText then throw (.sort (.noLoop c.name true a.type b.type))
  let flags ← match a.jointType b with
    | .object =>
      let pairs ← a.elements.zipWith Prod.mk b.elements
      let flags ← (pairs.entries.mapM fun (x, y) => comparePlain c x y : Except SortFault (List Bool))
      pure ⟨pairs.shape, flags⟩
    | type =>
      -- Integers that do not fit the other's words still compare.
      if type.isInteger then a.elements.zipWith (compareElements c) b.elements
      else (← a.toType type).zipWith (compareElements c) (← b.toType type)
  return ⟨.bool, flags.map bool, false⟩

/-- Compares two values of any sort. -/
def compare (c : Comparison) (a b : Value) : Except ArgumentFault Value := do
  if a.isMachine || b.isMachine then return (← compareBulk c (← a.toBulk) (← b.toBulk)).toValue
  else return bool (← comparePlain c a b)

/-- Whether a comparison holds; one with several answers does not say. -/
def holds (c : Comparison) (a b : Value) : Except ArgumentFault Bool := do
  (← a.compare c b).isTruthy

/-- The value lies strictly within `tolerance` of zero. -/
def isZero (value tolerance : Value) : Except ArgumentFault Value := do
  let above ← (← tolerance.negate).compare .less value
  if ← above.isTruthy then value.compare .less tolerance else return above

/-- The value lies strictly within `tolerance` of `target`.  The upper bound is only formed when the
lower one holds. -/
def isClose (value target tolerance : Value) : Except ArgumentFault Value := do
  let above ← (← target.combine .subtract tolerance).compare .less value
  if ← above.isTruthy then value.compare .less (← target.combine .add tolerance) else return above

end Value

end LinearSystems
