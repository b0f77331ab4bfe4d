import LinearSystems.Value.Number

/-!
# Arithmetic on values

Sums, differences, products, negatives and magnitudes of values of any sort.

*Plain* numbers follow the rules of numbers: integers are exact, an integer beside a float becomes one,
and a complex number makes the result complex.  As soon as one operand is an array or comes from one,
both are read as arrays, brought to one element type and combined entry by entry; integers then wrap
around at the ends of their machine words, and a plain number takes on the type of the array that it
meets if that is wide enough.  Where elements are objects, each pair of them is combined by itself.
-/

namespace LinearSystems

inductive Arithmetic where
  | add
  | subtract
  | multiply
deriving DecidableEq

namespace Arithmetic

def symbol : Arithmetic → String
  | add => "+"
  | subtract => "-"
  | multiply => "*"

def name : Arithmetic → String
  | add => "add"
  | subtract => "subtract"
  | multiply => "multiply"

def onInts : Arithmetic → Int → Int → Int
  | add => (· + ·)
  | subtract => (· - ·)
  | multiply => (· * ·)

def onFloats : Arithmetic → Float → Float → Float
  | add => (· + ·)
  | subtract => (· - ·)
  | multiply => (· * ·)

/-- The operation on complex numbers, by their real and imaginary parts. -/
def onComplex (op : Arithmetic) (z w : Float × Float) : Float × Float :=
  match op with
  | multiply => (z.1 * w.1 - z.2 * w.2, z.1 * w.2 + z.2 * w.1)
  | op => (op.onFloats z.1 w.1, op.onFloats z.2 w.2)

end Arithmetic

/-- An integer cut down to a signed machine word. -/
def wrapWord (n : Int) : Int := n.bmod 18446744073709551616

theorem wrapWord_of_fitsWord {n : Int} (h : fitsWord n = true) : wrapWord n = n := by
  have := fitsWord_eq_true_iff.1 h
  unfold wrapWord
  rw [Int.bmod_eq_of_le] <;> omega

/-- Every wrapped integer fits a machine word. -/
theorem fitsWord_wrapWord (n : Int) : fitsWord (wrapWord n) = true := by
  have low := Int.le_bmod (x := n) (m := 18446744073709551616) (by decide)
  have high := Int.bmod_lt (x := n) (m := 18446744073709551616) (by decide)
  rw [fitsWord_eq_true_iff, wrapWord]
  omega

namespace Bulk

/-- The element type in which two arrays are combined. -/
def jointType (a b : Bulk) : ElementType :=
  if a.isPlain && !b.isPlain then adopted b.type a
  else if b.isPlain && !a.isPlain then adopted a.type b
  else a.type.combine b.type
where
  /-- The type of an array that meets a plain number. -/
  adopted (type : ElementType) (number : Bulk) : ElementType :=
    match number.elements.entries with
    | [.int _] => if type = .bool then .int64 else type
    | _ => type.combine number.type

/-- The elements in another type.  A plain integer has to fit it, while elements of arrays are only cut
down to it. -/
def toType (type : ElementType) (b : Bulk) : Except ArgumentFault (Tensor Value) := do
  if let (true, [.int n]) := (b.isPlain, b.elements.entries) then
    if type.isInteger then
      if !fitsWord n then throw .wordOverflow
    else let _ ← Number.toFloat (.int n)
  return b.widen type

end Bulk

namespace Value

/-- Texts, bytes, lists and tuples, which can be joined and repeated. -/
def isSequence : Value → Bool
  | text _ | kind _ | bytes _ | list _ | tuple _ => true
  | bulk type [] _ => type.isText
  | _ => false

/-- What a sequence is called that something else is added to. -/
def joinedName (v : Value) : String :=
  match v with
  | kind _ => "str"
  | bulk (.text _) [] _ => "str"
  | v => v.qualifiedName

/-- What is wrong with operands that are not both numbers. -/
def refuseOperands (op : Arithmetic) (a b : Value) : SortFault :=
  match op, a.isSequence, b.isSequence with
  | .add, true, _ => .joined a.joinedName b.qualifiedName
  | .multiply, true, _ => .repetition b.qualifiedName
  | .multiply, _, true => .repetition a.qualifiedName
  | op, _, _ => .operands op.symbol a.qualifiedName b.qualifiedName

/-- Combines two plain values. -/
def combinePlain (op : Arithmetic) (a b : Value) : Except ArgumentFault Value := do
  match a.toNumber?, b.toNumber? with
  | some x, some y => return ofNumber (← Number.combine op.onInts op.onFloats x y)
  | _, _ =>
    match ← a.toComplex?, ← b.toComplex? with
    | some z, some w =>
      let (re, im) := op.onComplex z w
      return complex re im
    | _, _ => throw (.sort (refuseOperands op a b))

/-- Combines two elements of one type. -/
def combineElements (op : Arithmetic) (type : ElementType) (a b : Value) : Value :=
  match type, a, b with
  | .bool, bool p, bool q => bool (if op = .multiply then p && q else p || q)
  | .int64, int m, int n => int (wrapWord (op.onInts m n))
  | .uint64, int m, int n => int (op.onInts m n % 18446744073709551616)
  | .float, float x, float y => float (op.onFloats x y)
  | .complex, complex r s, complex t u =>
    let (re, im) := op.onComplex (r, s) (t, u)
    complex re im
  | _, a, _ => a

/-- Combines two operands of which one comes from an array. -/
def combineBulk (op : Arithmetic) (a b : Bulk) : Except ArgumentFault Bulk := do
  if a.type.isText || b.type.isText then throw (.sort (.noLoop op.name false a.type b.type))
  match a.jointType b with
  | .object =>
    let pairs ← a.elements.zipWith Prod.mk b.elements
    return ⟨.object, ⟨pairs.shape, ← pairs.entries.mapM fun (x, y) => combinePlain op x y⟩, false⟩
  | type =>
    if type = .bool ∧ op = .subtract then throw (.sort .truthDifference)
    let x ← a.toType type
    return ⟨type, ← x.zipWith (combineElements op type) (← b.toType type), false⟩

/-- A sequence cannot be taken as often as an element of an array says, unless that is an integer. -/
def requireRepetition (a b : Value) : Except SortFault Unit :=
  match a with
  | wordFloat _ => if b.isSequence then .error (.notAnInteger a.qualifiedName) else .ok ()
  | _ => .ok ()

/-- Combines two values of any sort. -/
def combine (op : Arithmetic) (a b : Value) : Except ArgumentFault Value := do
  if !a.isMachine && !b.isMachine then combinePlain op a b
  else if op = .add && a.isMachine && a.isSequence then throw (.sort (refuseOperands op a b))
  else
    if op = .multiply then
      requireRepetition a b
      requireRepetition b a
    return (← combineBulk op (← a.toBulk) (← b.toBulk)).toValue

/-- Combines a value into an array of floats, which keeps its extents and its type. -/
def combineInto (op : Arithmetic) (t : Tensor Float) (v : Value) :
    Except ArgumentFault (Tensor Float) := do
  let b ← v.toBulk
  if b.type.isText then throw (.sort (.noLoop op.name false .float b.type))
  match (⟨.float, t.map float, false⟩ : Bulk).jointType b with
  | .float =>
    let x ← b.toType .float
    t.zipInto op.onFloats (x.map elementFloat)
  | type => throw (.sort (.resultCast op.name type))

/-- The negative of a value. -/
def negate (v : Value) : Except SortFault Value :=
  match v, v.toNumber? with
  | wordBool _, _ | bulk .bool _ _, _ => .error .truthNegative
  | wordInt n, _ => .ok (wordInt (wrapWord (-n)))
  | wordFloat x, _ => .ok (wordFloat (-x))
  | array t, _ => .ok (array (t.map (-·)))
  | complex re im, _ => .ok (complex (-re) (-im))
  | _, some n => .ok (ofNumber n.neg)
  | v, .none => .error (.negation v.qualifiedName)

/-- The length of the vector from zero to a complex number.  The larger part is taken out of the root,
so that no square is too large. -/
def modulus (re im : Float) : Float :=
  let a := re.abs
  let b := im.abs
  if a.isInf || b.isInf then 1.0 / 0.0
  else
    let larger := if a < b then b else a
    let smaller := if a < b then a else b
    let ratio := smaller / larger
    if larger == 0 then 0 else larger * Float.sqrt (1 + ratio * ratio)

/-- The magnitude of a value. -/
def magnitude (v : Value) : Except ArgumentFault Value :=
  match v, v.toNumber? with
  | wordBool b, _ => .ok (wordBool b)
  | wordInt n, _ => .ok (wordInt (wrapWord n.natAbs))
  | wordFloat x, _ => .ok (wordFloat x.abs)
  | array t, _ => .ok (ofTensor (t.map Float.abs))
  | bulk .bool shape items, _ => .ok (bulk .bool shape items)
  | complex re im, _ =>
    let size := modulus re im
    if size.isInf && re.isFinite && im.isFinite then .error .magnitudeOverflow else .ok (float size)
  | _, some (.int n) => .ok (int n.natAbs)
  | _, some (.float x) => .ok (float x.abs)
  | v, .none => .error (.sort (.magnitude v.qualifiedName))

end Value

end LinearSystems
