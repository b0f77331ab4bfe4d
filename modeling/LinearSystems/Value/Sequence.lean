import LinearSystems.Value.Number

/-!
# Sequences

What can be done with a value that may have items: iterate over it, count them, ask whether it has
any, read it as a pair or as a list of extents.  Texts and bytes are sequences of
their characters and bytes, dictionaries of their keys, and arrays of their slices.
-/

namespace LinearSystems

namespace Value

/-- What iteration over a value yields. -/
def items (v : Value) : Except SortFault (List Value) :=
  match v with
  | list xs | tuple xs => .ok xs
  | text s => .ok (s.toList.map fun c => text (String.singleton c))
  | kind k => .ok (k.name.toList.map fun c => text (String.singleton c))
  | bytes data => .ok (data.map fun b => int b.toNat)
  | dict entries => .ok (entries.map fun e => text e.1)
  | array t => if t.shape.isEmpty then .error .noAxis else .ok (t.slices.map ofTensor)
  | bulk type (n :: rest) items =>
    .ok (((⟨n :: rest, items⟩ : Tensor Value).slices).map fun t => Bulk.toValue ⟨type, t, false⟩)
  | v => .error (.notIterable v.qualifiedName)

/-- The number of items. -/
def count (v : Value) : Except SortFault Nat :=
  match v.items with
  | .ok items => .ok items.length
  | .error .noAxis => .error .unsizedArray
  | .error _ => .error (.unsized v.qualifiedName)

/-- Whether a value counts as true where a choice is asked for.  An array does only when it has a
single element. -/
def isTruthy : Value → Except SortFault Bool
  | none => .ok false
  | bool b | wordBool b => .ok b
  | int n | wordInt n => .ok (n != 0)
  | float x | wordFloat x => .ok (x != 0)
  | complex re im => .ok (re != 0 || im != 0)
  | text s => .ok (!s.isEmpty)
  | bytes data => .ok (!data.isEmpty)
  | list items | tuple items => .ok (!items.isEmpty)
  | dict entries => .ok (!entries.isEmpty)
  | array t =>
    match t.entries with
    | [x] => .ok (x != 0)
    | entries => .error (.ambiguousTruth entries.isEmpty)
  | bulk _ _ items =>
    match items with
    | [bool b] => .ok b
    | [complex re im] => .ok (re != 0 || im != 0)
    | [v] => .ok (v.toNumber?.any fun n => !n.eq (.int 0))
    | items => .error (.ambiguousTruth items.isEmpty)
  | _ => .ok true

/-- Both items of a pair. -/
def toPair (v : Value) : Except SortFault (Value × Value) :=
  match v.items with
  | .ok [a, b] => .ok (a, b)
  | .ok items =>
    .error (if items.length < 2 then .tooFewItems 2 items.length else .tooManyItems 2)
  | .error (.notIterable typeName) => .error (.notUnpackable typeName)
  | .error cause => .error cause

/-! ## Extents -/

/-- The bytes that an array takes up are counted in a machine word. -/
def byteBound : Nat := 9223372036854775808

/-- One extent.  A truth value is none, though it counts as an integer elsewhere. -/
def toExtent : Value → Except ArgumentFault Int
  | int n | wordInt n =>
    if fitsWord n then .ok n else .error .oversizedExtent
  | bool _ | wordBool _ => .error .truthValueExtent
  | array _ | bulk _ (_ :: _) _ => .error (.sort .arrayAsInteger)
  | v => .error (.sort (.notAnInteger v.qualifiedName))

/-- Refuses negative extents, and extents of an array that is too large once those before them have
made up `used` bytes.  Extents of zero are passed over. -/
def requireExtents : Nat → List Int → Except ArgumentFault Unit
  | _, [] => .ok ()
  | used, n :: rest =>
    if n < 0 then .error .negativeExtent
    else if n = 0 then requireExtents used rest
    else if used * n.toNat < byteBound then requireExtents (used * n.toNat) rest
    else .error .oversizedArray

/-- The extents that a shape argument asks for: those in a sequence, or a single one.  `room` is the
number of bytes that there is room for. -/
def toExtents (room : Nat) (v : Value) : Except ArgumentFault (List Nat) := do
  let single : Except ArgumentFault (List Int) :=
    match v.toExtent with
    | .ok n => .ok [n]
    | .error .oversizedExtent => .error .oversizedExtent
    | .error _ => .error (.notAnExtent v)
  let extents ← match v with
    | none => .error .noExtents
    | dict _ => single
    | v =>
      match v.items with
      | .error _ => single
      | .ok items =>
        if maxAxes < items.length then .error (.tooManyAxes items.length)
        else items.mapM toExtent
  requireExtents entryBytes extents
  let extents := extents.map Int.toNat
  if room ≤ entryBytes * entryCount extents then throw (.unallocatable extents)
  return extents

end Value

end LinearSystems
