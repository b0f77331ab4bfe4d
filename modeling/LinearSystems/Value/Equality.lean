import LinearSystems.Value.Text

/-!
# Equality of values

Which values count as the same where one is looked for among others.  Numbers are equal across their
sorts, texts and the names of kinds by their characters, sequences and dictionaries item by item, and
objects when they have the same parts.  An array is equal to another value place by place, so there is
no single answer unless there is a single place.

`Value.isIn` looks for a value inside another one, which has to be a text, a sequence, a dictionary or
an array.  Keys of dictionaries are found by their hash, which values that can change do not have
(`Value.requireHash`).
-/

namespace LinearSystems

namespace Value

/-- The text that a value is to a comparison. -/
def toText? : Value → Option String
  | text s => some s
  | kind k => some k.name
  | _ => .none

/-- Floats with the same bits. -/
def sameBits (xs ys : List Float) : Bool := xs.map Float.toBits == ys.map Float.toBits

/-- The same array.  Where items are compared, an array is equal to itself, although as a comparison by
places this would have no single answer. -/
def isSameArray : Value → Value → Bool
  | array s, array t => s.shape == t.shape && sameBits s.entries t.entries
  | _, _ => false

/-- Typed objects with the same parts. -/
def isSameObject : Value → Value → Bool
  | mat x, mat y =>
    x.extents == y.extents && sameBits x.elements.toList y.elements.toList &&
      sameBits [x.tolerance] [y.tolerance]
  | vec v, vec w =>
    v.extents == w.extents && sameBits v.toList w.toList && sameBits [v.tolerance] [w.tolerance]
  | equation e, equation f => shown (equation e) == shown (equation f)
  | system s, system t => shown (system s) == shown (system t)
  | params m d r, params m' d' r' => shown (params m d r) == shown (params m' d' r')
  | solution s, solution t => shown (solution s) == shown (solution t)
  | report m d r, report m' d' r' => shown (report m d r) == shown (report m' d' r')
  | _, _ => false

/-- Equality of plain values that are no sequences. -/
def isEqualPlain (a b : Value) : Bool :=
  match a.toNumber?, b.toNumber?, a.toText?, b.toText? with
  | some x, some y, _, _ => x.eq y
  | _, _, some s, some t => s == t
  | x?, y?, _, _ =>
    match a, b, x?, y? with
    | none, none, _, _ => true
    | complex re im, complex re' im', _, _ => re == re' && im == im'
    | complex re im, _, _, some y => im == 0 && y.eq (.float re)
    | _, complex re im, some x, _ => im == 0 && x.eq (.float re)
    | bytes x, bytes y, _, _ => x == y
    | loose x, loose y, _, _ =>
      a.tame.isSameObject b.tame && x.tolerances.map shown == y.tolerances.map shown
    | _, _, _, _ => a.isSameObject b

/-- Equality place by place, of operands of which one comes from an array. -/
def equalPlaces (a b : Value) : Except ArgumentFault (List Bool) := do
  let x ← a.toBulk
  let y ← b.toBulk
  let same (u v : Value) : Bool := u.isEqualPlain v
  let type := x.jointType y
  -- Elements of different kinds differ; floats beside integers are compared as floats.
  if type.isReal && !type.isInteger then
    return (← (← x.toType type).zipWith same (← y.toType type)).entries
  else return (← x.elements.zipWith same y.elements).entries

/-- Whether values are equal that hold no others. -/
def isEqualAtom (a b : Value) : Except ArgumentFault Bool := do
  if a.isMachine || b.isMachine then
    match ← equalPlaces a b with
    | [same] => return same
    | places => throw (.sort (.ambiguousTruth places.isEmpty))
  else return a.isEqualPlain b

mutual

/-- Whether two values are equal. -/
def isEqualTo : Value → Value → Except ArgumentFault Bool
  | list xs, list ys | tuple xs, tuple ys =>
    if xs.length = ys.length then areEqual xs ys else .ok false
  | dict xs, dict ys => if xs.length = ys.length then haveEqual xs ys else .ok false
  | tierOf value name description, tierOf value' name' description' => do
    if !(← isEqualTo value value') then return false
    if !(← isEqualTo name name') then return false
    isEqualTo description description'
  | parametrization d b v f, parametrization d' b' v' f' => do
    if !(← isEqualTo d d') then return false
    if !(← isEqualTo b b') then return false
    if !(← isEqualTo v v') then return false
    isEqualTo f f'
  | outcome p i t n w, outcome p' i' t' n' w' => do
    if !(← isEqualTo p p') then return false
    if !(← isEqualTo i i') then return false
    if !(← isEqualTo t t') then return false
    if !(← isEqualTo n n') then return false
    isEqualTo w w'
  | a, b => isEqualAtom a b

/-- Whether items are equal one by one. -/
def areEqual : List Value → List Value → Except ArgumentFault Bool
  | x :: xs, y :: ys => do
    if x.isSameArray y then areEqual xs ys
    else if ← isEqualTo x y then areEqual xs ys
    else return false
  | _, _ => .ok true

/-- Whether all entries of a dictionary are entries of another one. -/
def haveEqual : List (String × Value) → List (String × Value) → Except ArgumentFault Bool
  | [], _ => .ok true
  | (key, x) :: rest, ys =>
    match ys.lookup key with
    | some y => do
      if x.isSameArray y then haveEqual rest ys
      else if ← isEqualTo x y then haveEqual rest ys
      else return false
    | .none => .ok false

end

/-- The value is equal to one of the items; what follows the first such item is not looked at. -/
def isAmong (v : Value) : List Value → Except ArgumentFault Bool
  | [] => .ok false
  | item :: rest => do
    if item.isSameArray v then return true
    if ← item.isEqualTo v then return true else v.isAmong rest

/-! ## Keys -/

mutual

/-- Refuses a value that cannot be a key: one that can change, or that holds such a value. -/
def requireHash : Value → Except SortFault Unit
  | list _ => .error (.unhashable "list")
  | dict _ => .error (.unhashable "dict")
  | array _ | system _ | params .. | report .. => .error (.unhashable "numpy.ndarray")
  | bulk type shape _ =>
    if shape.isEmpty then .ok () else .error (.unhashable (bulk type shape []).qualifiedName)
  | solution _ | loose (.solution ..) => .error (.unhashable "SystemSolution")
  | loose (.system _) => .error (.unhashable "numpy.ndarray")
  | tierOf value name description => do
    requireHash value
    requireHash name
    requireHash description
  | tuple items => requireHashes items
  | parametrization d b v f => do
    requireHash d
    requireHash b
    requireHash v
    requireHash f
  | outcome p i t n w => do
    requireHash p
    requireHash i
    requireHash t
    requireHash n
    requireHash w
  | _ => .ok ()

def requireHashes : List Value → Except SortFault Unit
  | [] => .ok ()
  | v :: rest => do
    requireHash v
    requireHashes rest

end

/-- The value of a dictionary under a key. -/
def lookUp? (entries : List (String × Value)) (key : Value) : Except SortFault (Option Value) := do
  key.requireHash
  return key.toText?.bind fun name => entries.lookup name

/-! ## Containers -/

/-- The bytes of a float in memory, the lowest first. -/
def floatBytes (x : Float) : List UInt8 :=
  (List.range 8).map fun k => (x.toBits >>> (8 * k).toUInt64).toUInt8

/-- The bytes that a value lies in: those of a byte string, and those of floats in an array or out of
one. -/
def toBytes? : Value → Option (List UInt8)
  | bytes data => some data
  | wordFloat x => some (floatBytes x)
  | array t => some (t.entries.flatMap floatBytes)
  | _ => .none

/-- The value is found inside a byte string, as a byte or as a part. -/
def isInBytes (part : Value) (data : List UInt8) : Except SortFault Bool :=
  match part.toBytes?, part.toNumber? with
  | some p, _ => .ok ((List.range (data.length + 1)).any fun k => p.isPrefixOf (data.drop k))
  | _, some (.int n) =>
    if 0 ≤ n ∧ n < 256 then .ok (data.any fun b => b.toNat == n.toNat) else .error .byteRange
  | _, _ => .error (.foreignBytes part.qualifiedName)

/-- The value is found inside another one, as a part of a text or among items. -/
def isIn (part whole : Value) : Except ArgumentFault Bool :=
  match whole, whole.toText?, part.toText? with
  | _, some s, some p => .ok (Text.occursIn p s)
  | _, some _, .none => .error (.sort (.foreignPart part.qualifiedName))
  | list items, _, _ | tuple items, _, _ => part.isAmong items
  | dict entries, _, _ => do return (← lookUp? entries part).isSome
  | bytes data, _, _ => do part.isInBytes data
  | array t, _, _ => do return (← equalPlaces (array t) part).any id
  | bulk type (n :: rest) items, _, _ => do
    return (← equalPlaces (bulk type (n :: rest) items) part).any id
  | whole, _, _ => .error (.sort (.notAContainer whole.qualifiedName))

/-- The value is found inside one of the items; what follows the first such item is not looked at. -/
def isInSome (part : Value) : List Value → Except ArgumentFault Bool
  | [] => .ok false
  | whole :: rest => do if ← part.isIn whole then return true else part.isInSome rest

end Value

end LinearSystems
