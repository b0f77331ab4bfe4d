import LinearSystems.Value.Text

/-!
# Failures made by hand

A failure of one of the library's own classes, made from a message and the details of its class.  The
details are free: a failure that is made by hand need not have a cause.
-/

namespace LinearSystems

/-- The message of a failure and its details by name. -/
structure Failure where
  faultClass : FaultClass
  message : String
  details : List (String × Value)

namespace FaultClass

/-- All classes, from the most general one on. -/
def all : List FaultClass :=
  [any, validation, dimension, shapeMismatch, degenerate, numerical, invariantViolation]

def ofName? (name : String) : Option FaultClass := all.find? fun c => c.name == name

/-- The details that failures of a class carry besides their message. -/
def detailNames : FaultClass → List String
  | shapeMismatch => ["operation", "left_shape", "right_shape"]
  | invariantViolation => ["row", "variable", "value", "tolerance"]
  | _ => []

/-- The signature of the classes with details. -/
def signature (c : FaultClass) : Signature where
  name := c.name ++ ".__init__"
  implicit := 1
  required := ["message"]
  optional := c.detailNames

/-- A failure of a class with details. -/
def makeDetailed (c : FaultClass) (a : Arguments) : Except ArgumentFault Failure := do
  c.signature.check a
  return ⟨c, ← (a.get 0 "message").display,
    c.detailNames.zipIdx.map fun (name, i) => (name, a.get (i + 1) name)⟩

/-- A failure of a class without details takes any number of values as its message, but no names. -/
def makePlain (c : FaultClass) (a : Arguments) : Except ArgumentFault Failure := do
  if !a.named.isEmpty then throw (.call (.noNames c.name))
  let message ← match a.positional with
    | [] => pure ""
    | [v] => v.display
    | vs => (Value.tuple vs).literal
  return ⟨c, message, []⟩

def make (c : FaultClass) (a : Arguments) : Except ArgumentFault Failure :=
  if c.detailNames.isEmpty then c.makePlain a else c.makeDetailed a

end FaultClass

end LinearSystems
