import LinearSystems.Text.Quoted
import LinearSystems.Value.Basic

/-!
# Signatures

What an operation calls its arguments and which of them it needs.  A call hands over values by
position and by name; `Signature.check` finds the first thing that is wrong with it, in the order in
which a reader of the call would fill the places: names that are not there or filled twice, then too
many values, then places that stay empty.
-/

namespace LinearSystems

/-- The arguments of a call, by position and by name. -/
structure Arguments where
  positional : List Value
  named : List (String × Value)

namespace Arguments

/-- The argument at a position, or of that name, or the default. -/
def get (a : Arguments) (i : Nat) (name : String) (default : Value := .none) : Value :=
  (a.positional[i]? <|> a.named.lookup name).getD default

/-- The argument of that name, or the default. -/
def keyword (a : Arguments) (name : String) (default : Value := .none) : Value :=
  (a.named.lookup name).getD default

/-- Some argument is a loose object. -/
def hasLoose (a : Arguments) : Bool :=
  a.positional.any Value.isLoose || a.named.any fun e => e.2.isLoose

/-- The arguments with typed objects in the place of loose ones. -/
def tame (a : Arguments) : Arguments :=
  ⟨a.positional.map Value.tame, a.named.map fun e => (e.1, e.2.tame)⟩

end Arguments

/-- The places of an operation: by position with or without a default, and by name alone.  `implicit`
places are filled before the call is made, and count only where places are counted.  With `takesMore`
any number of values may follow by position. -/
structure Signature where
  name : String
  implicit : Nat := 0
  required : List String := []
  optional : List String := []
  namedRequired : List String := []
  namedOptional : List String := []
  takesMore : Bool := false

/-- What is wrong with a call. -/
inductive CallFault where
  | unknownName (operation name : String)
  | filledTwice (operation name : String)
  | tooManyPositional (operation : String) (least most given namedGiven : Nat)
  | missing (operation : String) (byName : Bool) (names : List String)
  | noNames (operation : String)

namespace CallFault

/-- A plural ending where the number asks for it. -/
def ending (n : Nat) : String := if n = 1 then "" else "s"

/-- Quoted names as an enumeration. -/
def enumeration (names : List String) : String :=
  match names.map Text.quote with
  | [a, b] => a ++ " and " ++ b
  | quoted =>
    match quoted.reverse with
    | last :: a :: b :: rest => ", ".intercalate (a :: b :: rest).reverse ++ ", and " ++ last
    | _ => ", ".intercalate quoted

def message : CallFault → String
  | unknownName operation name => s!"{operation}() got an unexpected keyword argument '{name}'"
  | filledTwice operation name => s!"{operation}() got multiple values for argument '{name}'"
  | tooManyPositional operation least most given namedGiven =>
    let takes := if least < most then s!"from {least} to {most}" else toString most
    let places := if least < most then "s" else ending most
    let besides := if namedGiven = 0 then ""
      else s!" positional argument{ending given} (and {namedGiven} keyword-only " ++
        s!"argument{ending namedGiven})"
    let verb := if given = 1 && namedGiven = 0 then "was" else "were"
    s!"{operation}() takes {takes} positional argument{places} but {given}{besides} {verb} given"
  | missing operation byName names =>
    let way := if byName then "keyword-only" else "positional"
    s!"{operation}() missing {names.length} required {way} argument{ending names.length}: " ++
      enumeration names
  | noNames operation => s!"{operation}() takes no keyword arguments"

end CallFault

namespace Signature

/-- The names of all places that a value by position may fill. -/
def places (s : Signature) : List String := s.required ++ s.optional

/-- The first thing that is wrong with the names of a call. -/
def checkNames (s : Signature) (positionalCount : Nat) (names : List String) :
    Except CallFault Unit :=
  names.forM fun name =>
    if (s.places.take positionalCount).contains name then throw (.filledTwice s.name name)
    else if (s.places ++ s.namedRequired ++ s.namedOptional).contains name then pure ()
    else throw (.unknownName s.name name)

/-- The first thing that is wrong with a call. -/
def check (s : Signature) (a : Arguments) : Except CallFault Unit := do
  let given := a.positional.length
  let names := a.named.map Prod.fst
  s.checkNames given names
  if s.places.length < given && !s.takesMore then
    let byName := names.countP fun name => (s.namedRequired ++ s.namedOptional).contains name
    throw (.tooManyPositional s.name (s.implicit + s.required.length)
      (s.implicit + s.places.length) (s.implicit + given) byName)
  let absent := (s.required.drop given).filter fun name => !names.contains name
  if !absent.isEmpty then throw (.missing s.name false absent)
  let absent := s.namedRequired.filter fun name => !names.contains name
  if !absent.isEmpty then throw (.missing s.name true absent)

end Signature

end LinearSystems
