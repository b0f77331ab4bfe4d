import LinearSystems.Object
import LinearSystems.Tensor.Basic
import LinearSystems.Value.ElementType

/-!
# Values

The values that a caller may hand to an operation, or get back from one, when nothing is known of
them beforehand: plain data, nested sequences, arrays, and the objects of this library.  Constructors
that accept "anything that reads as numbers" take a `Value`; everything behind them is typed.

The objects of the library are typed too wherever their tolerances are floats.  An object with another
tolerance is *loose* (`Value.loose`); `Value.object?` reads objects of both kinds as one, and
`Value.ofObject` makes each of them what it is.
-/

namespace LinearSystems

/-- A value of unknown sort.  `wordBool`, `wordInt` and `wordFloat` are elements of arrays that stand
on their own: numbers of a fixed machine width. -/
inductive Value where
  | none
  | bool (b : Bool)
  | int (n : Int)
  | float (x : Float)
  | wordBool (b : Bool)
  | wordInt (n : Int)
  | wordFloat (x : Float)
  | complex (re im : Float)
  | text (s : String)
  | bytes (data : List UInt8)
  | list (items : List Value)
  | tuple (items : List Value)
  | dict (entries : List (String × Value))
  | array (t : Tensor Float)
  /-- An array of elements that are no floats, or one such element. -/
  | bulk (type : ElementType) (shape : List Nat) (items : List Value)
  | kind (k : SolutionKind)
  /-- A tier of these parts, which are of any sort: nothing is asked of them when it is made. -/
  | tierOf (value name description : Value)
  | mat (a : Mat Float)
  | vec (v : Vec Float)
  | equation (e : LinearEquation Float)
  | system (s : LinearSystem Float)
  /-- A general solution of which only the numbers of directions and free variables are known to
  agree; its parts are of any sort. -/
  | parametrization (dimensions basePoint directions freeVariables : Value)
  /-- What a solver hands back, in an envelope. -/
  | outcome (payload info timing backendName warnings : Value)
  /-- The payload of such an envelope. -/
  | params (m d : Nat) (r : Report Float m d)
  | solution (s : Solution Float)
  | report (m d : Nat) (r : Report Float m d)
  | elimination (m d : Nat) (e : Elimination Float m d)
  /-- An object of which some tolerance is no float. -/
  | loose (x : Object Value)

namespace Value

/-- A tier as it is declared: its value is a float, its name and its description are texts. -/
def tier (t : Tier Float) : Value := tierOf (float t.value) (text t.name) (text t.description)

def ofNats (ns : List Nat) : Value := tuple (ns.map fun n : Nat => int n)

def ofOption (o : Option Value) : Value := o.getD none

def ofParametrization (p : Parametrization Float) : Value :=
  parametrization (int p.dimensions) (vec p.basePoint) (tuple (p.directions.map vec))
    (tuple (p.freeVariables.map int))

/-- The name of the sort of a value, as messages give it. -/
def typeName : Value → String
  | none => "NoneType"
  | bool _ => "bool"
  | int _ => "int"
  | float _ => "float"
  | wordBool _ => "bool"
  | wordInt _ => "int64"
  | wordFloat _ => "float64"
  | complex _ _ => "complex"
  | text _ => "str"
  | bytes _ => "bytes"
  | list _ => "list"
  | tuple _ => "tuple"
  | dict _ => "dict"
  | array _ => "ndarray"
  | bulk type [] _ => type.scalarName
  | bulk .. => "ndarray"
  | kind _ => "SolutionKind"
  | tierOf .. => "ToleranceTier"
  | mat _ => "Matrix"
  | vec _ => "Vector"
  | equation e =>
    match e.form with
    | .general => "LinearEquation"
    | .line => "Line"
    | .plane => "Plane"
  | system _ => "SystemDesign"
  | parametrization .. => "Parametrization"
  | outcome .. => "Result"
  | params .. => "SystemParams"
  | solution _ => "SystemSolution"
  | report .. => "EliminationReport"
  | elimination .. => "EliminationEngine"
  | loose x => x.typeName

/-- Arrays and their elements. -/
def isMachine : Value → Bool
  | wordBool _ | wordInt _ | wordFloat _ | array _ | bulk .. => true
  | _ => false

/-- The name with the library that it belongs to, for the sorts that are given so in messages. -/
def qualifiedName (v : Value) : String :=
  if v.isMachine then "numpy." ++ v.typeName else v.typeName

/-! ## Objects -/

/-- The float that a value is. -/
def float? : Value → Option Float
  | float x => some x
  | _ => .none

/-- The float nearest to a value that is a number; that of another value stands for nothing. -/
def nearest : Value → Float
  | bool b | wordBool b => if b then 1 else 0
  | int n | wordInt n => Float.ofInt n
  | float x | wordFloat x => x
  | _ => Tolerance.default

/-- The object that a value is, whatever it carries. -/
def object? : Value → Option (Object Value)
  | mat a => some (.mat (a.under (float a.tolerance)))
  | vec v => some (.vec (v.under (float v.tolerance)))
  | equation e => some (.equation (e.mapTolerance float))
  | system s => some (.system (s.mapTolerance float))
  | solution s =>
    let design := s.system.mapTolerance float
    some (.solution _ _ s.system.coefficients s.system.offsets design.tolerance design.equations
      s.report)
  | loose x => some x
  | _ => .none

/-- A typed object. -/
def ofTyped : Object Float → Value
  | .mat a => mat a
  | .vec v => vec v
  | .equation e => equation e
  | .system s => system s
  | .solution m d A b tolerance equations r => solution ⟨⟨m, d, A, b, tolerance, equations⟩, r⟩

/-- An object as a value: a typed one if all its tolerances are floats. -/
def ofObject (x : Object Value) : Value :=
  if x.tolerances.all fun t => t.float?.isSome then ofTyped (x.map nearest) else loose x

/-- The object under one tolerance throughout.  Values that are no objects have none. -/
def under (tolerance : Value) (v : Value) : Value :=
  match v.object? with
  | some x => ofObject (x.map fun _ => tolerance)
  | .none => v

def isLoose : Value → Bool
  | loose _ => true
  | _ => false

/-- The typed object with the same parts, for operations that look at no tolerance. -/
def tame : Value → Value
  | loose x => ofTyped (x.map fun _ => Tolerance.default)
  | v => v

end Value

/-! ## Objects whose tolerance is a value -/

abbrev AnyMat := Mat Float Value

abbrev AnyVec := Vec Float Value

abbrev AnyEquation := LinearEquation Float Value

abbrev AnySystem := LinearSystem Float Value

/-- The vector under the default tolerance, for operations that look at none. -/
def Vec.bare {T : Type} (v : Vec Float T) : Vec Float := v.under Tolerance.default

end LinearSystems
