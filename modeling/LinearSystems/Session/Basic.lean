import LinearSystems.Session.Calls

/-!
# Sessions

A caller works with the library by requests.  A request names an operation, alone or of an object, and
hands over *terms*: data, or results of earlier requests under the names that they were kept under
(`Term`).  So no object is ever handed over that some operation has not made.

All this happens in a memory with room for a number of bytes, which is not known: `room`.

`Request.answer` is the answer to one request, `Session.step` what is kept afterwards, and `Session.run`
the answers to a list of requests.  A request that has no answer keeps nothing.
-/

namespace LinearSystems

/-- Values without parts that no operation has to make. -/
def Value.isAtom : Value → Bool
  | .none | .bool _ | .int _ | .float _ | .wordBool _ | .wordInt _ | .wordFloat _ | .complex _ _
  | .text _ | .bytes _ | .array _ | .kind _ => true
  | _ => false

/-- What a request hands over in one place. -/
inductive Term where
  /-- The result that was kept under a name. -/
  | ref (name : String)
  | atom (v : Value) (isAtom : v.isAtom = true)
  | list (items : List Term)
  | tuple (items : List Term)
  | dict (entries : List (String × Term))
  | bulk (type : ElementType) (shape : List Nat) (items : List Term)

/-- A call of an operation, on the object of a name if there is one.  The result is kept under a name
if one is given. -/
structure Request where
  operation : String
  on? : Option String := none
  positional : List Term := []
  named : List (String × Term) := []
  keep? : Option String := none

/-- Why a request has no result. -/
inductive Denial where
  /-- Nothing is kept under this name. -/
  | unbound (name : String)
  /-- There is no such operation, or not of such an object. -/
  | unknown (operation : String)
  | refusal (r : Refusal)

instance : Inhabited Denial := ⟨.unbound ""⟩

/-- A result of the library inside an answer. -/
instance : MonadLift (Except Refusal) (Except Denial) where
  monadLift result := result.mapError Denial.refusal

/-- The results that are kept, the latest first. -/
abbrev Store := List (String × Value)

namespace Store

def find (store : Store) (name : String) : Except Denial Value :=
  (store.lookup name).elim (.error (.unbound name)) .ok

end Store

namespace Term

mutual

/-- The value of a term. -/
def eval (store : Store) : Term → Except Denial Value
  | ref name => store.find name
  | atom v _ => .ok v
  | list items => .list <$> evalAll store items
  | tuple items => .tuple <$> evalAll store items
  | dict entries => .dict <$> evalEntries store entries
  | bulk type shape items => .bulk type shape <$> evalAll store items

def evalAll (store : Store) : List Term → Except Denial (List Value)
  | [] => .ok []
  | term :: rest => do return (← eval store term) :: (← evalAll store rest)

def evalEntries (store : Store) : List (String × Term) → Except Denial (List (String × Value))
  | [] => .ok []
  | (name, term) :: rest => do return (name, ← eval store term) :: (← evalEntries store rest)

end

end Term

namespace Request

/-- The values that a request hands over. -/
def arguments (store : Store) (r : Request) : Except Denial Arguments := do
  return ⟨← Term.evalAll store r.positional, ← Term.evalEntries store r.named⟩

/-- Performs an operation, alone or of a value, once its arguments fit its signature. -/
def perform (room : Nat) (on : Option Value) (operation : String) (a : Arguments) :
    Except Denial Value := do
  Signature.checkCall on operation a
  let performed := match on with
    | none => Call.function? room operation a
    | some x => Call.method? x operation a
  performed.elim (.error (.unknown operation)) fun result =>
    result.mapError fun r => .refusal r.worded

/-- The answer to a request.  Its arguments are looked at before the object. -/
def answer (room : Nat) (store : Store) (r : Request) : Except Denial Value := do
  let a ← r.arguments store
  let on ← r.on?.mapM store.find
  perform room on r.operation a

end Request

namespace Session

/-- What is kept after a request with this answer.  A result that is nothing is not kept. -/
def keep (store : Store) (r : Request) (answer : Except Denial Value) : Store :=
  match r.keep?, answer with
  | none, _ | _, .error _ | _, .ok .none => store
  | some name, .ok v => (name, v) :: store

/-- The answer to a request, and what is kept afterwards. -/
def step (room : Nat) (store : Store) (r : Request) : Except Denial Value × Store :=
  (r.answer room store, keep store r (r.answer room store))

/-- The answers to a list of requests. -/
def run (room : Nat) (store : Store) : List Request → List (Except Denial Value)
  | [] => []
  | r :: rest =>
    let (answer, kept) := step room store r
    answer :: run room kept rest

/-- What is kept after a list of requests. -/
def after (room : Nat) (store : Store) (requests : List Request) : Store :=
  requests.foldl (fun store r => (step room store r).2) store

end Session

end LinearSystems
