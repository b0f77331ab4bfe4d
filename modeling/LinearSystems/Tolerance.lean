import LinearSystems.Fault
import LinearSystems.Scalar

/-!
# Tolerances and requirements on input

Every container carries one tolerance, fixed when it is made, and every test "is this zero" on it
compares against that value.  `Tier` names three customary values.

The other definitions of this module are the requirements that constructors make of their input:
nonempty, finite, a positive finite tolerance, an index in range.  Each tests one property and fails
with its own cause, so the order in which a constructor calls them is the order in which causes win.
-/

namespace LinearSystems

variable {K : Type} [Scalar K]

/-- A named absolute tolerance.  The value is free: a tier is taken at its word. -/
structure Tier (K : Type) where
  value : K
  name : String
  description : String

namespace Tier

/-- For systems typed in by hand, and the library's default. -/
def default : Tier K := ⟨1e-9, "default", "Absolute tolerance for hand-entered dense systems"⟩

/-- For well-scaled systems, where small pivots mean something. -/
def strict : Tier K := ⟨1e-12, "strict", "Near machine precision, for well-scaled systems"⟩

/-- For data that comes from noisy or single-precision sources. -/
def relaxed : Tier K :=
  ⟨1e-6, "relaxed", "Loose comparison for noisy or single-precision input"⟩

/-- The named tiers, ordered by name. -/
def all : List (Tier K) := [default, relaxed, strict]

def ofName? (name : String) : Option (Tier K) := all.find? (·.name == name)

end Tier

namespace Tolerance

/-- The tolerance of a container for which none is given. -/
def default : K := (Tier.default : Tier K).value

/-- A pivot below this multiple of the tolerance is reported: whether it counts as zero depends on
the tolerance that was chosen. -/
def nearZeroFactor : K := 1e3

/-- Accepts the positive finite values and returns them unchanged. -/
def require (tolerance : K) : Except (Fault K) K :=
  if Scalar.isFinite tolerance && !decide (tolerance ≤ 0) then .ok tolerance
  else .error (.tolerance tolerance)

end Tolerance

/-- Refuses entries that are undefined or infinite, counting both. -/
def requireFinite (argument : String) (entries : List K) : Except (Fault K) Unit :=
  let undefined := entries.countP Scalar.isNaN
  let infinite := entries.countP Scalar.isInf
  if undefined = 0 ∧ infinite = 0 then .ok () else .error (.nonFinite argument undefined infinite)

omit [Scalar K] in
/-- Refuses an array of which some axis has length zero. -/
def requireNonempty (argument : String) (shape : List Nat) : Except (Fault K) Unit :=
  if 0 ∈ shape then .error (.empty argument shape) else .ok ()

omit [Scalar K] in
/-- The index itself, when it lies in range; negative indices do not count from the end. -/
def requireIndex (argument : String) (index : Int) (size : Nat) :
    Except (Fault K) (Fin size) :=
  if h : 0 ≤ index ∧ index < size then .ok ⟨index.toNat, by omega⟩
  else .error (.indexRange argument index size)

end LinearSystems
