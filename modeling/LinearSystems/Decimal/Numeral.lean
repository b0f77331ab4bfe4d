import LinearSystems.Decimal.Binary64
import LinearSystems.Text.CharClass

/-!
# Reading floats

The numerals that denote a float: a sign, then `nan`, `inf`, `infinity` in any case, or decimal
digits with an optional point and an optional exponent, blanks around the whole.  A single underscore
may stand between two digits.  Digits of every script count where the text is Unicode.

A numeral denotes the nearest float; too large a value is an infinity.
-/

namespace LinearSystems

namespace Decimal

/-- The characters without the blanks at both ends. -/
def trimBlanks (blank : Char → Bool) (cs : List Char) : List Char :=
  ((cs.dropWhile blank).reverse.dropWhile blank).reverse

/-- The characters without underscores, provided each stands between two digits. -/
def dropSeparators? : List Char → Option (List Char)
  | [] => some []
  | '_' :: _ => none
  | c :: '_' :: next :: rest =>
    if c.isDigit && next.isDigit then (dropSeparators? (next :: rest)).map (c :: ·) else none
  | [_, '_'] => none
  | c :: rest => (dropSeparators? rest).map (c :: ·)

/-- The sign, true for minus, and what follows it. -/
def splitSign : List Char → Bool × List Char
  | '-' :: rest => (true, rest)
  | '+' :: rest => (false, rest)
  | rest => (false, rest)

/-- The leading digits and what follows them. -/
def splitDigits (cs : List Char) : List Char × List Char :=
  (cs.takeWhile Char.isDigit, cs.dropWhile Char.isDigit)

/-- The number that a list of digits denotes. -/
def naturalOf (digits : List Char) : Nat := digits.foldl (fun n c => 10 * n + (c.toNat - 48)) 0

/-- The exponent that the rest of a numeral states: none is zero, and nothing may follow. -/
def exponent? : List Char → Option Int
  | [] => some 0
  | c :: rest =>
    if c = 'e' || c = 'E' then
      let (negative, rest) := splitSign rest
      let (digits, rest) := splitDigits rest
      if digits.isEmpty || !rest.isEmpty then none
      else some (if negative then -(naturalOf digits : Int) else naturalOf digits)
    else none

/-- The float nearest to `digits · 10 ^ exponent`.  Exponents far out of range are settled by the
position of the first digit alone. -/
def floatOf (digits : Nat) (exponent : Int) : Float :=
  let top := (Fraction.digitCount digits : Int) + exponent
  if digits = 0 || top < -400 then 0.0
  else if 400 < top then 1.0 / 0.0
  else Float.ofScientific digits (exponent < 0) exponent.natAbs

/-- The magnitude of a numeral in digits. -/
def magnitude? (cs : List Char) : Option Float := do
  let (whole, rest) := splitDigits cs
  let (places, rest) := match rest with
    | '.' :: rest => splitDigits rest
    | rest => ([], rest)
  if whole.isEmpty && places.isEmpty then none
  let exponent ← exponent? rest
  return floatOf (naturalOf (whole ++ places)) (exponent - places.length)

/-- The float that a bare numeral denotes: no blanks and ASCII digits only. -/
def bare? (cs : List Char) : Option Float := do
  let (negative, rest) := splitSign (← dropSeparators? cs)
  let word := String.ofList (rest.map Char.toLower)
  let magnitude ←
    if word = "inf" || word = "infinity" then some (1.0 / 0.0)
    else if word = "nan" then some (0.0 / 0.0)
    else magnitude? rest
  return if negative then -magnitude else magnitude

/-- The ASCII form of a digit of any script; other characters are left alone. -/
def asciiDigit (c : Char) : Char :=
  match Text.digitValue? c with
  | some value => Char.ofNat (48 + value)
  | none => c

/-- The float that a text denotes. -/
def ofText? (s : String) : Option Float :=
  bare? ((trimBlanks Text.isBlank s.toList).map asciiDigit)

/-- The float that a byte string denotes; only ASCII blanks and digits count. -/
def ofBytes? (bytes : List UInt8) : Option Float :=
  let blank (c : Char) : Bool := c == ' ' || (9 ≤ c.toNat && c.toNat ≤ 13)
  bare? (trimBlanks blank (bytes.map fun b => Char.ofNat b.toNat))

end Decimal

end LinearSystems
