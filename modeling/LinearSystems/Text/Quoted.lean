import LinearSystems.Text.CharClass

/-!
# Quoted text

A text between quotes, on one line and with printable characters only.  The quote is `'`, or `"` for
a text that holds `'` but not `"`.  The quote and the backslash are written with a backslash, line
breaks and tabs by their letters, and every other character that is not printable by its code point
in two, four or eight hexadecimal digits.  Byte strings follow the same rules over bytes, where only
ASCII is printable.
-/

namespace LinearSystems

namespace Text

/-- The quote for a text of which `holds` tells the characters. -/
def chooseQuote (holds : Char → Bool) : Char :=
  if holds '\'' && !holds '"' then '"' else '\''

/-- Lower-case hexadecimal digits, padded with zeros to a width. -/
def hexDigits (width n : Nat) : List Char :=
  let digits := Nat.toDigits 16 n
  List.replicate (width - digits.length) '0' ++ digits

/-- The escapes with a letter of their own. -/
def letterEscape? (c : Char) : Option Char :=
  if c = '\n' then some 'n' else if c = '\r' then some 'r' else if c = '\t' then some 't' else none

/-- One character between quotes. -/
def quoteChar (quote : Char) (printable : Char → Bool) (c : Char) : List Char :=
  if c = quote || c = '\\' then ['\\', c]
  else match letterEscape? c with
    | some letter => ['\\', letter]
    | none =>
      if printable c then [c]
      else if c.toNat < 0x100 then '\\' :: 'x' :: hexDigits 2 c.toNat
      else if c.toNat < 0x10000 then '\\' :: 'u' :: hexDigits 4 c.toNat
      else '\\' :: 'U' :: hexDigits 8 c.toNat

/-- The characters between quotes. -/
def quoteWith (printable : Char → Bool) (cs : List Char) : List Char :=
  let quote := chooseQuote fun c => cs.contains c
  quote :: cs.flatMap (quoteChar quote printable) ++ [quote]

/-- The quoted form of a text. -/
def quote (s : String) : String := String.ofList (quoteWith isPrintable s.toList)

/-- The quoted form of a byte string: a letter `b` in front, and each byte as the character of its
number. -/
def quoteBytes (bytes : List UInt8) : String :=
  let ascii (c : Char) : Bool := 32 ≤ c.toNat && c.toNat < 127
  String.ofList ('b' :: quoteWith ascii (bytes.map fun b => Char.ofNat b.toNat))

end Text

end LinearSystems
