import ShardFleet.Text.Printable
import ShardFleet.Text.Surrogate

/-!
# Quoted texts

A quoted text stands between single quotes, or between double quotes where the text has a single
quote and no double one. The quote in use and the backslash are escaped, as are line feed, carriage
return and tab; any other code point that is not printable is written in hexadecimal.
-/

namespace ShardFleet.Text

def hexPadded (width code : Nat) : List Char :=
  let digits := Nat.toDigits 16 code
  List.replicate (width - digits.length) '0' ++ digits

/-- A code takes two, four or eight digits, the fewest that hold it. -/
def escapedCode (code : Nat) : List Char :=
  if code < 0x100 then '\\' :: 'x' :: hexPadded 2 code
  else if code < 0x10000 then '\\' :: 'u' :: hexPadded 4 code
  else '\\' :: 'U' :: hexPadded 8 code

def escaped (quote : Char) (code : Nat) : List Char :=
  if code = quote.toNat ∨ code = '\\'.toNat then ['\\', Char.ofNat code]
  else if code = '\n'.toNat then ['\\', 'n']
  else if code = '\r'.toNat then ['\\', 'r']
  else if code = '\t'.toNat then ['\\', 't']
  else if isPrintable code then [Char.ofNat code]
  else escapedCode code

def quoteFor (text : List Char) : Char :=
  if text.contains '\'' && !text.contains '"' then '"' else '\''

def quoted (text : String) : String :=
  let chars := text.toList
  let quote := quoteFor chars
  String.ofList (quote :: (codePoints chars).flatMap (escaped quote) ++ [quote])

end ShardFleet.Text
