import InfixCalc.Text.Printable

/-!
# `InfixCalc.Text.Quoted`: a text between quotes, on one line

Messages show a piece of the user's text between quotes. The quotes are single, or double if the
text holds a single quote and no double one. The quote in use and the backslash are escaped by a
backslash; line feed, carriage return and tab have an escape of one letter; any other character
that is not printable is written as its code point in hexadecimal digits, two, four or eight of
them. So a quoted text never breaks a line. Any text can also be brought into ASCII: then the
characters beyond it are written as code points.
-/

set_option autoImplicit false

namespace InfixCalc.Text

/-- The number in lower case hexadecimal digits, filled up with zeros to the given width. -/
def hexadecimal (width n : Nat) : List Char :=
  let digits := Nat.toDigits 16 n
  List.replicate (width - digits.length) '0' ++ digits

/-- The escape of a character by its code point, as short as the code point allows. -/
def codePointEscape (c : Char) : List Char :=
  if c.toNat < 0x100 then '\\' :: 'x' :: hexadecimal 2 c.toNat
  else if c.toNat < 0x10000 then '\\' :: 'u' :: hexadecimal 4 c.toNat
  else '\\' :: 'U' :: hexadecimal 8 c.toNat

/-- A character as it stands between two of the given quotes. -/
def quotedChar (quote c : Char) : List Char :=
  if c = quote || c = '\\' then ['\\', c]
  else if c = '\n' then ['\\', 'n']
  else if c = '\r' then ['\\', 'r']
  else if c = '\t' then ['\\', 't']
  else if isPrintable c then [c]
  else codePointEscape c

/-- The single quote. -/
def singleQuote : Char := '\x27'

/-- The double quote. -/
def doubleQuote : Char := '\x22'

/-- The quote for a text: double only if the text holds a single quote and no double one. -/
def quoteFor (chars : List Char) : Char :=
  if singleQuote ∈ chars && doubleQuote ∉ chars then doubleQuote else singleQuote

/-- The characters between quotes. -/
def quotedChars (chars : List Char) : List Char :=
  let quote := quoteFor chars
  quote :: chars.flatMap (quotedChar quote) ++ [quote]

/-- The text between quotes. -/
def quoted (text : String) : String :=
  String.ofList (quotedChars text.toList)

/-- The text in ASCII: each character beyond it is written as its code point. -/
def inAscii (text : String) : String :=
  String.ofList (text.toList.flatMap fun c => if c.toNat < 0x80 then [c] else codePointEscape c)

/-- Quoted names and texts in pairs, between braces. -/
def quotedPairs (pairs : List (String × String)) : String :=
  let entries := pairs.map fun pair => quoted pair.1 ++ ": " ++ quoted pair.2
  "\x7b" ++ ", ".intercalate entries ++ "\x7d"

end InfixCalc.Text
