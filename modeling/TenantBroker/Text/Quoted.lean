import TenantBroker.Text.Hex
import TenantBroker.Text.Printable

/-!
# Quoted text

Text inside a message stands between single quotes, or between double quotes when it holds a single
quote and no double one. The quote in use and the backslash are escaped, the three common control
characters by a letter, and every other unprintable character by its number in two, four or eight
hexadecimal digits.
-/

namespace TenantBroker.Text

/-- The quote a text is written with. -/
def quoteFor (cs : List Char) : Char :=
  if '\'' ∈ cs ∧ '"' ∉ cs then '"' else '\''

/-- The number of an unprintable character, in the shortest of the three widths. -/
def numberEscape (c : Char) : List Char :=
  if c.toNat < 0x100 then '\\' :: 'x' :: hex 2 c.toNat
  else if c.toNat < 0x10000 then '\\' :: 'u' :: hex 4 c.toNat
  else '\\' :: 'U' :: hex 8 c.toNat

/-- One character inside quotes. -/
def quotedChar (quote c : Char) : List Char :=
  if c = quote ∨ c = '\\' then ['\\', c]
  else if c = '\n' then ['\\', 'n']
  else if c = '\r' then ['\\', 'r']
  else if c = '\t' then ['\\', 't']
  else if isPrintable c then [c]
  else numberEscape c

/-- A text between quotes, on one line and without unprintable characters. -/
def quoted (s : String) : String :=
  let quote := quoteFor s.toList
  String.ofList (quote :: s.toList.flatMap (quotedChar quote) ++ [quote])

/-- A text with every character outside of ASCII escaped by its number. -/
def escapedToAscii (s : String) : String :=
  String.ofList (s.toList.flatMap fun c ↦ if c.toNat < 0x80 then [c] else numberEscape c)

end TenantBroker.Text
