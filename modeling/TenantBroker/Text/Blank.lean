/-!
# Blank characters

Three classes of blank are in use. `isBlank` holds every character that Unicode counts as white
space, the four information separators and NEL among them; the zero-width space and the byte order
mark are not blank. `isWhite` leaves the separators out. `isPlainBlank` holds the six ASCII blanks
that surround the text of a number. Trimming takes blanks from both ends and leaves the inside as it
is.
-/

namespace TenantBroker.Text

/-- White space of Unicode, separators U+001C to U+001F included. -/
def isBlank (c : Char) : Bool :=
  let n := c.toNat
  (0x09 ≤ n && n ≤ 0x0D) || (0x1C ≤ n && n ≤ 0x20) || n == 0x85 || n == 0xA0 || n == 0x1680 ||
    (0x2000 ≤ n && n ≤ 0x200A) || n == 0x2028 || n == 0x2029 || n == 0x202F || n == 0x205F ||
    n == 0x3000

/-- Tab, the four line separators of ASCII, and the space. -/
def isPlainBlank (c : Char) : Bool :=
  (0x09 ≤ c.toNat && c.toNat ≤ 0x0D) || c.toNat == 0x20

/-- White space of Unicode without those separators. -/
def isWhite (c : Char) : Bool := isBlank c && !(0x1C ≤ c.toNat && c.toNat ≤ 0x1F)

/-- The text without the characters of a class at either end. -/
def trimBoth (p : Char → Bool) (cs : List Char) : List Char :=
  ((cs.dropWhile p).reverse.dropWhile p).reverse

/-- The text without blanks at either end. -/
def trim (s : String) : String := String.ofList (trimBoth isBlank s.toList)

/-- A text without blanks has none at any place. -/
theorem forall_not_isBlank {cs : List Char} (h : cs.any isBlank = false) :
    ∀ c ∈ cs, isBlank c = false := by
  simpa using h

end TenantBroker.Text
