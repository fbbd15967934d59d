import TenantBroker.Text.CaseTable

/-!
# Lower case

`lower` is the full lower-casing of Unicode 14: most letters go to one other letter, the capital I
with a dot goes to two characters, and a capital sigma takes its final form at the end of a word.
`foldAscii` touches the 26 ASCII capitals only; where a text is compared with an ASCII pattern that
needs no other letter the two agree, and `foldAscii` works on each character alone.
-/

namespace TenantBroker.Text

/-- Membership in a table of inclusive ranges. -/
def inRanges (ranges : List (Nat × Nat)) (c : Char) : Bool :=
  ranges.any fun (first, last) ↦ first ≤ c.toNat && c.toNat ≤ last

/-- A character that is skipped in the search for the letter beside a sigma. -/
def isCaseIgnorable (c : Char) : Bool := inRanges caseIgnorableRanges c

/-- A letter that has case. -/
def isCased (c : Char) : Bool := inRanges casedRanges c

/-- Lower case of a capital ASCII letter, any other character unchanged. -/
def foldAsciiChar (c : Char) : Char :=
  if 'A' ≤ c ∧ c ≤ 'Z' then Char.ofNat (c.toNat + 32) else c

/-- Lower case of the ASCII capitals of a text. -/
def foldAscii (s : String) : String := String.ofList (s.toList.map foldAsciiChar)

/-- The lower case of a character, by the table of simple mappings. -/
def lowerChar (c : Char) : Char :=
  let run := lowercaseRuns.find? fun run ↦
    run.first ≤ c.toNat && c.toNat ≤ run.last && (c.toNat - run.first) % run.stride == 0
  match run with
  | some run => Char.ofNat (c.toNat + run.distance).toNat
  | none => c

/-- A sigma ends a word when a cased letter stands before it and none after it, ignorable
characters aside. The first list runs backwards from the sigma. -/
def sigmaEndsWord (before after : List Char) : Bool :=
  (before.dropWhile isCaseIgnorable).head?.any isCased &&
    !(after.dropWhile isCaseIgnorable).head?.any isCased

/-- Lower case of one character between the characters before it, nearest first, and those after.
-/
def lowerAt (before : List Char) (c : Char) (after : List Char) : List Char :=
  if c = 'Σ' then [if sigmaEndsWord before after then 'ς' else 'σ']
  else if c = 'İ' then ['i', '\u0307']
  else if c.toNat < 0x80 then [foldAsciiChar c]
  else [lowerChar c]

/-- Lower case of a text that follows the given characters. -/
def lowerAfter (before : List Char) : List Char → List Char
  | [] => []
  | c :: rest => lowerAt before c rest ++ lowerAfter (c :: before) rest

/-- Lower case of a text. -/
def lower (s : String) : String := String.ofList (lowerAfter [] s.toList)

end TenantBroker.Text
