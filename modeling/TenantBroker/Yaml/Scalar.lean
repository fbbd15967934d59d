import TenantBroker.Text.Hex

/-!
# Texts in YAML

A text is written plain where that is unmistakable, between single quotes where it still consists
of printable ASCII characters and line breaks that no space touches, and between double quotes with
escapes otherwise. A line that has grown past 80 columns is continued on the next one at a single
space, or between double quotes also after an escape, where a backslash marks the continuation.
None of the texts written here spells a number, a date or a truth value.
-/

namespace TenantBroker.Yaml

/-- The column past which a line is continued. -/
def bestWidth : Nat := 80

/-- A line break and the indentation of the next line. -/
def lineBreak (indent : Nat) : List Char := '\n' :: List.replicate indent ' '

/-- A character that needs no escape: a printable ASCII character or a line break. -/
def isOrdinary (c : Char) : Bool := c == '\n' || (0x20 ≤ c.toNat && c.toNat ≤ 0x7E)

/-- The characters that cannot start a plain text. -/
def indicators : List Char := "#,[]\x7b\x7d&*!|>'\"%@`".toList

/-- The characters that cannot start a plain text if a space or nothing follows. -/
def looseIndicators : List Char := ['?', ':', '-']

/-- Whether a character is followed by a space or by nothing. -/
def endsWord : List Char → Bool
  | [] => true
  | c :: _ => c == ' '

/-- Whether a plain text would be cut short after its first character: by a colon before a space or
at the end, or by a number sign after a space. -/
def isCut (before : Char) : List Char → Bool
  | [] => false
  | c :: rest =>
    (c == ':' && endsWord rest) || (c == '#' && before == ' ') || isCut c rest

/-- Whether a plain text would start as something else. -/
def startsOtherwise : List Char → Bool
  | [] => true
  | c :: rest =>
    "---".toList.isPrefixOf (c :: rest) || "...".toList.isPrefixOf (c :: rest) ||
      indicators.contains c || (looseIndicators.contains c && endsWord rest)

/-- Whether a text can be written plain. -/
def isPlain (cs : List Char) : Bool :=
  cs.all (fun c ↦ isOrdinary c && c != '\n') && !startsOtherwise cs && !isCut 'x' cs &&
    cs.head? != some ' ' && cs.getLast? != some ' '

/-- Whether a space and a line break stand side by side. -/
def touches : List Char → Bool
  | a :: b :: rest =>
    (a == ' ' && b == '\n') || (a == '\n' && b == ' ') || touches (b :: rest)
  | _ => false

/-- Whether a text can be written between single quotes. -/
def isSingle (cs : List Char) : Bool := cs.all isOrdinary && !touches cs

/-- Runs of spaces, of line breaks, and of other characters. -/
def runs (cs : List Char) : List (List Char) :=
  cs.splitBy fun a b ↦ (a == ' ') == (b == ' ') && (a == '\n') == (b == '\n')

/-- Writes runs from a column on. A run of line breaks gets one more, since a single one would
count as a space; a single space between other characters is where a long line is continued. -/
def foldRuns (indent : Nat) : (isFirst : Bool) → (column : Nat) → List (List Char) → List Char
  | _, _, [] => []
  | isFirst, column, run :: rest =>
    if run.head? = some '\n' then
      '\n' :: run ++ List.replicate indent ' ' ++ foldRuns indent false indent rest
    else if run = [' '] ∧ bestWidth < column ∧ ¬ isFirst ∧ rest ≠ [] then
      lineBreak indent ++ foldRuns indent false indent rest
    else run ++ foldRuns indent false (column + run.length) rest

/-- The letters of short escapes. -/
def escapeLetters : List (Char × Char) := [
  ('\x00', '0'), ('\x07', 'a'), ('\x08', 'b'), ('\t', 't'), ('\n', 'n'), ('\x0b', 'v'),
  ('\x0c', 'f'), ('\r', 'r'), ('\x1b', 'e'), ('"', '"'), ('\\', '\\'), ('\u0085', 'N'),
  ('\u00a0', '_'), ('\u2028', 'L'), ('\u2029', 'P')]

/-- The escape of a character. -/
def escape (c : Char) : List Char :=
  match escapeLetters.lookup c with
  | some letter => ['\\', letter]
  | none =>
    if c.toNat ≤ 0xFF then '\\' :: 'x' :: Text.capitalHex 2 c.toNat
    else if c.toNat ≤ 0xFFFF then '\\' :: 'u' :: Text.capitalHex 4 c.toNat
    else '\\' :: 'U' :: Text.capitalHex 8 c.toNat

/-- Whether a character is escaped between double quotes. -/
def isEscaped (c : Char) : Bool :=
  c == '"' || c == '\\' || !(0x20 ≤ c.toNat && c.toNat ≤ 0x7E)

/-- A continuation between double quotes: a space that starts the next line is marked too. -/
def continuation (indent : Nat) (rest : List Char) : List Char × Nat :=
  if rest.head? = some ' ' then ('\\' :: lineBreak indent ++ ['\\'], indent + 1)
  else ('\\' :: lineBreak indent, indent)

/-- Writes characters between double quotes from a column on. A long line is continued after an
escape, or before a space, but neither next to the first nor next to the last character. -/
def foldDouble (indent : Nat) :
    (isFirst afterEscape : Bool) → (column : Nat) → List Char → List Char
  | _, _, _, [] => []
  | isFirst, afterEscape, column, c :: rest =>
    let inside := !isFirst && !rest.isEmpty
    if isEscaped c then
      let column := column + (escape c).length
      if inside && bestWidth < column - 1 then
        let (mark, column) := continuation indent rest
        escape c ++ mark ++ foldDouble indent false true column rest
      else escape c ++ foldDouble indent false true column rest
    else if inside && (c == ' ' || afterEscape) && bestWidth < column then
      let (mark, column) := continuation indent (c :: rest)
      mark ++ c :: foldDouble indent false false (column + 1) rest
    else c :: foldDouble indent false false (column + 1) rest

/-- A text from a column on; continued lines start at an indentation. -/
def scalar (indent column : Nat) (s : String) : List Char :=
  let cs := s.toList
  if isPlain cs then foldRuns indent true column (runs cs)
  else if isSingle cs then
    let doubled := cs.flatMap fun c ↦ if c = '\'' then ['\'', '\''] else [c]
    '\'' :: foldRuns indent true (column + 1) (runs doubled) ++ ['\'']
  else '"' :: foldDouble indent true false (column + 1) cs ++ ['"']

end TenantBroker.Yaml
