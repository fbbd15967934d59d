/-!
# Text for a terminal

A text may hold sequences that control a terminal: the escape character, an opening bracket,
digits, semicolons and question marks, and a letter. Where the output is no terminal they are left
out.
-/

namespace TenantBroker.Text

/-- The escape character. -/
def escape : Char := '\x1b'

/-- Whether a character can stand between the bracket and the letter of a control sequence. -/
def isControlPart (c : Char) : Bool := c.isDigit || c = ';' || c = '?'

/-- The length of the control sequence at the start of characters that follow an escape character,
zero if there is none. -/
def controlLength : List Char → Nat
  | '[' :: rest =>
    let parts := rest.takeWhile isControlPart
    if (rest.drop parts.length).head?.any Char.isAlpha then parts.length + 2 else 0
  | _ => 0

/-- Characters without the control sequences among them. `skip` counts the characters of a sequence
that are still to be passed. -/
def withoutControls : (skip : Nat) → List Char → List Char
  | _, [] => []
  | skip + 1, _ :: rest => withoutControls skip rest
  | 0, c :: rest =>
    let length := if c = escape then controlLength rest else 0
    if length = 0 then c :: withoutControls 0 rest else withoutControls length rest

/-- A text as it is written to an output, which is a terminal or not. -/
def onOutput (terminal : Bool) (s : String) : String :=
  if terminal then s else String.ofList (withoutControls 0 s.toList)

end TenantBroker.Text
