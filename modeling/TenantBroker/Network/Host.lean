import TenantBroker.Network.Address

/-!
# Names of hosts in requests

A request names the host that it is for: by an address in brackets or by a name, and by a socket
number after a colon. A name has letters, digits, some marks and escapes, and is not empty. The
socket number is below 65536.
-/

namespace TenantBroker.Network

/-- The marks of a name. -/
def nameMarks : List Char := "-._~!$&'()*+,;=".toList

/-- Whether a character stands for itself in a name. -/
def isNameChar (c : Char) : Bool := c.isAlphanum || nameMarks.contains c

/-- Whether characters are the name of a host, given that they are some. -/
def isName : List Char → Bool
  | [] => true
  | '%' :: a :: b :: rest => (Text.hexValue? a).isSome && (Text.hexValue? b).isSome && isName rest
  | c :: rest => isNameChar c && isName rest

/-- Whether characters between brackets are an address. -/
def isLiteral (cs : List Char) : Bool :=
  isSixth cs || (futurePart? cs).any (·.all fun c ↦ isNameChar c || c = ':')

/-- Whether characters are a socket number after a colon, or nothing. -/
def isSocketPart : List Char → Bool
  | [] => true
  | ':' :: digits =>
    !digits.isEmpty && digits.all Char.isDigit && Number.ofDigits digits < 65536
  | _ => false

/-- Whether a text names a host, with or without a socket number. -/
def isHost (s : String) : Bool :=
  match s.toList with
  | '[' :: rest =>
    let literal := rest.takeWhile (· ≠ ']')
    match rest.drop literal.length with
    | _ :: after => isLiteral literal && isSocketPart after
    | [] => false
  | cs =>
    let name := cs.takeWhile (· ≠ ':')
    !name.isEmpty && isName name && isSocketPart (cs.drop name.length)

end TenantBroker.Network
