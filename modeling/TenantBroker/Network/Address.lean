import TenantBroker.Number.Reading
import TenantBroker.Text.Hex
import TenantBroker.Text.Percent

/-!
# Addresses of hosts

An address of the fourth version is four numbers below 256 without leading zeros. One of the sixth
version is eight groups of up to four hexadecimal digits; a double colon stands once for at least
one group of zero, and the last two groups may be written as an address of the fourth version. An
address of a version to come names that version.
-/

namespace TenantBroker.Network

/-- Whether characters are a number below 256 without leading zeros. -/
def isOctet (cs : List Char) : Bool :=
  !cs.isEmpty && cs.length ≤ 3 && cs.all Char.isDigit && (cs = ['0'] || cs.head? != some '0') &&
    Number.ofDigits cs < 256

/-- Whether characters are an address of the fourth version. -/
def isFourth (cs : List Char) : Bool :=
  let parts := Text.Percent.splitAt '.' cs
  parts.length = 4 && parts.all isOctet

/-- Whether characters are a group of an address of the sixth version. -/
def isGroup (cs : List Char) : Bool :=
  !cs.isEmpty && cs.length ≤ 4 && cs.all fun c ↦ (Text.hexValue? c).isSome

/-- The number of groups that parts of an address stand for; only the last part may be an address
of the fourth version, which stands for two. -/
def countGroups? : List (List Char) → Option Nat
  | [] => some 0
  | [part] => if isGroup part then some 1 else if isFourth part then some 2 else none
  | part :: rest => if isGroup part then (countGroups? rest).map (· + 1) else none

/-- The groups between colons; no characters are no groups. -/
def groupsOf (cs : List Char) : List (List Char) :=
  if cs.isEmpty then [] else Text.Percent.splitAt ':' cs

/-- Characters before and after the first double colon. -/
def splitGap : List Char → Option (List Char × List Char)
  | ':' :: ':' :: rest => some ([], rest)
  | c :: rest => (splitGap rest).map fun (before, after) ↦ (c :: before, after)
  | [] => none

/-- Whether characters are an address of the sixth version. -/
def isSixth (cs : List Char) : Bool :=
  match splitGap cs with
  | none => countGroups? (groupsOf cs) = some 8
  | some (before, after) =>
    let before := groupsOf before
    before.all isGroup && (countGroups? (groupsOf after)).any (before.length + · ≤ 7)

/-- What an address of a version to come says after naming the version in hexadecimal digits. -/
def futurePart? : List Char → Option (List Char)
  | 'v' :: rest =>
    let version := rest.takeWhile fun c ↦ (Text.hexValue? c).isSome
    match rest.drop version.length with
    | '.' :: part => if version.isEmpty || part.isEmpty then none else some part
    | _ => none
  | _ => none

end TenantBroker.Network
