import TenantBroker.Network.Address
import TenantBroker.Text.Quoted

/-!
# Parts of a URL

A URL is split into a scheme, an authority after two slashes, a path, a query and a fragment.
Control characters and spaces in front are dropped, tabs and line breaks anywhere. Brackets in an
authority have to enclose an address, and none of its characters may be a compatible form of the
marks that separate the parts. An empty query or fragment is as good as none, and the scheme is in
small letters.
-/

namespace TenantBroker.Network

/-- The parts of a URL. -/
structure Url where
  scheme : String
  authority : String
  path : String
  query : String
  fragment : String
  deriving DecidableEq

/-- Why a text is no URL. -/
inductive UrlFault where
  /-- Brackets do not enclose the whole host. -/
  | brackets
  /-- The address is said to be of a version to come, but it is not. -/
  | badFuture
  /-- The address is of no version. -/
  | badAddress (text : String)
  /-- An address of the fourth version stands in brackets. -/
  | bracketedFourth
  /-- The authority has a compatible form of a separating mark. -/
  | compatibleMark (authority : String)
  deriving DecidableEq

/-- The wording of a fault. -/
def UrlFault.message : UrlFault → String
  | .brackets => "Invalid IPv6 URL"
  | .badFuture => "IPvFuture address is invalid"
  | .badAddress text => Text.quoted text ++ " does not appear to be an IPv4 or IPv6 address"
  | .bracketedFourth => "An IPv4 address cannot be in brackets"
  | .compatibleMark authority =>
    "netloc '" ++ authority ++ "' contains invalid characters under NFKC normalization"

/-- Whether characters are an address of the sixth version, with or without the name of a zone. -/
def isZoned (cs : List Char) : Bool :=
  let address := cs.takeWhile (· ≠ '%')
  match cs.drop address.length with
  | [] => isSixth address
  | _ :: zone => isSixth address && !zone.isEmpty && !zone.contains '%'

/-- Checks what stands in brackets. -/
def checkBracketed (cs : List Char) : Except UrlFault Unit :=
  if cs.head? = some 'v' then
    if (futurePart? cs).isSome then .ok () else .error .badFuture
  else if isFourth cs then .error .bracketedFourth
  else if isZoned cs then .ok ()
  else .error (.badAddress (String.ofList cs))

/-- What follows the last occurrence of a character; everything if there is none. -/
def afterLast (mark : Char) (cs : List Char) : List Char :=
  (cs.reverse.takeWhile (· ≠ mark)).reverse

/-- Checks the brackets of an authority. -/
def checkBrackets (cs : List Char) : Except UrlFault Unit :=
  if cs.contains '[' != cs.contains ']' then .error .brackets
  else if !cs.contains '[' then .ok ()
  else
    let host := afterLast '@' cs
    match host.dropWhile (· ≠ '[') with
    | [] => checkBracketed (host.takeWhile (· ≠ ':'))
    | _ :: inner =>
      let after := (inner.dropWhile (· ≠ ']')).drop 1
      if host.head? ≠ some '[' then .error .brackets
      else if !after.isEmpty && after.head? ≠ some ':' then .error .brackets
      else checkBracketed (inner.takeWhile (· ≠ ']'))

/-- The characters with a compatible form that has one of the marks `/?#@:` in it. -/
def compatibleMarks : List Nat := [
  0x2047, 0x2048, 0x2049, 0x2100, 0x2101, 0x2105, 0x2106, 0x2A74, 0xFE13, 0xFE16, 0xFE55, 0xFE56,
  0xFE5F, 0xFE6B, 0xFF03, 0xFF0F, 0xFF1A, 0xFF1F, 0xFF20]

/-- Checks the characters of an authority. -/
def checkMarks (cs : List Char) : Except UrlFault Unit :=
  if cs.any fun c ↦ compatibleMarks.contains c.toNat then
    .error (.compatibleMark (String.ofList cs))
  else .ok ()

/-- A text without what is dropped from a URL. -/
def cleaned (cs : List Char) : List Char :=
  (cs.dropWhile fun c ↦ c.toNat ≤ 0x20).filter fun c ↦ c ≠ '\t' ∧ c ≠ '\r' ∧ c ≠ '\n'

/-- Whether a character can stand in a scheme. -/
def isSchemeChar (c : Char) : Bool := c.isAlphanum || c = '+' || c = '-' || c = '.'

/-- The scheme of a URL in small letters, and the rest; no scheme if the text before the first
colon is none. -/
def splitScheme (cs : List Char) : List Char × List Char :=
  let scheme := cs.takeWhile (· ≠ ':')
  match cs.drop scheme.length with
  | _ :: rest =>
    if scheme.head?.any Char.isAlpha && scheme.all isSchemeChar then
      (scheme.map Char.toLower, rest)
    else ([], cs)
  | [] => ([], cs)

/-- The authority of a URL, and the rest. -/
def splitAuthority : List Char → List Char × List Char
  | '/' :: '/' :: rest =>
    let isEnd (c : Char) : Bool := c = '/' || c = '?' || c = '#'
    (rest.takeWhile (!isEnd ·), rest.dropWhile (!isEnd ·))
  | rest => ([], rest)

/-- Characters before and after the first occurrence of one. -/
def splitMark (mark : Char) (cs : List Char) : List Char × List Char :=
  (cs.takeWhile (· ≠ mark), (cs.dropWhile (· ≠ mark)).drop 1)

/-- Splits a URL. -/
def Url.split (s : String) : Except UrlFault Url := do
  let (scheme, rest) := splitScheme (cleaned s.toList)
  let (authority, rest) := splitAuthority rest
  checkBrackets authority
  let (rest, fragment) := splitMark '#' rest
  let (path, query) := splitMark '?' rest
  checkMarks authority
  pure ⟨String.ofList scheme, String.ofList authority, String.ofList path, String.ofList query,
    String.ofList fragment⟩

end TenantBroker.Network
