/-!
# Base64, strictly

Four characters of the alphabet spell three bytes; a text may end in a group of two or three
characters that padding fills up to four. Strict decoding names the first thing that is wrong with
a text. Padding that follows a whole number of groups has nothing to fill and is passed over.
-/

namespace TenantBroker.Text.Base64

/-- What is wrong with a text. -/
inductive Fault where
  | notAscii
  | leadingPadding
  | excessData
  | outsideAlphabet
  | discontinuousPadding
  | loneCharacter (count : Nat)
  | incorrectPadding
  deriving DecidableEq

/-- The wording of a fault. -/
def Fault.message : Fault → String
  | .notAscii => "string argument should contain only ASCII characters"
  | .leadingPadding => "Leading padding not allowed"
  | .excessData => "Excess data after padding"
  | .outsideAlphabet => "Only base64 data is allowed"
  | .discontinuousPadding => "Discontinuous padding not allowed"
  | .loneCharacter count =>
    "Invalid base64-encoded string: number of data characters (" ++ toString count ++
      ") cannot be 1 more than a multiple of 4"
  | .incorrectPadding => "Incorrect padding"

/-- The value of a character of the alphabet. -/
def value? (c : Char) : Option Nat :=
  if 'A' ≤ c ∧ c ≤ 'Z' then some (c.toNat - 'A'.toNat)
  else if 'a' ≤ c ∧ c ≤ 'z' then some (c.toNat - 'a'.toNat + 26)
  else if '0' ≤ c ∧ c ≤ '9' then some (c.toNat - '0'.toNat + 52)
  else if c = '+' then some 62
  else if c = '/' then some 63
  else none

/-- The bytes that a group of two, three or four values spells. -/
def groupBytes : List Nat → List UInt8
  | a :: b :: rest =>
    UInt8.ofNat (a * 4 + b / 16) ::
      match rest with
      | [] => []
      | c :: rest =>
        UInt8.ofNat (b % 16 * 16 + c / 4) ::
          match rest with
          | [] => []
          | d :: _ => [UInt8.ofNat (c % 4 * 64 + d)]
  | _ => []

/-- Decodes the rest of a text after `groups` whole groups. `group` holds the values of the group
that is open, `pads` counts the padding that follows its last character, and `padded` tells whether
any padding has been met. -/
def decodeFrom (groups : Nat) (group : List Nat) (pads : Nat) (padded : Bool) :
    List Char → Except Fault (List UInt8)
  | [] =>
    match group.length with
    | 0 => .ok []
    | 1 => .error (.loneCharacter (groups * 4 + 1))
    | _ => .error .incorrectPadding
  | c :: rest =>
    if c = '=' then
      if 2 ≤ group.length ∧ 4 ≤ group.length + (pads + 1) then
        if rest = [] then .ok (groupBytes group) else .error .excessData
      else decodeFrom groups group (if 2 ≤ group.length then pads + 1 else pads) true rest
    else
      match value? c with
      | none => .error .outsideAlphabet
      | some value =>
        if padded then .error .discontinuousPadding
        else if group.length = 3 then
          (decodeFrom (groups + 1) [] 0 padded rest).map (groupBytes (group ++ [value]) ++ ·)
        else decodeFrom groups (group ++ [value]) 0 padded rest

/-- The bytes that a text spells. -/
def decode (cs : List Char) : Except Fault (List UInt8) :=
  if cs.any fun c ↦ 0x80 ≤ c.toNat then .error .notAscii
  else if cs.head? = some '=' then .error .leadingPadding
  else decodeFrom 0 [] 0 false cs

/-- The alphabet, in the order of the values. -/
def alphabet : List Char :=
  "ABCDEFGHIJKLMNOPQRSTUVWXYZabcdefghijklmnopqrstuvwxyz0123456789+/".toList

/-- The character of a value below 64. -/
def character (value : Nat) : Char := alphabet.getD value 'A'

/-- The text that spells some bytes, padded to whole groups. -/
def encode : List UInt8 → List Char
  | [] => []
  | [a] => [character (a.toNat / 4), character (a.toNat % 4 * 16), '=', '=']
  | [a, b] =>
    [character (a.toNat / 4), character (a.toNat % 4 * 16 + b.toNat / 16),
      character (b.toNat % 16 * 4), '=']
  | a :: b :: c :: rest =>
    character (a.toNat / 4) :: character (a.toNat % 4 * 16 + b.toNat / 16) ::
      character (b.toNat % 16 * 4 + c.toNat / 64) :: character (c.toNat % 64) :: encode rest

end TenantBroker.Text.Base64
