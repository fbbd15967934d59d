import TenantBroker.Text.Utf8

/-!
# Text in one of the Unicode encodings

A JSON document sent as bytes may be in UTF-8, UTF-16 or UTF-32. Its first bytes tell which: a byte
order mark, or the zero bytes beside an ASCII character. Surrogates that stand alone are let
through and read as the replacement character.
-/

namespace TenantBroker.Text

/-- The order of the bytes of a unit. -/
inductive ByteOrder where
  | little
  | big
  deriving DecidableEq

/-- The suffix that names a byte order. -/
def ByteOrder.name : ByteOrder → String
  | .little => "le"
  | .big => "be"

/-- A way to write text as bytes, with the number of bytes of a byte order mark in front. -/
inductive Encoding where
  | utf8 (mark : Nat)
  | utf16 (order : ByteOrder) (mark : Nat)
  | utf32 (order : ByteOrder) (mark : Nat)
  deriving DecidableEq

/-- The encoding of a document, by its first four bytes. -/
def Encoding.detect (bytes : List UInt8) : Encoding :=
  if [0x00, 0x00, 0xFE, 0xFF].isPrefixOf bytes then .utf32 .big 4
  else if [0xFF, 0xFE, 0x00, 0x00].isPrefixOf bytes then .utf32 .little 4
  else if [0xFE, 0xFF].isPrefixOf bytes then .utf16 .big 2
  else if [0xFF, 0xFE].isPrefixOf bytes then .utf16 .little 2
  else if [0xEF, 0xBB, 0xBF].isPrefixOf bytes then .utf8 3
  else
    match bytes with
    | a :: b :: c :: d :: _ =>
      if a = 0 then (if b = 0 then .utf32 .big 0 else .utf16 .big 0)
      else if b = 0 then (if c = 0 ∧ d = 0 then .utf32 .little 0 else .utf16 .little 0)
      else .utf8 0
    | [a, b] => if a = 0 then .utf16 .big 0 else if b = 0 then .utf16 .little 0 else .utf8 0
    | _ => .utf8 0

/-- Why bytes are no text in their encoding. -/
inductive DecodeFault where
  | utf8 (f : Utf8.Fault)
  | truncated (unitBits : Nat) (order : ByteOrder) (position : Nat) (first : UInt8) (length : Nat)
  | outOfRange (order : ByteOrder) (position : Nat)
  deriving DecidableEq

/-- The wording of a fault. -/
def DecodeFault.message : DecodeFault → String
  | .utf8 f => f.message
  | .truncated bits order position first length =>
    "'utf-" ++ toString bits ++ "-" ++ order.name ++ "' codec can't decode " ++
      Utf8.faultyBytes position first length ++ ": truncated data"
  | .outOfRange order position =>
    "'utf-32-" ++ order.name ++ "' codec can't decode " ++ Utf8.faultyBytes position 0 4 ++
      ": code point not in range(0x110000)"

/-- The number spelled by some bytes. -/
def unitValue (order : ByteOrder) (bytes : List UInt8) : Nat :=
  let big := match order with
    | .big => bytes
    | .little => bytes.reverse
  big.foldl (fun value b ↦ value * 0x100 + b.toNat) 0

/-- A code point as a character. A surrogate that is not one of a pair is no `Char`: all of them are
read as the replacement character, so texts that differ only there are the same text here. -/
def scalarOrReplacement (code : Nat) : Char :=
  if 0xD800 ≤ code ∧ code ≤ 0xDFFF then Utf8.replacement else Char.ofNat code

/-- The 16-bit units of some bytes that stand at `position`. -/
def units16 (order : ByteOrder) : (position : Nat) → List UInt8 → Except DecodeFault (List Nat)
  | _, [] => .ok []
  | position, [a] => .error (.truncated 16 order position a 1)
  | position, a :: b :: rest =>
    (units16 order (position + 2) rest).map (unitValue order [a, b] :: ·)

/-- The characters of 16-bit units. A high surrogate and the low one after it make one character.
-/
def joinUnits : List Nat → List Char
  | [] => []
  | [unit] => [scalarOrReplacement unit]
  | high :: low :: rest =>
    if 0xD800 ≤ high ∧ high ≤ 0xDBFF ∧ 0xDC00 ≤ low ∧ low ≤ 0xDFFF then
      Char.ofNat (0x10000 + (high - 0xD800) * 0x400 + (low - 0xDC00)) :: joinUnits rest
    else scalarOrReplacement high :: joinUnits (low :: rest)

/-- The characters of some bytes in UTF-32 that stand at `position`. -/
def decode32 (order : ByteOrder) : (position : Nat) → List UInt8 → Except DecodeFault (List Char)
  | position, a :: b :: c :: d :: rest =>
    let code := unitValue order [a, b, c, d]
    if 0x110000 ≤ code then .error (.outOfRange order position)
    else (decode32 order (position + 4) rest).map (scalarOrReplacement code :: ·)
  | _, [] => .ok []
  | position, first :: rest => .error (.truncated 32 order position first (rest.length + 1))

/-- Reads a document in the encoding that its first bytes tell, without its byte order mark. -/
def decodeDetected (bytes : List UInt8) : Except DecodeFault (List Char) :=
  match Encoding.detect bytes with
  | .utf8 mark => (Utf8.decodeWithSurrogates (bytes.drop mark)).mapError .utf8
  | .utf16 order mark => (units16 order mark (bytes.drop mark)).map joinUnits
  | .utf32 order mark => decode32 order mark (bytes.drop mark)

end TenantBroker.Text
