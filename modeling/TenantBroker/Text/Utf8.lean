import TenantBroker.Text.Hex

/-!
# UTF-8

Bytes are read as a list of pieces: a scalar value, or a broken run of bytes with its position and
the reason. A run is broken off where the first byte that cannot continue it stands, so reading
goes on with that byte. Strict decoding stops at the first broken run, lenient decoding puts the
replacement character in place of each.

A caller may also let through three-byte runs that spell a surrogate, as some producers write them.
A `Char` is never a surrogate, so such a run is read as the replacement character.
-/

namespace TenantBroker.Text.Utf8

/-- Why a run of bytes spells no character. -/
inductive Reason where
  | invalidStart
  | invalidContinuation
  | unexpectedEnd
  deriving DecidableEq

/-- The wording of a reason. -/
def Reason.message : Reason → String
  | .invalidStart => "invalid start byte"
  | .invalidContinuation => "invalid continuation byte"
  | .unexpectedEnd => "unexpected end of data"

/-- A run of bytes that spells no character: where it starts, its first byte, its length. -/
structure Fault where
  position : Nat
  first : UInt8
  length : Nat
  reason : Reason
  deriving DecidableEq

/-- The part of a decoding message that says which bytes are at fault. -/
def faultyBytes (position : Nat) (first : UInt8) (length : Nat) : String :=
  if length = 1 then
    "byte 0x" ++ String.ofList (hex 2 first.toNat) ++ " in position " ++ toString position
  else
    "bytes in position " ++ toString position ++ "-" ++ toString (position + length - 1)

/-- The wording of a fault. -/
def Fault.message (f : Fault) : String :=
  "'utf-8' codec can't decode " ++ faultyBytes f.position f.first f.length ++ ": " ++
    f.reason.message

/-- The replacement character. -/
def replacement : Char := '\uFFFD'

/-- What a run of bytes spells, and how many bytes stand after its first one. -/
inductive Head where
  | scalar (code : Nat) (more : Nat)
  | broken (length : Nat) (reason : Reason)
  deriving DecidableEq

/-- A byte that continues a run. -/
def isContinuation (b : UInt8) : Bool := 0x80 ≤ b.toNat && b.toNat ≤ 0xBF

/-- The bytes that may follow a first byte: no overlong form, no surrogate, nothing past U+10FFFF.
-/
def mayFollow (first second : UInt8) : Bool :=
  isContinuation second &&
    (first.toNat != 0xE0 || 0xA0 ≤ second.toNat) && (first.toNat != 0xED || second.toNat < 0xA0) &&
    (first.toNat != 0xF0 || 0x90 ≤ second.toNat) && (first.toNat != 0xF4 || second.toNat < 0x90)

/-- The six payload bits of a continuation byte. -/
def payload (b : UInt8) : Nat := b.toNat % 0x40

/-- Reads the run that begins with `first`. -/
def head (first : UInt8) (rest : List UInt8) : Head :=
  let lead := first.toNat
  if lead < 0x80 then .scalar lead 0
  else if lead < 0xC2 ∨ 0xF4 < lead then .broken 1 .invalidStart
  else
    match rest with
    | [] => .broken 1 .unexpectedEnd
    | second :: rest =>
      if !mayFollow first second then .broken 1 .invalidContinuation
      else if lead < 0xE0 then .scalar ((lead - 0xC0) * 0x40 + payload second) 1
      else
        match rest with
        | [] => .broken 2 .unexpectedEnd
        | third :: rest =>
          if !isContinuation third then .broken 2 .invalidContinuation
          else if lead < 0xF0 then
            .scalar (((lead - 0xE0) * 0x40 + payload second) * 0x40 + payload third) 2
          else
            match rest with
            | [] => .broken 3 .unexpectedEnd
            | fourth :: _ =>
              if !isContinuation fourth then .broken 3 .invalidContinuation
              else
                .scalar ((((lead - 0xF0) * 0x40 + payload second) * 0x40 + payload third) * 0x40 +
                  payload fourth) 3

/-- Three bytes that would spell a surrogate. -/
def spellsSurrogate (first : UInt8) : List UInt8 → Bool
  | second :: third :: _ =>
    first.toNat == 0xED && 0xA0 ≤ second.toNat && isContinuation second && isContinuation third
  | _ => false

/-- A part of the bytes as read. -/
inductive Piece where
  | char (c : Char)
  | fault (f : Fault)
  deriving DecidableEq

/-- The pieces of some bytes that stand at `position`, after skipping `skip` bytes that belong to
an earlier piece. -/
def piecesFrom (surrogates : Bool) : (skip position : Nat) → List UInt8 → List Piece
  | _, _, [] => []
  | skip + 1, position, _ :: rest => piecesFrom surrogates skip (position + 1) rest
  | 0, position, first :: rest =>
    if surrogates && spellsSurrogate first rest then
      .char replacement :: piecesFrom surrogates 2 (position + 1) rest
    else
      match head first rest with
      | .scalar code more =>
        .char (Char.ofNat code) :: piecesFrom surrogates more (position + 1) rest
      | .broken length reason =>
        .fault ⟨position, first, length, reason⟩ ::
          piecesFrom surrogates (length - 1) (position + 1) rest

/-- The characters of some pieces, or the first fault among them. -/
def characters : List Piece → Except Fault (List Char)
  | [] => .ok []
  | .char c :: rest => (characters rest).map (c :: ·)
  | .fault f :: _ => .error f

/-- Strict decoding. -/
def decode (bytes : List UInt8) : Except Fault (List Char) :=
  characters (piecesFrom false 0 0 bytes)

/-- Strict decoding that lets surrogates through. -/
def decodeWithSurrogates (bytes : List UInt8) : Except Fault (List Char) :=
  characters (piecesFrom true 0 0 bytes)

/-- Lenient decoding: each broken run becomes one replacement character. -/
def decodeLenient (bytes : List UInt8) : List Char :=
  (piecesFrom false 0 0 bytes).map fun
    | .char c => c
    | .fault _ => replacement

/-- The bytes of a text. -/
def encode (cs : List Char) : List UInt8 := cs.flatMap String.utf8EncodeChar

end TenantBroker.Text.Utf8
