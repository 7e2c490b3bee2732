import TypeSurvey.Text.Basic

/-!
# UTF-8

Bytes of text files. Decoding stops at the first ill-formed sequence and tells its bytes: a byte
that cannot start a sequence, a sequence cut off by the end, or the well-formed part before a byte
that does not continue it.
-/

namespace TypeSurvey.Text

abbrev Bytes := List UInt8

/-- The reasons for which bytes are not UTF-8. -/
inductive Utf8Cause
  | invalidStart
  | invalidContinuation
  | unexpectedEnd
deriving DecidableEq, Repr

/-- An ill-formed sequence: its place, its length, and its first byte. -/
structure Utf8Fault where
  position : Nat
  /-- The number of bytes that are at fault, at least one. -/
  length : Nat
  byte : UInt8
  cause : Utf8Cause
deriving DecidableEq, Repr

def Utf8Cause.message : Utf8Cause → Text
  | .invalidStart => "invalid start byte".toList
  | .invalidContinuation => "invalid continuation byte".toList
  | .unexpectedEnd => "unexpected end of data".toList

def Utf8Fault.message (fault : Utf8Fault) : Text :=
  "'utf-8' codec can't decode ".toList ++
    (if fault.length = 1 then
      "byte 0x".toList ++ ofNatBase 16 2 fault.byte.toNat ++ " in position ".toList ++
        ofNat fault.position
    else
      "bytes in position ".toList ++ ofNat fault.position ++ "-".toList ++
        ofNat (fault.position + fault.length - 1)) ++
    ": ".toList ++ fault.cause.message

def encodeChar (letter : Char) : Bytes :=
  let code := letter.toNat
  let tail (shift : Nat) : UInt8 := (0x80 + code / Nat.pow 2 shift % 64).toUInt8
  if code < 0x80 then [code.toUInt8]
  else if code < 0x800 then [(0xc0 + code / 64).toUInt8, tail 0]
  else if code < 0x10000 then [(0xe0 + code / 4096).toUInt8, tail 6, tail 0]
  else [(0xf0 + code / 262144).toUInt8, tail 12, tail 6, tail 0]

def encodeUtf8 (text : Text) : Bytes := text.flatMap encodeChar

/-- How a byte may start a sequence: the number of bytes that follow, and the bounds of the first
of them, which exclude overlong forms, surrogates and codes beyond the last. -/
def sequenceShape? (byte : Nat) : Option (Nat × Nat × Nat) :=
  if 0xc2 ≤ byte && byte ≤ 0xdf then some (1, 0x80, 0xbf)
  else if byte = 0xe0 then some (2, 0xa0, 0xbf)
  else if byte = 0xed then some (2, 0x80, 0x9f)
  else if 0xe1 ≤ byte && byte ≤ 0xef then some (2, 0x80, 0xbf)
  else if byte = 0xf0 then some (3, 0x90, 0xbf)
  else if 0xf1 ≤ byte && byte ≤ 0xf3 then some (3, 0x80, 0xbf)
  else if byte = 0xf4 then some (3, 0x80, 0x8f)
  else none

/-- A sequence that is still open: the bytes read of it, its first byte, the number of bytes to
come, the bounds of the next byte, and the code read so far. -/
structure OpenSequence where
  read : Nat
  first : UInt8
  /-- The number of bytes to come. -/
  missing : Nat
  /-- The least value of the next byte. -/
  least : Nat
  /-- The greatest value of the next byte. -/
  most : Nat
  code : Nat

/-- The decoding loop. `position` is the position of the next byte. -/
def decodeFrom (position : Nat) : Option OpenSequence → Bytes → Except Utf8Fault Text
  | none, [] => .ok []
  | some seq, [] => .error ⟨position - seq.read, seq.read, seq.first, .unexpectedEnd⟩
  | none, byte :: rest =>
    if byte.toNat < 0x80 then do
      let text ← decodeFrom (position + 1) none rest
      return Char.ofNat byte.toNat :: text
    else
      match sequenceShape? byte.toNat with
      | none => .error ⟨position, 1, byte, .invalidStart⟩
      | some (missing, least, most) =>
        let lead := byte.toNat % Nat.pow 2 (6 - missing)
        decodeFrom (position + 1) (some ⟨1, byte, missing, least, most, lead⟩) rest
  | some seq, byte :: rest =>
    if seq.least ≤ byte.toNat && byte.toNat ≤ seq.most then
      let code := seq.code * 64 + byte.toNat % 64
      if seq.missing ≤ 1 then do
        let text ← decodeFrom (position + 1) none rest
        return Char.ofNat code :: text
      else
        decodeFrom (position + 1)
          (some ⟨seq.read + 1, seq.first, seq.missing - 1, 0x80, 0xbf, code⟩) rest
    else
      .error ⟨position - seq.read, seq.read, seq.first, .invalidContinuation⟩

def decodeUtf8 (bytes : Bytes) : Except Utf8Fault Text := decodeFrom 0 none bytes

end TypeSurvey.Text
