/-!
# Texts in bytes

Texts are stored in UTF-8. Bytes that are no text are refused with the place of the first
sequence that is wrong and the reason.
-/

namespace DeviceScript.Text

inductive DecodeReason where
  | invalidStart
  | invalidContinuation
  | unexpectedEnd
  deriving DecidableEq

def DecodeReason.message : DecodeReason → String
  | .invalidStart => "invalid start byte"
  | .invalidContinuation => "invalid continuation byte"
  | .unexpectedEnd => "unexpected end of data"

/-- The first wrong sequence: where it starts, its first byte, how many bytes belong to it, and
why it is wrong. -/
structure DecodeFault where
  position : Nat
  byte : Nat
  length : Nat
  reason : DecodeReason
  deriving DecidableEq

def hexByte (n : Nat) : String :=
  let digits := Nat.toDigits 16 n
  "0x" ++ String.ofList (List.replicate (2 - digits.length) '0' ++ digits)

def DecodeFault.message (fault : DecodeFault) : String :=
  "'utf-8' codec can't decode " ++
    (if fault.length = 1 then
      "byte " ++ hexByte fault.byte ++ " in position " ++ toString fault.position
    else
      "bytes in position " ++ toString fault.position ++ "-" ++
        toString (fault.position + fault.length - 1)) ++
    ": " ++ fault.reason.message

/-- The bounds that the bytes after a first byte have to keep. -/
def continuations (byte : Nat) : Option (List (Nat × Nat)) :=
  let any := (0x80, 0xbf)
  if byte < 0x80 then some []
  else if byte < 0xc2 then none
  else if byte < 0xe0 then some [any]
  else if byte = 0xe0 then some [(0xa0, 0xbf), any]
  else if byte = 0xed then some [(0x80, 0x9f), any]
  else if byte < 0xf0 then some [any, any]
  else if byte = 0xf0 then some [(0x90, 0xbf), any, any]
  else if byte < 0xf4 then some [any, any, any]
  else if byte = 0xf4 then some [(0x80, 0x8f), any, any]
  else none

def leadBits (byte : Nat) : Nat :=
  if byte < 0x80 then byte
  else if byte < 0xe0 then byte % 0x20
  else if byte < 0xf0 then byte % 0x10
  else byte % 0x08

/-- What a sequence of bytes is that is read so far: where it starts, its first byte, how many
bytes it has, its bits, and the bounds of the bytes to come. -/
structure Sequence where
  position : Nat
  byte : Nat
  length : Nat
  bits : Nat
  bounds : List (Nat × Nat)

/-- Reads bytes as a text; `pending` is the sequence that has been started. -/
def decodeFrom (pos : Nat) (pending : Option Sequence) :
    List UInt8 → Except DecodeFault (List Char)
  | [] =>
    match pending with
    | none => .ok []
    | some s => .error ⟨s.position, s.byte, s.length, .unexpectedEnd⟩
  | byte :: bytes =>
    let n := byte.toNat
    match pending with
    | some s =>
      match s.bounds with
      | [] => .error ⟨pos, n, 1, .invalidStart⟩
      | (low, high) :: bounds =>
        if low ≤ n ∧ n ≤ high then
          let bits := s.bits * 64 + n % 64
          if bounds.isEmpty then do
            return Char.ofNat bits :: (← decodeFrom (pos + 1) none bytes)
          else
            decodeFrom (pos + 1)
              (some { s with length := s.length + 1, bits, bounds }) bytes
        else .error ⟨s.position, s.byte, s.length, .invalidContinuation⟩
    | none =>
      match continuations n with
      | none => .error ⟨pos, n, 1, .invalidStart⟩
      | some [] => do return Char.ofNat n :: (← decodeFrom (pos + 1) none bytes)
      | some bounds => decodeFrom (pos + 1) (some ⟨pos, n, 1, leadBits n, bounds⟩) bytes

def decodeBytes (bytes : List UInt8) : Except DecodeFault String := do
  return String.ofList (← decodeFrom 0 none bytes)

def unifyLines : List Char → List Char
  | '\r' :: '\n' :: rest => '\n' :: unifyLines rest
  | '\r' :: rest => '\n' :: unifyLines rest
  | c :: rest => c :: unifyLines rest
  | [] => []

end DeviceScript.Text
