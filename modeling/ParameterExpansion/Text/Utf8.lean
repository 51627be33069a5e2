import ParameterExpansion.Text.Decimal

/-!
# UTF-8

Bytes are read strictly: a sequence that is too long for its code point, a surrogate, a code point
above U+10FFFF and a sequence that stops early are faults.  A fault names the longest start of the
bad sequence that could still have become a character.
-/

namespace ParameterExpansion.Text.Utf8

/-- Why bytes are not UTF-8. -/
inductive Reason where
  | badStart
  | badContinuation
  | endOfData
  deriving DecidableEq, Repr

/-- The words that name a reason. -/
def Reason.text : Reason → Text
  | .badStart => "invalid start byte".toList
  | .badContinuation => "invalid continuation byte".toList
  | .endOfData => "unexpected end of data".toList

/-- Bytes that are not UTF-8: where they begin, their first byte, how many, and why. -/
structure Fault where
  position : Nat
  byte : UInt8
  count : Nat
  reason : Reason
  deriving DecidableEq, Repr

/-- A fault in words: a single byte is shown, several are given by their positions. -/
def Fault.message (fault : Fault) : Text :=
  let place :=
    if fault.count = 1 then
      "byte 0x".toList ++ (Nat.toDigits 16 fault.byte.toNat).leftpad 2 '0' ++
        " in position ".toList ++ Decimal.ofNat fault.position
    else
      "bytes in position ".toList ++ Decimal.ofNat fault.position ++ ['-'] ++
        Decimal.ofNat (fault.position + fault.count - 1)
  "'utf-8' codec can't decode ".toList ++ place ++ ": ".toList ++ fault.reason.text

/--
A sequence that is not complete: its first byte, how many bytes were read, the bits they gave, how
many bytes are missing, and the bounds of the next one.
-/
structure Pending where
  first : UInt8
  read : Nat
  bits : Nat
  missing : Nat
  low : Nat
  high : Nat

/-- What a first byte above the ASCII range begins, if it can begin a sequence at all. -/
def begin? (byte : UInt8) : Option Pending :=
  let code := byte.toNat
  if code < 0xC2 then none
  else if code < 0xE0 then some ⟨byte, 1, code - 0xC0, 1, 0x80, 0xBF⟩
  else if code < 0xF0 then
    some ⟨byte, 1, code - 0xE0, 2, if code = 0xE0 then 0xA0 else 0x80,
      if code = 0xED then 0x9F else 0xBF⟩
  else if code < 0xF5 then
    some ⟨byte, 1, code - 0xF0, 3, if code = 0xF0 then 0x90 else 0x80,
      if code = 0xF4 then 0x8F else 0xBF⟩
  else none

/-- The sequence after one more byte, if that byte may come next. -/
def Pending.continue? (pending : Pending) (byte : UInt8) : Option Pending :=
  if pending.low ≤ byte.toNat ∧ byte.toNat ≤ pending.high then
    some { pending with
      read := pending.read + 1
      bits := pending.bits * 64 + (byte.toNat - 0x80)
      missing := pending.missing - 1
      low := 0x80
      high := 0xBF }
  else none

/-- A sequence that is cut off or continued wrongly. -/
def Pending.fault (position : Nat) (pending : Pending) (reason : Reason) : Fault :=
  ⟨position, pending.first, pending.read, reason⟩

/--
Read bytes, after a sequence that may be incomplete.  `position` counts the bytes before that
sequence, and `done` holds the characters read, the last first.
-/
def decodeFrom (position : Nat) (done : Text) (pending? : Option Pending) :
    List UInt8 → Except Fault Text
  | [] =>
    match pending? with
    | none => .ok done.reverse
    | some pending => .error (pending.fault position .endOfData)
  | byte :: rest =>
    match pending? with
    | none =>
      if byte < 0x80 then decodeFrom (position + 1) (Char.ofNat byte.toNat :: done) none rest
      else
        match begin? byte with
        | none => .error ⟨position, byte, 1, .badStart⟩
        | some pending => decodeFrom position done (some pending) rest
    | some pending =>
      match pending.continue? byte with
      | none => .error (pending.fault position .badContinuation)
      | some next =>
        if next.missing = 0 then
          decodeFrom (position + next.read) (Char.ofNat next.bits :: done) none rest
        else decodeFrom position done (some next) rest

/-- Read bytes as text. -/
def decode (bytes : List UInt8) : Except Fault Text :=
  decodeFrom 0 [] none bytes

/-- Write text as bytes. -/
def encode (text : Text) : List UInt8 :=
  text.flatMap String.utf8EncodeChar

end ParameterExpansion.Text.Utf8
