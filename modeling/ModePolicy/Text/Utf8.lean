import ModePolicy.Text.Hex

/-!
Decoding UTF-8.

`decode` reads well-formed sequences only: no overlong forms, no surrogates, nothing above U+10FFFF.
At the first sequence that is not well-formed it reports the bytes that could not be read and why.
-/

namespace ModePolicy.Text.Utf8

/-- Why bytes cannot be decoded. -/
inductive Reason where
  | invalidStart
  /-- The sequence goes on with a byte that cannot follow. -/
  | invalidContinuation
  | unexpectedEnd
  deriving DecidableEq, Repr

/-- The wording of a reason. -/
def Reason.message : Reason → String
  | .invalidStart => "invalid start byte"
  | .invalidContinuation => "invalid continuation byte"
  | .unexpectedEnd => "unexpected end of data"

/-- The bytes that cannot be decoded: where they start, how many they are, the first of them. -/
structure DecodeError where
  start : Nat
  count : Nat
  first : UInt8
  reason : Reason
  deriving DecidableEq, Repr

/-- The wording of a report: one byte is shown, several are counted. -/
def DecodeError.message (e : DecodeError) : String :=
  if e.count == 1 then
    "'utf-8' codec can't decode byte 0x" ++ String.ofList (hexDigits e.first.toNat 2)
      ++ " in position " ++ toString e.start ++ ": " ++ e.reason.message
  else
    "'utf-8' codec can't decode bytes in position " ++ toString e.start ++ "-"
      ++ toString (e.start + e.count - 1) ++ ": " ++ e.reason.message

/-- A byte that continues a sequence. -/
def isTail (b : UInt8) : Bool := 0x80 ≤ b && b ≤ 0xBF

/-- A byte that may follow the first byte `a` of a sequence of two or more. -/
def isSecond (a b : UInt8) : Bool :=
  isTail b && !(a == 0xE0 && b < 0xA0) && !(a == 0xED && b ≥ 0xA0) && !(a == 0xF0 && b < 0x90)
    && !(a == 0xF4 && b ≥ 0x90)

/-- How many bytes a sequence has, by its first byte; none if no sequence starts so. -/
def sequenceLength? (a : UInt8) : Option Nat :=
  if a < 0x80 then some 1
  else if a < 0xC2 then none
  else if a < 0xE0 then some 2
  else if a < 0xF0 then some 3
  else if a < 0xF5 then some 4
  else none

/-- The six bits of a continuation byte. -/
def tailBits (b : UInt8) : Nat := b.toNat % 64

/-- The characters of a byte sequence, given the index of its first byte. -/
def decodeFrom (at_ : Nat) : List UInt8 → Except DecodeError (List Char)
  | [] => .ok []
  | a :: rest =>
    match sequenceLength? a with
    | none => .error ⟨at_, 1, a, .invalidStart⟩
    | some 1 => return Char.ofNat a.toNat :: (← decodeFrom (at_ + 1) rest)
    | some n =>
      match rest with
      | [] => .error ⟨at_, 1, a, .unexpectedEnd⟩
      | b :: rest =>
        if !isSecond a b then .error ⟨at_, 1, a, .invalidContinuation⟩
        else if n == 2 then
          return Char.ofNat (a.toNat % 32 * 64 + tailBits b) :: (← decodeFrom (at_ + 2) rest)
        else
          match rest with
          | [] => .error ⟨at_, 2, a, .unexpectedEnd⟩
          | c :: rest =>
            if !isTail c then .error ⟨at_, 2, a, .invalidContinuation⟩
            else if n == 3 then
              return Char.ofNat ((a.toNat % 16 * 64 + tailBits b) * 64 + tailBits c)
                :: (← decodeFrom (at_ + 3) rest)
            else
              match rest with
              | [] => .error ⟨at_, 3, a, .unexpectedEnd⟩
              | d :: rest =>
                if !isTail d then .error ⟨at_, 3, a, .invalidContinuation⟩
                else
                  let code := ((a.toNat % 8 * 64 + tailBits b) * 64 + tailBits c) * 64 + tailBits d
                  return Char.ofNat code :: (← decodeFrom (at_ + 4) rest)

/-- The characters of a byte sequence. -/
def decode (bytes : List UInt8) : Except DecodeError (List Char) := decodeFrom 0 bytes

end ModePolicy.Text.Utf8
