import RoleGrants.Number.Numeral

/-!
# UTF-8

Reading bytes as text, and writing text as bytes. A sequence begins with a lead byte, which fixes
how many continuation bytes follow and, for four of the leads, narrows the range of the first of
them so that no character has two spellings and no surrogate is spelled. The first offending
sequence is reported with its position.
-/

namespace RoleGrants.Text

open RoleGrants.Number

/-- What is wrong with a sequence of bytes. -/
inductive Utf8Problem where
  /-- The byte begins no sequence. -/
  | invalidStart
  /-- A continuation byte is expected and another byte stands there. -/
  | invalidContinuation
  /-- The bytes end inside a sequence. -/
  | unexpectedEnd
  deriving DecidableEq, Repr

/-- An offending sequence: where it begins, its first byte, and how many bytes it takes. -/
structure Utf8Fault where
  position : Nat
  first : UInt8
  length : Nat
  problem : Utf8Problem
  deriving DecidableEq, Repr

/-- The wording of a problem. -/
def Utf8Problem.wording : Utf8Problem → String
  | .invalidStart => "invalid start byte"
  | .invalidContinuation => "invalid continuation byte"
  | .unexpectedEnd => "unexpected end of data"

/-- The message of a fault: one byte is shown by its value, several by their positions. -/
def Utf8Fault.message (f : Utf8Fault) : String :=
  if f.length = 1 then
    "'utf-8' codec can't decode byte 0x" ++ String.ofList (hexadecimal 2 f.first.toNat)
      ++ " in position " ++ String.ofList (decimal f.position) ++ ": " ++ f.problem.wording
  else
    "'utf-8' codec can't decode bytes in position " ++ String.ofList (decimal f.position) ++ "-"
      ++ String.ofList (decimal (f.position + f.length - 1)) ++ ": " ++ f.problem.wording

/-- How many continuation bytes a lead byte asks for, the payload it carries, and the bounds of the
first continuation byte. -/
def leadByte (b : Nat) : Option (Nat × Nat × Nat × Nat) :=
  if b < 0x80 then some (0, b, 0, 0)
  else if b < 0xC2 then none
  else if b < 0xE0 then some (1, b - 0xC0, 0x80, 0xBF)
  else if b < 0xF0 then
    some (2, b - 0xE0, if b = 0xE0 then 0xA0 else 0x80, if b = 0xED then 0x9F else 0xBF)
  else if b < 0xF5 then
    some (3, b - 0xF0, if b = 0xF0 then 0x90 else 0x80, if b = 0xF4 then 0x8F else 0xBF)
  else none

/-- The continuation bytes of a sequence: how many were read, and the code point when all are
there. -/
def continuation (low high : Nat) (acc : Nat) (seen : Nat) :
    Nat → List UInt8 → Except (Nat × Utf8Problem) Nat
  | 0, _ => .ok acc
  | _ + 1, [] => .error (seen, .unexpectedEnd)
  | n + 1, b :: rest =>
    if low ≤ b.toNat && b.toNat ≤ high then
      continuation 0x80 0xBF (acc * 64 + (b.toNat - 0x80)) (seen + 1) n rest
    else .error (seen, .invalidContinuation)

/-- Decodes from a position on. The number of bytes still to skip belongs to the sequence whose
lead has been read. -/
def decodeFrom (position skip : Nat) : List UInt8 → Except Utf8Fault (List Char)
  | [] => .ok []
  | b :: rest =>
    match skip with
    | n + 1 => decodeFrom (position + 1) n rest
    | 0 =>
      match leadByte b.toNat with
      | none => .error ⟨position, b, 1, .invalidStart⟩
      | some (count, payload, low, high) =>
        match continuation low high payload 1 count rest with
        | .error (seen, problem) => .error ⟨position, b, seen, problem⟩
        | .ok code =>
          match decodeFrom (position + 1) count rest with
          | .error fault => .error fault
          | .ok cs => .ok (Char.ofNat code :: cs)

/-- Reads bytes as text. -/
def decodeUtf8 (bytes : List UInt8) : Except Utf8Fault (List Char) := decodeFrom 0 0 bytes

/-- Writes text as bytes. -/
def encodeUtf8 (s : List Char) : List UInt8 := s.flatMap String.utf8EncodeChar

end RoleGrants.Text
