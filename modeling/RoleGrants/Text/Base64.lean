/-!
# Base 64

A lenient reader: characters outside the alphabet are skipped, and reading stops at the padding
that completes a group. It fails when the digits read leave a group unfinished.
-/

namespace RoleGrants.Text

/-- The value of a base-64 digit. -/
def base64Value (c : Char) : Option Nat :=
  if 'A' ≤ c ∧ c ≤ 'Z' then some (c.toNat - 65)
  else if 'a' ≤ c ∧ c ≤ 'z' then some (c.toNat - 71)
  else if '0' ≤ c ∧ c ≤ '9' then some (c.toNat + 4)
  else if c = '+' then some 62
  else if c = '/' then some 63
  else none

/-- Reads on inside a group: how many digits of it were read, the bits left over from them, and
how many padding marks followed. -/
def base64From (digits left pads : Nat) : List Char → Option (List UInt8)
  | [] => if digits = 0 then some [] else none
  | c :: s =>
    if c = '=' then
      if 2 ≤ digits && 4 ≤ digits + pads + 1 then some []
      else base64From digits left (if 2 ≤ digits then pads + 1 else pads) s
    else
      match base64Value c with
      | none => base64From digits left pads s
      | some v =>
        match digits with
        | 0 => base64From 1 v 0 s
        | 1 => (base64From 2 (v % 16) 0 s).map (UInt8.ofNat (left * 4 + v / 16) :: ·)
        | 2 => (base64From 3 (v % 4) 0 s).map (UInt8.ofNat (left * 16 + v / 4) :: ·)
        | _ => (base64From 0 0 0 s).map (UInt8.ofNat (left * 64 + v) :: ·)

/-- The bytes that a base-64 text stands for. -/
def decodeBase64 (s : List Char) : Option (List UInt8) := base64From 0 0 0 s

end RoleGrants.Text
