import CloudProvider.Text.Utf8

/-!
Bytes as pairs of hexadecimal digits, written in lower case.
-/

namespace CloudProvider.Text.Hex

def digit (n : Nat) : Char := if n < 10 then Char.ofNat (48 + n) else Char.ofNat (87 + n)

def digitValue? (c : Char) : Option Nat :=
  if '0' ≤ c ∧ c ≤ '9' then some (c.toNat - 48)
  else if 'a' ≤ c ∧ c ≤ 'f' then some (c.toNat - 87)
  else if 'A' ≤ c ∧ c ≤ 'F' then some (c.toNat - 55)
  else none

def encode (bytes : Bytes) : String :=
  .ofList (bytes.flatMap fun b => [digit (b.toNat / 16), digit (b.toNat % 16)])

/-- Reads pairs of digits up to the first that is none; `done` holds what has been read, reversed. -/
def decodeFrom (done : Bytes) : List Char → Bytes
  | a :: b :: rest =>
    match digitValue? a, digitValue? b with
    | some x, some y => decodeFrom (UInt8.ofNat (16 * x + y) :: done) rest
    | _, _ => done.reverse
  | _ => done.reverse

def decode (s : String) : Bytes := decodeFrom [] s.toList

example : encode [0, 255] = "00ff" ∧ decode "00fF7" = [0, 255] := by decide

end CloudProvider.Text.Hex
