import CloudProvider.Text.Utf8

/-!
Percent encoding. A set names the ASCII characters that are encoded in some part of an address; all
others of ASCII are left, and what is not ASCII is always encoded, byte by byte.
-/

namespace CloudProvider.Url

/-- The ASCII characters that a part of an address does not hold as they are. -/
abbrev EncodeSet := Char → Bool

namespace EncodeSet

def control : EncodeSet := fun c => c.toNat < 0x20 || c.toNat = 0x7F

def fragment : EncodeSet := fun c => control c || c ∈ [' ', '"', '<', '>', '\x60']

def path : EncodeSet := fun c => fragment c || c ∈ ['#', '?', '\x7b', '\x7d']

def userinfo : EncodeSet := fun c =>
  path c || c ∈ ['/', ':', ';', '=', '@', '[', '\\', ']', '^', '|']

def query : EncodeSet := fun c => control c || c ∈ [' ', '"', '#', '<', '>']

def specialQuery : EncodeSet := fun c => query c || c = '\''

end EncodeSet

def upperHexDigit (n : Nat) : Char := if n < 10 then Char.ofNat (48 + n) else Char.ofNat (55 + n)

def percentByte (b : UInt8) : List Char :=
  ['%', upperHexDigit (b.toNat / 16), upperHexDigit (b.toNat % 16)]

def percentEncodeChar (set : EncodeSet) (c : Char) : List Char :=
  if c.toNat < 0x80 && !set c then [c] else (String.utf8EncodeChar c).flatMap percentByte

def percentEncode (set : EncodeSet) (cs : List Char) : List Char := cs.flatMap (percentEncodeChar set)

def hexByte? (b : UInt8) : Option UInt8 :=
  if 0x30 ≤ b ∧ b ≤ 0x39 then some (b - 0x30)
  else if 0x61 ≤ b ∧ b ≤ 0x66 then some (b - 0x57)
  else if 0x41 ≤ b ∧ b ≤ 0x46 then some (b - 0x37)
  else none

/-- A percent sign without two hexadecimal digits stands for itself. -/
def percentDecode : Text.Bytes → Text.Bytes
  | p :: a :: b :: rest =>
    match hexByte? a, hexByte? b with
    | some x, some y =>
      if p = 0x25 then (x * 16 + y) :: percentDecode rest else p :: percentDecode (a :: b :: rest)
    | _, _ => p :: percentDecode (a :: b :: rest)
  | bs => bs

end CloudProvider.Url
