import CloudProvider.Gzip.Crc32
import CloudProvider.Gzip.Inflate

/-!
Gzip members: a header, a deflated stream, and its checksum and length. What follows the first member
of a file does not count.
-/

namespace CloudProvider.Gzip

open Text (Bytes)

/-- Takes `n` bytes. -/
def takeBytes : (n : Nat) → Bytes → Except Fault (Bytes × Bytes)
  | 0, bs => .ok ([], bs)
  | n + 1, b :: bs => do
    let (front, rest) ← takeBytes n bs
    .ok (b :: front, rest)
  | _ + 1, [] => .error .ended

/-- Takes a text up to its zero, which is longer than no header may hold after `room` bytes. -/
def takeText : (room : Nat) → Bytes → Except Fault (Bytes × Bytes)
  | _, 0 :: bs => .ok ([0], bs)
  | 0, _ :: _ => .error .headerTooLong
  | room + 1, b :: bs => do
    let (front, rest) ← takeText room bs
    .ok (b :: front, rest)
  | _, [] => .error .ended

def littleEndian : Bytes → Nat
  | [] => 0
  | b :: bs => b.toNat + 256 * littleEndian bs

/-- Takes a part of the header that a flag announces. -/
def takeIf (flag : Bool) (take : Bytes → Except Fault (Bytes × Bytes)) (bs : Bytes) :
    Except Fault (Bytes × Bytes) :=
  if flag then take bs else .ok ([], bs)

def takeExtraField (bs : Bytes) : Except Fault (Bytes × Bytes) := do
  let (size, bs) ← takeBytes 2 bs
  let (field, bs) ← takeBytes (littleEndian size) bs
  .ok (size ++ field, bs)

def fixedHeaderIsGood (header : Bytes) : Bool :=
  header.take 3 = [0x1F, 0x8B, 8] && (header.getD 3 0) &&& 0xE0 = 0

/-- Passes over a header. Its own checksum, where there is one, covers all that stands before it. -/
def skipHeader (bs : Bytes) : Except Fault Bytes := do
  let (fixed, bs) ← takeBytes 10 bs
  if ¬ fixedHeaderIsGood fixed then .error .badHeader
  else
    let flags := fixed.getD 3 0
    let (extra, bs) ← takeIf (flags &&& 4 ≠ 0) takeExtraField bs
    let (name, bs) ← takeIf (flags &&& 8 ≠ 0) (takeText 65535) bs
    let (comment, bs) ← takeIf (flags &&& 16 ≠ 0) (takeText 65535) bs
    let (check, bs) ← takeIf (flags &&& 2 ≠ 0) (takeBytes 2) bs
    if flags &&& 2 ≠ 0 ∧ (crc32 (fixed ++ extra ++ name ++ comment)).toNat % 65536 ≠ littleEndian check then
      .error .badChecksum
    else .ok bs

/-- The bytes that the first member of a file stands for. -/
def decode (bs : Bytes) : Except Fault Bytes := do
  let bs ← skipHeader bs
  let (out, bs) ← inflate bs
  let (trailer, _) ← takeBytes 8 bs
  let content := out.toList
  if littleEndian (trailer.take 4) = (crc32 content).toNat ∧
      littleEndian (trailer.drop 4) = content.length % UInt32.size then .ok content
  else .error .badChecksum

end CloudProvider.Gzip
