import CloudProvider.Text.Utf8

/-!
The checksum of gzip: the remainder of the bytes, least bit first, divided by a polynomial of degree 32.
-/

namespace CloudProvider.Gzip

open Text (Bytes)

/-- Shifts `n` bits out. -/
def shiftOut : (n : Nat) → UInt32 → UInt32
  | 0, crc => crc
  | n + 1, crc => shiftOut n (if crc &&& 1 = 1 then (crc >>> 1) ^^^ 0xEDB88320 else crc >>> 1)

def crcByte (crc : UInt32) (b : UInt8) : UInt32 := shiftOut 8 (crc ^^^ b.toUInt32)

def crc32 (bs : Bytes) : UInt32 := bs.foldl crcByte 0xFFFFFFFF ^^^ 0xFFFFFFFF

end CloudProvider.Gzip
