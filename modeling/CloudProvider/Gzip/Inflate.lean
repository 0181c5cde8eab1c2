import CloudProvider.Text.Utf8

/-!
Inflating: blocks of bytes that are stored, or written as codes for single bytes and for copies of what
stands further back. Codes are prefix codes given by their lengths; codes of one length are consecutive
numbers in the order of their symbols, and follow those of smaller length.
-/

namespace CloudProvider.Gzip

open Text (Bytes)

inductive Fault where
  | badHeader
  | headerTooLong
  | ended
  | corruptStream
  | badChecksum
  deriving DecidableEq, Repr

def Fault.message : Fault → String
  | .badHeader => "invalid gzip header"
  | .headerTooLong => "gzip header field too long"
  | .ended => "unexpected end of file"
  | .corruptStream => "corrupt deflate stream"
  | .badChecksum => "corrupt gzip stream does not have a matching checksum"

/-- Bytes, and the `count` bits `held` that have been taken from the byte before them. -/
structure Bits where
  held : Nat
  count : Nat
  bytes : Bytes
  deriving DecidableEq

namespace Bits

/-- Takes one bit. -/
def bit (s : Bits) : Except Fault (Nat × Bits) :=
  match s.count, s.bytes with
  | n + 1, _ => .ok (s.held % 2, ⟨s.held / 2, n, s.bytes⟩)
  | 0, b :: bs => .ok (b.toNat % 2, ⟨b.toNat / 2, 7, bs⟩)
  | 0, [] => .error .ended

/-- Takes `n` bits, the least first. -/
def take : (n : Nat) → Bits → Except Fault (Nat × Bits)
  | 0, s => .ok (0, s)
  | n + 1, s => do
    let (b, s) ← s.bit
    let (v, s) ← take n s
    .ok (b + 2 * v, s)

/-- Drops the bits up to the next byte. -/
def align (s : Bits) : Bits := ⟨0, 0, s.bytes⟩

end Bits

/-- A prefix code: how many codes there are of each length from one on, and all symbols in order. -/
structure Code where
  counts : List Nat
  symbols : Array Nat
  deriving DecidableEq

namespace Code

/-- Symbols with codes of the given length, in order. -/
def symbolsOf (lengths : List Nat) (length : Nat) : List Nat :=
  (lengths.zipIdx.filter fun e => e.1 = length).map (·.2)

/-- The room that codes take of `size`, of which codes of length one take half each. -/
def room (size : Nat) : (counts : List Nat) → Nat
  | [] => 0
  | n :: counts => n * (size / 2) + room (size / 2) counts

/-- More than one code must leave no room and take no more than there is. -/
def ofLengths? (lengths : List Nat) : Option Code :=
  let groups := (List.range 15).map fun i => symbolsOf lengths (i + 1)
  let counts := groups.map List.length
  let symbols := groups.flatten.toArray
  if room 32768 counts = 32768 ∨ symbols.size ≤ 1 then some ⟨counts, symbols⟩ else none

/-- Takes bits until they make a code. `first` is the first code of the length at hand and `index` its
place among the symbols. -/
def walk (symbols : Array Nat) (code first index : Nat) (s : Bits) :
    (counts : List Nat) → Except Fault (Nat × Bits)
  | [] => .error .corruptStream
  | n :: counts => do
    let (b, s) ← s.bit
    let code := code + b
    if code < first + n then
      match symbols[index + (code - first)]? with
      | some symbol => .ok (symbol, s)
      | none => .error .corruptStream
    else walk symbols (2 * code) (2 * (first + n)) (index + n) s counts

def decode (c : Code) (s : Bits) : Except Fault (Nat × Bits) := walk c.symbols 0 0 0 s c.counts

end Code

/-- The least length or distance of each symbol, and its extra bits. -/
def lengthTable : Array (Nat × Nat) := #[
  (3, 0), (4, 0), (5, 0), (6, 0), (7, 0), (8, 0), (9, 0), (10, 0), (11, 1), (13, 1), (15, 1), (17, 1),
  (19, 2), (23, 2), (27, 2), (31, 2), (35, 3), (43, 3), (51, 3), (59, 3), (67, 4), (83, 4), (99, 4),
  (115, 4), (131, 5), (163, 5), (195, 5), (227, 5), (258, 0)]

def distanceTable : Array (Nat × Nat) := #[
  (1, 0), (2, 0), (3, 0), (4, 0), (5, 1), (7, 1), (9, 2), (13, 2), (17, 3), (25, 3), (33, 4), (49, 4),
  (65, 5), (97, 5), (129, 6), (193, 6), (257, 7), (385, 7), (513, 8), (769, 8), (1025, 9), (1537, 9),
  (2049, 10), (3073, 10), (4097, 11), (6145, 11), (8193, 12), (12289, 12), (16385, 13), (24577, 13)]

def takeExtra (table : Array (Nat × Nat)) (i : Nat) (s : Bits) : Except Fault (Nat × Bits) :=
  match table[i]? with
  | none => .error .corruptStream
  | some (least, extra) => do
    let (v, s) ← s.take extra
    .ok (least + v, s)

/-- Copies from `distance` back; before the first byte there are zeros. -/
def copyBack (distance : Nat) : (length : Nat) → Array UInt8 → Array UInt8
  | 0, out => out
  | n + 1, out =>
    copyBack distance n (out.push (if distance ≤ out.size then out[out.size - distance]?.getD 0 else 0))

/-- What a code stands for. -/
inductive Item where
  | byte (b : UInt8)
  | stop
  | copy (length distance : Nat)

def takeItem (literals distances : Code) (s : Bits) : Except Fault (Item × Bits) := do
  let (symbol, s) ← literals.decode s
  if symbol < 256 then .ok (.byte symbol.toUInt8, s)
  else if symbol = 256 then .ok (.stop, s)
  else
    let (length, s) ← takeExtra lengthTable (symbol - 257) s
    let (symbol, s) ← distances.decode s
    let (distance, s) ← takeExtra distanceTable symbol s
    .ok (.copy length distance, s)

/-- Reads codes to the end of the block. Every code takes a bit at least. -/
def inflateCodes (literals distances : Code) : (fuel : Nat) → Bits → Array UInt8 →
    Except Fault (Bits × Array UInt8)
  | 0, _, _ => .error .ended
  | fuel + 1, s, out =>
    match takeItem literals distances s with
    | .error f => .error f
    | .ok (.byte b, s) => inflateCodes literals distances fuel s (out.push b)
    | .ok (.stop, s) => .ok (s, out)
    | .ok (.copy length distance, s) =>
      inflateCodes literals distances fuel s (copyBack distance length out)

def fixedLiterals : List Nat :=
  List.replicate 144 8 ++ List.replicate 112 9 ++ List.replicate 24 7 ++ List.replicate 8 8

def fixedDistances : List Nat := List.replicate 32 5

/-- The order in which the lengths of the codes for lengths are given. -/
def lengthOrder : List Nat := [16, 17, 18, 0, 8, 7, 9, 6, 10, 5, 11, 4, 12, 3, 13, 2, 14, 1, 15]

def takeMany (width : Nat) : (n : Nat) → Bits → Except Fault (List Nat × Bits)
  | 0, s => .ok ([], s)
  | n + 1, s => do
    let (v, s) ← s.take width
    let (vs, s) ← takeMany width n s
    .ok (v :: vs, s)

/-- Reads `n` more lengths; `done` holds those before, last first. Symbols above fifteen repeat. -/
def takeLengths (code : Code) : (fuel n : Nat) → (done : List Nat) → Bits →
    Except Fault (List Nat × Bits)
  | _, 0, done, s => .ok (done.reverse, s)
  | 0, _ + 1, _, _ => .error .ended
  | fuel + 1, n + 1, done, s => do
    let (symbol, s) ← code.decode s
    let again (value least width : Nat) (s : Bits) : Except Fault (List Nat × Bits) := do
      let (extra, s) ← s.take width
      let times := least + extra
      if n + 1 < times then .error .corruptStream
      else takeLengths code fuel (n + 1 - times) (List.replicate times value ++ done) s
    if symbol < 16 then takeLengths code fuel n (symbol :: done) s
    else if symbol = 16 then
      match done with
      | [] => .error .corruptStream
      | last :: _ => again last 3 2 s
    else if symbol = 17 then again 0 3 3 s
    else again 0 11 7 s

def codeOf (lengths : List Nat) : Except Fault Code :=
  match Code.ofLengths? lengths with
  | some c => .ok c
  | none => .error .corruptStream

/-- The codes that a block brings with it. -/
def takeCodes (s : Bits) : Except Fault (Code × Code × Bits) := do
  let (literals, s) ← s.take 5
  let (distances, s) ← s.take 5
  let (orders, s) ← s.take 4
  let literals := literals + 257
  let distances := distances + 1
  if 286 < literals ∨ 30 < distances then .error .corruptStream
  else
    let (given, s) ← takeMany 3 (orders + 4) s
    let pairs := lengthOrder.zip given
    let code ← codeOf ((List.range 19).map fun i => (pairs.lookup i).getD 0)
    let (lengths, s) ← takeLengths code (literals + distances) (literals + distances) [] s
    let first ← codeOf (lengths.take literals)
    let second ← codeOf (lengths.drop literals)
    .ok (first, second, s)

/-- Moves `n` bytes over as they are. -/
def copyStored : (n : Nat) → Bytes → Array UInt8 → Except Fault (Bits × Array UInt8)
  | 0, bs, out => .ok (⟨0, 0, bs⟩, out)
  | n + 1, b :: bs, out => copyStored n bs (out.push b)
  | _ + 1, [], _ => .error .ended

def inflateStored (s : Bits) (out : Array UInt8) : Except Fault (Bits × Array UInt8) := do
  let (length, s) ← s.align.take 16
  let (check, s) ← s.take 16
  if length + check = 0xFFFF then copyStored length s.bytes out else .error .corruptStream

def inflateBlock (s : Bits) (out : Array UInt8) : Except Fault (Bits × Array UInt8) := do
  let (kind, s) ← s.take 2
  let fuel := 8 * s.bytes.length + s.count + 1
  match kind with
  | 0 => inflateStored s out
  | 1 =>
    let literals ← codeOf fixedLiterals
    let distances ← codeOf fixedDistances
    inflateCodes literals distances fuel s out
  | 2 =>
    let (literals, distances, s) ← takeCodes s
    inflateCodes literals distances fuel s out
  | _ => .error .corruptStream

/-- Reads blocks up to the one that is marked as the last. -/
def inflateBlocks : (fuel : Nat) → Bits → Array UInt8 → Except Fault (Bits × Array UInt8)
  | 0, _, _ => .error .ended
  | fuel + 1, s, out => do
    let (last, s) ← s.bit
    let (s, out) ← inflateBlock s out
    if last = 1 then .ok (s, out) else inflateBlocks fuel s out

/-- The bytes that a stream stands for, and what follows it from the next byte on. -/
def inflate (bs : Bytes) : Except Fault (Array UInt8 × Bytes) := do
  let (s, out) ← inflateBlocks (8 * bs.length + 1) ⟨0, 0, bs⟩ #[]
  .ok (out, s.align.bytes)

end CloudProvider.Gzip
