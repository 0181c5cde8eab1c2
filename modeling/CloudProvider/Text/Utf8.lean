/-!
UTF-8. Bytes are cut into pieces: characters, runs of bytes that cannot become a character, and a
character that the end of the bytes leaves unfinished. Strict reading refuses the first piece that is
no character; lenient reading puts a replacement character for it.
-/

namespace CloudProvider.Text

abbrev Bytes := List UInt8

namespace Utf8

/-- A piece of a byte sequence; the numbers count bytes. -/
inductive Piece where
  | char (c : Char)
  | malformed (length : Nat)
  | unfinished (length : Nat)
  deriving DecidableEq, Repr

/-- A character of which `seen` bytes have been read and `owed` bytes are missing; the next must lie
between `low` and `high`, which shuts out overlong forms, surrogates and values that are too great. -/
structure Pending where
  value : Nat
  seen : Nat
  owed : Nat
  low : UInt8
  high : UInt8
  deriving DecidableEq

/-- What a byte begins where no character is pending. -/
def begin? (b : UInt8) : Option Pending :=
  let lead (mask : UInt8) (owed : Nat) (low high : UInt8) := some ⟨(b &&& mask).toNat, 1, owed, low, high⟩
  if b < 0xC2 then none
  else if b < 0xE0 then lead 0x1F 1 0x80 0xBF
  else if b = 0xE0 then lead 0x0F 2 0xA0 0xBF
  else if b = 0xED then lead 0x0F 2 0x80 0x9F
  else if b < 0xF0 then lead 0x0F 2 0x80 0xBF
  else if b = 0xF0 then lead 0x07 3 0x90 0xBF
  else if b < 0xF4 then lead 0x07 3 0x80 0xBF
  else if b = 0xF4 then lead 0x07 3 0x80 0x8F
  else none

/-- The pieces are collected in reverse. -/
def start (b : UInt8) (done : List Piece) : Option Pending × List Piece :=
  if b < 0x80 then (none, .char (Char.ofNat b.toNat) :: done)
  else match begin? b with
    | some p => (some p, done)
    | none => (none, .malformed 1 :: done)

def step (b : UInt8) : Option Pending → List Piece → Option Pending × List Piece
  | none, done => start b done
  | some p, done =>
    if p.low ≤ b && b ≤ p.high then
      let value := p.value * 64 + (b &&& 0x3F).toNat
      if p.owed ≤ 1 then (none, .char (Char.ofNat value) :: done)
      else (some ⟨value, p.seen + 1, p.owed - 1, 0x80, 0xBF⟩, done)
    else start b (.malformed p.seen :: done)

def piecesFrom (pending : Option Pending) (done : List Piece) : Bytes → List Piece
  | [] => (match pending with
      | none => done
      | some p => .unfinished p.seen :: done).reverse
  | b :: bs => let next := step b pending done; piecesFrom next.1 next.2 bs

def pieces (bs : Bytes) : List Piece := piecesFrom none [] bs

/-- Why bytes are not text: what is wrong, and the index where it begins. -/
inductive Fault where
  | malformed (length index : Nat)
  | unfinished (index : Nat)
  deriving DecidableEq, Repr

def Fault.message : Fault → String
  | .malformed length index => s!"invalid utf-8 sequence of {length} bytes from index {index}"
  | .unfinished index => s!"incomplete utf-8 byte sequence from index {index}"

def decodePieces (index : Nat) (done : List Char) : List Piece → Except Fault (List Char)
  | [] => .ok done.reverse
  | .char c :: ps => decodePieces (index + c.utf8Size) (c :: done) ps
  | .malformed length :: _ => .error (.malformed length index)
  | .unfinished _ :: _ => .error (.unfinished index)

def decode (bs : Bytes) : Except Fault String := (decodePieces 0 [] (pieces bs)).map .ofList

def Piece.shown : Piece → Char
  | .char c => c
  | _ => '\uFFFD'

def decodeLossy (bs : Bytes) : String := .ofList ((pieces bs).map Piece.shown)

def encode (s : String) : Bytes := s.toList.flatMap String.utf8EncodeChar

end Utf8
end CloudProvider.Text
