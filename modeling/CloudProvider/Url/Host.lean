import CloudProvider.Url.Basic
import CloudProvider.Url.Punycode
import CloudProvider.Text.LowerCase
import CloudProvider.Text.Printable

/-!
Reading hosts. The host of a special scheme is a domain name or a number in one of the notations of
addresses; in a name, letter case and width do not count and what is beyond ASCII is written in
Punycode. The host of any other scheme is kept as it is.
-/

namespace CloudProvider.Url.Host

/-- Characters of names that are not seen and do not count. -/
def isIgnored (c : Char) : Bool :=
  c ∈ ['\u00AD', '\u034F', '\u180B', '\u180C', '\u180D', '\u180F', '\u200B', '\u2060', '\u2064', '\uFEFF'] ||
    '\uFE00' ≤ c && c ≤ '\uFE0F' || 0x1BCA0 ≤ c.toNat && c.toNat ≤ 0x1BCA3 ||
    0xE0100 ≤ c.toNat && c.toNat ≤ 0xE01EF

/-- The form of a character in a name. Full-width forms stand for the ASCII character, ideographic full
stops divide labels, and capitals are lowered. -/
def nameForm (c : Char) : List Char :=
  if isIgnored c then []
  else if c ∈ ['\u3002', '\uFF61'] then ['.']
  else if '\uFF01' ≤ c ∧ c ≤ '\uFF5E' then Text.lowerCaseOf (Char.ofNat (c.toNat - 0xFEE0))
  else Text.lowerCaseOf c

/-- Controls, blanks, format characters, private use and what is no character, in closed ranges. -/
def unseenRanges : List (Nat × Nat) := [
  (0, 0x20), (0x7F, 0xA0), (0x600, 0x605), (0x61C, 0x61C), (0x6DD, 0x6DD), (0x70F, 0x70F),
  (0x8E2, 0x8E2), (0x1680, 0x1680), (0x180E, 0x180E), (0x2000, 0x200F), (0x2028, 0x202F),
  (0x205F, 0x206F), (0x3000, 0x3000), (0xE000, 0xF8FF), (0xFDD0, 0xFDEF), (0xFFF0, 0xFFFF),
  (0xE0000, 0x10FFFF)]

/-- What cannot be seen, and dividers, which no name holds. -/
def isForbiddenInName (c : Char) : Bool :=
  (unseenRanges.any fun r => r.1 ≤ c.toNat && c.toNat ≤ r.2) ||
    c ∈ ['%', '#', '/', ':', '<', '>', '?', '@', '[', '\\', ']', '^', '|']

def splitOn (d : Char) (cs : List Char) : List (List Char) :=
  cs.foldr (fun c parts => if c = d then [] :: parts else match parts with
    | p :: ps => (c :: p) :: ps
    | [] => [[c]]) [[]]

/-- A label begins with a character that stands for itself, and not with one that extends another. -/
def beginsWell (label : List Char) : Bool := label.head?.all Text.isPrintable

/-- A label in ASCII. A label that claims to be written in Punycode must be so. -/
def labelToAscii (label : List Char) : Except Fault (List Char) :=
  if "xn--".toList.isPrefixOf label then
    match Punycode.decode (label.drop 4) with
    | some decoded =>
      if decoded.any (0x80 ≤ ·.toNat) && !decoded.any isForbiddenInName && beginsWell decoded &&
          decoded.flatMap nameForm == decoded then .ok label
      else .error .invalidDomain
    | none => .error .invalidDomain
  else if label.all (·.toNat < 0x80) then .ok label
  else if !beginsWell label then .error .invalidDomain
  else .ok ("xn--".toList ++ Punycode.encode label)

def labelsToAscii : List (List Char) → Except Fault (List (List Char))
  | [] => .ok []
  | l :: ls => do
    let l ← labelToAscii l
    let ls ← labelsToAscii ls
    .ok (l :: ls)

def nameToAscii (bytes : Text.Bytes) : Except Fault (List Char) :=
  match Text.Utf8.decode bytes with
  | .error _ => .error .invalidDomain
  | .ok s => do
    let cs := s.toList.flatMap nameForm
    if cs.any isForbiddenInName then .error .invalidDomain
    else
      let labels ← labelsToAscii (splitOn '.' cs)
      .ok (List.intercalate ['.'] labels)

def digitOf? (base : Nat) (c : Char) : Option Nat := do
  let d ← if '0' ≤ c ∧ c ≤ '9' then some (c.toNat - 48)
    else if 'a' ≤ c ∧ c ≤ 'f' then some (c.toNat - 87)
    else if 'A' ≤ c ∧ c ≤ 'F' then some (c.toNat - 55)
    else none
  if d < base then some d else none

def numberOf? (base : Nat) (cs : List Char) : Option Nat :=
  cs.foldl (fun n c => do let n ← n; let d ← digitOf? base c; some (n * base + d)) (some 0)

/-- A number of an address; the front tells the base, and a base without digits is zero. -/
def ipv4Number? (cs : List Char) : Option Nat :=
  match cs with
  | [] => none
  | '0' :: 'x' :: ds | '0' :: 'X' :: ds => numberOf? 16 ds
  | '0' :: d :: ds => numberOf? 8 (d :: ds)
  | ds => numberOf? 10 ds

def withoutLastEmpty (parts : List (List Char)) : List (List Char) :=
  match parts.reverse with
  | [] :: p :: ps => (p :: ps).reverse
  | _ => parts

def endsInNumber (cs : List Char) : Bool :=
  match (withoutLastEmpty (splitOn '.' cs)).getLast? with
  | some last => (!last.isEmpty && last.all Char.isDigit) || (ipv4Number? last).isSome
  | none => false

/-- Up to four numbers; the last one fills all the bytes that are left. -/
def readIpv4 (cs : List Char) : Except Fault UInt32 :=
  let parts := withoutLastEmpty (splitOn '.' cs)
  match parts.mapM ipv4Number? with
  | none => .error .invalidIpv4
  | some numbers =>
    let last := numbers.getLastD 0
    let front := numbers.dropLast
    if 4 < numbers.length ∨ front.any (255 < ·) ∨ Nat.pow 256 (4 - front.length) ≤ last then
      .error .invalidIpv4
    else
      .ok (UInt32.ofNat (front.foldr (fun n rest => n * 0x1000000 + rest / 256) 0 + last))

def ipv6Piece? (cs : List Char) : Option UInt16 :=
  if cs.isEmpty ∨ 4 < cs.length then none else (numberOf? 16 cs).map UInt16.ofNat

/-- A byte of an address at the end of a longer one, without needless zeros. -/
def plainByte? (cs : List Char) : Option Nat :=
  match cs with
  | [] => none
  | '0' :: _ :: _ => none
  | ds => (numberOf? 10 ds).filter (· < 256)

/-- Pieces between colons; the last two may be written as four bytes. -/
def ipv6Pieces? : List (List Char) → Option (List UInt16)
  | [] => some []
  | [last] =>
    if '.' ∈ last then
      match (splitOn '.' last).mapM plainByte? with
      | some [a, b, c, d] => some [UInt16.ofNat (a * 256 + b), UInt16.ofNat (c * 256 + d)]
      | _ => none
    else (ipv6Piece? last).map ([·])
  | p :: ps => do
    let p ← ipv6Piece? p
    let ps ← ipv6Pieces? ps
    some (p :: ps)

/-- Splits at the first two colons in a row. -/
def splitAtGap (before : List Char) : List Char → Option (List Char × List Char)
  | ':' :: ':' :: rest => some (before.reverse, rest)
  | c :: rest => splitAtGap (c :: before) rest
  | [] => none

def piecesOf? (cs : List Char) : Option (List UInt16) :=
  if cs.isEmpty then some [] else ipv6Pieces? (splitOn ':' cs)

/-- Two colons stand for the zeros that are missing, of which there must be some. -/
def readIpv6 (cs : List Char) : Except Fault (List UInt16) :=
  let pieces? := match splitAtGap [] cs with
    | none => (ipv6Pieces? (splitOn ':' cs)).filter (·.length = 8)
    | some (front, back) => do
      if '.' ∈ front then none
      let front ← piecesOf? front
      let back ← piecesOf? back
      if 8 ≤ front.length + back.length then none
      some (front ++ List.replicate (8 - front.length - back.length) 0 ++ back)
  match pieces? with
  | some pieces => .ok pieces
  | none => .error .invalidIpv6

/-- An address in brackets. -/
def readBracketed (cs : List Char) : Except Fault Host :=
  if cs.getLast? = some ']' then (readIpv6 cs.dropLast).map .ipv6 else .error .invalidIpv6

/-- The host of a special scheme. -/
def readSpecial (cs : List Char) : Except Fault Host :=
  match cs with
  | '[' :: rest => readBracketed rest
  | _ => do
    let name ← nameToAscii (percentDecode (cs.flatMap String.utf8EncodeChar))
    if name.isEmpty then .error .emptyHost
    else if endsInNumber name then (readIpv4 name).map .ipv4
    else .ok (.domain (.ofList name))

def isForbiddenInOther (c : Char) : Bool :=
  c.toNat ∈ [0x00, 0x09, 0x0A, 0x0D, 0x20] ||
    c ∈ ['#', '/', ':', '<', '>', '?', '@', '[', '\\', ']', '^', '|']

/-- The host of any other scheme. -/
def readOther (cs : List Char) : Except Fault Host :=
  match cs with
  | '[' :: rest => readBracketed rest
  | _ =>
    if cs.any isForbiddenInOther then .error .invalidHostCharacter
    else .ok (.domain (.ofList (percentEncode EncodeSet.control cs)))

end CloudProvider.Url.Host
