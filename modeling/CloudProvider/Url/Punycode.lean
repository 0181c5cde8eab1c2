/-!
Punycode: a label with characters beyond ASCII as a label of ASCII. The ASCII characters come first; the
others follow in the order of their code points, each as the number of insertions that would come before
it if all were tried in order. The numbers are written to a base of 36 with the least digit first, and
digits below a threshold, which follows the size of the numbers seen so far, end a number.
-/

namespace CloudProvider.Url.Punycode

def digit (n : Nat) : Char := if n < 26 then Char.ofNat (97 + n) else Char.ofNat (22 + n)

def digitValue? (c : Char) : Option Nat :=
  if 'a' ≤ c ∧ c ≤ 'z' then some (c.toNat - 97)
  else if 'A' ≤ c ∧ c ≤ 'Z' then some (c.toNat - 65)
  else if '0' ≤ c ∧ c ≤ '9' then some (c.toNat - 22)
  else none

/-- The threshold of the digit at weight step `k`, between 1 and 26. -/
def threshold (bias k : Nat) : Nat := min 26 (max 1 (36 * k - bias))

/-- Numbers are cut down until they fit one digit's range; each cut moves the thresholds by a step. -/
def cut : (fuel : Nat) → (n steps : Nat) → Nat
  | 0, _, steps => 36 * steps
  | fuel + 1, n, steps => if 455 < n then cut fuel (n / 35) (steps + 1) else 36 * steps + 36 * n / (n + 38)

/-- The thresholds that suit numbers like the last one; the first number is seldom typical. -/
def adapt (delta count : Nat) (first : Bool) : Nat :=
  let n := if first then delta / 700 else delta / 2
  cut 64 (n + n / count) 0

/-- The digits of a number from weight step `k` on. -/
def number (bias : Nat) : (fuel : Nat) → (k n : Nat) → List Char
  | 0, _, _ => []
  | fuel + 1, k, n =>
    let t := threshold bias k
    if n < t then [digit n]
    else digit (t + (n - t) % (36 - t)) :: number bias fuel (k + 1) ((n - t) / (36 - t))

structure State where
  delta : Nat
  bias : Nat
  /-- Characters written so far. -/
  count : Nat
  out : List Char

/-- Passes over one character of the label while the code point `point` is inserted. -/
def State.pass (basic point : Nat) (s : State) (c : Char) : State :=
  if c.toNat < point then { s with delta := s.delta + 1 }
  else if c.toNat = point then
    ⟨0, adapt s.delta (s.count + 1) (s.count = basic), s.count + 1, s.out ++ number s.bias 64 1 s.delta⟩
  else s

/-- Inserts the code points in ascending order; `least` is the least that has not been tried. -/
def encodePoints (label : List Char) (basic : Nat) : (least : Nat) → State → List Nat → List Char
  | _, s, [] => s.out
  | least, s, point :: points =>
    let s := { s with delta := s.delta + (point - least) * (s.count + 1) }
    let s := label.foldl (State.pass basic point) s
    encodePoints label basic (point + 1) { s with delta := s.delta + 1 } points

def encode (label : List Char) : List Char :=
  let basic := label.filter fun c => c.toNat < 0x80
  let points := ((label.map Char.toNat).filter (0x80 ≤ ·)).mergeSort.eraseDups
  basic ++ (if basic.isEmpty then [] else ['-']) ++
    encodePoints label basic.length 0x80 ⟨0, 72, basic.length, []⟩ points

/-- Reads one number, whose digits so far add up to `sum`. -/
def readNumber (bias : Nat) : (k weight sum : Nat) → List Char → Option (Nat × List Char)
  | _, _, _, [] => none
  | k, weight, sum, c :: cs => do
    let d ← digitValue? c
    let t := threshold bias k
    if d < t then some (sum + d * weight, cs)
    else readNumber bias (k + 1) (weight * (36 - t)) (sum + d * weight) cs

def decodeFrom : (fuel : Nat) → (bias point position : Nat) → (label cs : List Char) → Option (List Char)
  | _, _, _, _, label, [] => some label
  | 0, _, _, _, _, _ :: _ => none
  | fuel + 1, bias, point, position, label, cs => do
    let (sum, rest) ← readNumber bias 1 1 position cs
    let count := label.length + 1
    let point := point + sum / count
    guard (point.isValidChar)
    let label := label.insertIdx (sum % count) (Char.ofNat point)
    decodeFrom fuel (adapt (sum - position) count (position = 0)) point (sum % count + 1) label rest

def decode (cs : List Char) : Option (List Char) :=
  let tail := (cs.reverse.takeWhile (· ≠ '-')).reverse
  let basic := cs.take (cs.length - tail.length - 1)
  if basic.all (·.toNat < 0x80) then decodeFrom cs.length 72 0x80 0 basic tail else none

end CloudProvider.Url.Punycode
