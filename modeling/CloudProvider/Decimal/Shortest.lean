import CloudProvider.Decimal.Binary64

/-!
The shortest decimal that reads back as a given binary64 number, and its written forms. All
comparisons are made in exact whole-number arithmetic: the numbers that round to `m * 2 ^ q` form an
interval around it, and grids `10 ^ k` of falling `k` are tried until one has a point inside. Of two
points of the first such grid the nearer is taken.
-/

namespace CloudProvider.Decimal

/-- The magnitude `digits * 10 ^ exponent`. -/
structure Scaled where
  digits : Nat
  exponent : Int
  deriving DecidableEq, Repr

/-- The rounding interval of a magnitude, in quarters of its last binary place. The ends belong to it
when the significand is even, because a tie is rounded to the even neighbour. Below a power of two the
neighbours are half as far apart. -/
structure Interval where
  low : Nat
  middle : Nat
  high : Nat
  closed : Bool
  quarter : Int

def Interval.around (d : Dyad) : Interval where
  low := if d.significand = hiddenBit ∧ -1074 < d.exponent then 4 * d.significand - 1 else 4 * d.significand - 2
  middle := 4 * d.significand
  high := 4 * d.significand + 2
  closed := d.significand % 2 = 0
  quarter := d.exponent - 2

/-- `a * 10 ^ k` and `b * 2 ^ q` brought to a common denominator. -/
def commonScale (a : Nat) (k : Int) (b : Nat) (q : Int) : Nat × Nat :=
  (a * Nat.pow 10 k.toNat * Nat.pow 2 (-q).toNat, b * Nat.pow 2 q.toNat * Nat.pow 10 (-k).toNat)

def Interval.holds (i : Interval) (n : Nat) (k : Int) : Bool :=
  let (a, low) := commonScale n k i.low i.quarter
  let (b, high) := commonScale n k i.high i.quarter
  if i.closed then low ≤ a && b ≤ high else low < a && b < high

/-- The two points of the grid `10 ^ k` next to the middle, the one below first. -/
def Interval.neighbours (i : Interval) (k : Int) : Nat × Nat :=
  let (one, middle) := commonScale 1 k i.middle i.quarter
  (middle / one, middle / one + 1)

/-- Whether the upper of two neighbours is taken: it is nearer, or as near and preferred. -/
def Interval.takesUpper (i : Interval) (below : Nat) (k : Int) (preferUpper : Nat → Bool) : Bool :=
  let (twice, middle) := commonScale (2 * below + 1) k (2 * i.middle) i.quarter
  if middle = twice then preferUpper below else twice < middle

def Interval.onGrid? (i : Interval) (k : Int) (preferUpper : Nat → Bool) : Option Scaled :=
  let (below, above) := i.neighbours k
  match i.holds below k, i.holds above k with
  | true, true => some ⟨if i.takesUpper below k preferUpper then above else below, k⟩
  | true, false => some ⟨below, k⟩
  | false, true => some ⟨above, k⟩
  | false, false => none

def Interval.search (i : Interval) (preferUpper : Nat → Bool) : Nat → Int → Scaled
  | 0, k => ⟨(i.neighbours k).1, k⟩
  | fuel + 1, k => (i.onGrid? k preferUpper).getD (i.search preferUpper fuel (k - 1))

/-- An exponent of ten not below the order of magnitude; the logarithm of two is taken as 30103 parts
in a hundred thousand. -/
def Dyad.topExponent (d : Dyad) : Int := (d.significand.log2 + 1 + d.exponent) * 30103 / 100000 + 1

/-- Seventeen digits always suffice, and the search starts at most three grids above the first of them. -/
def shortest (d : Dyad) (preferUpper : Nat → Bool) : Scaled :=
  if d.significand = 0 then ⟨0, 0⟩ else (Interval.around d).search preferUpper 21 d.topExponent

/-- How a number is written. -/
structure Style where
  /-- Decides between two equally near decimals, given the lower one's digits. -/
  preferUpper : Nat → Bool
  /-- Whether a number whose leading digit stands `p` places left of the point is written
  positionally. -/
  positional : Int → Bool
  /-- What a whole number carries after its digits. -/
  wholeSuffix : String
  /-- The mark of a positive exponent. -/
  exponentPlus : String
  nan : String
  infinity : String

/-- Places digits around a point that has `p` of them to its left. -/
def positional (wholeSuffix : List Char) (digits : List Char) (p : Int) : List Char :=
  if p ≤ 0 then '0' :: '.' :: (List.replicate (-p).toNat '0' ++ digits)
  else if digits.length ≤ p.toNat then
    digits ++ List.replicate (p.toNat - digits.length) '0' ++ wholeSuffix
  else digits.take p.toNat ++ '.' :: digits.drop p.toNat

def scientific (plus : List Char) (digits : List Char) (p : Int) : List Char :=
  let exponent := p - 1
  let sign := if exponent < 0 then ['-'] else plus
  let mantissa := match digits with
    | [] => []
    | [d] => [d]
    | d :: ds => d :: '.' :: ds
  mantissa ++ 'e' :: (sign ++ Nat.toDigits 10 exponent.natAbs)

def Style.magnitude (s : Style) (d : Dyad) : List Char :=
  if d.significand = 0 then '0' :: s.wholeSuffix.toList
  else
    let v := shortest d s.preferUpper
    let digits := Nat.toDigits 10 v.digits
    let p := digits.length + v.exponent
    if s.positional p then Decimal.positional s.wholeSuffix.toList digits p
    else scientific s.exponentPlus.toList digits p

def Style.write (s : Style) (x : Float) : List Char :=
  match read x with
  | .nan => s.nan.toList
  | .infinite negative => (if negative then ['-'] else []) ++ s.infinity.toList
  | .finite negative d => (if negative then ['-'] else []) ++ s.magnitude d

/-- Messages never use an exponent and write a whole number without a point; a tie goes up. -/
def plain : Style := ⟨fun _ => true, fun _ => true, "", "", "NaN", "inf"⟩

/-- Documents use an exponent from `1e16` up and below `1e-5`, and a whole number keeps its point; a
tie goes to the even digit. -/
def document : Style := ⟨fun below => below % 2 = 1, fun p => -5 < p ∧ p ≤ 16, ".0", "+", "null", "null"⟩

end CloudProvider.Decimal
