import CloudProvider.Json.Fault

/-!
The numerals of documents: their grammar, and the number that a numeral denotes. Whole numerals that
fit 64 bits are exact. All others become binary64 numbers: as many leading digits as fit 64 bits are
kept, and their value is scaled by a power of ten, rounding once for each step; a value that exceeds
the range is refused.
-/

namespace CloudProvider.Json

/-- Digits as written: `whole`, perhaps a point and `fraction`, perhaps a power of ten. -/
structure Numeral where
  negative : Bool
  whole : List Nat
  fraction : Option (List Nat)
  power : Option (Bool × List Nat)
  deriving DecidableEq, Repr

namespace Numeral

def digit? (c : Char) : Option Nat := if '0' ≤ c ∧ c ≤ '9' then some (c.toNat - 48) else none

/-- Splits off the digits at the front; `done` holds those already passed, reversed. -/
def digits (done : List Nat) : List Char → List Nat × List Char
  | [] => (done.reverse, [])
  | c :: cs => match digit? c with
    | some d => digits (d :: done) cs
    | none => (done.reverse, c :: cs)

/-- A numeral stops short: the text ends, or goes on with something else than a digit. -/
inductive Stop where
  | atEnd
  | before
  deriving DecidableEq, Repr

def Stop.of : List Char → Stop
  | [] => .atEnd
  | _ => .before

/-- One digit at least. -/
def someDigits (cs : List Char) : Except Stop (List Nat × List Char) :=
  match digits [] cs with
  | ([], rest) => .error (.of rest)
  | found => .ok found

/-- A zero at the front stands alone. -/
def scanWhole (cs : List Char) : Except Stop (List Nat × List Char) := do
  let found ← someDigits cs
  match found with
  | (0 :: _ :: _, _) => .error .before
  | found => .ok found

def scanFraction : List Char → Except Stop (Option (List Nat) × List Char)
  | '.' :: cs => do let (ds, rest) ← someDigits cs; .ok (some ds, rest)
  | cs => .ok (none, cs)

def scanSign : List Char → Bool × List Char
  | '+' :: cs => (false, cs)
  | '-' :: cs => (true, cs)
  | cs => (false, cs)

def scanPower : List Char → Except Stop (Option (Bool × List Nat) × List Char)
  | c :: cs =>
    if c = 'e' ∨ c = 'E' then do
      let (down, cs) := scanSign cs
      let (ds, rest) ← someDigits cs
      .ok (some (down, ds), rest)
    else .ok (none, c :: cs)
  | [] => .ok (none, [])

/-- Reads a numeral from its first digit on. -/
def scan (negative : Bool) (cs : List Char) : Except Stop (Numeral × List Char) := do
  let (whole, cs) ← scanWhole cs
  let (fraction, cs) ← scanFraction cs
  let (power, cs) ← scanPower cs
  .ok (⟨negative, whole, fraction, power⟩, cs)

/-- Digits kept in 64 bits and the power of ten that they are scaled by. Once a digit does not fit,
`full` holds. -/
structure Kept where
  value : Nat
  power : Int
  full : Bool
  deriving DecidableEq, Repr

/-- Digits before the point that no longer fit count as zeros. -/
def Kept.whole (k : Kept) (d : Nat) : Kept :=
  if k.full then { k with power := k.power + 1 }
  else if k.value * 10 + d < UInt64.size then { k with value := k.value * 10 + d }
  else { k with full := true, power := k.power + 1 }

/-- Digits behind the point that no longer fit are dropped. -/
def Kept.fraction (k : Kept) (d : Nat) : Kept :=
  if k.full then k
  else if k.value * 10 + d < UInt64.size then { k with value := k.value * 10 + d, power := k.power - 1 }
  else { k with full := true }

def keptWhole (n : Numeral) : Kept := n.whole.foldl Kept.whole ⟨0, 0, false⟩

def kept (n : Numeral) : Kept :=
  (n.fraction.getD []).foldl Kept.fraction { n.keptWhole with full := false }

/-- The written power of ten, unless it exceeds 31 bits. -/
def writtenPower? (ds : List Nat) : Option Nat :=
  let p := ds.foldl (fun p d => p * 10 + d) 0
  if p < 0x80000000 then some p else none

/-- Scales by a power of ten that has an exact table value; smaller powers go down in steps. -/
def scaleDown : Nat → Float → Nat → Float
  | 0, x, _ => x
  | fuel + 1, x, p =>
    if p ≤ 308 then x / Float.ofScientific 1 false p
    else if x == 0 then x
    else scaleDown fuel (x / Float.ofScientific 1 false 308) (p - 308)

def scale (x : Float) (p : Int) : Except Fault Float :=
  if 308 < p then if x == 0 then .ok x else .error .numberOutOfRange
  else if 0 ≤ p then
    let y := x * Float.ofScientific 1 false p.toNat
    if (Decimal.read y matches .infinite _) then .error .numberOutOfRange else .ok y
  else .ok (scaleDown 4 x (-p).toNat)

def signed (n : Numeral) (x : Float) : Float := if n.negative then -x else x

/-- The binary64 number for kept digits and a power of ten; powers are kept in 31 bits. -/
def real (n : Numeral) (power : Int) : Except Fault Number := do
  let power := max (min power 0x7FFFFFFF) (-0x80000000)
  let x ← scale (UInt64.ofNat n.kept.value).toFloat power
  .ok (.real (n.signed x))

def value (n : Numeral) : Except Fault Number :=
  match n.power with
  | some (down, ds) =>
    match writtenPower? ds with
    | some p => n.real (n.kept.power + if down then -(p : Int) else p)
    | none =>
      if n.kept.value ≠ 0 ∧ ¬ down then .error .numberOutOfRange else .ok (.real (n.signed 0))
  | none =>
    if n.fraction.isSome ∨ n.keptWhole.full then n.real n.kept.power
    else
      let m := n.keptWhole.value
      if ¬ n.negative then .ok (.natural (UInt64.ofNat m))
      else if h : 0 < m ∧ m ≤ 0x8000000000000000 then .ok (.negative ⟨m - 1, by omega⟩)
      else .ok (.real (-(UInt64.ofNat m).toFloat))

end Numeral
end CloudProvider.Json
