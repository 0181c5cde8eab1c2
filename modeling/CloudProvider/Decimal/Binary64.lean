/-!
What a binary64 number stands for: a sign and an exact dyadic magnitude `significand * 2 ^ exponent`,
an infinity, or no number at all. Rounding up and the test for a whole value are decided on the exact
magnitude, so no second rounding enters.
-/

namespace CloudProvider.Decimal

/-- The magnitude `significand * 2 ^ exponent`. -/
structure Dyad where
  significand : Nat
  exponent : Int
  deriving DecidableEq, Repr

inductive Reading where
  | nan
  | infinite (negative : Bool)
  | finite (negative : Bool) (magnitude : Dyad)
  deriving DecidableEq, Repr

/-- The bit above the 52 bits of fraction. -/
def hiddenBit : Nat := 0x10000000000000

/-- Splits the 64 bits into sign, eleven bits of exponent and 52 bits of fraction. A zero exponent
field means no hidden bit, an exponent field of ones means no finite value. -/
def Reading.ofBits (bits : UInt64) : Reading :=
  let negative : Bool := 0x8000000000000000 ≤ bits.toNat
  let field : Nat := bits.toNat / hiddenBit % 0x800
  let fraction : Nat := bits.toNat % hiddenBit
  if field = 2047 then if fraction = 0 then .infinite negative else .nan
  else if field = 0 then .finite negative ⟨fraction, -1074⟩
  else .finite negative ⟨hiddenBit + fraction, field - 1075⟩

def read (x : Float) : Reading := .ofBits x.toBits

namespace Dyad

/-- The denominator of the magnitude, a power of two. -/
def den (d : Dyad) : Nat := Nat.pow 2 (-d.exponent).toNat

def num (d : Dyad) : Nat := d.significand * Nat.pow 2 d.exponent.toNat

/-- The least whole number that is not below the magnitude. -/
def ceil (d : Dyad) : Nat := (d.num + (d.den - 1)) / d.den

/-- The magnitude itself, if it is whole. -/
def whole? (d : Dyad) : Option Nat := if d.num % d.den = 0 then some (d.num / d.den) else none

theorem den_pos (d : Dyad) : 0 < d.den := Nat.two_pow_pos _

theorem num_le_ceil_mul_den (d : Dyad) : d.num ≤ d.ceil * d.den := by
  have h := Nat.lt_div_mul_add (a := d.num + (d.den - 1)) d.den_pos
  have := d.den_pos
  unfold ceil
  omega

theorem whole?_mul_den {d : Dyad} {n : Nat} (h : d.whole? = some n) : n * d.den = d.num := by
  unfold whole? at h
  split at h
  · rename_i hz
    cases h
    exact Nat.div_mul_cancel (Nat.dvd_of_mod_eq_zero hz)
  · cases h

end Dyad

/-- Numbers above the range of 64 bits become its greatest one. -/
def clamp (n : Nat) : UInt64 :=
  if n < UInt64.size then n.toUInt64 else UInt64.ofNat (UInt64.size - 1)

/-- Rounds a finite positive number up. -/
def ceil? (x : Float) : Option Nat :=
  match read x with
  | .finite false d => if d.significand = 0 then none else some d.ceil
  | _ => none

/-- The value of a number that is positive and whole. -/
def positiveWhole? (x : Float) : Option Nat :=
  match read x with
  | .finite false d => if d.significand = 0 then none else d.whole?
  | _ => none

end CloudProvider.Decimal
