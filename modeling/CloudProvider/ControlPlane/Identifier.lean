import CloudProvider.Text.Hex

/-!
Ids as the control plane gives them out: groups of eight, four, four, four and twelve hexadecimal digits
in lower case, of which two tell that the others are random. Here the others count.
-/

namespace CloudProvider.Identifier

/-- The id with a number. -/
def ofNat (n : Nat) : String :=
  let digits := Nat.toDigits 16 n
  "00000000-0000-4000-8000-" ++ String.ofList (List.replicate (12 - digits.length) '0' ++ digits)

def length : Nat := 36

def isDigit (c : Char) : Bool := c.isDigit || 'a' ≤ c && c ≤ 'f'

/-- What may stand in a position. -/
def fits (position : Nat) (c : Char) : Bool :=
  if position ∈ [8, 13, 18, 23] then c = '-'
  else if position = 14 then c = '4'
  else if position = 19 then c ∈ ['8', '9', 'a', 'b']
  else isDigit c

def fitsFrom (position : Nat) : List Char → Bool
  | [] => position = length
  | c :: cs => fits position c && fitsFrom (position + 1) cs

/-- The characters are those of an id. -/
def isIdentifier (cs : List Char) : Bool := fitsFrom 0 cs

example : isIdentifier (ofNat 48879).toList = true := by decide +kernel

end CloudProvider.Identifier
