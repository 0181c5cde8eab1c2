/-!
How alike two texts are. Equal characters that stand near one another are paired; the share of each text
that is paired and the share of the pairs that keep their order are averaged.
-/

namespace CloudProvider.Text

/-- A quotient with a positive divisor. -/
structure Share where
  num : Nat
  den : Nat
  deriving DecidableEq, Repr

def Share.isAbove (a b : Share) : Bool := b.num * a.den < a.num * b.den

/-- Pairs a character with the first free one like it at positions `low` to `high`. -/
def pairUp (low high : Nat) (c : Char) (position : Nat) :
    List (Char × Bool) → Option (List (Char × Bool))
  | [] => none
  | (d, taken) :: rest =>
    if low ≤ position ∧ position ≤ high ∧ c = d ∧ !taken then some ((d, true) :: rest)
    else (pairUp low high c (position + 1) rest).map ((d, taken) :: ·)

/-- The paired characters of both texts, each in its order. -/
def pairsFrom (reach position : Nat) (others : List (Char × Bool)) : List Char → List Char × List Char
  | [] => ([], (others.filter (·.2)).map (·.1))
  | c :: cs =>
    match pairUp (position - reach) (position + reach) c 0 others with
    | some others =>
      let (xs, ys) := pairsFrom reach (position + 1) others cs
      (c :: xs, ys)
    | none => pairsFrom reach (position + 1) others cs

/-- How alike two texts are, from nothing to one. -/
def similarity (s t : String) : Share :=
  let xs := s.toList
  let ys := t.toList
  if xs = [] ∧ ys = [] then ⟨1, 1⟩
  else
    let reach := max xs.length ys.length / 2 - 1
    let (ps, qs) := pairsFrom reach 0 (ys.map (·, false)) xs
    let m := ps.length
    if m = 0 then ⟨0, 1⟩
    else
      let kept := m - ((ps.zip qs).countP fun p => p.1 ≠ p.2) / 2
      ⟨m * m * ys.length + m * m * xs.length + kept * xs.length * ys.length,
        3 * m * xs.length * ys.length⟩

end CloudProvider.Text
