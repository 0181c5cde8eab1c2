/-!
The number of single-character insertions, removals and replacements that lead from one text to
another. A row holds the distances from every suffix of the first text to one suffix of the second;
the rows of ever longer suffixes follow from one another.
-/

namespace CloudProvider.Text

/-- Distances to the empty text: each suffix loses all its characters. -/
def firstRow : List Char → List Nat
  | [] => [0]
  | _ :: xs => (xs.length + 1) :: firstRow xs

/-- The row for `y` put in front of the second text, given the row without it. -/
def nextRow (y : Char) : List Char → List Nat → List Nat
  | x :: xs, d :: ds =>
    let row := nextRow y xs ds
    let replaced := ds.headD 0 + if x = y then 0 else 1
    min (min (row.headD 0 + 1) (d + 1)) replaced :: row
  | _, ds => [ds.headD 0 + 1]

def distanceRow (xs : List Char) (ys : List Char) : List Nat :=
  ys.reverse.foldl (fun row y => nextRow y xs row) (firstRow xs)

def editDistance (s t : String) : Nat := (distanceRow s.toList t.toList).headD 0

end CloudProvider.Text
