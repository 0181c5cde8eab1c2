/-!
Variables in settings. `${NAME}` stands for the value of a variable and `${NAME:-DEFAULT}` has a text to
stand in for one that is not set. One step replaces the first reference, which ends at the nearest
brace; the text put in is looked at again, so references may build references, and a variable that
refers to itself keeps the steps going.
-/

namespace CloudProvider.Expansion

/-- Splits at the first occurrence of two characters in a row; `before` holds what has been passed,
reversed. -/
def splitAtPair (a b : Char) (before : List Char) : List Char → Option (List Char × List Char)
  | x :: y :: rest =>
    if x = a ∧ y = b then some (before.reverse, rest) else splitAtPair a b (x :: before) (y :: rest)
  | _ => none

def splitAtChar (a : Char) (before : List Char) : List Char → Option (List Char × List Char)
  | x :: rest => if x = a then some (before.reverse, rest) else splitAtChar a (x :: before) rest
  | [] => none

/-- What a reference stands for, given what is between its braces. -/
def meaning (valueOf : String → Option String) (reference : List Char) : List Char :=
  let (name, default) := (splitAtPair ':' '-' [] reference).getD (reference, [])
  ((valueOf (.ofList name)).map String.toList).getD default

/-- Replaces the first reference, if there is one. -/
def step (valueOf : String → Option String) (text : List Char) : Option (List Char) := do
  let (before, rest) ← splitAtPair '$' '\x7b' [] text
  let (reference, after) ← splitAtChar '\x7d' [] rest
  return before ++ meaning valueOf reference ++ after

/-- The text in which nothing is left to replace, if at most `patience` steps lead to it. -/
def run (valueOf : String → Option String) : (patience : Nat) → List Char → Option (List Char)
  | 0, text => if (step valueOf text).isNone then some text else none
  | patience + 1, text =>
    match step valueOf text with
    | none => some text
    | some next => run valueOf patience next

/-- The text ends in `result` after finitely many steps. -/
def EndsIn (valueOf : String → Option String) (text result : List Char) : Prop :=
  ∃ patience, run valueOf patience text = some result

theorem run_succ {valueOf : String → Option String} {n : Nat} {text result : List Char}
    (h : run valueOf n text = some result) : run valueOf (n + 1) text = some result := by
  induction n generalizing text with
  | zero =>
    rw [run] at h
    split at h
    · rename_i hs
      cases h
      rw [run, Option.isNone_iff_eq_none.1 hs]
    · cases h
  | succ n ih =>
    rw [run] at h ⊢
    cases hs : step valueOf text with
    | none => simpa [hs] using h
    | some next => exact ih (by simpa [hs] using h)

end CloudProvider.Expansion
