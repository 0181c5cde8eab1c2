import CloudProvider.Text.LetterCase

/-!
Lower-casing of text. One capital has a form of two characters, and a capital sigma takes its final
form at the end of a word: something cased stands before it and nothing cased follows, characters
that case ignores being looked through on both sides.
-/

namespace CloudProvider.Text

/-- The nearest character that case does not ignore has case. -/
def leadsToCased (cs : List Char) : Bool :=
  match cs.dropWhile isCaseIgnorable with
  | [] => false
  | c :: _ => isCased c

def lowerCaseOf (c : Char) : List Char :=
  if c = 'İ' then ['i', '\u0307']
  else match lowerCaseRuns.find? (·.holds c.toNat) with
    | some r => [Char.ofNat (c.toNat + r.shift).toNat]
    | none => [c]

/-- `before` holds what has been passed, nearest character first; `done` the result, reversed. -/
def lowerCaseFrom (before done : List Char) : List Char → List Char
  | [] => done.reverse
  | c :: cs =>
    let form := if c = 'Σ' then
        [if leadsToCased before && !leadsToCased cs then 'ς' else 'σ']
      else lowerCaseOf c
    lowerCaseFrom (c :: before) (form.reverse ++ done) cs

def lowerCase (s : String) : String := .ofList (lowerCaseFrom [] [] s.toList)

end CloudProvider.Text
