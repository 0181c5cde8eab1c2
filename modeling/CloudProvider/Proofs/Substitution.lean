import Mathlib.Data.List.Infix
import CloudProvider.Proofs.Expansion

/-! # What expansion computes

Where no value holds a closing brace, a step takes one away from the text, and what is left in the end holds
no reference. Where no value holds an opening brace either, references stay where they were written: what a
step puts in is never read as part of one, so a text of literals and references has each reference replaced
in its place (`substitutes`).
-/

namespace CloudProvider.Expansion

/-! ## The first pair -/

section
variable {a b : Char}

/-- The first pair is found if there is none before it. Its second character cannot end a pair that begins
before it, as the two differ. -/
theorem splitAtPair_of_not_infix (differ : a ≠ b) {front : List Char} (h : ¬[a, b] <:+: front)
    (before rest : List Char) :
    splitAtPair a b before (front ++ a :: b :: rest) = some (before.reverse ++ front, rest) := by
  induction front generalizing before with
  | nil => simp [splitAtPair]
  | cons x front ih =>
    have later := ih (fun pair => h (pair.trans (List.suffix_cons x front).isInfix)) (x :: before)
    rw [List.reverse_cons, List.append_assoc, List.singleton_append] at later
    cases front with
    | nil => exact (if_neg fun e => differ e.2).trans later
    | cons y front =>
      have apart : ¬(x = a ∧ y = b) := by
        rintro ⟨rfl, rfl⟩
        exact h (List.prefix_append [x, y] front).isInfix
      exact (if_neg apart).trans later

theorem not_infix_of_not_mem {text : List Char} (h : b ∉ text) : ¬[a, b] <:+: text := by
  intro pair
  exact h (pair.subset (by simp))

theorem splitAtPair_eq_none {text : List Char} (h : b ∉ text) (before : List Char) :
    splitAtPair a b before text = none := by
  fun_induction splitAtPair a b before text with
  | case1 =>
    rename_i pair
    exact absurd (by simp [pair.2]) h
  | case2 before x y tail _ ih => exact ih (List.not_mem_of_not_mem_cons h)
  | case3 => rfl

/-- The first pair stands no later than any other. -/
theorem splitAtPair_isSome (before front rest : List Char) : ∃ first remaining,
    splitAtPair a b before (front ++ a :: b :: rest) = some (first, remaining) ∧ rest <:+ remaining := by
  induction front generalizing before with
  | nil => exact ⟨before.reverse, rest, by simp [splitAtPair], List.suffix_rfl⟩
  | cons x front ih =>
    obtain ⟨first, remaining, later, follows⟩ := ih (x :: before)
    cases front with
    | nil =>
      by_cases here : x = a ∧ a = b
      · exact ⟨before.reverse, b :: rest, if_pos here, List.suffix_cons b rest⟩
      · exact ⟨first, remaining, (if_neg here).trans later, follows⟩
    | cons y front =>
      by_cases here : x = a ∧ y = b
      · refine ⟨before.reverse, front ++ a :: b :: rest, if_pos here, ?_⟩
        exact ((List.suffix_cons b rest).trans (List.suffix_cons a _)).trans (List.suffix_append front _)
      · exact ⟨first, remaining, (if_neg here).trans later, follows⟩

theorem splitAtChar_isSome {c : Char} {text : List Char} (h : c ∈ text) (before : List Char) :
    ∃ parts, splitAtChar c before text = some parts := by
  obtain ⟨front, rest, rfl, first⟩ := List.eq_append_cons_of_mem h
  exact ⟨_, splitAtChar_append first before rest⟩

end

/-! ## Texts without references -/

/-- A dollar sign with an opening brace, and a closing brace somewhere after them. -/
def HoldsReference (text : List Char) : Prop :=
  ∃ before reference after, text = before ++ '$' :: '\x7b' :: (reference ++ '\x7d' :: after)

section
variable {valueOf : String → Option String}

/-- Nothing is left to replace in a text without references, and in no other. -/
theorem step_eq_none_iff {text : List Char} : step valueOf text = none ↔ ¬HoldsReference text := by
  constructor
  · rintro ended ⟨before, reference, after, rfl⟩
    obtain ⟨first, remaining, opened, follows⟩ :=
      splitAtPair_isSome (a := '$') (b := '\x7b') [] before (reference ++ '\x7d' :: after)
    obtain ⟨parts, closed⟩ := splitAtChar_isSome (c := '\x7d') (follows.subset (by simp)) []
    rw [step, opened] at ended
    simp only [Option.bind_eq_bind, Option.bind_some, closed] at ended
    cases ended
  · intro none_held
    cases stepped : step valueOf text with
    | none => rfl
    | some next =>
      obtain ⟨before, reference, after, whole, -⟩ := step_eq stepped
      exact absurd ⟨before, reference, after, whole⟩ none_held

theorem run_of_step_eq_none {text : List Char} (ended : step valueOf text = none) (patience : Nat) :
    run valueOf patience text = some text := by
  cases patience with
  | zero => rw [run, ended]; rfl
  | succ patience => rw [run, ended]

theorem run_mono {n m : Nat} (le : n ≤ m) {text result : List Char} (h : run valueOf n text = some result) :
    run valueOf m text = some result := by
  induction le with
  | refl => exact h
  | step _ ih => exact run_succ ih

/-- If each step makes the text smaller, by whatever measure, its size is patience enough. -/
theorem run_of_decreasing {size : List Char → Nat}
    (decreases : ∀ text next, step valueOf text = some next → size next < size text) (text : List Char) :
    ∃ result, run valueOf (size text) text = some result ∧ step valueOf result = none := by
  induction h : size text using Nat.strong_induction_on generalizing text with
  | _ n ih =>
    cases stepped : step valueOf text with
    | none => exact ⟨text, run_of_step_eq_none stepped n, stepped⟩
    | some next =>
      have smaller := h ▸ decreases text next stepped
      obtain ⟨result, ran, ended⟩ := ih (size next) smaller next rfl
      obtain ⟨m, rfl⟩ := Nat.exists_eq_add_of_lt smaller
      refine ⟨result, ?_, ended⟩
      rw [run, stepped]
      exact run_mono (Nat.le_add_right _ m) ran

end

/-! ## Texts of literals and references -/

/-- A part of a text, as it is meant. -/
inductive Piece where
  | literal (text : List Char)
  | reference (name : List Char) (default : Option (List Char))

namespace Piece

/-- What stands between the braces of a reference. -/
def inner (name : List Char) : Option (List Char) → List Char
  | none => name
  | some default => name ++ ':' :: '-' :: default

def written : Piece → List Char
  | .literal text => text
  | .reference name default => '$' :: '\x7b' :: (inner name default ++ ['\x7d'])

/-- A reference stands for the value of its variable if that is set, if only to an empty text. -/
def filled (valueOf : String → Option String) : Piece → List Char
  | .literal text => text
  | .reference name default => ((valueOf (.ofList name)).map String.toList).getD (default.getD [])

/-- No part of the piece is read as something else. -/
def Plain : Piece → Prop
  | .literal text => '\x7b' ∉ text
  | .reference name default =>
    ¬[':', '-'] <:+: name ∧ ∀ text ∈ name :: default.toList, '\x7b' ∉ text ∧ '\x7d' ∉ text

instance : DecidablePred Plain
  | .literal text => inferInstanceAs (Decidable ('\x7b' ∉ text))
  | .reference name default => inferInstanceAs (Decidable (¬[':', '-'] <:+: name ∧
      ∀ text ∈ name :: default.toList, '\x7b' ∉ text ∧ '\x7d' ∉ text))

end Piece

section
variable {valueOf : String → Option String} {name : List Char} {default : Option (List Char)}

theorem meaning_inner (undivided : ¬[':', '-'] <:+: name) :
    meaning valueOf (Piece.inner name default) = (Piece.reference name default).filled valueOf := by
  have parts : (splitAtPair ':' '-' [] (Piece.inner name default)).getD (Piece.inner name default, []) =
      (name, default.getD []) := by
    cases default with
    | none =>
      cases split : splitAtPair ':' '-' [] name with
      | none => simp [Piece.inner, split]
      | some parts =>
        have whole := splitAtPair_eq split
        refine absurd ⟨parts.1, parts.2, ?_⟩ undivided
        simpa using whole.symm
    | some default =>
      rw [Piece.inner, splitAtPair_of_not_infix (by decide) undivided]
      rfl
  rw [meaning, parts]
  rfl

theorem closing_not_mem_inner (plain : (Piece.reference name default).Plain) :
    '\x7d' ∉ Piece.inner name default := by
  have here := plain.2 name List.mem_cons_self
  cases default with
  | none => exact here.2
  | some default =>
    have there := plain.2 default (List.mem_cons_of_mem _ (List.mem_singleton_self default))
    simp [Piece.inner, here.2, there.2]

theorem opening_not_mem_filled (unopened : ∀ name value, valueOf name = some value → '\x7b' ∉ value.toList)
    {piece : Piece} (plain : piece.Plain) : '\x7b' ∉ piece.filled valueOf := by
  cases piece with
  | literal text => exact plain
  | reference name default =>
    rw [Piece.filled]
    cases known : valueOf (.ofList name) with
    | some value => exact unopened _ value known
    | none =>
      cases default with
      | none => exact List.not_mem_nil
      | some default => exact (plain.2 default (List.mem_cons_of_mem _ (List.mem_singleton_self default))).1

/-- The reference that comes first is replaced, whatever follows it. -/
theorem step_written (plain : (Piece.reference name default).Plain) {before : List Char} (hb : '\x7b' ∉ before)
    (after : List Char) : step valueOf (before ++ ((Piece.reference name default).written ++ after)) =
      some (before ++ (Piece.reference name default).filled valueOf ++ after) := by
  have spelled : (Piece.reference name default).written ++ after =
      '$' :: '\x7b' :: (Piece.inner name default ++ '\x7d' :: after) := by
    simp [Piece.written]
  rw [spelled, step, splitAtPair_of_not_infix (by decide) (not_infix_of_not_mem hb)]
  simp only [Option.bind_eq_bind, Option.bind_some, List.reverse_nil, List.nil_append,
    splitAtChar_append (closing_not_mem_inner plain), meaning_inner plain.1]
  rfl

/-- By induction on the pieces: those before hold no opening brace, so the next reference comes first. -/
theorem run_written (unopened : ∀ name value, valueOf name = some value → '\x7b' ∉ value.toList)
    {pieces : List Piece} (plain : ∀ piece ∈ pieces, piece.Plain) {before : List Char} (hb : '\x7b' ∉ before)
    {patience : Nat} (enough : (pieces.flatMap Piece.written).count '\x7d' ≤ patience) :
    run valueOf patience (before ++ pieces.flatMap Piece.written) =
      some (before ++ pieces.flatMap (Piece.filled valueOf)) := by
  induction pieces generalizing before patience with
  | nil =>
    refine run_of_step_eq_none ?_ patience
    rw [List.flatMap_nil, List.append_nil, step, splitAtPair_eq_none hb]
    rfl
  | cons piece pieces ih =>
    obtain ⟨here, later⟩ := List.forall_mem_cons.1 plain
    have passed : '\x7b' ∉ before ++ piece.filled valueOf := by
      simpa using ⟨hb, opening_not_mem_filled unopened here⟩
    rw [List.flatMap_cons, List.count_append] at enough
    rw [List.flatMap_cons, List.flatMap_cons, ← List.append_assoc before (piece.filled valueOf)]
    cases piece with
    | literal text =>
      rw [← List.append_assoc]
      exact ih later passed (by omega)
    | reference name default =>
      have braced : 1 ≤ (Piece.reference name default).written.count '\x7d' :=
        List.one_le_count_iff.2 (by simp [Piece.written])
      obtain ⟨patience, rfl⟩ := Nat.exists_eq_add_of_le' (Nat.le_trans braced (by omega : _ ≤ patience))
      rw [run, step_written here hb]
      exact ih later passed (by omega)

end

/-- Where no value holds a closing brace, there are no more steps than the text has of them, and they end in
a text without references, which stays as it is. Where no value holds an opening brace either, each
reference in a text of plain pieces is replaced by what it stands for. -/
theorem substitutes {valueOf : String → Option String}
    (unclosed : ∀ name value, valueOf name = some value → '\x7d' ∉ value.toList) :
    (∀ text, ∃ result, run valueOf (text.count '\x7d') text = some result ∧ ¬HoldsReference result ∧
      ∀ patience, run valueOf patience result = some result) ∧
    ((∀ name value, valueOf name = some value → '\x7b' ∉ value.toList) →
      ∀ pieces : List Piece, (∀ piece ∈ pieces, piece.Plain) →
        let text := pieces.flatMap Piece.written
        run valueOf (text.count '\x7d') text = some (pieces.flatMap (Piece.filled valueOf))) := by
  constructor
  · intro text
    have smaller : ∀ text next, step valueOf text = some next → next.count '\x7d' < text.count '\x7d' :=
      fun text next => count_step_lt (by decide) unclosed
    obtain ⟨result, ran, ended⟩ := run_of_decreasing smaller text
    exact ⟨result, ran, step_eq_none_iff.1 ended, run_of_step_eq_none ended⟩
  · intro unopened pieces plain
    exact run_written unopened plain List.not_mem_nil (Nat.le_refl _)

/-- Braces and dollar signs beside references, a value that is empty, one that ends in a dollar sign, and
variables that are not set. -/
theorem substitutes_neighbours :
    let valueOf := fun name => if name = "A" then some "x$" else if name = "B" then some "" else none
    run valueOf 5 "$$\x7bA\x7d\x7d$\x7bB:-d\x7d$\x7bC::-e:-f\x7d$\x7bD\x7d".toList = some "$x$\x7de:-f".toList ∧
      ∃ result, run valueOf 2 "$\x7bA\x7d\x7bB\x7d$\x7b".toList = some result ∧ ¬HoldsReference result := by
  intro valueOf
  have known : ∀ name value, valueOf name = some value → value = "x$" ∨ value = "" := by
    intro name value h
    dsimp only [valueOf] at h
    split at h
    · exact .inl (Option.some.inj h).symm
    · split at h
      · exact .inr (Option.some.inj h).symm
      · cases h
  have unclosed : ∀ name value, valueOf name = some value → '\x7d' ∉ value.toList := by
    intro name value h
    rcases known name value h with rfl | rfl <;> decide
  have unopened : ∀ name value, valueOf name = some value → '\x7b' ∉ value.toList := by
    intro name value h
    rcases known name value h with rfl | rfl <;> decide
  let pieces : List Piece := [.literal ['$'], .reference ['A'] none, .literal ['\x7d'],
    .reference ['B'] (some ['d']), .reference ['C', ':'] (some ['e', ':', '-', 'f']), .reference ['D'] none]
  have plain : ∀ piece ∈ pieces, piece.Plain := by decide
  obtain ⟨ends, replaces⟩ := substitutes unclosed
  obtain ⟨result, ran, clear, -⟩ := ends "$\x7bA\x7d\x7bB\x7d$\x7b".toList
  exact ⟨replaces unopened pieces plain, result, ran, clear⟩

end CloudProvider.Expansion
