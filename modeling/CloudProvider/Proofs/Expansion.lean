import CloudProvider.Settings.Expansion

/-! # When expansion ends

A step takes a reference out of the text and puts its meaning in. If no value holds one of the three
characters that make a reference, there are fewer of them after each step, so the steps come to an end
(`ends_of_lacking`). Otherwise they need not: a variable whose value refers to the variable itself is put
in for ever (`endless_of_self_reference`).
-/

namespace CloudProvider.Expansion

/-! ## Splitting -/

theorem splitAtPair_eq {a b : Char} {before text front rest : List Char}
    (h : splitAtPair a b before text = some (front, rest)) :
    before.reverse ++ text = front ++ a :: b :: rest := by
  fun_induction splitAtPair a b before text with
  | case1 =>
    rename_i pair
    cases h
    rw [pair.1, pair.2]
  | case2 before x y tail _ ih =>
    rw [← ih h, List.reverse_cons, List.append_assoc, List.singleton_append]
  | case3 => cases h

theorem splitAtChar_eq {a : Char} {before text front rest : List Char}
    (h : splitAtChar a before text = some (front, rest)) :
    before.reverse ++ text = front ++ a :: rest := by
  fun_induction splitAtChar a before text with
  | case1 =>
    cases h
    rfl
  | case2 before x tail _ ih =>
    rw [← ih h, List.reverse_cons, List.append_assoc, List.singleton_append]
  | case3 => cases h

/-- The first pair is found, wherever its first character does not stand before it. -/
theorem splitAtPair_append {a b : Char} {front : List Char} (h : a ∉ front) (before rest : List Char) :
    splitAtPair a b before (front ++ a :: b :: rest) = some (before.reverse ++ front, rest) := by
  induction front generalizing before with
  | nil => simp [splitAtPair]
  | cons x front ih =>
    have hx : ¬ x = a := (List.ne_of_not_mem_cons h).symm
    have later := ih (List.not_mem_of_not_mem_cons h) (x :: before)
    rw [List.reverse_cons, List.append_assoc, List.singleton_append] at later
    cases front with
    | nil => exact (if_neg fun e => hx e.1).trans later
    | cons y front => exact (if_neg fun e => hx e.1).trans later

theorem splitAtChar_append {a : Char} {front : List Char} (h : a ∉ front) (before rest : List Char) :
    splitAtChar a before (front ++ a :: rest) = some (before.reverse ++ front, rest) := by
  induction front generalizing before with
  | nil => simp [splitAtChar]
  | cons x front ih =>
    have hx : ¬ x = a := (List.ne_of_not_mem_cons h).symm
    have later := ih (List.not_mem_of_not_mem_cons h) (x :: before)
    rw [List.reverse_cons, List.append_assoc, List.singleton_append] at later
    exact (if_neg hx).trans later

/-! ## Steps -/

section
variable {valueOf : String → Option String} {text next : List Char}

/-- A step puts the meaning of a reference in its place. -/
theorem step_eq (h : step valueOf text = some next) :
    ∃ before reference after, text = before ++ '$' :: '\x7b' :: (reference ++ '\x7d' :: after) ∧
      next = before ++ meaning valueOf reference ++ after := by
  simp only [step, bind, Option.bind_eq_some_iff] at h
  obtain ⟨⟨before, rest⟩, opened, ⟨reference, after⟩, closed, h⟩ := h
  cases h
  have front := splitAtPair_eq opened
  have inner := splitAtChar_eq closed
  rw [List.reverse_nil, List.nil_append] at front inner
  exact ⟨before, reference, after, inner ▸ front, rfl⟩

variable {c : Char}

/-- A reference means no more of a character than it holds, if values do not hold it. -/
theorem count_meaning_le (lacking : ∀ name value, valueOf name = some value → c ∉ value.toList)
    (reference : List Char) : (meaning valueOf reference).count c ≤ reference.count c := by
  have default_le : ∀ name default, (splitAtPair ':' '-' [] reference).getD (reference, []) = (name, default) →
      default.count c ≤ reference.count c := by
    intro name default h
    cases split : splitAtPair ':' '-' [] reference with
    | none =>
      rw [split] at h
      cases h
      exact Nat.zero_le _
    | some parts =>
      rw [split] at h
      cases h
      have whole := splitAtPair_eq split
      rw [List.reverse_nil, List.nil_append] at whole
      rw [whole, List.count_append, List.count_cons, List.count_cons]
      omega
  rcases parts : (splitAtPair ':' '-' [] reference).getD (reference, []) with ⟨name, default⟩
  rw [meaning, parts]
  dsimp only
  cases known : valueOf (.ofList name) with
  | none => exact default_le name default parts
  | some value =>
    have none_left : value.toList.count c = 0 := List.count_eq_zero.2 (lacking _ value known)
    exact none_left ▸ Nat.zero_le _

/-- A step takes away one of the characters that make a reference, if values do not bring it back. -/
theorem count_step_lt (hc : c ∈ ['$', '\x7b', '\x7d'])
    (lacking : ∀ name value, valueOf name = some value → c ∉ value.toList)
    (h : step valueOf text = some next) : next.count c < text.count c := by
  obtain ⟨before, reference, after, rfl, rfl⟩ := step_eq h
  have kept := count_meaning_le lacking reference
  simp only [List.count_append, List.count_cons]
  simp only [List.mem_cons, List.not_mem_nil, or_false] at hc
  rcases hc with rfl | rfl | rfl <;> simp <;> omega

/-- Where values lack one of the characters that make a reference, there is an end to the steps, after no
more of them than the text has of these characters; and nothing is left to replace. -/
theorem ends_of_lacking (hc : c ∈ ['$', '\x7b', '\x7d'])
    (lacking : ∀ name value, valueOf name = some value → c ∉ value.toList) (text : List Char) :
    ∃ result, EndsIn valueOf text result ∧ run valueOf (text.count c) text = some result ∧
      step valueOf result = none := by
  have within : ∀ n text, text.count c ≤ n →
      ∃ result, run valueOf n text = some result ∧ step valueOf result = none := by
    intro n
    induction n with
    | zero =>
      intro text few
      cases stepped : step valueOf text with
      | none => exact ⟨text, by rw [run, stepped]; rfl, stepped⟩
      | some next => exact absurd (count_step_lt hc lacking stepped) (by omega)
    | succ n ih =>
      intro text few
      cases stepped : step valueOf text with
      | none => exact ⟨text, by rw [run, stepped], stepped⟩
      | some next =>
        have fewer := count_step_lt hc lacking stepped
        obtain ⟨result, ran, ended⟩ := ih next (by omega)
        exact ⟨result, by rw [run, stepped]; exact ran, ended⟩
  obtain ⟨result, ran, ended⟩ := within _ text (Nat.le_refl _)
  exact ⟨result, ⟨_, ran⟩, ran, ended⟩

end

/-- A value that makes a reference together with its neighbours, where no value holds a brace. -/
theorem ends_of_lacking_neighbours :
    let valueOf := fun name => if name = "A" then some "$" else none
    (∀ name value, valueOf name = some value → '\x7b' ∉ value.toList) ∧
      ∃ result, EndsIn valueOf "$\x7bA\x7d\x7bB:-b\x7d".toList result ∧ step valueOf result = none := by
  intro valueOf
  have lacking : ∀ name value, valueOf name = some value → '\x7b' ∉ value.toList := by
    intro name value h
    by_cases hn : name = "A"
    · rw [show valueOf name = some "$" from if_pos hn] at h
      cases h
      decide
    · rw [show valueOf name = none from if_neg hn] at h
      cases h
  obtain ⟨result, ends, -, ended⟩ := ends_of_lacking (by decide) lacking "$\x7bA\x7d\x7bB:-b\x7d".toList
  exact ⟨lacking, result, ends, ended⟩

/-! ## Steps without end -/

section
variable {valueOf : String → Option String}

/-- Texts from which every step leads to one of them are never done with. -/
theorem run_eq_none {P : List Char → Prop}
    (onward : ∀ text, P text → ∃ next, step valueOf text = some next ∧ P next) {text : List Char}
    (h : P text) (patience : Nat) : run valueOf patience text = none := by
  induction patience generalizing text with
  | zero =>
    obtain ⟨next, stepped, -⟩ := onward text h
    rw [run, stepped]
    rfl
  | succ patience ih =>
    obtain ⟨next, stepped, h'⟩ := onward text h
    rw [run, stepped]
    exact ih h'

/-- The first reference, by a name without a default, is replaced by its value. -/
theorem step_reference {name value : String} (hv : valueOf name = some value)
    (plain : splitAtPair ':' '-' [] name.toList = none) (hn : '\x7d' ∉ name.toList) {before : List Char}
    (hb : '$' ∉ before) (after : List Char) :
    step valueOf (before ++ '$' :: '\x7b' :: (name.toList ++ '\x7d' :: after)) =
      some (before ++ value.toList ++ after) := by
  have means : meaning valueOf name.toList = value.toList := by
    rw [meaning, plain]
    dsimp only [Option.getD]
    rw [String.ofList_toList, hv]
    rfl
  rw [step, splitAtPair_append hb]
  simp only [Option.bind_eq_bind, Option.bind_some, List.reverse_nil, List.nil_append, splitAtChar_append hn, means]
  rfl

/-- A variable whose value begins its references with one to itself is put in for ever. -/
theorem endless_of_self_reference {name value : String} {front back : List Char}
    (hv : valueOf name = some value)
    (self : value.toList = front ++ '$' :: '\x7b' :: (name.toList ++ '\x7d' :: back)) (hf : '$' ∉ front)
    (plain : splitAtPair ':' '-' [] name.toList = none) (hn : '\x7d' ∉ name.toList)
    {before : List Char} (hb : '$' ∉ before) (after : List Char) (patience : Nat) :
    run valueOf patience (before ++ '$' :: '\x7b' :: (name.toList ++ '\x7d' :: after)) = none := by
  let Again (text : List Char) : Prop := ∃ before after, '$' ∉ before ∧
    text = before ++ '$' :: '\x7b' :: (name.toList ++ '\x7d' :: after)
  have onward : ∀ text, Again text → ∃ next, step valueOf text = some next ∧ Again next := by
    rintro text ⟨before, after, hb, rfl⟩
    refine ⟨_, step_reference hv plain hn hb after, before ++ front, back ++ after, ?_, ?_⟩
    · simpa using ⟨hb, hf⟩
    · simp [self]
  exact run_eq_none onward ⟨before, after, hb, rfl⟩ patience

end

/-- There are texts and values that keep the steps going: the text is a reference to a variable whose value
holds a reference to the variable itself. -/
theorem steps_without_end :
    ∃ (valueOf : String → Option String) (text : List Char), ∀ result, ¬EndsIn valueOf text result := by
  let valueOf := fun name => if name = "X" then some "a$\x7bX\x7d" else none
  have known : valueOf "X" = some "a$\x7bX\x7d" := rfl
  have self : "a$\x7bX\x7d".toList = ['a'] ++ '$' :: '\x7b' :: ("X".toList ++ ['\x7d']) := rfl
  refine ⟨valueOf, '$' :: '\x7b' :: ("X".toList ++ ['\x7d']), ?_⟩
  rintro result ⟨patience, ran⟩
  have endless := endless_of_self_reference known self (by decide) rfl (by decide) List.not_mem_nil [] patience
  exact absurd (endless.symm.trans ran) nofun

end CloudProvider.Expansion
