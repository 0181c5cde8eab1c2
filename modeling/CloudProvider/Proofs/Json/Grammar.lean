import CloudProvider.Proofs.Json.Numeral

/-! # Documents as they are written

The texts that are documents, each with its shape (`Written`), said without a reader: blanks may stand
around every item, every name and every value; characters may be escaped in any way that the grammar
allows, and numerals may have any length. The reader takes exactly the value that stands in front of it
and leaves the rest (`Written.read`), and no fault is met by one who passes over it (`Written.skip`).
-/

namespace CloudProvider.Json

/-! ## Blanks -/

abbrev Blanks := { cs : List Char // cs.all isBlank = true }

theorem dropWhile_blanks (b : Blanks) (cs : List Char) :
    (b.val ++ cs).dropWhile isBlank = cs.dropWhile isBlank :=
  List.dropWhile_append_of_pos (List.all_eq_true.1 b.property)

theorem dropWhile_plain {c : Char} (h : isBlank c = false) (cs : List Char) :
    (c :: cs).dropWhile isBlank = c :: cs := by
  rw [List.dropWhile_cons, h]
  rfl

theorem dropWhile_dropWhile (cs : List Char) :
    (cs.dropWhile isBlank).dropWhile isBlank = cs.dropWhile isBlank := by
  induction cs with
  | nil => rfl
  | cons c cs ih =>
    rw [List.dropWhile_cons]
    split
    · exact ih
    · exact dropWhile_plain (Bool.eq_false_iff.2 ‹_›) cs

theorem ends_blanks (b : Blanks) {rest : List Char} (h : Numeral.Ends rest) :
    Numeral.Ends (b.val ++ rest) := by
  obtain ⟨_ | ⟨c, cs⟩, hb⟩ := b
  · exact h
  · have blank : isBlank c = true := List.all_eq_true.1 hb c List.mem_cons_self
    rintro _ _ ⟨⟩
    simp only [isBlank, Bool.or_eq_true, decide_eq_true_eq] at blank
    rcases blank with ((rfl | rfl) | rfl) | rfl <;> decide

/-! ## Texts -/

abbrev HexDigit := { c : Char // (hexValue? c).isSome = true }

def HexDigit.value (d : HexDigit) : Nat := (hexValue? d.val).get d.property

theorem HexDigit.read (d : HexDigit) : hexValue? d.val = some d.value := (Option.some_get d.property).symm

/-- What is written for a character between the quotes of a text, or for one half of a character. -/
inductive Glyph where
  | plain (c : Char) (h : c ≠ '"' ∧ c ≠ '\\' ∧ ¬ c.toNat < 0x20)
  | named (e c : Char) (h : namedEscape? e = some c)
  | code (a b c d : HexDigit)

namespace Glyph

def chars : Glyph → List Char
  | plain c _ => [c]
  | named e _ _ => ['\\', e]
  | code a b c d => ['\\', 'u', a.val, b.val, c.val, d.val]

def number (a b c d : HexDigit) : Nat := ((a.value * 16 + b.value) * 16 + c.value) * 16 + d.value

/-- The character of two halves. -/
def pair (lead trail : Nat) : Char := Char.ofNat ((lead - 0xD800) * 0x400 + (trail - 0xDC00) + 0x10000)

mutual
/-- What is meant; a half by itself is a fault. -/
def meaning : List Glyph → Except Fault (List Char)
  | [] => .ok []
  | plain c _ :: gs => (meaning gs).map (c :: ·)
  | named _ c _ :: gs => (meaning gs).map (c :: ·)
  | code a b c d :: gs =>
    let n := number a b c d
    if isTrailingSurrogate n then .error .loneSurrogate
    else if isLeadingSurrogate n then meaningBehind n gs
    else (meaning gs).map (Char.ofNat n :: ·)
termination_by structural gs => gs

/-- The same behind a leading half. -/
def meaningBehind (lead : Nat) : List Glyph → Except Fault (List Char)
  | code a b c d :: gs =>
    let n := number a b c d
    if isTrailingSurrogate n then (meaning gs).map (pair lead n :: ·) else .error .loneSurrogate
  | _ => .error .endOfEscape
termination_by structural gs => gs
end

def text (gs : List Glyph) : Except Fault String := (meaning gs).map .ofList

theorem length_le (gs : List Glyph) : gs.length ≤ (gs.flatMap chars).length := by
  induction gs with
  | nil => exact Nat.le_refl _
  | cons g gs ih =>
    have one : 1 ≤ g.chars.length := by cases g <;> simp [chars]
    simp only [List.flatMap_cons, List.length_append, List.length_cons]
    omega

end Glyph

theorem readHex_digits (a b c d : HexDigit) (rest : List Char) :
    readHex (a.val :: b.val :: c.val :: d.val :: rest) = .ok (Glyph.number a b c d, rest) := by
  rw [readHex, a.read, b.read, c.read, d.read]
  rfl

theorem readTrailing_code (lead : Nat) (a b c d : HexDigit) (cs : List Char) :
    readTrailing lead ((Glyph.code a b c d).chars ++ cs) =
      if isTrailingSurrogate (Glyph.number a b c d) then .ok (Glyph.pair lead (Glyph.number a b c d), cs)
      else .error .loneSurrogate := by
  show readTrailing lead ('\\' :: 'u' :: a.val :: b.val :: c.val :: d.val :: cs) = _
  rw [readTrailing, readHex_digits]
  rfl

theorem readTrailing_plain (lead : Nat) {c : Char} (h : c ≠ '\\') (cs : List Char) :
    readTrailing lead (c :: cs) = .error .endOfEscape := by
  rw [readTrailing.eq_def]
  split <;> rename_i he
  · cases he
  · exact absurd (List.cons.inj he).1 h
  · exact absurd (List.cons.inj he).1 h
  · rfl

theorem readTrailing_named (lead : Nat) {e c : Char} (h : namedEscape? e = some c) (cs : List Char) :
    readTrailing lead ('\\' :: e :: cs) = .error .endOfEscape := by
  rw [readTrailing.eq_4]
  · rintro ⟨⟩
  · exact fun h => nomatch h
  · rintro _ ⟨⟩
    cases h

/-- Behind a leading half stands the other half, or there is a fault and what stands there is read anew. -/
theorem readTrailing_glyphs (lead : Nat) (gs : List Glyph) (rest : List Char) :
    (∃ c gs', gs'.length < gs.length ∧
      readTrailing lead (gs.flatMap Glyph.chars ++ '"' :: rest) = .ok (c, gs'.flatMap Glyph.chars ++ '"' :: rest) ∧
      Glyph.meaningBehind lead gs = (Glyph.meaning gs').map (c :: ·)) ∨
    ∃ f, readTrailing lead (gs.flatMap Glyph.chars ++ '"' :: rest) = .error f ∧
      Glyph.meaningBehind lead gs = .error f := by
  match gs with
  | [] => exact .inr ⟨_, readTrailing_plain _ (by decide) _, rfl⟩
  | .plain c h :: gs => exact .inr ⟨_, readTrailing_plain _ h.2.1 _, rfl⟩
  | .named e c h :: gs => exact .inr ⟨_, readTrailing_named _ h _, rfl⟩
  | .code a b c d :: gs =>
    rw [List.flatMap_cons, List.append_assoc, readTrailing_code, Glyph.meaningBehind]
    by_cases trailing : isTrailingSurrogate (Glyph.number a b c d) = true
    · rw [if_pos trailing, if_pos trailing]
      exact .inl ⟨_, gs, Nat.lt_succ_self _, rfl, rfl⟩
    · rw [if_neg trailing, if_neg trailing]
      exact .inr ⟨_, rfl, rfl⟩

namespace Spelled

/-- The text, if this is how it goes on. -/
def goesOn (s : Spelled) (m : Except Fault (List Char)) : Except Fault String :=
  match s.flaw with
  | some f => .error f
  | none => m.map fun cs => .ofList (s.done.reverse ++ cs)

theorem goesOn_push (s : Spelled) (c : Char) (m : Except Fault (List Char)) :
    (s.push c).goesOn m = s.goesOn (m.map (c :: ·)) := by
  obtain ⟨done, _ | f⟩ := s
  · cases m with
    | error f => rfl
    | ok cs => simp [goesOn, push, Except.map]
  · rfl

theorem goesOn_spoil (s : Spelled) (f : Fault) (m : Except Fault (List Char)) :
    (s.spoil f).goesOn m = s.goesOn (.error f) := by
  obtain ⟨done, _ | g⟩ := s <;> rfl

end Spelled

section
variable (s : Spelled) (fuel : Nat) (rest : List Char)

theorem readText_plain {c : Char} (h : c ≠ '"' ∧ c ≠ '\\' ∧ ¬ c.toNat < 0x20) :
    readText (fuel + 1) s (c :: rest) = readText fuel (s.push c) rest := by
  rw [readText.eq_5 _ _ _ _ h.1 h.2.1, if_neg h.2.2]

theorem namedEscape?_ne {e c : Char} (h : namedEscape? e = some c) : e ≠ 'u' := by
  rintro rfl
  cases h

theorem readText_named {e c : Char} (h : namedEscape? e = some c) :
    readText (fuel + 1) s ('\\' :: e :: rest) = readText fuel (s.push c) rest := by
  rw [readText, Spelled.readEscape.eq_3 _ _ _ (namedEscape?_ne h), h]

theorem readText_code (a b c d : HexDigit) :
    readText (fuel + 1) s ((Glyph.code a b c d).chars ++ rest) =
      readText fuel (s.escaped (Glyph.number a b c d) rest).1 (s.escaped (Glyph.number a b c d) rest).2 := by
  show readText (fuel + 1) s ('\\' :: 'u' :: a.val :: b.val :: c.val :: d.val :: rest) = _
  rw [readText, Spelled.readEscape, readHex_digits]
  rfl

end

/-- A text is read to its closing quote, from behind whatever has been read of it. -/
theorem readText_glyphs (gs : List Glyph) (s : Spelled) {fuel : Nat} (rest : List Char)
    (h : gs.length < fuel) :
    readText fuel s (gs.flatMap Glyph.chars ++ '"' :: rest) = (s.goesOn (Glyph.meaning gs), .ok rest) := by
  induction fuel generalizing gs s with
  | zero => exact absurd h (Nat.not_lt_zero _)
  | succ fuel ih =>
    cases gs with
    | nil =>
      obtain ⟨done, _ | f⟩ := s
      · simp [readText, Spelled.text, Spelled.goesOn, Glyph.meaning, Except.map]
      · rfl
    | cons g gs =>
      have later := fun s => ih gs s (Nat.lt_of_succ_lt_succ h)
      rw [List.flatMap_cons, List.append_assoc]
      cases g with
      | plain c hc =>
        rw [Glyph.meaning, ← Spelled.goesOn_push, ← later]
        exact readText_plain _ _ _ hc
      | named e c he =>
        rw [Glyph.meaning, ← Spelled.goesOn_push, ← later]
        exact readText_named _ _ _ he
      | code a b c d =>
        rw [readText_code, Glyph.meaning, Spelled.escaped]
        split
        · rw [later, Spelled.goesOn_spoil]
        split
        · obtain ⟨c, gs', shorter, hr, hm⟩ | ⟨f, hr, hm⟩ := readTrailing_glyphs (Glyph.number a b c d) gs rest
          · rw [hr, hm, ← Spelled.goesOn_push]
            exact ih gs' _ (Nat.lt_trans shorter (Nat.lt_of_succ_lt_succ h))
          · rw [hr, hm, ← Spelled.goesOn_spoil, ← later]
        · rw [later, Spelled.goesOn_push]

/-- A text from behind its opening quote. -/
theorem readText_text (gs : List Glyph) {fuel : Nat} (rest : List Char) (h : gs.length < fuel) :
    readText fuel ⟨[], none⟩ (gs.flatMap Glyph.chars ++ '"' :: rest) = (Glyph.text gs, .ok rest) := by
  rw [readText_glyphs gs _ rest h]
  rfl

/-! ## Values -/

/-- A value with the blanks around it. -/
structure Item where
  before : Blanks
  text : List Char
  after : Blanks
  tree : Tree

def Item.chars (i : Item) : List Char := i.before.val ++ (i.text ++ i.after.val)

structure Member where
  before : Blanks
  name : List Glyph
  between : Blanks
  value : Item

namespace Member

/-- All of it behind the first quote. -/
def inner (m : Member) : List Char :=
  m.name.flatMap Glyph.chars ++ '"' :: (m.between.val ++ ':' :: m.value.chars)

def chars (m : Member) : List Char := m.before.val ++ '"' :: m.inner

def field (m : Member) : Except Fault String × Tree := (Glyph.text m.name, m.value.tree)

end Member

/-- All but the first of what commas separate. -/
def others {α : Type} (chars : α → List Char) (xs : List α) : List Char := xs.flatMap fun x => ',' :: chars x

def Numeral.sign (n : Numeral) : List Char := if n.negative then ['-'] else []

/-- What is written for a value, and its shape. -/
inductive Written : List Char → Tree → Prop
  | null : Written ['n', 'u', 'l', 'l'] .null
  | yes : Written ['t', 'r', 'u', 'e'] (.bool true)
  | no : Written ['f', 'a', 'l', 's', 'e'] (.bool false)
  | num {cs : List Char} {n : Numeral} (h : n.Written cs) : Written (n.sign ++ cs) (.num n.value)
  | str (gs : List Glyph) : Written ('"' :: (gs.flatMap Glyph.chars ++ ['"'])) (.str (Glyph.text gs))
  | noItems (b : Blanks) : Written ('[' :: (b.val ++ [']'])) (.arr [] .closed)
  | items {i : Item} {is : List Item} (h : ∀ j ∈ i :: is, Written j.text j.tree) :
    Written ('[' :: (i.chars ++ (others Item.chars is ++ [']']))) (.arr ((i :: is).map Item.tree) .closed)
  | noMembers (b : Blanks) : Written ('\x7b' :: (b.val ++ ['\x7d'])) (.obj none [] .closed)
  | members {m : Member} {ms : List Member} (h : ∀ l ∈ m :: ms, Written l.value.text l.value.tree) :
    Written ('\x7b' :: (m.chars ++ (others Member.chars ms ++ ['\x7d'])))
      (.obj none ((m :: ms).map Member.field) .closed)

/-- A whole text: a value, and blanks around it. -/
def Document.Written (s : String) (t : Tree) : Prop :=
  ∃ i : Item, i.tree = t ∧ Json.Written i.text t ∧ s.toList = i.chars

theorem Numeral.Written.begins {cs : List Char} {n : Numeral} (h : n.Written cs) :
    ∃ d more, d < 10 ∧ cs = d.digitChar :: more := by
  cases h with
  | @mk _ whole _ _ _ _ some =>
    match whole, some with
    | [], some => exact absurd rfl some.ne_nil
    | d :: ds, some => exact ⟨d, _, some.lt d List.mem_cons_self, rfl⟩

theorem digitChar_plain : ∀ d < 10, isBlank d.digitChar = false ∧ d.digitChar ≠ ']' := by decide

/-- A value begins with a character that is neither blank nor a bracket that closes. -/
theorem Written.begins {cs : List Char} {t : Tree} (h : Written cs t) :
    ∃ c more, cs = c :: more ∧ isBlank c = false ∧ c ≠ ']' := by
  cases h with
  | @num cs n h =>
    obtain ⟨d, more, hd, rfl⟩ := h.begins
    rw [Numeral.sign]
    split
    · exact ⟨_, _, rfl, by decide, by decide⟩
    · exact ⟨_, more, rfl, digitChar_plain d hd⟩
  | _ => exact ⟨_, _, rfl, by decide, by decide⟩

theorem Written.length_pos {cs : List Char} {t : Tree} (h : Written cs t) : 0 < cs.length := by
  obtain ⟨c, more, rfl, -, -⟩ := h.begins
  exact Nat.succ_pos _

/-! ## The reader takes what is written -/

theorem readTree_blanks (b : Blanks) (fuel : Nat) (cs : List Char) :
    readTree fuel (b.val ++ cs) = readTree fuel cs := by
  cases fuel with
  | zero => rfl
  | succ fuel => rw [readTree.eq_def, readTree.eq_def (fuel + 1) cs]; dsimp only; rw [dropWhile_blanks]

theorem readTree_dropWhile (fuel : Nat) (cs : List Char) :
    readTree fuel (cs.dropWhile isBlank) = readTree fuel cs := by
  cases fuel with
  | zero => rfl
  | succ fuel => rw [readTree.eq_def, readTree.eq_def (fuel + 1) cs]; dsimp only; rw [dropWhile_dropWhile]

theorem readItems_dropWhile (fuel : Nat) (cs : List Char) :
    readItems fuel (cs.dropWhile isBlank) = readItems fuel cs := by
  cases fuel with
  | zero => rfl
  | succ fuel => rw [readItems, readItems, readTree_dropWhile]

theorem afterItem_blanks (b : Blanks) (cs : List Char) : afterItem (b.val ++ cs) = afterItem cs := by
  rw [afterItem, afterItem, dropWhile_blanks]

theorem afterField_blanks (b : Blanks) (cs : List Char) : afterField (b.val ++ cs) = afterField cs := by
  rw [afterField, afterField, dropWhile_blanks]

/-- Blanks, and then something that does not close a list. -/
def GoesOn (cs : List Char) : Prop := ∃ c more, cs.dropWhile isBlank = c :: more ∧ c ≠ ']'

theorem Item.goesOn {i : Item} (h : Written i.text i.tree) (rest : List Char) : GoesOn (i.chars ++ rest) := by
  obtain ⟨c, more, ht, hb, hc⟩ := h.begins
  refine ⟨c, more ++ (i.after.val ++ rest), ?_, hc⟩
  rw [Item.chars, List.append_assoc, dropWhile_blanks, ht, List.append_assoc]
  exact dropWhile_plain hb _

theorem afterItem_comma {cs : List Char} (h : GoesOn cs) :
    afterItem (',' :: cs) = .more (cs.dropWhile isBlank) := by
  obtain ⟨c, more, hd, hc⟩ := h
  rw [afterItem, dropWhile_plain (by decide)]
  split
  case h_3 he =>
    cases he
    rw [hd]
    split
    · rename_i he; cases he
    · rename_i he; cases he; exact absurd rfl hc
    · rfl
  case h_4 he => exact absurd rfl (he _)
  all_goals rename_i he; cases he

section
variable (fuel : Nat) {cs rest : List Char}

theorem readTree_list (h : GoesOn cs) :
    readTree (fuel + 1) ('[' :: cs) =
      (.arr (readItems fuel cs).1 (.of (readItems fuel cs).2), (readItems fuel cs).2) := by
  obtain ⟨c, more, hd, hc⟩ := h
  rw [readTree, dropWhile_plain (by decide), ← readItems_dropWhile]
  split
  case h_6 he =>
    cases he
    rw [hd]
    split
    · rename_i he; cases he
    · rename_i he; cases he; exact absurd rfl hc
    · rfl
  case h_9 he => cases he; contradiction
  all_goals rename_i he; cases he

theorem readTree_noItems (h : cs.dropWhile isBlank = ']' :: rest) :
    readTree (fuel + 1) ('[' :: cs) = (.arr [] .closed, .ok rest) := by
  rw [readTree, dropWhile_plain (by decide)]
  split
  case h_6 he =>
    cases he
    rw [h]
    rfl
  case h_9 he => cases he; contradiction
  all_goals rename_i he; cases he

theorem readTree_text {k : Except Fault String} (h : readText fuel ⟨[], none⟩ cs = (k, .ok rest)) :
    readTree (fuel + 1) ('"' :: cs) = (.str k, .ok rest) := by
  rw [readTree, dropWhile_plain (by decide)]
  split
  case h_5 he =>
    cases he
    rw [h]
  case h_9 he => cases he; contradiction
  all_goals rename_i he; cases he

theorem readTree_object (h : cs.dropWhile isBlank = '"' :: rest) :
    readTree (fuel + 1) ('\x7b' :: cs) =
      (.obj none (readFields fuel rest).1 (.of (readFields fuel rest).2), (readFields fuel rest).2) := by
  rw [readTree, dropWhile_plain (by decide)]
  split
  case h_7 he =>
    cases he
    rw [h]
    rfl
  case h_9 he => cases he; contradiction
  all_goals rename_i he; cases he

theorem readTree_noMembers (h : cs.dropWhile isBlank = '\x7d' :: rest) :
    readTree (fuel + 1) ('\x7b' :: cs) = (.obj none [] .closed, .ok rest) := by
  rw [readTree, dropWhile_plain (by decide)]
  split
  case h_7 he =>
    cases he
    rw [h]
    rfl
  case h_9 he => cases he; contradiction
  all_goals rename_i he; cases he

theorem afterField_comma (h : cs.dropWhile isBlank = '"' :: rest) : afterField (',' :: cs) = .more rest := by
  rw [afterField, dropWhile_plain (by decide)]
  split
  case h_3 he =>
    cases he
    rw [h]
    rfl
  case h_4 he => exact absurd rfl (he _)
  all_goals rename_i he; cases he

end

/-- The value is read if nothing follows that could belong to it, and there is fuel for twice its length. -/
def TakenFrom (cs : List Char) (t : Tree) : Prop :=
  ∀ (fuel : Nat) (rest : List Char), 2 * cs.length ≤ fuel → Numeral.Ends rest →
    readTree fuel (cs ++ rest) = (t, .ok rest)

/-- An item is read up to the blanks behind it. -/
theorem Item.read {i : Item} (h : TakenFrom i.text i.tree) {fuel : Nat} {rest : List Char}
    (hf : 2 * i.chars.length ≤ fuel) (hr : Numeral.Ends rest) :
    readTree fuel (i.chars ++ rest) = (i.tree, .ok (i.after.val ++ rest)) := by
  rw [Item.chars, List.append_assoc, readTree_blanks, List.append_assoc]
  refine h fuel _ ?_ (ends_blanks i.after hr)
  simp only [Item.chars, List.length_append] at hf
  omega

section
variable {α : Type} (chars : α → List Char) (x : α) (xs : List α)

theorem others_cons : others chars (x :: xs) = ',' :: (chars x ++ others chars xs) := rfl

theorem length_others_cons :
    (others chars (x :: xs)).length = (chars x).length + (others chars xs).length + 1 := by
  rw [others_cons, List.length_cons, List.length_append]

end

theorem readItems_written {i : Item} {is : List Item} (h : ∀ j ∈ i :: is, Written j.text j.tree)
    (taken : ∀ j ∈ i :: is, TakenFrom j.text j.tree) {fuel : Nat} (rest : List Char)
    (hf : 2 * (i.chars.length + (others Item.chars is).length) < fuel) :
    readItems fuel (i.chars ++ (others Item.chars is ++ ']' :: rest)) = ((i :: is).map Item.tree, .ok rest) := by
  induction is generalizing i fuel with
  | nil =>
    obtain _ | fuel := fuel
    · exact absurd hf (Nat.not_lt_zero _)
    have first := Item.read (taken i List.mem_cons_self) (Nat.le_of_lt_succ hf)
      (Numeral.ends_cons (.inr (.inl rfl)) rest)
    show readItems (fuel + 1) (i.chars ++ ']' :: rest) = _
    rw [readItems, first]
    dsimp only
    rw [afterItem_blanks]
    rfl
  | cons j js ih =>
    obtain _ | fuel := fuel
    · exact absurd hf (Nat.not_lt_zero _)
    obtain ⟨-, h⟩ := List.forall_mem_cons.1 h
    obtain ⟨hi, taken⟩ := List.forall_mem_cons.1 taken
    rw [length_others_cons] at hf
    have later : readItems fuel (j.chars ++ (others Item.chars js ++ ']' :: rest)) = _ := ih h taken (by omega)
    have first := Item.read hi (by omega : 2 * i.chars.length ≤ fuel)
      (Numeral.ends_cons (.inl rfl) (j.chars ++ (others Item.chars js ++ ']' :: rest)))
    rw [others_cons, List.cons_append, List.append_assoc, readItems, first]
    dsimp only
    rw [afterItem_blanks, afterItem_comma (Item.goesOn (h j List.mem_cons_self) _)]
    dsimp only
    rw [readItems_dropWhile, later]
    rfl

namespace Member

theorem dropWhile_chars (m : Member) (rest : List Char) :
    (m.chars ++ rest).dropWhile isBlank = '"' :: (m.inner ++ rest) := by
  rw [chars, List.append_assoc, dropWhile_blanks]
  exact dropWhile_plain (by decide) _

section
variable {m : Member} (h : TakenFrom m.value.text m.value.tree) {fuel : Nat} {rest : List Char}
variable (hf : 2 * m.chars.length ≤ fuel) (hr : Numeral.Ends rest)
include h hf hr

/-- A member, from behind its first quote, up to the blanks behind its value. -/
theorem read : readFields (fuel + 1) (m.inner ++ rest) =
    match afterField rest with
    | .closed rest => ([m.field], .ok rest)
    | .stopped stop => ([m.field], .error stop)
    | .more rest => (m.field :: (readFields fuel rest).1, (readFields fuel rest).2) := by
  have short : m.name.length < fuel ∧ 2 * m.value.chars.length ≤ fuel := by
    have := Glyph.length_le m.name
    simp only [chars, inner, List.length_append, List.length_cons] at hf
    omega
  have colon : readColon (m.between.val ++ ':' :: (m.value.chars ++ rest)) = .ok (m.value.chars ++ rest) := by
    rw [readColon, dropWhile_blanks]
    rfl
  rw [inner, List.append_assoc, List.cons_append, List.append_assoc, List.cons_append, readFields,
    readText_text _ _ short.1]
  dsimp only
  rw [colon]
  dsimp only
  rw [Item.read h short.2 hr]
  dsimp only
  rw [afterField_blanks]
  rfl

end
end Member

theorem readFields_written {m : Member} {ms : List Member}
    (taken : ∀ l ∈ m :: ms, TakenFrom l.value.text l.value.tree) {fuel : Nat} (rest : List Char)
    (hf : 2 * (m.chars.length + (others Member.chars ms).length) < fuel) :
    readFields fuel (m.inner ++ (others Member.chars ms ++ '\x7d' :: rest)) =
      ((m :: ms).map Member.field, .ok rest) := by
  induction ms generalizing m fuel with
  | nil =>
    obtain _ | fuel := fuel
    · exact absurd hf (Nat.not_lt_zero _)
    exact Member.read (taken m List.mem_cons_self) (Nat.le_of_lt_succ hf)
      (Numeral.ends_cons (.inr (.inr rfl)) rest)
  | cons l ls ih =>
    obtain _ | fuel := fuel
    · exact absurd hf (Nat.not_lt_zero _)
    obtain ⟨hm, taken⟩ := List.forall_mem_cons.1 taken
    rw [length_others_cons] at hf
    have later : readFields fuel (l.inner ++ (others Member.chars ls ++ '\x7d' :: rest)) = _ := ih taken (by omega)
    rw [others_cons, List.cons_append, List.append_assoc,
      Member.read hm (by omega) (Numeral.ends_cons (.inl rfl) _), afterField_comma (l.dropWhile_chars _)]
    dsimp only
    rw [later]
    rfl

theorem readTree_num {cs : List Char} {n : Numeral} (h : n.Written cs) (fuel : Nat) {rest : List Char}
    (hr : Numeral.Ends rest) :
    readTree (fuel + 1) (n.sign ++ cs ++ rest) = (.num n.value, .ok rest) := by
  have hread : readNumber n.negative (cs ++ rest) = (.num n.value, .ok rest) := by
    rw [readNumber, h.scan hr]
  rw [Numeral.sign]
  split
  · rename_i negative
    rw [negative] at hread
    exact hread
  · rename_i negative
    rw [Bool.eq_false_iff.2 negative] at hread
    obtain ⟨d, more, hd, rfl⟩ := h.begins
    have start : ∀ d < 10, ∀ cs : List Char,
        readTree (fuel + 1) (d.digitChar :: cs) = readNumber false (d.digitChar :: cs) := by
      intro d hd cs
      match d, hd with
      | 0, _ | 1, _ | 2, _ | 3, _ | 4, _ | 5, _ | 6, _ | 7, _ | 8, _ | 9, _ => rfl
    exact (start d hd _).trans hread

/-- The reader takes a value and leaves what follows it. -/
theorem Written.taken {cs : List Char} {t : Tree} (h : Written cs t) : TakenFrom cs t := by
  induction h with
  | null | yes | no =>
    intro fuel rest hf _
    obtain _ | fuel := fuel
    · exact absurd hf (by decide)
    · rfl
  | num h =>
    intro fuel rest hf hr
    obtain _ | fuel := fuel
    · have := (Written.num h).length_pos
      omega
    · exact readTree_num h fuel hr
  | str gs =>
    intro fuel rest hf _
    obtain _ | fuel := fuel
    · exact absurd hf (by simp)
    have short := Glyph.length_le gs
    simp only [List.length_cons, List.length_append] at hf
    rw [List.cons_append, List.append_assoc]
    exact readTree_text fuel (readText_text gs rest (by omega))
  | noItems b =>
    intro fuel rest hf _
    obtain _ | fuel := fuel
    · exact absurd hf (by simp)
    rw [List.cons_append, List.append_assoc]
    exact readTree_noItems fuel (dropWhile_blanks b _)
  | @items i is h ih =>
    intro fuel rest hf _
    obtain _ | fuel := fuel
    · exact absurd hf (by simp)
    simp only [List.length_cons, List.length_append] at hf
    rw [List.cons_append, List.append_assoc, List.append_assoc, List.singleton_append,
      readTree_list fuel (Item.goesOn (h i List.mem_cons_self) _), readItems_written h ih rest (by omega)]
    rfl
  | noMembers b =>
    intro fuel rest hf _
    obtain _ | fuel := fuel
    · exact absurd hf (by simp)
    rw [List.cons_append, List.append_assoc]
    exact readTree_noMembers fuel (dropWhile_blanks b _)
  | @members m ms h ih =>
    intro fuel rest hf _
    obtain _ | fuel := fuel
    · exact absurd hf (by simp)
    simp only [List.length_cons, List.length_append] at hf
    rw [List.cons_append, List.append_assoc, List.append_assoc, List.singleton_append,
      readTree_object fuel (m.dropWhile_chars _),
      readFields_written ih rest (by omega)]
    rfl

namespace Tree

theorem skipItems_ok {ts : List Tree} : skipItems ts = .ok () ↔ ∀ t ∈ ts, t.skip = .ok () := by
  induction ts with
  | nil => exact ⟨fun _ _ h => (nomatch h), fun _ => rfl⟩
  | cons t ts ih =>
    rw [skipItems, List.forall_mem_cons, ← ih]
    cases t.skip with
    | error f => exact ⟨nofun, fun h => nomatch h.1⟩
    | ok u => exact ⟨fun h => ⟨rfl, h⟩, fun h => h.2⟩

theorem skipFields_ok {fields : List (Except Fault String × Tree)} :
    skipFields fields = .ok () ↔ ∀ e ∈ fields, e.2.skip = .ok () := by
  induction fields with
  | nil => exact ⟨fun _ _ h => (nomatch h), fun _ => rfl⟩
  | cons e fields ih =>
    rw [skipFields, List.forall_mem_cons, ← ih]
    cases e.2.skip with
    | error f => exact ⟨nofun, fun h => nomatch h.1⟩
    | ok u => exact ⟨fun h => ⟨rfl, h⟩, fun h => h.2⟩

theorem skip_arr {ts : List Tree} : (arr ts .closed).skip = .ok () ↔ ∀ t ∈ ts, t.skip = .ok () := by
  rw [← skipItems_ok, skip]
  cases skipItems ts <;> exact Iff.rfl

theorem skip_obj {misplaced : Option Tree} {fields : List (Except Fault String × Tree)} :
    (obj misplaced fields .closed).skip = .ok () ↔ ∀ e ∈ fields, e.2.skip = .ok () := by
  rw [← skipFields_ok, skip]
  cases skipFields fields <;> exact Iff.rfl

end Tree

/-- Nobody who passes over a value meets a fault. -/
theorem Written.skip {cs : List Char} {t : Tree} (h : Written cs t) : t.skip = .ok () := by
  induction h with
  | null | yes | no | num | str | noItems | noMembers => rfl
  | items h ih => exact Tree.skip_arr.2 (List.forall_mem_map.2 ih)
  | members h ih => exact Tree.skip_obj.2 (List.forall_mem_map.2 ih)

theorem Document.Written.skip {s : String} {t : Tree} (h : Document.Written s t) : t.skip = .ok () := by
  obtain ⟨i, -, h, -⟩ := h
  exact h.skip

/-- A whole text is read as its shape. -/
theorem Document.Written.read {s : String} {t : Tree} (h : Document.Written s t) :
    Document.read s = ⟨t, false⟩ := by
  obtain ⟨i, rfl, h, hs⟩ := h
  have hr := Item.read h.taken (by omega : 2 * i.chars.length ≤ 2 * i.chars.length + 2) Numeral.ends_nil
  rw [List.append_nil, List.append_nil] at hr
  rw [Document.read, hs]
  dsimp only
  rw [hr]
  simp [i.after.property]

end CloudProvider.Json
