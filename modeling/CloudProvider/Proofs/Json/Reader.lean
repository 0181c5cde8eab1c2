import CloudProvider.Json.Printer
import CloudProvider.Proofs.Json.Grammar

/-! # Reading undoes printing

What is printed for a value is a document of the shape of this value, and so the shape that is read off it
(`read_text`). A number with a fraction or an exponent is left out: whether its decimal text leads back to
it is another matter.
-/

namespace CloudProvider.Json

/-! ## Texts -/

theorem hexValue?_hexDigit : ∀ n < 16, hexValue? (hexDigit n) = some n := by decide

def HexDigit.of (n : Nat) (h : n < 16) : HexDigit := ⟨hexDigit n, by rw [hexValue?_hexDigit n h]; rfl⟩

theorem HexDigit.value_of {n : Nat} (h : n < 16) : (HexDigit.of n h).value = n :=
  Option.some.inj ((HexDigit.read _).symm.trans (hexValue?_hexDigit n h))

/-- What is printed for a character stands for this character. -/
theorem escape_glyph (c : Char) :
    ∃ g : Glyph, g.chars = escape c ∧ ∀ gs, Glyph.meaning (g :: gs) = (Glyph.meaning gs).map (c :: ·) := by
  have named : ∀ e, namedEscape? e = some c → escape c = ['\\', e] → ∃ g : Glyph, g.chars = escape c ∧
      ∀ gs, Glyph.meaning (g :: gs) = (Glyph.meaning gs).map (c :: ·) := fun e he hc =>
    ⟨.named e c he, hc.symm, fun _ => rfl⟩
  by_cases hq : c = '"'
  · subst hq; exact named '"' (by decide) rfl
  by_cases hb : c = '\\'
  · subst hb; exact named '\\' (by decide) rfl
  by_cases hn : c = '\n'
  · subst hn; exact named 'n' (by decide) rfl
  by_cases hr : c = '\r'
  · subst hr; exact named 'r' (by decide) rfl
  by_cases ht : c = '\t'
  · subst ht; exact named 't' (by decide) rfl
  by_cases h8 : c = '\x08'
  · subst h8; exact named 'b' (by decide) rfl
  by_cases hc : c = '\x0c'
  · subst hc; exact named 'f' (by decide) rfl
  simp only [escape, hq, hb, hn, hr, ht, h8, hc, if_false]
  by_cases hlow : c.toNat < 0x20
  · have high : c.toNat / 16 < 16 := by omega
    have low : c.toNat % 16 < 16 := Nat.mod_lt _ (by decide)
    have zero : 0 < 16 := by decide
    have number : Glyph.number (.of 0 zero) (.of 0 zero) (.of _ high) (.of _ low) = c.toNat := by
      simp only [Glyph.number, HexDigit.value_of]
      omega
    refine ⟨.code (.of 0 zero) (.of 0 zero) (.of _ high) (.of _ low), (if_pos hlow).symm, fun gs => ?_⟩
    have htrail : isTrailingSurrogate c.toNat = false := by simp [isTrailingSurrogate]; omega
    have hlead : isLeadingSurrogate c.toNat = false := by simp [isLeadingSurrogate]; omega
    simp only [Glyph.meaning, number, htrail, hlead, Bool.false_eq_true, if_false, Char.ofNat_toNat]
  · exact ⟨.plain c ⟨hq, hb, hlow⟩, (if_neg hlow).symm, fun gs => rfl⟩

theorem quote_glyphs (cs : List Char) :
    ∃ gs : List Glyph, gs.flatMap Glyph.chars = cs.flatMap escape ∧ Glyph.meaning gs = .ok cs := by
  induction cs with
  | nil => exact ⟨[], rfl, rfl⟩
  | cons c cs ih =>
    obtain ⟨g, hg, meant⟩ := escape_glyph c
    obtain ⟨gs, hgs, meaning⟩ := ih
    refine ⟨g :: gs, ?_, ?_⟩
    · rw [List.flatMap_cons, List.flatMap_cons, hg, hgs]
    · rw [meant, meaning]; rfl

theorem text_glyphs (s : String) :
    ∃ gs : List Glyph, '"' :: (gs.flatMap Glyph.chars ++ ['"']) = quote s ∧ Glyph.text gs = .ok s := by
  obtain ⟨gs, hgs, meaning⟩ := quote_glyphs s.toList
  refine ⟨gs, by rw [hgs]; rfl, ?_⟩
  rw [Glyph.text, meaning]
  exact congrArg Except.ok String.ofList_toList

theorem written_quote (s : String) : Written (quote s) (.str (.ok s)) := by
  obtain ⟨gs, hgs, ht⟩ := text_glyphs s
  rw [← hgs, ← ht]
  exact .str gs

/-! ## Values -/

theorem written_number {n : Number} (h : n.IsInteger) : Written n.chars (.num (.ok n)) := by
  cases n with
  | real x => exact absurd h id
  | natural n =>
    obtain ⟨ds, h⟩ := Numeral.digits_exist n.toNat
    rw [← Numeral.value_natural h]
    exact .num (h.written false)
  | negative below =>
    obtain ⟨ds, h⟩ := Numeral.digits_exist (below.val + 1)
    rw [← Numeral.value_negative h]
    exact .num (h.written true)

theorem charsItems_cons_cons (j j' : Json) (js : List Json) :
    charsItems (j :: j' :: js) = j.chars ++ ',' :: charsItems (j' :: js) := rfl

theorem charsFields_cons_cons (k : String) (j : Json) (f : String × Json)
    (fields : List (String × Json)) :
    charsFields ((k, j) :: f :: fields) = quote k ++ ':' :: (j.chars ++ ',' :: charsFields (f :: fields)) :=
  rfl

/-- A printed value as an item. There are no blanks. -/
def Item.ofJson (j : Json) : Item := ⟨⟨[], rfl⟩, j.chars, ⟨[], rfl⟩, .ofJson j⟩

theorem Item.chars_ofJson (j : Json) : (Item.ofJson j).chars = j.chars := List.append_nil _

theorem charsItems_eq (j : Json) (js : List Json) :
    charsItems (j :: js) = (Item.ofJson j).chars ++ others Item.chars (js.map Item.ofJson) := by
  induction js generalizing j with
  | nil => rw [charsItems, Item.chars_ofJson]; exact (List.append_nil _).symm
  | cons j' js ih => rw [charsItems_cons_cons, ih, List.map_cons, others_cons, Item.chars_ofJson, Item.chars_ofJson]

theorem ofItems_eq (js : List Json) : Tree.ofItems js = (js.map Item.ofJson).map Item.tree := by
  induction js with
  | nil => rfl
  | cons j js ih => rw [Tree.ofItems, ih]; rfl

/-- A printed member. -/
theorem member_exists (k : String) (j : Json) :
    ∃ m : Member, m.chars = quote k ++ ':' :: j.chars ∧ m.field = (.ok k, .ofJson j) ∧ m.value = .ofJson j := by
  obtain ⟨gs, hgs, ht⟩ := text_glyphs k
  refine ⟨⟨⟨[], rfl⟩, gs, ⟨[], rfl⟩, .ofJson j⟩, ?_, ?_, rfl⟩
  · rw [← hgs, List.cons_append, List.append_assoc, Member.chars, Member.inner, Item.chars_ofJson]
    rfl
  · rw [Member.field, ht]
    rfl

theorem members_exist (k : String) (j : Json) (fields : List (String × Json))
    (h : ∀ e ∈ (k, j) :: fields, Written e.2.chars (.ofJson e.2)) :
    ∃ m ms, charsFields ((k, j) :: fields) = m.chars ++ others Member.chars ms ∧
      (m :: ms).map Member.field = Tree.ofFields ((k, j) :: fields) ∧
      ∀ l ∈ m :: ms, Written l.value.text l.value.tree := by
  induction fields generalizing k j with
  | nil =>
    obtain ⟨m, hm, hfield, hvalue⟩ := member_exists k j
    refine ⟨m, [], ?_, congrArg (· :: []) hfield, List.forall_mem_singleton.2 ?_⟩
    · rw [charsFields, hm]
      exact (List.append_nil _).symm
    · rw [hvalue]
      exact h _ List.mem_cons_self
  | cons f fields ih =>
    obtain ⟨m, hm, hfield, hvalue⟩ := member_exists k j
    obtain ⟨hj, h⟩ := List.forall_mem_cons.1 h
    obtain ⟨l, ls, hchars, hfields, hw⟩ := ih f.1 f.2 h
    refine ⟨m, l :: ls, ?_, ?_, List.forall_mem_cons.2 ⟨hvalue ▸ hj, hw⟩⟩
    · rw [charsFields_cons_cons, hchars, hm, List.append_assoc, others_cons]
      rfl
    · rw [List.map_cons, hfields, hfield]
      rfl

mutual
/-- A printed value is a document of its shape. -/
theorem written_chars : (j : Json) → j.IntegersOnly → Written j.chars (.ofJson j)
  | .null, _ => .null
  | .bool true, _ => .yes
  | .bool false, _ => .no
  | .num n, h => written_number h
  | .str s, _ => written_quote s
  | .arr [], _ => .noItems ⟨[], rfl⟩
  | .arr (j :: js), h => by
    have hw : ∀ i ∈ (j :: js).map Item.ofJson, Written i.text i.tree :=
      List.forall_mem_map.2 (written_items (j :: js) h)
    rw [chars, charsItems_eq, Tree.ofJson, ofItems_eq, List.append_assoc]
    exact .items hw
  | .obj [], _ => .noMembers ⟨[], rfl⟩
  | .obj ((k, j) :: fields), h => by
    obtain ⟨m, ms, hchars, hfields, hw⟩ := members_exist k j fields (written_fields ((k, j) :: fields) h)
    rw [chars, hchars, Tree.ofJson, ← hfields, List.append_assoc]
    exact .members hw
termination_by structural j => j

theorem written_items : (js : List Json) → IntegersOnlyItems js → ∀ j ∈ js, Written j.chars (.ofJson j)
  | [], _ => nofun
  | j :: js, h => List.forall_mem_cons.2 ⟨written_chars j h.1, written_items js h.2⟩
termination_by structural js => js

theorem written_fields : (fields : List (String × Json)) → IntegersOnlyFields fields →
    ∀ e ∈ fields, Written e.2.chars (.ofJson e.2)
  | [], _ => nofun
  | (_, j) :: fields, h => List.forall_mem_cons.2 ⟨written_chars j h.1, written_fields fields h.2⟩
termination_by structural fields => fields
end

/-- A printed value is a document of its shape. -/
theorem written_text {j : Json} (h : j.IntegersOnly) : Document.Written j.text (.ofJson j) :=
  ⟨.ofJson j, rfl, written_chars j h, by rw [Item.chars_ofJson]; exact String.toList_ofList⟩

/-- The shape of a printed value. -/
theorem read_text {j : Json} (h : j.IntegersOnly) : Document.read j.text = ⟨.ofJson j, false⟩ :=
  (written_text h).read

end CloudProvider.Json
