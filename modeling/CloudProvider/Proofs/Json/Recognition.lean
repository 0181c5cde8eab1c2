import CloudProvider.Proofs.Json.Decode

/-! # What is read was written

The reader goes on behind a value only if what it took is one of the grammar, with the shape that it tells
(`readTree_ok`); and where the text stops before the end of an array or object, its shape says so. Hence
every text that a record is decoded from is a document (`Record.written_of_ofText`).
-/

namespace CloudProvider.Json

/-! ## Numerals -/

namespace Numeral

theorem digitChar_of_digit? {c : Char} {d : Nat} (h : digit? c = some d) : d < 10 ∧ c = d.digitChar := by
  unfold digit? at h
  split at h
  · rename_i hc
    have low : 48 ≤ c.toNat := hc.1
    have high : c.toNat ≤ 57 := hc.2
    cases h
    refine ⟨by omega, ?_⟩
    have back : ∀ d < 10, d.digitChar = Char.ofNat (d + 48) := by decide
    rw [back _ (by omega), Nat.sub_add_cancel low, Char.ofNat_toNat]
  · cases h

section
variable {cs rest : List Char}

theorem digits_ok {done ds : List Nat} (h : digits done cs = (ds, rest)) :
    ∃ more, ds = done.reverse ++ more ∧ (∀ d ∈ more, d < 10) ∧ cs = more.map Nat.digitChar ++ rest := by
  induction cs generalizing done with
  | nil => cases h; exact ⟨[], (List.append_nil _).symm, nofun, rfl⟩
  | cons c cs ih =>
    rw [digits] at h
    split at h
    · rename_i d hd
      obtain ⟨lt, rfl⟩ := digitChar_of_digit? hd
      obtain ⟨more, rfl, hlt, rfl⟩ := ih h
      exact ⟨d :: more, by simp, List.forall_mem_cons.2 ⟨lt, hlt⟩, rfl⟩
    · cases h; exact ⟨[], (List.append_nil _).symm, nofun, rfl⟩

theorem someDigits_ok {ds : List Nat} (h : someDigits cs = .ok (ds, rest)) :
    SomeDigits ds ∧ cs = ds.map Nat.digitChar ++ rest := by
  obtain ⟨found, rest', hd⟩ : ∃ found rest', digits [] cs = (found, rest') := ⟨_, _, rfl⟩
  obtain ⟨_, rfl, hlt, hcs⟩ := digits_ok hd
  rw [someDigits, hd] at h
  cases found with
  | nil => cases h
  | cons d found =>
    cases h
    exact ⟨⟨List.cons_ne_nil _ _, hlt⟩, hcs⟩

theorem scanWhole_ok {ds : List Nat} (h : scanWhole cs = .ok (ds, rest)) :
    SomeDigits ds ∧ (∀ ds', ds = 0 :: ds' → ds' = []) ∧ cs = ds.map Nat.digitChar ++ rest := by
  obtain ⟨⟨ds', rest'⟩, found, h⟩ := bind_ok h
  obtain ⟨some, hcs⟩ := someDigits_ok found
  split at h
  · cases h
  · rename_i alone
    cases h
    refine ⟨some, ?_, hcs⟩
    rintro (_ | ⟨d, ds'⟩) rfl
    · rfl
    · exact absurd rfl (alone _ _ _)

theorem scanFraction_ok {fraction : Option (List Nat)} (h : scanFraction cs = .ok (fraction, rest)) :
    ∃ f, WrittenFraction f fraction ∧ cs = f ++ rest := by
  unfold scanFraction at h
  split at h
  · obtain ⟨⟨ds, rest'⟩, found, h⟩ := bind_ok h
    obtain ⟨some, hcs⟩ := someDigits_ok found
    cases h
    exact ⟨_, .point some, congrArg _ hcs⟩
  · cases h
    exact ⟨[], .absent, rfl⟩

theorem scanSign_ok {down : Bool} (h : scanSign cs = (down, rest)) :
    cs = '+' :: rest ∧ down = false ∨ cs = '-' :: rest ∧ down = true ∨ cs = rest ∧ down = false := by
  unfold scanSign at h
  split at h <;> cases h
  · exact .inl ⟨rfl, rfl⟩
  · exact .inr (.inl ⟨rfl, rfl⟩)
  · exact .inr (.inr ⟨rfl, rfl⟩)

theorem scanPower_ok {power : Option (Bool × List Nat)} (h : scanPower cs = .ok (power, rest)) :
    ∃ p, WrittenPower p power ∧ cs = p ++ rest := by
  unfold scanPower at h
  split at h
  · rename_i c cs
    split at h
    · rename_i letter
      obtain ⟨⟨ds, rest'⟩, found, h⟩ := bind_ok h
      obtain ⟨some, hcs⟩ := someDigits_ok found
      cases h
      rcases scanSign_ok (rfl : scanSign cs = ((scanSign cs).1, (scanSign cs).2)) with ⟨hs, hd⟩ | ⟨hs, hd⟩ | ⟨hs, hd⟩
      · rw [hd, hs, hcs]; exact ⟨_, .up letter some, rfl⟩
      · rw [hd, hs, hcs]; exact ⟨_, .down letter some, rfl⟩
      · rw [hd, hs, hcs]; exact ⟨_, .plain letter some, rfl⟩
    · cases h; exact ⟨[], .absent, rfl⟩
  · cases h; exact ⟨[], .absent, rfl⟩

/-- What was scanned is a numeral. -/
theorem scan_ok {negative : Bool} {n : Numeral} (h : scan negative cs = .ok (n, rest)) :
    ∃ piece, n.Written piece ∧ n.negative = negative ∧ cs = piece ++ rest := by
  obtain ⟨⟨whole, cs₁⟩, hw, h⟩ := bind_ok h
  obtain ⟨⟨fraction, cs₂⟩, hf, h⟩ := bind_ok h
  obtain ⟨⟨power, cs₃⟩, hp, h⟩ := bind_ok h
  cases h
  obtain ⟨some, zero, rfl⟩ := scanWhole_ok hw
  obtain ⟨f, writtenF, hf⟩ := scanFraction_ok hf
  obtain ⟨p, writtenP, hp⟩ := scanPower_ok hp
  subst hf hp
  exact ⟨_, .mk some zero writtenF writtenP, rfl, by simp only [List.append_assoc]⟩

end
end Numeral

theorem readNumber_ok {negative : Bool} {cs rest : List Char} {t : Tree}
    (h : readNumber negative cs = (t, .ok rest)) :
    ∃ (n : Numeral) (piece : List Char), n.Written piece ∧ n.negative = negative ∧ t = .num n.value ∧
      cs = piece ++ rest := by
  unfold readNumber at h
  split at h
  · cases h
  · rename_i n _ scanned
    cases h
    obtain ⟨piece, written, sign, rfl⟩ := Numeral.scan_ok scanned
    exact ⟨n, piece, written, sign, rfl, rfl⟩

/-! ## Texts -/

theorem HexDigit.exists {c : Char} {v : Nat} (h : hexValue? c = some v) :
    ∃ d : HexDigit, d.val = c ∧ d.value = v := by
  refine ⟨⟨c, by rw [h]; rfl⟩, rfl, Option.some.inj ?_⟩
  rw [← HexDigit.read, h]

theorem readHex_ok {cs rest : List Char} {n : Nat} (h : readHex cs = .ok (n, rest)) :
    ∃ a b c d : HexDigit, n = Glyph.number a b c d ∧ cs = a.val :: b.val :: c.val :: d.val :: rest := by
  unfold readHex at h
  split at h
  · split at h
    · rename_i ha hb hc hd
      cases h
      obtain ⟨a, rfl, rfl⟩ := HexDigit.exists ha
      obtain ⟨b, rfl, rfl⟩ := HexDigit.exists hb
      obtain ⟨c, rfl, rfl⟩ := HexDigit.exists hc
      obtain ⟨d, rfl, rfl⟩ := HexDigit.exists hd
      exact ⟨a, b, c, d, rfl, rfl⟩
    · cases h
  · split at h <;> cases h

theorem readTrailing_ok {lead : Nat} {cs rest : List Char} {c : Char} (h : readTrailing lead cs = .ok (c, rest)) :
    ∃ g : Glyph, cs = g.chars ++ rest ∧
      ∀ gs, Glyph.meaningBehind lead (g :: gs) = (Glyph.meaning gs).map (c :: ·) := by
  unfold readTrailing at h
  split at h
  · cases h
  · cases h
  · obtain ⟨⟨n, rest'⟩, hn, found⟩ := bind_ok h
    clear h
    obtain ⟨a, b, c, d, rfl, rfl⟩ := readHex_ok hn
    dsimp only at found
    split at found
    · rename_i trailing
      obtain ⟨rfl, rfl⟩ := Prod.mk.inj (Except.ok.inj found)
      exact ⟨.code a b c d, rfl, fun gs => if_pos trailing⟩
    · cases found
  · cases h

/-- One step within a text takes a glyph, or two that are halves of one character. -/
theorem readEscape_ok {s s' : Spelled} {cs rest : List Char} (h : s.readEscape cs = .ok (s', rest)) :
    (∃ e c, namedEscape? e = some c ∧ cs = e :: rest ∧ s' = s.push c) ∨
    ∃ a b c d more, cs = 'u' :: a.val :: b.val :: c.val :: d.val :: more ∧
      (s', rest) = s.escaped (Glyph.number a b c d) more := by
  unfold Spelled.readEscape at h
  split at h
  · cases h
  · obtain ⟨⟨n, more⟩, hn, found⟩ := bind_ok h
    clear h
    obtain ⟨a, b, c, d, rfl, rfl⟩ := readHex_ok hn
    exact .inr ⟨a, b, c, d, more, rfl, (Except.ok.inj found).symm⟩
  · split at h
    · rename_i he
      cases h
      exact .inl ⟨_, _, he, rfl, rfl⟩
    · cases h

/-- Whatever stands behind the digits of a code, it is glyphs if the reader goes on with glyphs. -/
theorem escaped_ok {s s' : Spelled} {a b c d : HexDigit} {more rest rest' : List Char} {gs : List Glyph}
    (h : s.escaped (Glyph.number a b c d) more = (s', rest'))
    (later : rest' = gs.flatMap Glyph.chars ++ '"' :: rest) :
    ∃ gs' : List Glyph, more = gs'.flatMap Glyph.chars ++ '"' :: rest ∧
      s'.goesOn (Glyph.meaning gs) = s.goesOn (Glyph.meaning (.code a b c d :: gs')) := by
  rw [Spelled.escaped] at h
  split at h
  · rename_i trailing
    cases h
    exact ⟨gs, later, by rw [Spelled.goesOn_spoil, Glyph.meaning, if_pos trailing]⟩
  rename_i trailing
  split at h
  · rename_i leading
    have meant : ∀ gs', Glyph.meaning (.code a b c d :: gs') = Glyph.meaningBehind (Glyph.number a b c d) gs' := by
      intro gs'
      rw [Glyph.meaning, if_neg trailing, if_pos leading]
    split at h
    · rename_i half
      cases h
      obtain ⟨g, rfl, joined⟩ := readTrailing_ok half
      refine ⟨g :: gs, by rw [later, List.flatMap_cons, List.append_assoc], ?_⟩
      rw [meant, joined, Spelled.goesOn_push]
    · rename_i half
      cases h
      subst later
      refine ⟨gs, rfl, ?_⟩
      -- What is not the other half cannot be read as it.
      obtain ⟨c, gs', -, hr, -⟩ | ⟨f, hr, hm⟩ := readTrailing_glyphs (Glyph.number a b c d) gs rest
      · rw [half] at hr; cases hr
      · rw [half] at hr
        cases hr
        rw [meant, hm, Spelled.goesOn_spoil]
  · rename_i leading
    cases h
    exact ⟨gs, later, by rw [Spelled.goesOn_push, Glyph.meaning, if_neg trailing, if_neg leading]⟩

/-- A text that ends was written glyph by glyph. -/
theorem readText_ok {fuel : Nat} {s : Spelled} {cs rest : List Char} {k : Except Fault String}
    (h : readText fuel s cs = (k, .ok rest)) :
    ∃ gs : List Glyph, cs = gs.flatMap Glyph.chars ++ '"' :: rest ∧ k = s.goesOn (Glyph.meaning gs) := by
  induction fuel generalizing s cs with
  | zero => cases h
  | succ fuel ih =>
    unfold readText at h
    split at h
    · cases h
    · cases h
      refine ⟨[], rfl, ?_⟩
      obtain ⟨done, _ | f⟩ := s
      · simp [Spelled.text, Spelled.goesOn, Glyph.meaning, Except.map]
      · rfl
    · split at h
      · rename_i step
        obtain ⟨gs, hrest, rfl⟩ := ih h
        obtain ⟨e, c, he, rfl, rfl⟩ | ⟨a, b, c, d, more, rfl, hs⟩ := readEscape_ok step
        · exact ⟨.named e c he :: gs, by rw [hrest]; rfl, s.goesOn_push c _⟩
        · obtain ⟨gs', rfl, same⟩ := escaped_ok hs.symm hrest
          exact ⟨.code a b c d :: gs', rfl, same⟩
      · cases h
    · rename_i c more quote slash
      split at h
      · cases h
      · rename_i high
        obtain ⟨gs, rfl, rfl⟩ := ih h
        exact ⟨.plain c ⟨quote, slash, high⟩ :: gs, rfl, s.goesOn_push c _⟩

/-! ## Blanks and separators -/

section
variable {cs rest : List Char}

theorem blanks_exist (cs : List Char) : ∃ b : Blanks, cs = b.val ++ cs.dropWhile isBlank :=
  ⟨⟨cs.takeWhile isBlank, List.all_takeWhile⟩, List.takeWhile_append_dropWhile.symm⟩

theorem readLiteral_ok {t t' : Tree} {word : List Char} (h : readLiteral t word cs = (t', .ok rest)) :
    t' = t ∧ cs = word ++ rest := by
  induction word generalizing cs with
  | nil => cases h; exact ⟨rfl, rfl⟩
  | cons w ws ih =>
    cases cs with
    | nil => cases h
    | cons c cs =>
      rw [readLiteral] at h
      split at h
      · rename_i same
        obtain ⟨rfl, rfl⟩ := ih h
        exact ⟨rfl, same ▸ rfl⟩
      · cases h

theorem readColon_ok (h : readColon cs = .ok rest) : ∃ b : Blanks, cs = b.val ++ ':' :: rest := by
  obtain ⟨b, hb⟩ := blanks_exist cs
  unfold readColon at h
  split at h
  · rename_i hd
    cases h
    exact ⟨b, hd ▸ hb⟩
  · cases h
  · cases h

theorem afterItem_closed (h : afterItem cs = .closed rest) : ∃ b : Blanks, cs = b.val ++ ']' :: rest := by
  obtain ⟨b, hb⟩ := blanks_exist cs
  unfold afterItem at h
  split at h
  · cases h
  · rename_i hd
    cases h
    exact ⟨b, hd ▸ hb⟩
  · split at h <;> cases h
  · cases h

theorem afterItem_more (h : afterItem cs = .more rest) :
    ∃ (b : Blanks) (more : List Char), cs = b.val ++ ',' :: more ∧ rest = more.dropWhile isBlank := by
  obtain ⟨b, hb⟩ := blanks_exist cs
  unfold afterItem at h
  split at h
  · cases h
  · cases h
  · rename_i more hd
    refine ⟨b, more, hd ▸ hb, ?_⟩
    split at h
    · cases h
    · cases h
    · cases h; rfl
  · cases h

theorem afterField_closed (h : afterField cs = .closed rest) : ∃ b : Blanks, cs = b.val ++ '\x7d' :: rest := by
  obtain ⟨b, hb⟩ := blanks_exist cs
  unfold afterField at h
  split at h
  · cases h
  · rename_i hd
    cases h
    exact ⟨b, hd ▸ hb⟩
  · split at h <;> cases h
  · cases h

theorem afterField_more (h : afterField cs = .more rest) :
    ∃ b b' : Blanks, cs = b.val ++ ',' :: (b'.val ++ '"' :: rest) := by
  obtain ⟨b, hb⟩ := blanks_exist cs
  unfold afterField at h
  split at h
  · cases h
  · cases h
  · rename_i more hd
    obtain ⟨b', hb'⟩ := blanks_exist more
    split at h
    · cases h
    · rename_i hm
      cases h
      rw [hm] at hb'
      exact ⟨b, b', by rw [← hb', ← hd]; exact hb⟩
    · cases h
    · cases h
  · cases h

end

/-! ## Values

The induction is on fuel. What is behind a value is left as it stands, so each step hands over to the next
one where it ended.
-/

/-- A value that is read to its end is one of the grammar. -/
def TreesWritten (fuel : Nat) : Prop :=
  ∀ {cs rest : List Char} {t : Tree}, readTree fuel cs = (t, .ok rest) →
    ∃ (b : Blanks) (piece : List Char), Written piece t ∧ cs = b.val ++ (piece ++ rest)

def ItemsWritten (fuel : Nat) : Prop :=
  ∀ {cs rest : List Char} {ts : List Tree}, readItems fuel cs = (ts, .ok rest) →
    ∃ (i : Item) (is : List Item), (∀ j ∈ i :: is, Written j.text j.tree) ∧ ts = (i :: is).map Item.tree ∧
      cs = i.chars ++ (others Item.chars is ++ ']' :: rest)

/-- The blanks in front of the first quote are behind the reader. -/
def FieldsWritten (fuel : Nat) : Prop :=
  ∀ {cs rest : List Char} {fields : List (Except Fault String × Tree)}, readFields fuel cs = (fields, .ok rest) →
    ∀ b : Blanks, ∃ (m : Member) (ms : List Member), m.before = b ∧
      (∀ l ∈ m :: ms, Written l.value.text l.value.tree) ∧ fields = (m :: ms).map Member.field ∧
      cs = m.inner ++ (others Member.chars ms ++ '\x7d' :: rest)

section
variable {fuel : Nat}

theorem items_step (trees : TreesWritten fuel) (items : ItemsWritten fuel) : ItemsWritten (fuel + 1) := by
  intro cs rest ts h
  rw [readItems] at h
  split at h
  · cases h
  · rename_i t behind ht
    obtain ⟨b, piece, written, rfl⟩ := trees ht
    split at h
    · rename_i hc
      cases h
      obtain ⟨b', rfl⟩ := afterItem_closed hc
      refine ⟨⟨b, piece, b', t⟩, [], List.forall_mem_singleton.2 written, rfl, ?_⟩
      simp only [Item.chars, others, List.flatMap_nil, List.append_assoc, List.nil_append]
    · cases h
    · rename_i hm
      obtain ⟨b', more, rfl, rfl⟩ := afterItem_more hm
      rw [readItems_dropWhile] at h
      obtain ⟨later, end', hr⟩ : ∃ later end', readItems fuel more = (later, end') := ⟨_, _, rfl⟩
      rw [hr] at h
      cases h
      obtain ⟨j, js, hjs, rfl, rfl⟩ := items hr
      refine ⟨⟨b, piece, b', t⟩, j :: js, List.forall_mem_cons.2 ⟨written, hjs⟩, rfl, ?_⟩
      simp only [Item.chars, others_cons, List.append_assoc, List.cons_append]

theorem fields_step (trees : TreesWritten fuel) (fields : FieldsWritten fuel) : FieldsWritten (fuel + 1) := by
  intro cs rest found h before
  rw [readFields] at h
  split at h
  · cases h
  rename_i k behind hk
  obtain ⟨gs, rfl, rfl⟩ := readText_ok hk
  split at h
  · cases h
  rename_i value hv
  obtain ⟨between, rfl⟩ := readColon_ok hv
  split at h
  · cases h
  rename_i t behind ht
  obtain ⟨b, piece, written, rfl⟩ := trees ht
  split at h
  · rename_i hc
    cases h
    obtain ⟨b', rfl⟩ := afterField_closed hc
    refine ⟨⟨before, gs, between, ⟨b, piece, b', t⟩⟩, [], rfl, List.forall_mem_singleton.2 written, rfl, ?_⟩
    simp only [Member.inner, Item.chars, others, List.flatMap_nil, List.append_assoc, List.cons_append,
      List.nil_append]
  · cases h
  · rename_i more hm
    obtain ⟨b', next, rfl⟩ := afterField_more hm
    obtain ⟨later, end', hr⟩ : ∃ later end', readFields fuel more = (later, end') := ⟨_, _, rfl⟩
    rw [hr] at h
    cases h
    obtain ⟨m, ms, rfl, hms, rfl, rfl⟩ := fields hr next
    refine ⟨⟨before, gs, between, ⟨b, piece, b', t⟩⟩, m :: ms, rfl, List.forall_mem_cons.2 ⟨written, hms⟩, rfl, ?_⟩
    simp only [Member.inner, Member.chars, Item.chars, others_cons, List.append_assoc, List.cons_append]

theorem trees_step (items : ItemsWritten fuel) (fields : FieldsWritten fuel) : TreesWritten (fuel + 1) := by
  intro cs rest t h
  obtain ⟨b, hb⟩ := blanks_exist cs
  have here : ∀ piece, Written piece t → cs.dropWhile isBlank = piece ++ rest →
      ∃ (b : Blanks) (piece : List Char), Written piece t ∧ cs = b.val ++ (piece ++ rest) :=
    fun piece written hd => ⟨b, piece, written, hd ▸ hb⟩
  rw [readTree] at h
  split at h
  · cases h
  · rename_i hd
    obtain ⟨rfl, rfl⟩ := readLiteral_ok h
    exact here _ .null hd
  · rename_i hd
    obtain ⟨rfl, rfl⟩ := readLiteral_ok h
    exact here _ .yes hd
  · rename_i hd
    obtain ⟨rfl, rfl⟩ := readLiteral_ok h
    exact here _ .no hd
  · rename_i hd
    split at h
    · rename_i hk
      cases h
      obtain ⟨gs, rfl, rfl⟩ := readText_ok hk
      exact here _ (.str gs) (by rw [hd, List.cons_append, List.append_assoc]; rfl)
    · cases h
  · rename_i inner hd
    obtain ⟨b', hb'⟩ := blanks_exist inner
    split at h
    · cases h
    · rename_i hi
      cases h
      rw [hi] at hb'
      exact here _ (.noItems b') (by rw [hd, hb', List.cons_append, List.append_assoc]; rfl)
    · rw [readItems_dropWhile] at h
      obtain ⟨ts, end', hr⟩ : ∃ ts end', readItems fuel inner = (ts, end') := ⟨_, _, rfl⟩
      rw [hr] at h
      cases h
      obtain ⟨i, is, his, rfl, rfl⟩ := items hr
      exact here _ (.items his) (by rw [hd, List.cons_append, List.append_assoc, List.append_assoc]; rfl)
  · rename_i inner hd
    obtain ⟨b', hb'⟩ := blanks_exist inner
    split at h
    · cases h
    · rename_i hi
      cases h
      rw [hi] at hb'
      exact here _ (.noMembers b') (by rw [hd, hb', List.cons_append, List.append_assoc]; rfl)
    · rename_i behind hi
      obtain ⟨found, end', hr⟩ : ∃ found end', readFields fuel behind = (found, end') := ⟨_, _, rfl⟩
      rw [hr] at h
      cases h
      obtain ⟨m, ms, rfl, hms, rfl, rfl⟩ := fields hr b'
      refine here _ (.members hms) ?_
      rw [hd, hb', hi, Member.chars]
      simp only [List.append_assoc, List.cons_append, List.nil_append]
    · cases h
  · rename_i hd
    obtain ⟨n, piece, written, negative, rfl, rfl⟩ := readNumber_ok h
    refine here _ (.num written) ?_
    rw [hd, Numeral.sign, if_pos negative]
    rfl
  · rename_i hd
    split at h
    · obtain ⟨n, piece, written, negative, rfl, hcs⟩ := readNumber_ok h
      refine here _ (.num written) ?_
      rw [hd, Numeral.sign, if_neg (Bool.eq_false_iff.1 negative)]
      exact hcs
    · cases h

end

theorem all_written (fuel : Nat) : TreesWritten fuel ∧ ItemsWritten fuel ∧ FieldsWritten fuel := by
  induction fuel with
  | zero => exact ⟨nofun, nofun, nofun⟩
  | succ fuel ih =>
    obtain ⟨trees, items, fields⟩ := ih
    exact ⟨trees_step items fields, items_step trees items, fields_step trees fields⟩

theorem readTree_ok {fuel : Nat} {cs rest : List Char} {t : Tree} (h : readTree fuel cs = (t, .ok rest)) :
    ∃ (b : Blanks) (piece : List Char), Written piece t ∧ cs = b.val ++ (piece ++ rest) :=
  (all_written fuel).1 h

/-! ## Texts that stop -/

/-- The text does not come to the end of the value. -/
def Tree.Stopped : Tree → Prop
  | .malformed _ | .broken _ | .arr _ (.stopped _) | .obj _ _ (.stopped _) => True
  | _ => False

/-- Whoever passes over the value meets the fault. -/
theorem Tree.Stopped.not_skipped {t : Tree} (h : t.Stopped) : t.skip ≠ .ok () := by
  intro skipped
  unfold Stopped at h
  split at h
  · cases skipped
  · cases skipped
  · obtain ⟨_, -, ending⟩ := bind_ok skipped; cases ending
  · obtain ⟨_, -, ending⟩ := bind_ok skipped; cases ending
  · exact h

theorem readLiteral_stopped {t t' : Tree} {word cs : List Char} {stop : Stop}
    (h : readLiteral t word cs = (t', .error stop)) : t'.Stopped := by
  induction word generalizing cs with
  | nil => cases h
  | cons w ws ih =>
    cases cs with
    | nil => cases h; trivial
    | cons c cs =>
      rw [readLiteral] at h
      split at h
      · exact ih h
      · cases h; trivial

theorem readNumber_stopped {negative : Bool} {cs : List Char} {t : Tree} {stop : Stop}
    (h : readNumber negative cs = (t, .error stop)) : t.Stopped := by
  unfold readNumber at h
  split at h
  · cases h; trivial
  · cases h

theorem readTree_stopped {fuel : Nat} {cs : List Char} {t : Tree} {stop : Stop}
    (h : readTree fuel cs = (t, .error stop)) : t.Stopped := by
  cases fuel with
  | zero => cases h; trivial
  | succ fuel =>
    rw [readTree] at h
    split at h
    · cases h; trivial
    · exact readLiteral_stopped h
    · exact readLiteral_stopped h
    · exact readLiteral_stopped h
    · split at h
      · cases h
      · cases h; trivial
    · split at h
      · cases h; trivial
      · cases h
      · obtain ⟨rfl, hr⟩ := Prod.mk.inj h
        rw [hr]
        trivial
    · split at h
      · cases h; trivial
      · cases h
      · obtain ⟨rfl, hr⟩ := Prod.mk.inj h
        rw [hr]
        trivial
      · cases h; trivial
    · exact readNumber_stopped h
    · split at h
      · exact readNumber_stopped h
      · cases h; trivial

/-- A text that does not stop is a document, if nothing but blanks follows the value. -/
theorem Document.written_of_read {s : String} {t : Tree} (h : Document.read s = ⟨t, false⟩) (whole : ¬ t.Stopped) :
    Document.Written s t := by
  obtain ⟨t', r, hr⟩ : ∃ t' r, readTree (2 * s.toList.length + 2) s.toList = (t', r) := ⟨_, _, rfl⟩
  simp only [Document.read, hr, Document.mk.injEq] at h
  obtain ⟨rfl, trailing⟩ := h
  cases r with
  | error stop => exact absurd (readTree_stopped hr) whole
  | ok rest =>
    obtain ⟨b, piece, written, hs⟩ := readTree_ok hr
    exact ⟨⟨b, piece, ⟨rest, by simpa using trailing⟩, t'⟩, rfl, written, hs⟩

/-- The reader reads each document as its shape, and nothing else without a fault for one who passes over it. -/
theorem Document.written_iff {s : String} {t : Tree} :
    Document.Written s t ↔ Document.read s = ⟨t, false⟩ ∧ t.skip = .ok () :=
  ⟨fun h => ⟨h.read, h.skip⟩, fun h => written_of_read h.1 fun stopped => stopped.not_skipped h.2⟩

/-! ## Texts that are decoded -/

theorem Record.not_stopped {α : Type} {r : Record α} {title : String} {p : Place} {t : Tree} {x : α}
    (h : r.decoder title p t = .ok x) : ¬ t.Stopped := by
  unfold Record.decoder at h
  split at h
  · rename_i ending
    obtain ⟨p', -, h⟩ := bind_ok h
    obtain ⟨seen, -, h⟩ := bind_ok h
    obtain ⟨_, ended, -⟩ := bind_ok h
    cases ending with
    | closed => exact id
    | stopped stop => cases ended
  · rename_i items ending
    obtain ⟨p', -, h⟩ := bind_ok h
    obtain ⟨y, -, h⟩ := bind_ok h
    split at h
    · cases h
    · cases ending with
      | closed => exact id
      | stopped stop => cases h
  · obtain ⟨found, -, h⟩ := bind_ok h
    cases h

/-- Every text that a record is decoded from is a document. -/
theorem Record.written_of_ofText {α : Type} {r : Record α} {title s : String} {x : α}
    (h : (r.decoder title).ofText s = .ok x) : ∃ t, Document.Written s t := by
  obtain ⟨y, hy, h⟩ := bind_ok h
  refine ⟨(Document.read s).tree, Document.written_of_read ?_ (not_stopped hy)⟩
  split at h
  · cases h
  · rename_i trailing
    rw [← Bool.eq_false_iff.2 trailing]

end CloudProvider.Json
