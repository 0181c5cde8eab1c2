import CloudProvider.Url.Percent

/-! # Percent encoding and what it is read as

Encoding writes each byte as it is or as an escape (`Spells`). What was written is read as the same bytes,
unless they hold an escape of their own: encoding leaves the percent sign alone.
-/

namespace CloudProvider.Url
open Text (Bytes)

/-! ## Bytes of texts -/

theorem encode_injective {s s' : String} (h : Text.Utf8.encode s = Text.Utf8.encode s') : s = s' := by
  have same : s.toList.utf8Encode = s'.toList.utf8Encode := congrArg List.toByteArray h
  have read := congrArg ByteArray.utf8Decode? same
  rw [List.utf8Decode?_utf8Encode, List.utf8Decode?_utf8Encode] at read
  exact String.toList_injective (List.toArray_inj (Option.some.inj read))

theorem encode_ofList (cs : List Char) : Text.Utf8.encode (.ofList cs) = cs.flatMap String.utf8EncodeChar := by
  rw [Text.Utf8.encode, String.toList_ofList]

theorem utf8EncodeChar_ascii {c : Char} (h : c.toNat < 0x80) : String.utf8EncodeChar c = [c.toNat.toUInt8] := by
  have small : c.utf8Size = 1 := Char.utf8Size_eq_one_iff.2 (Nat.le_of_lt_succ h)
  rw [String.utf8EncodeChar_eq_singleton small]
  rfl

/-! ## Escapes -/

theorem hexByte?_upperHexDigit : ∀ n < 16,
    (upperHexDigit n).toNat < 0x80 ∧ hexByte? (upperHexDigit n).toNat.toUInt8 = some n.toUInt8 := by decide

/-- The bytes of an escape. -/
def escapeBytes (b : UInt8) : Bytes := (percentByte b).flatMap String.utf8EncodeChar

theorem percentDecode_escape (b : UInt8) (bs : Bytes) :
    percentDecode (escapeBytes b ++ bs) = b :: percentDecode bs := by
  obtain ⟨highSmall, high⟩ := hexByte?_upperHexDigit (b.toNat / 16) (by have := b.toNat_lt; omega)
  obtain ⟨lowSmall, low⟩ := hexByte?_upperHexDigit (b.toNat % 16) (by omega)
  have digits : (b.toNat / 16).toUInt8 * 16 + (b.toNat % 16).toUInt8 = b := by
    apply UInt8.toNat_inj.1
    have := b.toNat_lt
    simp only [UInt8.toNat_add, UInt8.toNat_mul, Nat.toUInt8, UInt8.toNat_ofNat']
    simp
    omega
  have spelled : escapeBytes b = [0x25, (upperHexDigit (b.toNat / 16)).toNat.toUInt8,
      (upperHexDigit (b.toNat % 16)).toNat.toUInt8] := by
    simp only [escapeBytes, percentByte, List.flatMap_cons, utf8EncodeChar_ascii highSmall,
      utf8EncodeChar_ascii lowSmall]
    rfl
  rw [spelled, List.cons_append, List.cons_append, List.cons_append, List.nil_append, percentDecode, high, low]
  dsimp only
  rw [if_pos rfl, digits]

/-- Bytes that begin with an escape. -/
def StartsEscape : Bytes → Prop
  | p :: a :: b :: _ => p = 0x25 ∧ (hexByte? a).isSome ∧ (hexByte? b).isSome
  | _ => False

theorem not_startsEscape {p : UInt8} (h : p ≠ 0x25) (bs : Bytes) : ¬StartsEscape (p :: bs) := by
  rcases bs with - | ⟨a, - | ⟨b, rest⟩⟩
  · exact id
  · exact id
  · exact fun escape => h escape.1

theorem percentDecode_cons {p : UInt8} {bs : Bytes} (h : ¬StartsEscape (p :: bs)) :
    percentDecode (p :: bs) = p :: percentDecode bs := by
  rcases bs with - | ⟨a, - | ⟨b, rest⟩⟩
  · rfl
  · rfl
  · rw [percentDecode]
    split
    · rename_i ha hb
      have plain : p ≠ 0x25 := fun hp => h ⟨hp, by rw [ha]; rfl, by rw [hb]; rfl⟩
      exact if_neg plain
    · rfl

theorem length_percentDecode (bs : Bytes) : (percentDecode bs).length ≤ bs.length := by
  fun_induction percentDecode bs with
  | case1 a b rest x hx y hy ih =>
    simp only [List.length_cons]
    omega
  | case2 | case3 =>
    simp only [List.length_cons] at *
    omega
  | case4 => exact Nat.le_refl _

/-- Bytes that are read as they are hold no escape. -/
theorem unescaped_cons {p : UInt8} {bs : Bytes} (h : percentDecode (p :: bs) = p :: bs) :
    ¬StartsEscape (p :: bs) ∧ percentDecode bs = bs := by
  have plain : ¬StartsEscape (p :: bs) := by
    intro escape
    rcases bs with - | ⟨a, - | ⟨b, rest⟩⟩
    · exact escape
    · exact escape
    · obtain ⟨rfl, ha, hb⟩ := escape
      obtain ⟨x, hx⟩ := Option.isSome_iff_exists.1 ha
      obtain ⟨y, hy⟩ := Option.isSome_iff_exists.1 hb
      rw [percentDecode, hx, hy] at h
      dsimp only at h
      rw [if_pos rfl] at h
      have shorter := length_percentDecode rest
      have same := congrArg List.length h
      simp only [List.length_cons] at same
      omega
  rw [percentDecode_cons plain] at h
  exact ⟨plain, (List.cons.inj h).2⟩

/-! ## Spelling -/

/-- Each byte is written as it is or as an escape. -/
inductive Spells : Bytes → Bytes → Prop
  | nil : Spells [] []
  | kept (b : UInt8) {bs es : Bytes} (rest : Spells bs es) : Spells (b :: bs) (b :: es)
  | escaped (b : UInt8) {bs es : Bytes} (rest : Spells bs es) : Spells (b :: bs) (escapeBytes b ++ es)

namespace Spells
variable {bs es bs' es' : Bytes}

theorem append (h : Spells bs es) (h' : Spells bs' es') : Spells (bs ++ bs') (es ++ es') := by
  induction h with
  | nil => exact h'
  | kept b rest ih => exact .kept b ih
  | escaped b rest ih =>
    rw [List.append_assoc]
    exact .escaped b ih

theorem allEscaped (bs : Bytes) : Spells bs (bs.flatMap escapeBytes) := by
  induction bs with
  | nil => exact .nil
  | cons b bs ih => exact .escaped b ih

theorem refl (bs : Bytes) : Spells bs bs := by
  induction bs with
  | nil => exact .nil
  | cons b bs ih => exact .kept b ih

/-- A digit that is written was there before: an escape begins with a percent sign, which is none. -/
theorem kept_of_digit {a : UInt8} (h : Spells bs (a :: es)) (digit : (hexByte? a).isSome) :
    ∃ bs', bs = a :: bs' ∧ Spells bs' es := by
  generalize hw : a :: es = written at h
  cases h with
  | nil => cases hw
  | kept b rest =>
    cases hw
    exact ⟨_, rfl, rest⟩
  | escaped b rest =>
    cases hw
    exact absurd digit (by decide)

theorem startsEscape {p : UInt8} (h : Spells bs es) (escape : StartsEscape (p :: es)) : StartsEscape (p :: bs) := by
  rcases es with - | ⟨a, - | ⟨b, es⟩⟩
  · exact escape.elim
  · exact escape.elim
  · obtain ⟨hp, ha, hb⟩ := escape
    obtain ⟨bs', rfl, later⟩ := h.kept_of_digit ha
    obtain ⟨bs'', rfl, -⟩ := later.kept_of_digit hb
    exact ⟨hp, ha, hb⟩

/-- What was written is read as it was, if it has no escapes of its own. -/
theorem percentDecode_eq (h : Spells bs es) (unescaped : percentDecode bs = bs) : percentDecode es = bs := by
  induction h with
  | nil => rfl
  | kept b rest ih =>
    obtain ⟨plain, unescaped⟩ := unescaped_cons unescaped
    rw [percentDecode_cons fun escape => plain (rest.startsEscape escape), ih unescaped]
  | escaped b rest ih => rw [percentDecode_escape, ih (unescaped_cons unescaped).2]

end Spells

theorem spells_percentEncode (set : EncodeSet) (cs : List Char) :
    Spells (cs.flatMap String.utf8EncodeChar) ((percentEncode set cs).flatMap String.utf8EncodeChar) := by
  induction cs with
  | nil => exact .nil
  | cons c cs ih =>
    rw [percentEncode, List.flatMap_cons, List.flatMap_cons, List.flatMap_append]
    refine .append ?_ ih
    rw [percentEncodeChar]
    split
    · rw [List.flatMap_singleton]
      exact .refl _
    · rw [List.flatMap_assoc]
      exact .allEscaped _

/-- A text without escapes is read from its encoding. -/
theorem percentDecode_percentEncode (set : EncodeSet) {s : String}
    (unescaped : percentDecode (Text.Utf8.encode s) = Text.Utf8.encode s) :
    percentDecode (Text.Utf8.encode (.ofList (percentEncode set s.toList))) = Text.Utf8.encode s := by
  rw [encode_ofList]
  exact (spells_percentEncode set s.toList).percentDecode_eq unescaped

end CloudProvider.Url
