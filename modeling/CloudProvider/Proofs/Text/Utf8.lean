import Mathlib.Tactic.SplitIfs
import CloudProvider.Text.Utf8

/-! # Text that was encoded is read back

The bytes of a character are read one after the other: the first tells how many follow, and each of these adds six
bits (`piecesFrom_more`, `piecesFrom_last`). So a text in UTF-8 is cut into its characters (`pieces_encode`), and
lenient reading has nothing to replace in it.
-/

namespace CloudProvider.Text.Utf8

/-! ## Single bytes -/

theorem begin?_two : ∀ h < 32, 2 ≤ h → begin? (UInt8.ofNat (h + 192)) = some ⟨h, 1, 1, 0x80, 0xBF⟩ := by decide

theorem begin?_three : ∀ h < 16, begin? (UInt8.ofNat (h + 224)) =
    some ⟨h, 1, 2, if h = 0 then 0xA0 else 0x80, if h = 13 then 0x9F else 0xBF⟩ := by decide

theorem begin?_four : ∀ h < 5, begin? (UInt8.ofNat (h + 240)) =
    some ⟨h, 1, 3, if h = 0 then 0x90 else 0x80, if h = 4 then 0x8F else 0xBF⟩ := by decide

theorem lead_high {n : Nat} (great : 128 ≤ n) (small : n < 256) : ¬UInt8.ofNat n < 0x80 := by
  simp only [UInt8.lt_iff_toNat_lt, UInt8.toNat_ofNat']
  change ¬n % 2 ^ 8 < 128
  omega

/-- A byte that follows holds six bits. -/
theorem tail_bits : ∀ d < 64, (UInt8.ofNat (d + 128) &&& 0x3F).toNat = d := by decide

theorem tail_bounds {l d h : Nat} (low : l ≤ d) (high : d ≤ h) (small : h < 64) :
    UInt8.ofNat (l + 128) ≤ UInt8.ofNat (d + 128) ∧ UInt8.ofNat (d + 128) ≤ UInt8.ofNat (h + 128) := by
  simp only [UInt8.le_iff_toNat_le, UInt8.toNat_ofNat']
  omega

/-- The byte behind the first has its bounds by the first. -/
theorem second_bounds {h z l u d : Nat} (low : h = 0 → l ≤ d) (high : h = z → d ≤ u) (small : d < 64) (hu : u < 64) :
    (if h = 0 then UInt8.ofNat (l + 128) else 0x80) ≤ UInt8.ofNat (d + 128) ∧
      UInt8.ofNat (d + 128) ≤ if h = z then UInt8.ofNat (u + 128) else 0xBF := by
  have any := tail_bounds (Nat.zero_le d) (Nat.le_of_lt_succ small) (by decide)
  constructor
  · split_ifs with least
    · exact (tail_bounds (low least) (Nat.le_of_lt_succ small) (by decide)).1
    · exact any.1
  · split_ifs with greatest
    · exact (tail_bounds (Nat.zero_le d) (high greatest) hu).2
    · exact any.2

/-! ## Characters -/

section
variable (done : List Piece) (bs : Bytes)

theorem piecesFrom_lead {b : UInt8} {p : Pending} (high : ¬b < 0x80) (begins : begin? b = some p) :
    piecesFrom none done (b :: bs) = piecesFrom (some p) done bs := by
  rw [piecesFrom, step, start, if_neg high, begins]

variable {p : Pending} {b : UInt8} {d : Nat} (bits : (b &&& 0x3F).toNat = d) (bounds : p.low ≤ b ∧ b ≤ p.high)
include bits bounds

/-- One more byte of a character that is still unfinished with it. -/
theorem piecesFrom_more (owed : 1 < p.owed) : piecesFrom (some p) done (b :: bs) =
    piecesFrom (some ⟨p.value * 64 + d, p.seen + 1, p.owed - 1, 0x80, 0xBF⟩) done bs := by
  simp [piecesFrom, step, bits, bounds, Nat.not_le.2 owed]

/-- The last byte of a character. -/
theorem piecesFrom_last (owed : p.owed = 1) : piecesFrom (some p) done (b :: bs) =
    piecesFrom none (.char (Char.ofNat (p.value * 64 + d)) :: done) bs := by
  simp [piecesFrom, step, bits, bounds, owed]

end

/-- The bytes of a character are read as this character. -/
theorem piecesFrom_char (done : List Piece) (c : Char) (bs : Bytes) :
    piecesFrom none done (String.utf8EncodeChar c ++ bs) = piecesFrom none (.char c :: done) bs := by
  have valid : c.toNat < 0xD800 ∨ 0xDFFF < c.toNat ∧ c.toNat < 0x110000 := c.valid
  have read {v : Nat} (same : v = c.toNat) : Char.ofNat v = c := by rw [same, Char.ofNat_toNat]
  have small (v : Nat) : v % 64 < 64 := Nat.mod_lt _ (by decide)
  have tail (v : Nat) := tail_bounds (Nat.zero_le (v % 64)) (Nat.le_of_lt_succ (small v)) (by decide)
  have value : c.val.toNat = c.toNat := rfl
  simp only [String.utf8EncodeChar, value]
  split_ifs with one two three
  · have ascii : UInt8.ofNat c.toNat < 0x80 ∧ (UInt8.ofNat c.toNat).toNat = c.toNat := by
      simp only [UInt8.lt_iff_toNat_lt, UInt8.toNat_ofNat']
      change c.toNat % 2 ^ 8 < 128 ∧ _
      omega
    rw [List.singleton_append, piecesFrom, step, start, if_pos ascii.1, ascii.2, read rfl]
  · have lead := begin?_two (c.toNat / 64 % 32) (by omega) (by omega)
    rw [List.cons_append, List.cons_append, List.nil_append, piecesFrom_lead _ _ (lead_high (by omega) (by omega)) lead,
      piecesFrom_last _ _ (tail_bits _ (small _)) (tail _) rfl, read (by dsimp only; omega)]
  · have lead := begin?_three (c.toNat / 4096 % 16) (by omega)
    have second := second_bounds (h := c.toNat / 4096 % 16) (z := 13) (l := 32) (u := 31) (d := c.toNat / 64 % 64)
      (by omega) (by omega) (small _) (by decide)
    rw [List.cons_append, List.cons_append, List.cons_append, List.nil_append,
      piecesFrom_lead _ _ (lead_high (by omega) (by omega)) lead,
      piecesFrom_more _ _ (tail_bits _ (small _)) second (by decide : 1 < 2),
      piecesFrom_last _ _ (tail_bits _ (small _)) (tail _) rfl, read (by dsimp only; omega)]
  · have lead := begin?_four (c.toNat / 262144 % 8) (by omega)
    have second := second_bounds (h := c.toNat / 262144 % 8) (z := 4) (l := 16) (u := 15) (d := c.toNat / 4096 % 64)
      (by omega) (by omega) (small _) (by decide)
    rw [List.cons_append, List.cons_append, List.cons_append, List.cons_append, List.nil_append,
      piecesFrom_lead _ _ (lead_high (by omega) (by omega)) lead,
      piecesFrom_more _ _ (tail_bits _ (small _)) second (by decide : 1 < 3),
      piecesFrom_more _ _ (tail_bits _ (small _)) (tail _) (by decide : 1 < 2),
      piecesFrom_last _ _ (tail_bits _ (small _)) (tail _) rfl, read (by dsimp only; omega)]

theorem pieces_encode (s : String) : pieces (encode s) = s.toList.map .char := by
  have all : ∀ done, piecesFrom none done (s.toList.flatMap String.utf8EncodeChar) =
      done.reverse ++ s.toList.map .char := by
    induction s.toList with
    | nil => exact fun done => (List.append_nil _).symm
    | cons c cs ih =>
      intro done
      rw [List.flatMap_cons, piecesFrom_char, ih, List.reverse_cons, List.append_assoc]
      rfl
  exact all []

theorem decodeLossy_encode (s : String) : decodeLossy (encode s) = s := by
  have shown : (s.toList.map Piece.char).map Piece.shown = s.toList := by
    rw [List.map_map]
    exact List.map_id _
  rw [decodeLossy, pieces_encode, shown, String.ofList_toList]

end CloudProvider.Text.Utf8
