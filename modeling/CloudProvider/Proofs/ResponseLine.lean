import CloudProvider.Envelope
import CloudProvider.Proofs.Json.Decode

/-! # The line that answers a call, and its reader

Nothing that is printed is a control character, so a response takes one line. Whoever reads the line as
a response has the response again, but for a result of null, which is written as no result is. Two
responses with one line thus differ in nothing but this.
-/

namespace CloudProvider
open Json (Decoder Record Field Place Fits)

namespace Json

/-! ## What is printed stays on its line -/

/-- None of the characters is a control character. -/
def Printed (cs : List Char) : Prop := ∀ c ∈ cs, 0x20 ≤ c.toNat

namespace Printed
variable {c : Char} {cs ds : List Char}

theorem nil : Printed [] := by
  intro c hc
  cases hc

theorem cons (hc : 0x20 ≤ c.toNat) (h : Printed cs) : Printed (c :: cs) := by
  intro d hd
  rcases List.mem_cons.1 hd with rfl | hd
  · exact hc
  · exact h d hd

theorem append (h : Printed cs) (h' : Printed ds) : Printed (cs ++ ds) := by
  intro c hc
  rcases List.mem_append.1 hc with hc | hc
  · exact h c hc
  · exact h' c hc

end Printed

theorem hexDigit_printed : ∀ n < 16, 0x20 ≤ (hexDigit n).toNat := by decide

theorem printed_escape (c : Char) : Printed (escape c) := by
  have named : ∀ d : Char, 0x20 ≤ d.toNat → Printed ['\\', d] := by
    intro d hd
    exact .cons (by decide) (.cons hd .nil)
  unfold escape
  split
  · exact named '"' (by decide)
  split
  · exact named '\\' (by decide)
  split
  · exact named 'n' (by decide)
  split
  · exact named 'r' (by decide)
  split
  · exact named 't' (by decide)
  split
  · exact named 'b' (by decide)
  split
  · exact named 'f' (by decide)
  split
  · -- What has no name of its own is told by its two digits.
    have high := hexDigit_printed (c.toNat / 16) (by omega)
    have low := hexDigit_printed (c.toNat % 16) (by omega)
    have digits := Printed.cons high (.cons low .nil)
    exact .cons (by decide) (.cons (by decide) (.cons (by decide) (.cons (by decide) digits)))
  · exact .cons (by omega) .nil

theorem printed_quote (s : String) : Printed (quote s) := by
  have text : Printed (s.toList.flatMap escape) := by
    intro d hd
    obtain ⟨c, -, hd⟩ := List.mem_flatMap.1 hd
    exact printed_escape c d hd
  exact .append (.cons (by decide) text) (.cons (by decide) .nil)

theorem printed_digits (n : Nat) : Printed (Nat.toDigits 10 n) := by
  have digit : ∀ d < 10, 0x20 ≤ d.digitChar.toNat := by decide
  obtain ⟨ds, h⟩ := Numeral.digits_exist n
  rw [h.chars]
  intro c hc
  obtain ⟨d, hd, rfl⟩ := List.mem_map.1 hc
  exact digit d (h.lt d hd)

theorem printed_number {n : Number} (h : n.IsInteger) : Printed n.chars := by
  cases n with
  | natural n => exact printed_digits n.toNat
  | negative below => exact .cons (by decide) (printed_digits (below.val + 1))
  | real x => exact absurd h id

mutual
theorem printed_chars : (j : Json) → j.IntegersOnly → Printed j.chars
  | .null, _ | .bool true, _ | .bool false, _ => by simp [chars, Printed]
  | .num n, h => by
    rw [chars]
    exact printed_number h
  | .str s, _ => by
    rw [chars]
    exact printed_quote s
  | .arr items, h => by
    have inside := printed_items items h
    rw [chars]
    exact .cons (by decide) (inside.append (.cons (by decide) .nil))
  | .obj fields, h => by
    have inside := printed_fields fields h
    rw [chars]
    exact .cons (by decide) (inside.append (.cons (by decide) .nil))
termination_by structural j => j

theorem printed_items : (js : List Json) → IntegersOnlyItems js → Printed (charsItems js)
  | [], _ => .nil
  | [j], h => printed_chars j h.1
  | j :: j' :: js, h => by
    have first := printed_chars j h.1
    have others := printed_items (j' :: js) h.2
    rw [charsItems_cons_cons]
    exact first.append (.cons (by decide) others)
termination_by structural js => js

theorem printed_fields : (fields : List (String × Json)) → IntegersOnlyFields fields →
    Printed (charsFields fields)
  | [], _ => .nil
  | [(k, j)], h => by
    have value := printed_chars j h.1
    exact (printed_quote k).append (.cons (by decide) value)
  | (k, j) :: f :: fields, h => by
    have value := printed_chars j h.1
    have others := printed_fields (f :: fields) h.2
    rw [charsFields_cons_cons]
    exact (printed_quote k).append (.cons (by decide) (value.append (.cons (by decide) others)))
termination_by structural fields => fields
end

end Json

/-! ## Parts of a response -/

/-- A kind is found again by its name: no two have one. -/
theorem FaultKind.variant_name (k : FaultKind) (p : Place) :
    Decoder.variant FaultKind.variants p (.ofJson (.str k.name)) = .ok k := by
  have found : FaultKind.variants.lookup k.name = some k := by cases k <;> decide
  exact Decoder.variant_ofJson found

theorem ResponseError.decoder_ofJson (e : ResponseError) {p : Place} (hp : 1 ≤ p.levels) :
    ResponseError.decoder p (.ofJson e.toJson) = .ok e := by
  have reads := (Record.Reads.pure (n := 0) ResponseError.mk)
    |>.field (f := .required "type" (.variant FaultKind.variants)) (j := .str e.kind.name) (by simp)
      (fun p _ => e.kind.variant_name p)
    |>.field (f := .required "message" .string) (j := .str e.message) (by simp)
      (fun _ _ => rfl)
    |>.field (f := .required "ok_to_retry" .bool) (j := .bool e.canRetry) (by simp)
      (fun _ _ => rfl)
  exact reads.decoder _ hp

namespace Response

/-- The response as it is read: a result of null is none. -/
def received (r : Response) : Response := { r with result := r.result.filter (· ≠ .null) }

/-- The numbers of the result are whole, and it nests within what a reader of the line allows: of the
127 levels of a text the response itself is one. -/
def Readable (r : Response) : Prop := ∀ j, r.result = some j → j.Fits 126

variable {r : Response}

theorem Readable.integersOnly (h : r.Readable) : r.toJson.IntegersOnly := by
  have result : (Json.nullable id r.result).IntegersOnly := by
    cases hr : r.result with
    | none => exact trivial
    | some j => exact (h j hr).integersOnly
  have error : (Json.nullable ResponseError.toJson r.error).IntegersOnly := by
    cases r.error with
    | none => exact trivial
    | some e => exact ⟨trivial, trivial, trivial, trivial⟩
  exact ⟨result, error, trivial, trivial⟩

/-- A result is read as what it is, unless it is null. -/
theorem result_ofJson (h : r.Readable) {p : Place} (hp : 126 ≤ p.levels) :
    Decoder.nullable Decoder.json p (.ofJson (.nullable id r.result)) = .ok r.received.result := by
  cases hr : r.result with
  | none =>
    rw [received, hr]
    rfl
  | some j =>
    by_cases hn : j = .null
    · subst hn
      rw [received, hr]
      rfl
    · have fits := h j hr
      have read := Decoder.json_ofJson j fits.canonical (Nat.le_trans fits.shallow hp)
      have kept : r.received.result = some j := by simp [received, hr, hn]
      rw [kept]
      exact Decoder.nullable_ofJson hn read

theorem error_ofJson (r : Response) {p : Place} (hp : 1 ≤ p.levels) :
    Decoder.nullable ResponseError.decoder p (.ofJson (.nullable ResponseError.toJson r.error)) =
      .ok r.error := by
  cases r.error with
  | none => rfl
  | some e => exact Decoder.nullable_ofJson (fun h => nomatch h) (e.decoder_ofJson hp)

theorem decoder_line (h : r.Readable) : Response.decoder.ofText r.line = .ok r.received := by
  have reads := (Record.Reads.pure (n := 126) Response.mk)
    |>.field (f := .nullable "result" .json) (by simp) (fun _ hl => r.result_ofJson h hl)
    |>.field (f := .nullable "error" ResponseError.decoder) (by simp)
      (fun _ hl => r.error_ofJson (Nat.le_trans (by decide) hl))
    |>.field (f := .required "log" .string) (j := .str r.log) (by simp)
      (fun _ _ => rfl)
  rw [line, Decoder.ofText_text _ h.integersOnly]
  exact reads.decoder _ (Nat.le_refl _)

/-- No character of the line is a control character, whoever reads it has the response without a result
of null, and a response with another error, log or result has another line. -/
theorem line_read_back (h : r.Readable) :
    (∀ c ∈ r.line.toList, 0x20 ≤ c.toNat) ∧
      Response.decoder.ofText r.line = .ok r.received ∧
      r.received.isSuccess = r.isSuccess ∧ r.received.error = r.error ∧ r.received.log = r.log ∧
      ∀ r' : Response, r'.Readable → r'.line = r.line →
        r'.error = r.error ∧ r'.log = r.log ∧ r'.received.result = r.received.result := by
  have printed : ∀ c ∈ r.line.toList, 0x20 ≤ c.toNat := by
    intro c hc
    have chars : r.line.toList = r.toJson.chars := String.toList_ofList
    rw [chars] at hc
    exact Json.printed_chars r.toJson h.integersOnly c hc
  refine ⟨printed, decoder_line h, rfl, rfl, rfl, ?_⟩
  intro r' h' heq
  have read := decoder_line h'
  rw [heq, decoder_line h] at read
  have same : r.received = r'.received := Except.ok.inj read
  have error : r'.received.error = r.received.error := by rw [same]
  have log : r'.received.log = r.received.log := by rw [same]
  exact ⟨error, log, by rw [same]⟩

/-- A failure whose texts need every kind of escape, beside a nested result; and a result of null. -/
theorem line_read_back_escaped :
    let r : Response := ⟨some (.obj [("a", .arr [.null, .num (.negative 6)]), ("b\n", .str "\"")]),
      some ⟨.vmNotFound, "no \\ \"vm\"\u0001\n", true⟩, "first\r\nsecond\t\u007f\u2028"⟩
    r.Readable ∧ Response.decoder.ofText r.line = .ok r ∧
      Response.decoder.ofText (Response.success .null "\n").line = .ok ⟨none, none, "\n"⟩ := by
  intro r
  have readable : r.Readable := by
    intro j hj
    cases hj
    have ascending : Entries.Ascending [("a", Json.arr [.null, .num (.negative 6)]), ("b\n", .str "\"")] :=
      List.pairwise_pair.2 (by decide)
    refine ⟨⟨ascending, ⟨trivial, trivial, trivial⟩, trivial, trivial⟩, ?_, by decide⟩
    exact ⟨⟨trivial, trivial, trivial⟩, trivial, trivial⟩
  have null : (Response.success .null "\n").Readable := by
    intro j hj
    cases hj
    exact ⟨trivial, trivial, by decide⟩
  exact ⟨readable, (line_read_back readable).2.1, (line_read_back null).2.1⟩

end Response
end CloudProvider
