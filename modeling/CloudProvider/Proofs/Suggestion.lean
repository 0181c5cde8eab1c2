import Mathlib.Tactic.SplitIfs
import CloudProvider.Proofs.Positions
import CloudProvider.Proofs.Text.EditDistance

/-! # The method that was meant

A method that is not known is answered with the nearest name of the table, if one is near enough: of the names that
the fewest edits lead from, the first (`suggestion_cases`). The names stand in the order of their bytes
(`encode_lt_encode`), and a method that has been lowered has no capital, so what it says cannot be taken for a
suggestion (`lowerCase_capital`).
-/

namespace CloudProvider

/-! ## The order of names -/

namespace Text.Utf8

theorem utf8EncodeChar_lt {c d : Char} (h : c < d) (bs bs' : Bytes) :
    String.utf8EncodeChar c ++ bs < String.utf8EncodeChar d ++ bs' := by
  have less : c.val.toNat < d.val.toNat := h
  have great : d.val.toNat < 0x110000 := d.valid.elim (by omega) (·.2)
  simp only [String.utf8EncodeChar]
  generalize c.val.toNat = m at *
  generalize d.val.toNat = n at *
  have digit (n : Nat) : (n % 64 + 128) % 2 ^ 8 = n % 64 + 128 := by omega
  have higher (n : Nat) : n / 64 / 64 = n / 4096 ∧ n / 4096 / 64 = n / 262144 := by omega
  have lead (n : Nat) (great : n < 0x110000) : (n / 262144 % 8 + 240) % 2 ^ 8 = n / 262144 + 240 := by omega
  have := higher m
  have := higher n
  have := lead m (by omega)
  have := lead n great
  -- The first bytes tell lengths apart; within a length the bytes are digits.
  split_ifs <;> simp only [List.cons_append, List.nil_append, List.cons_lt_cons_iff, UInt8.lt_iff_toNat_lt,
    ← UInt8.toNat_inj, UInt8.toNat_ofNat', digit] <;> omega

/-- The order of texts is that of their bytes. -/
theorem encode_lt_encode {s t : String} (h : s < t) : encode s < encode t := by
  have listed : ∀ cs ds : List Char, cs < ds →
      cs.flatMap String.utf8EncodeChar < ds.flatMap String.utf8EncodeChar := by
    intro cs ds h
    induction h with
    | @nil d ds =>
      rw [List.flatMap_nil, List.flatMap_cons]
      cases hd : String.utf8EncodeChar d with
      | nil => exact absurd hd String.utf8EncodeChar_ne_nil
      | cons b bs => exact List.nil_lt_cons b _
    | rel less => exact utf8EncodeChar_lt less _ _
    | cons less ih => exact List.append_left_lt ih
  exact listed _ _ (String.lt_iff.1 h)

end Text.Utf8

/-! ## No capitals -/

namespace Text

/-- What a character is lowered to lies above the capitals without diacritics. -/
theorem lowerCaseRuns_lead : ∀ r ∈ lowerCaseRuns, 97 ≤ (r.first : Int) + r.shift := by decide +kernel

theorem toNat_of_ofNat {c : Char} {n : Nat} (h : c = Char.ofNat n) (some : c ≠ '\x00') : c.toNat = n := by
  rw [Char.ofNat] at h
  by_cases valid : n.isValidChar
  · rw [dif_pos valid] at h
    exact h ▸ rfl
  · rw [dif_neg valid] at h
    exact absurd h some

theorem lowerCaseOf_capital (c : Char) : 'D' ∉ lowerCaseOf c := by
  intro h
  rw [lowerCaseOf] at h
  split at h
  · simp at h
  · split at h
    · rename_i r found
      have known := lowerCaseRuns_lead r (List.mem_of_find?_eq_some found)
      have held := List.find?_some found
      simp only [CaseRun.holds, Bool.and_eq_true, decide_eq_true_eq] at held
      have code := toNat_of_ofNat (List.mem_singleton.1 h) (by decide)
      have letter : Char.toNat 'D' = 68 := rfl
      omega
    · rename_i found
      rw [← List.mem_singleton.1 h] at found
      exact absurd found (by decide)

theorem lowerCaseFrom_capital (before done cs : List Char) (h : 'D' ∉ done) : 'D' ∉ lowerCaseFrom before done cs := by
  induction cs generalizing before done with
  | nil => rwa [lowerCaseFrom, List.mem_reverse]
  | cons c cs ih =>
    refine ih _ _ ?_
    rw [List.mem_append, List.mem_reverse]
    rintro (form | form)
    · split at form
      · split at form <;> simp at form
      · exact lowerCaseOf_capital c form
    · exact h form

theorem lowerCase_capital (s : String) : 'D' ∉ (lowerCase s).toList := by
  rw [lowerCase, String.toList_ofList]
  exact lowerCaseFrom_capital [] [] s.toList List.not_mem_nil

/-! ## Nearness -/

/-- At most so many edits lead from one text to the other. -/
def Near (n : Nat) (s t : String) : Prop := ∃ m ≤ n, Edits m s.toList t.toList

theorem near_iff {n : Nat} {s t : String} : Near n s t ↔ editDistance s t ≤ n := by
  obtain ⟨reached, least⟩ := editDistance_isLeast s t
  exact ⟨fun ⟨m, few, edits⟩ => (least edits).trans few, fun few => ⟨_, few, reached⟩⟩

end Text

namespace Dispatch
variable {method name : String} {names : List String} {d : Nat}

theorem nearest_none (h : nearest method names = none) :
    ∀ name ∈ names, maxDistance < Text.editDistance name method := by
  induction names with
  | nil => simp
  | cons name names ih =>
    rw [nearest] at h
    split at h
    · split at h <;> cases h
    · rename_i none
      split at h
      · cases h
      · rename_i far
        exact List.forall_mem_cons.2 ⟨Nat.lt_of_not_le far, ih none⟩

/-- The name that is found is no farther than those behind it and nearer than those before it. -/
theorem nearest_some (h : nearest method names = some (d, name)) :
    d = Text.editDistance name method ∧ d ≤ maxDistance ∧ ∃ before after, names = before ++ name :: after ∧
      (∀ other ∈ before, d < Text.editDistance other method) ∧
      ∀ other ∈ after, d ≤ Text.editDistance other method := by
  induction names generalizing d name with
  | nil => cases h
  | cons first names ih =>
    rw [nearest] at h
    split at h
    · rename_i best other found
      obtain ⟨exactly, near, before, after, rfl, farther, noNearer⟩ := ih found
      split at h
      · rename_i nearer
        cases h
        exact ⟨exactly, near, first :: before, after, rfl, List.forall_mem_cons.2 ⟨nearer, farther⟩, noNearer⟩
      · rename_i notNearer
        cases h
        refine ⟨rfl, by omega, [], _, rfl, by simp, fun other known => ?_⟩
        rcases List.mem_append.1 known with known | known
        · have := farther other known
          omega
        · rcases List.mem_cons.1 known with rfl | known
          · omega
          · have := noNearer other known
            omega
    · rename_i none
      split at h
      · rename_i near
        cases h
        exact ⟨rfl, near, [], names, rfl, by simp, fun other known => near.trans (nearest_none none other known).le⟩
      · cases h

/-- The name that is meant by a method: of the names near enough one that no other is nearer than, and of those as near
the first in the order of their bytes. -/
structure Meant (names : List String) (method name : String) : Prop where
  known : name ∈ names
  near : Text.Near 3 name method
  least : ∀ other ∈ names, ∀ n, Text.Near n other method → Text.Near n name method
  first : ∀ other ∈ names, (∀ n, Text.Near n name method → Text.Near n other method) →
    Text.Utf8.encode name ≤ Text.Utf8.encode other

theorem nearest_meant (sorted : names.Pairwise (· < ·)) (h : nearest method names = some (d, name)) :
    Meant names method name := by
  obtain ⟨rfl, near, before, after, rfl, farther, noNearer⟩ := nearest_some h
  have split {other : String} (known : other ∈ before ++ name :: after) :
      other ∈ before ∨ other = name ∨ other ∈ after := by simpa using known
  refine ⟨by simp, Text.near_iff.2 near, fun other known n => ?_, fun other known asNear => ?_⟩
  · rw [Text.near_iff, Text.near_iff]
    intro few
    rcases split known with known | rfl | known
    · exact (farther other known).le.trans few
    · exact few
    · exact (noNearer other known).trans few
  · have close := Text.near_iff.1 (asNear _ (Text.near_iff.2 le_rfl))
    rcases split known with known | rfl | known
    · exact absurd close (Nat.not_le.2 (farther other known))
    · exact List.le_refl _
    · have later := (List.pairwise_cons.1 (List.pairwise_append.1 sorted).2.1).1 other known
      exact List.le_of_lt (Text.Utf8.encode_lt_encode later)

/-- Either a name is suggested, and it is the one that is meant, or none is near enough. -/
theorem suggestion_cases (sorted : names.Pairwise (· < ·)) (method : String) :
    (∃ name, Meant names method name ∧ suggestion names method = s!" Did you mean '{name}'?") ∨
      (∀ name ∈ names, ¬ Text.Near 3 name method) ∧ suggestion names method = "" := by
  rw [suggestion]
  cases found : nearest method names with
  | some best => exact .inl ⟨best.2, nearest_meant sorted found, rfl⟩
  | none =>
    refine .inr ⟨fun name known near => ?_, rfl⟩
    exact absurd (Text.near_iff.1 near) (Nat.not_le.2 (nearest_none found name known))

/-- What is answered to a method that has been lowered says nothing of a suggestion unless there is one. -/
theorem notSupported_plain (s : String) :
    ¬ "Did you mean".toList <:+: s!"Method {Text.lowerCase s} not supported in photon CPI.".toList := by
  intro h
  have capital : 'D' ∈ s!"Method {Text.lowerCase s} not supported in photon CPI.".toList :=
    h.subset (by decide)
  simp only [String.toList_append, List.mem_append] at capital
  rcases capital with (word | word) | word
  · exact absurd word (by decide)
  · exact Text.lowerCase_capital s word
  · exact absurd word (by decide)

end Dispatch

namespace ReportingWorld
variable {σ : Type} (w : ReportingWorld σ)

/-- A method that no action has, whatever the table, is answered with the name that was meant, if one of the names is
near enough, and with no suggestion otherwise. -/
theorem respond_suggests {table : ActionTable} {q : Request} (unknown : table.find? (Text.lowerCase q.method) = none)
    (settings : Settings) (s : World.At σ) :
    let method := Text.lowerCase q.method
    ∃ message, (w.respond table settings q s).1.error = some ⟨.notSupported, message, false⟩ ∧
      ("Did you mean".toList <:+: message.toList ↔ ∃ name ∈ table.keys, Text.Near 3 name method) ∧
      ((∃ name, Dispatch.Meant table.keys method name ∧
          message = s!"Method {method} not supported in photon CPI." ++ s!" Did you mean '{name}'?") ∨
        (∀ name ∈ table.keys, ¬ Text.Near 3 name method) ∧
          message = s!"Method {method} not supported in photon CPI.") := by
  intro method
  obtain ⟨trail, s', played, -⟩ := w.dispatched_unknown unknown settings q.arguments s.state
  have answered : (w.respond table settings q s).1.error =
      some ⟨.notSupported, (Dispatch.notSupported table.keys method).message, false⟩ := by
    rw [respond_eq, Dispatch.run, played]
    rfl
  have sorted : table.keys.Pairwise (· < ·) := List.pairwise_map.2 table.ascending
  refine ⟨_, answered, ?_⟩
  rcases Dispatch.suggestion_cases sorted method with ⟨name, meant, suggested⟩ | ⟨far, none⟩
  · have told : (Dispatch.notSupported table.keys method).message =
        s!"Method {method} not supported in photon CPI." ++ s!" Did you mean '{name}'?" := by
      rw [Dispatch.notSupported, suggested]
      rfl
    refine ⟨⟨fun _ => ⟨name, meant.known, meant.near⟩, fun _ => ?_⟩, .inl ⟨name, meant, told⟩⟩
    have opens : "Did you mean".toList <:+: " Did you mean '".toList := ⟨[' '], " '".toList, by decide⟩
    refine opens.trans ⟨s!"Method {method} not supported in photon CPI.".toList, s!"{name}'?".toList, ?_⟩
    rw [told, ← String.toList_append, ← String.toList_append, String.append_assoc]
    rfl
  · have told : (Dispatch.notSupported table.keys method).message =
        s!"Method {method} not supported in photon CPI." := by
      rw [Dispatch.notSupported, none]
      exact String.append_empty
    refine ⟨⟨fun contains => ?_, fun close => ?_⟩, .inr ⟨far, told⟩⟩
    · rw [told] at contains
      exact absurd contains (Dispatch.notSupported_plain q.method)
    · obtain ⟨name, known, near⟩ := close
      exact absurd near (far name known)

/-- Of two names that are one edit away the first is suggested. -/
theorem respond_suggests_first :
    let table : ActionTable := .ofList [("set_disks", .ofCall Disks.list), ("get_disks", .ofCall Disks.list)]
    let w := World.calm.silent
    let settings := Settings.bare "http://127.0.0.1" "project" "nats"
    let q : Request := ⟨"Xet_Disks", []⟩
    table.find? (Text.lowerCase "Xet_Disks") = none ∧ ∃ message,
      (w.respond table settings q ⟨.empty, ()⟩).1.error = some ⟨.notSupported, message, false⟩ ∧
      "Did you mean".toList <:+: message.toList ∧
      message = "Method xet_disks not supported in photon CPI. Did you mean 'get_disks'?" := by
  intro table w settings q
  have unknown : table.find? (Text.lowerCase "Xet_Disks") = none := by decide +kernel
  have keys : table.keys = ["get_disks", "set_disks"] := by decide +kernel
  have lowered : Text.lowerCase q.method = "xet_disks" := by decide +kernel
  have distances : Text.editDistance "get_disks" "xet_disks" = 1 ∧ Text.editDistance "set_disks" "xet_disks" = 1 := by
    decide +kernel
  obtain ⟨message, answered, suggests, told⟩ := w.respond_suggests (q := q) unknown settings ⟨.empty, ()⟩
  simp only [keys, lowered, Text.near_iff] at suggests told
  have suggested := suggests.2 ⟨"get_disks", by simp, by omega⟩
  refine ⟨unknown, message, answered, suggested, ?_⟩
  rcases told with ⟨name, meant, rfl⟩ | ⟨far, -⟩
  · have known := meant.known
    simp only [List.mem_cons, List.not_mem_nil, or_false] at known
    rcases known with rfl | rfl
    · decide +kernel
    · have first := meant.first "get_disks" (by simp) fun n near => by
        rw [Text.near_iff] at near ⊢
        omega
      exact absurd first (by decide +kernel)
  · exact absurd (far "get_disks" (by simp)) (by omega)

end ReportingWorld
end CloudProvider
