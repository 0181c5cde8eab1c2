import CloudProvider.Json.Reader

/-! # Whole numbers are read as they are written

A whole number of 64 bits is written in decimal digits without a zero at the front. Reading keeps all of
them, and what follows is left, provided that it could not go on with the numeral (`Numeral.Ends`).
-/

namespace CloudProvider.Json.Numeral

/-- The text does not go on with a numeral. -/
def Ends (cs : List Char) : Prop :=
  ∀ c rest, cs = c :: rest → digit? c = none ∧ c ≠ '.' ∧ c ≠ 'e' ∧ c ≠ 'E'

theorem ends_nil : Ends [] := fun _ _ h => nomatch h

theorem ends_cons {c : Char} (h : c = ',' ∨ c = ']' ∨ c = '\x7d') (rest : List Char) :
    Ends (c :: rest) := by
  intro d _ hd
  cases hd
  rcases h with rfl | rfl | rfl <;> decide

theorem digit?_digitChar : ∀ d < 10, digit? d.digitChar = some d := by decide

/-! ## Decimal digits -/

/-- The digits of a number: its value, and no zero at the front. -/
structure Digits (n : Nat) (ds : List Nat) : Prop where
  chars : Nat.toDigits 10 n = ds.map Nat.digitChar
  lt : ∀ d ∈ ds, d < 10
  value : ds.foldl (fun v d => v * 10 + d) 0 = n
  head : ∀ d ds', ds = d :: ds' → d = 0 → ds' = []

theorem Digits.ne_nil {n : Nat} {ds : List Nat} (h : Digits n ds) : ds ≠ [] := by
  intro hnil
  have := h.chars
  rw [hnil] at this
  exact Nat.toDigits_ne_nil this

theorem digits_exist (n : Nat) : ∃ ds, Digits n ds := by
  induction n using Nat.strongRecOn with
  | ind n ih =>
    by_cases hn : n < 10
    · refine ⟨[n], Nat.toDigits_of_lt_base hn, fun d hd => ?_, by simp, fun d ds' hd _ => ?_⟩
      · rw [List.mem_singleton.1 hd]; exact hn
      · cases hd; rfl
    · obtain ⟨ds, h⟩ := ih (n / 10) (by omega)
      refine ⟨ds ++ [n % 10], ?_, ?_, ?_, ?_⟩
      · rw [Nat.toDigits_of_base_le (by decide) (by omega), h.chars, List.map_append]; rfl
      · intro d hd
        rcases List.mem_append.1 hd with hd | hd
        · exact h.lt d hd
        · rw [List.mem_singleton.1 hd]; omega
      · rw [List.foldl_append, h.value]
        simp only [List.foldl_cons, List.foldl_nil]
        omega
      · -- A zero at the front would be all that the number has in front of its last digit.
        intro d ds' hd hz
        cases ds with
        | nil => exact absurd rfl h.ne_nil
        | cons e es =>
          cases hd
          have hes : es = [] := h.head _ _ rfl hz
          have hv := h.value
          rw [hes, hz] at hv
          simp at hv
          omega

/-! ## Numerals as they are written

Digits, perhaps a point and more of them, perhaps a power of ten. The sign in front of the first digit is
not part of it.
-/

/-- One digit at least. -/
structure SomeDigits (ds : List Nat) : Prop where
  ne_nil : ds ≠ []
  lt : ∀ d ∈ ds, d < 10

inductive WrittenFraction : List Char → Option (List Nat) → Prop
  | absent : WrittenFraction [] none
  | point {ds : List Nat} (h : SomeDigits ds) : WrittenFraction ('.' :: ds.map Nat.digitChar) (some ds)

/-- The letter may be small or large, and a sign for up may be left out. -/
inductive WrittenPower : List Char → Option (Bool × List Nat) → Prop
  | absent : WrittenPower [] none
  | plain {e : Char} (he : e = 'e' ∨ e = 'E') {ds : List Nat} (h : SomeDigits ds) :
    WrittenPower (e :: ds.map Nat.digitChar) (some (false, ds))
  | up {e : Char} (he : e = 'e' ∨ e = 'E') {ds : List Nat} (h : SomeDigits ds) :
    WrittenPower (e :: '+' :: ds.map Nat.digitChar) (some (false, ds))
  | down {e : Char} (he : e = 'e' ∨ e = 'E') {ds : List Nat} (h : SomeDigits ds) :
    WrittenPower (e :: '-' :: ds.map Nat.digitChar) (some (true, ds))

/-- A zero at the front stands alone. -/
inductive Written : List Char → Numeral → Prop
  | mk {negative : Bool} {whole : List Nat} {fraction : Option (List Nat)} {power : Option (Bool × List Nat)}
    {f p : List Char} (some : SomeDigits whole) (zero : ∀ ds, whole = 0 :: ds → ds = [])
    (hf : WrittenFraction f fraction) (hp : WrittenPower p power) :
    Written (whole.map Nat.digitChar ++ (f ++ p)) ⟨negative, whole, fraction, power⟩

/-- The text does not go on with a digit. -/
def Stops (cs : List Char) : Prop := ∀ c rest, cs = c :: rest → digit? c = none

theorem Ends.stops {cs : List Char} (h : Ends cs) : Stops cs := fun c rest hc => (h c rest hc).1

theorem stops_cons {c : Char} (h : digit? c = none) (cs : List Char) : Stops (c :: cs) := by
  rintro _ _ ⟨⟩
  exact h

theorem letter_plain {e : Char} (he : e = 'e' ∨ e = 'E') : digit? e = none ∧ e ≠ '.' := by
  rcases he with rfl | rfl <;> decide

section
variable {rest : List Char}

/-- Reading digits takes all of them and leaves the rest. -/
theorem digits_map {ds : List Nat} (hlt : ∀ d ∈ ds, d < 10) (hr : Stops rest) (done : List Nat) :
    digits done (ds.map Nat.digitChar ++ rest) = (done.reverse ++ ds, rest) := by
  induction ds generalizing done with
  | nil =>
    cases rest with
    | nil => simp [digits]
    | cons c cs => simp [digits, hr c cs rfl]
  | cons d ds ih =>
    rw [List.map_cons, List.cons_append, digits, digit?_digitChar d (hlt d List.mem_cons_self)]
    dsimp only
    rw [ih fun e he => hlt e (List.mem_cons_of_mem _ he)]
    simp

theorem SomeDigits.read {ds : List Nat} (h : SomeDigits ds) (hr : Stops rest) :
    someDigits (ds.map Nat.digitChar ++ rest) = .ok (ds, rest) := by
  rw [someDigits, digits_map h.lt hr]
  cases ds with
  | nil => exact absurd rfl h.ne_nil
  | cons d ds => rfl

/-- Digits do not begin with a sign. -/
theorem SomeDigits.scanSign {ds : List Nat} (h : SomeDigits ds) :
    scanSign (ds.map Nat.digitChar ++ rest) = (false, ds.map Nat.digitChar ++ rest) := by
  have unsigned : ∀ d < 10, d.digitChar ≠ '+' ∧ d.digitChar ≠ '-' := by decide
  cases ds with
  | nil => exact absurd rfl h.ne_nil
  | cons d ds =>
    obtain ⟨hup, hdown⟩ := unsigned d (h.lt d List.mem_cons_self)
    rw [List.map_cons, List.cons_append, Numeral.scanSign]
    · exact fun _ hc => hup (List.cons.inj hc).1
    · exact fun _ hc => hdown (List.cons.inj hc).1

theorem scanWhole_map {ds : List Nat} (h : SomeDigits ds) (zero : ∀ ds', ds = 0 :: ds' → ds' = [])
    (hr : Stops rest) : scanWhole (ds.map Nat.digitChar ++ rest) = .ok (ds, rest) := by
  rw [scanWhole, h.read hr]
  match ds, zero with
  | [], _ => rfl
  | 0 :: ds', zero => rw [zero ds' rfl]; rfl
  | (_ + 1) :: _, _ => rfl

theorem WrittenFraction.read {cs : List Char} {fraction : Option (List Nat)}
    (h : WrittenFraction cs fraction) (hr : Stops rest) (point : ∀ more, rest ≠ '.' :: more) :
    scanFraction (cs ++ rest) = .ok (fraction, rest) := by
  cases h with
  | absent =>
    rw [List.nil_append, scanFraction.eq_def]
    split
    · exact absurd rfl (point _)
    · rfl
  | point h =>
    rw [List.cons_append, scanFraction, h.read hr]
    rfl

theorem WrittenPower.read {cs : List Char} {power : Option (Bool × List Nat)} (h : WrittenPower cs power)
    (hr : Ends rest) : scanPower (cs ++ rest) = .ok (power, rest) := by
  cases h with
  | absent =>
    cases rest with
    | nil => rfl
    | cons c cs =>
      obtain ⟨-, -, he, hE⟩ := hr c cs rfl
      rw [List.nil_append, scanPower, if_neg (not_or.2 ⟨he, hE⟩)]
  | plain he h =>
    rw [List.cons_append, scanPower, if_pos he, h.scanSign]
    dsimp only
    rw [h.read hr.stops]
    rfl
  | up he h | down he h =>
    rw [List.cons_append, scanPower, if_pos he, List.cons_append, Numeral.scanSign]
    dsimp only
    rw [h.read hr.stops]
    rfl

/-- Behind the digits before the point there is none, nor one behind those after it. -/
theorem WrittenPower.stops {cs : List Char} {power : Option (Bool × List Nat)} (h : WrittenPower cs power)
    (hr : Ends rest) : Stops (cs ++ rest) ∧ ∀ more, cs ++ rest ≠ '.' :: more := by
  cases h with
  | absent => exact ⟨hr.stops, fun more h => (hr _ _ h).2.1 rfl⟩
  | plain he | up he | down he =>
    refine ⟨stops_cons (letter_plain he).1 _, ?_⟩
    rintro _ ⟨⟩
    exact (letter_plain he).2 rfl

theorem WrittenFraction.stops {cs : List Char} {fraction : Option (List Nat)}
    (h : WrittenFraction cs fraction) (hr : Stops rest) : Stops (cs ++ rest) := by
  cases h with
  | absent => exact hr
  | point => exact stops_cons (by decide) _

/-- A numeral is read as it is written. -/
theorem Written.scan {cs : List Char} {n : Numeral} (h : n.Written cs) (hr : Ends rest) :
    scan n.negative (cs ++ rest) = .ok (n, rest) := by
  cases h with
  | mk some zero hf hp =>
    obtain ⟨stops, point⟩ := hp.stops hr
    rw [List.append_assoc, List.append_assoc, Numeral.scan]
    simp only [scanWhole_map some zero (hf.stops stops), hf.read stops point, hp.read hr, bind, Except.bind]

end

theorem Digits.written {n : Nat} {ds : List Nat} (h : Digits n ds) (negative : Bool) :
    Written (Nat.toDigits 10 n) ⟨negative, ds, none, none⟩ := by
  have hw : Written (ds.map Nat.digitChar ++ ([] ++ [])) ⟨negative, ds, none, none⟩ :=
    .mk ⟨h.ne_nil, h.lt⟩ (fun ds' hd => h.head 0 ds' hd rfl) .absent .absent
  rw [List.append_nil, List.append_nil] at hw
  rwa [h.chars]

/-! ## Values -/

/-- Digits are kept as long as their value fits 64 bits. -/
theorem foldl_whole (ds : List Nat) (v : Nat)
    (h : ds.foldl (fun v d => v * 10 + d) v < UInt64.size) :
    ds.foldl Kept.whole ⟨v, 0, false⟩ = ⟨ds.foldl (fun v d => v * 10 + d) v, 0, false⟩ := by
  have grows : ∀ (ds : List Nat) (v : Nat), v ≤ ds.foldl (fun v d => v * 10 + d) v := by
    intro ds
    induction ds with
    | nil => exact fun v => Nat.le_refl v
    | cons d ds ih => exact fun v => Nat.le_trans (by omega) (ih (v * 10 + d))
  induction ds generalizing v with
  | nil => rfl
  | cons d ds ih =>
    rw [List.foldl_cons] at h ⊢
    have hv : v * 10 + d < UInt64.size := Nat.lt_of_le_of_lt (grows ds _) h
    rw [Kept.whole, if_neg Bool.false_ne_true, if_pos hv]
    exact ih _ h

theorem keptWhole_digits {n : Nat} {ds : List Nat} (h : Digits n ds) (hn : n < UInt64.size)
    (negative : Bool) : (Numeral.mk negative ds none none).keptWhole = ⟨n, 0, false⟩ := by
  rw [keptWhole]
  have hv := h.value
  rw [foldl_whole _ _ (hv.symm ▸ hn), hv]

/-- What is written for a whole number denotes it. -/
theorem value_natural {n : UInt64} {ds : List Nat} (h : Digits n.toNat ds) :
    (Numeral.mk false ds none none).value = .ok (.natural n) := by
  simp only [value, keptWhole_digits h n.toNat_lt, Option.isSome_none, Bool.false_eq_true, or_self,
    if_false, not_false_eq_true, if_true, UInt64.ofNat_toNat]

theorem value_negative {below : Fin 0x8000000000000000} {ds : List Nat} (h : Digits (below.val + 1) ds) :
    (Numeral.mk true ds none none).value = .ok (.negative below) := by
  have hlt : below.val + 1 < UInt64.size := by simp only [UInt64.size]; omega
  have hm : 0 < below.val + 1 ∧ below.val + 1 ≤ 0x8000000000000000 := ⟨Nat.succ_pos _, below.isLt⟩
  simp only [value, keptWhole_digits h hlt, Option.isSome_none, Bool.false_eq_true, or_self, if_false,
    not_true, dif_pos hm, Nat.add_sub_cancel, Fin.eta]

end CloudProvider.Json.Numeral
