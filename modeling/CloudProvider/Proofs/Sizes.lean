import CloudProvider.Proofs.Arguments
import CloudProvider.Proofs.Decimal.Quotient

/-! # Sizes are kept, or rounded up

The size of a machine's own disk is taken as it is if it is a positive whole number of 64 bits; a greater one becomes
the greatest of these (`ofFields_eq_ok`). The size of a persistent disk goes through a quotient that is rounded to the
nearest, which loses a small rest behind a quotient of 48 bits: below 140737488355329008 MiB no disk is smaller than
what was asked for, and at this size it is (`sizes_kept`, `sizes_changed`).
-/

namespace CloudProvider

namespace Decimal
variable {x : Float} {n : Nat}

theorem toNat_clamp (n : Nat) : (clamp n).toNat = min n (2 ^ 64 - 1) := by
  rw [clamp, UInt64.size]
  split
  · rw [Nat.toUInt64, UInt64.toNat_ofNat']
    omega
  · rw [UInt64.toNat_ofNat']
    omega

theorem clamp_toNat (n : UInt64) : clamp n.toNat = n := by
  have := n.toNat_lt
  apply UInt64.toNat_inj.1
  rw [toNat_clamp]
  omega

theorem Dyad.value_nonneg (d : Dyad) : 0 ≤ d.value := mul_nonneg (Nat.cast_nonneg _) (zpow_pos two_pos _).le

theorem Dyad.value_pos {d : Dyad} (h : d.significand ≠ 0) : 0 < d.value :=
  mul_pos (Nat.cast_pos.2 (Nat.pos_of_ne_zero h)) (zpow_pos two_pos _)

/-- A number is taken as a whole one if its exact value is positive and whole. -/
theorem positiveWhole?_eq_some : positiveWhole? x = some n ↔ 0 < n ∧ value? x = some (n : ℚ) := by
  rw [positiveWhole?, value?, ← Nat.cast_pos (α := ℚ)]
  cases read x with
  | nan => simp
  | infinite negative => simp
  | finite negative d =>
    have below := d.value_nonneg
    cases negative with
    | true =>
      simp only [if_true, reduceCtorEq, Option.some.injEq, false_iff, not_and]
      intro pos same
      linarith
    | false =>
      simp only [Bool.false_eq_true, if_false, Option.some.injEq]
      split
      · rename_i zero
        have nothing : d.value = 0 := by rw [Dyad.value, zero, Nat.cast_zero, zero_mul]
        simp only [nothing, reduceCtorEq, false_iff, not_and]
        exact fun pos same => pos.ne same
      · rename_i some
        rw [Dyad.whole?_eq_some]
        exact ⟨fun same => ⟨same ▸ Dyad.value_pos some, same⟩, fun both => both.2⟩

theorem ceil?_eq_some (h : ceil? x = some n) :
    ∃ d, read x = .finite false d ∧ d.significand ≠ 0 ∧ n = d.ceil := by
  rw [ceil?] at h
  split at h
  · rename_i d found
    split at h
    · cases h
    · rename_i some
      cases h
      exact ⟨d, found, some, rfl⟩
  · cases h

theorem read_of_value? {q : ℚ} (h : value? x = some q) (pos : 0 < q) : ∃ d, read x = .finite false d ∧ d.value = q := by
  rw [value?] at h
  split at h
  · rename_i negative d found
    cases negative with
    | true =>
      have := d.value_nonneg
      cases h
      simp only [if_pos] at pos
      linarith
    | false =>
      cases h
      exact ⟨d, found, rfl⟩
  · cases h

/-! ## A thousandth -/

theorem read_thousand : read 1000 = .finite false ⟨1000 * 2 ^ 43, -43⟩ := by decide +kernel

theorem value_thousand : Dyad.value ⟨1000 * 2 ^ 43, -43⟩ = 1000 := by norm_num [Dyad.value]

/-- A thousandth is off by half a unit of its last place at most. -/
theorem thousandth_nearest {d : Dyad} (h : read x = .finite false d) (large : 1000 < d.value) :
    ∃ r, read (x / 1000) = .finite false r ∧ 2 ^ 52 ≤ r.significand ∧
      |1000 * r.value - d.value| ≤ 500 * 2 ^ r.exponent := by
  have full := full_of_large h (by linarith)
  obtain ⟨-, -, short, -, most⟩ := unpack_of_read h full
  have least : -43 ≤ d.exponent := by
    by_contra small
    have short : (d.significand : ℚ) ≤ 2 ^ 53 := by exact_mod_cast short.le
    have tiny : (2 : ℚ) ^ d.exponent ≤ 2 ^ (-44 : Int) := zpow_le_zpow_right₀ one_le_two (by omega)
    have product : d.value ≤ 2 ^ 53 * 2 ^ (-44 : Int) := mul_le_mul short tiny (zpow_pos two_pos _).le (by positivity)
    norm_num at product
    linarith
  obtain ⟨r, divided, long, near⟩ := div_nearest h read_thousand full (by norm_num) (by dsimp only; omega)
    (by dsimp only; omega)
  refine ⟨r, divided, long, ?_⟩
  rw [value_thousand] at near
  have scaled : 1000 * r.value - d.value = 1000 * (r.value - d.value / 1000) := by ring
  rw [scaled, abs_mul, abs_of_pos (by norm_num)]
  linarith

section
variable {d r : Dyad} {k : Nat}

theorem Dyad.unit_le (full : 2 ^ 52 ≤ r.significand) : 2 ^ 52 * 2 ^ r.exponent ≤ r.value :=
  mul_le_mul_of_nonneg_right (by exact_mod_cast full) (zpow_pos two_pos _).le

/-- A thousandth that is rounded down loses less than its 2 ^ 53rd part. -/
theorem thousandth_loss (full : 2 ^ 52 ≤ r.significand) (near : |1000 * r.value - d.value| ≤ 500 * 2 ^ r.exponent)
    (below : r.value ≤ k) : d.value * 2 ^ 53 ≤ 1000 * k * (2 ^ 53 + 1) := by
  have unit := Dyad.unit_le full
  have loss := (abs_le.1 near).1
  linarith

/-- Between a multiple of a thousand and a greater number there is a unit of its last place at least, if this divides
eight. -/
theorem unit_le_sub (fine : d.exponent ≤ 3) (short : 1000 * (k : ℚ) < d.value) :
    2 ^ d.exponent ≤ d.value - 1000 * k := by
  obtain ⟨j, eight⟩ : ∃ j : Nat, (8 : ℚ) = j * 2 ^ d.exponent := by
    refine ⟨2 ^ (3 - d.exponent).toNat, ?_⟩
    push_cast
    rw [← zpow_natCast, ← zpow_add₀ two_ne_zero, show ((3 - d.exponent).toNat : Int) + d.exponent = 3 by omega]
    norm_num
  have unit : (0 : ℚ) < 2 ^ d.exponent := zpow_pos two_pos _
  have multiple : 1000 * (k : ℚ) = (125 * k * j : Nat) * 2 ^ d.exponent := by
    push_cast
    rw [mul_assoc, ← eight]
    ring
  rw [multiple, Dyad.value] at short ⊢
  have less : (125 * k * j : Nat) + 1 ≤ d.significand := by exact_mod_cast lt_of_mul_lt_mul_right short unit.le
  have less : ((125 * k * j : Nat) + 1 : ℚ) ≤ d.significand := by exact_mod_cast less
  rw [← sub_mul]
  exact le_mul_of_one_le_left unit.le (by linarith)

/-- A thousandth that is rounded down below a whole number stays above it if the unit divides eight. -/
theorem le_of_fine (fine : d.exponent ≤ 3) (bounded : d.significand < 2 ^ 53) (full : 2 ^ 52 ≤ r.significand)
    (near : |1000 * r.value - d.value| ≤ 500 * 2 ^ r.exponent) (below : r.value ≤ k) : d.value ≤ 1000 * k := by
  by_contra short
  obtain ⟨loss, gain⟩ := abs_le.1 near
  have apart := unit_le_sub fine (not_le.1 short)
  have unit : (0 : ℚ) < 2 ^ r.exponent := zpow_pos two_pos _
  have large := Dyad.unit_le full
  have small : d.value ≤ 2 ^ 53 * 2 ^ d.exponent :=
    mul_le_mul_of_nonneg_right (by exact_mod_cast bounded.le) (zpow_pos two_pos _).le
  -- The units are powers of two, so one that is more than 256 of the other is 512 of it at least.
  have finer : (2 : ℚ) ^ (r.exponent + 8) < 2 ^ d.exponent := by
    rw [zpow_add₀ two_ne_zero]
    norm_num
    linarith
  have finer : r.exponent + 8 < d.exponent := (zpow_lt_zpow_iff_right₀ one_lt_two).1 finer
  have units : (2 : ℚ) ^ (r.exponent + 9) ≤ 2 ^ d.exponent := zpow_le_zpow_right₀ one_le_two (by omega)
  rw [zpow_add₀ two_ne_zero] at units
  norm_num at units
  linarith

theorem unit_of_lt (full : 2 ^ 52 ≤ r.significand) {n : Int} (h : r.value < 2 ^ (53 + n)) :
    (2 : ℚ) ^ r.exponent ≤ 2 ^ n := by
  have large := (Dyad.unit_le full).trans_lt h
  rw [← zpow_natCast, ← zpow_add₀ two_ne_zero, zpow_lt_zpow_iff_right₀ one_lt_two] at large
  exact zpow_le_zpow_right₀ one_le_two (by omega)

/-- The same for a unit of sixteen, as long as the rest is not eight behind a thousandth of 48 bits. -/
theorem le_of_sixteen (coarse : d.exponent = 4) (small : d.value < 140737488355329008) (full : 2 ^ 52 ≤ r.significand)
    (near : |1000 * r.value - d.value| ≤ 500 * 2 ^ r.exponent) (below : r.value ≤ k) : d.value ≤ 1000 * k := by
  by_contra short
  obtain ⟨loss, gain⟩ := abs_le.1 near
  have value : d.value = 16 * d.significand := by
    rw [Dyad.value, coarse]
    norm_num
    ring
  rw [value] at small short loss
  have less : 1000 * k < 16 * d.significand := by exact_mod_cast not_le.1 short
  have small : 16 * d.significand < 140737488355329008 := by exact_mod_cast small
  rcases Nat.lt_or_ge k (2 ^ 47) with few | many
  · have few : (k : ℚ) < 2 ^ 47 := by exact_mod_cast few
    have unit := unit_of_lt full (n := -6) (by norm_num; linarith)
    have apart : 1000 * k + 8 ≤ 16 * d.significand := by omega
    have apart : (1000 * k + 8 : ℚ) ≤ 16 * d.significand := by exact_mod_cast apart
    norm_num at unit
    linarith
  · obtain rfl : k = 2 ^ 47 := by omega
    have unit := unit_of_lt full (n := -5) (by push_cast at below; norm_num at below ⊢; linarith)
    have apart : 1000 * 2 ^ 47 + 16 ≤ 16 * d.significand := by omega
    have apart : (1000 * 2 ^ 47 + 16 : ℚ) ≤ 16 * d.significand := by exact_mod_cast apart
    push_cast at below
    norm_num at unit
    linarith

end

/-- What is rounded up to whole thousands is no less, if it is small enough; and it is never much less. -/
theorem le_ceil_thousandth {d : Dyad} (h : read x = .finite false d) (large : 1000 < d.value)
    (up : ceil? (x / 1000) = some n) :
    (d.value < 140737488355329008 → d.value ≤ 1000 * n) ∧ d.value * 2 ^ 53 ≤ 1000 * n * (2 ^ 53 + 1) := by
  obtain ⟨r, divided, full, near⟩ := thousandth_nearest h large
  obtain ⟨r', found, -, rfl⟩ := ceil?_eq_some up
  obtain rfl : r = r' := by
    rw [divided] at found
    cases found
    rfl
  refine ⟨fun small => ?_, thousandth_loss full near r.value_le_ceil⟩
  have full' := full_of_large h (by linarith)
  obtain ⟨-, -, bounded, -, -⟩ := unpack_of_read h full'
  rcases le_or_gt d.exponent 3 with fine | coarse
  · exact le_of_fine fine bounded full near r.value_le_ceil
  · have most : (2 : ℚ) ^ d.exponent < 2 ^ (5 : Int) := by
      have := Dyad.unit_le full'
      norm_num
      linarith
    have most : d.exponent < 5 := (zpow_lt_zpow_iff_right₀ one_lt_two).1 most
    exact le_of_sixteen (by omega) small full near r.value_le_ceil

theorem le_ceil {q : ℚ} (h : value? x = some q) (up : ceil? (x / 1000) = some n) :
    (q < 140737488355329008 → q ≤ 1000 * n) ∧ q * 2 ^ 53 ≤ 1000 * n * (2 ^ 53 + 1) := by
  rcases le_or_gt q 1000 with small | large
  · obtain ⟨r, -, some, rfl⟩ := ceil?_eq_some up
    have pos : (0 : ℚ) < r.ceil := (Dyad.value_pos some).trans_le r.value_le_ceil
    have one : (1 : ℚ) ≤ r.ceil := by exact_mod_cast Nat.cast_pos.1 pos
    exact ⟨fun _ => by linarith, by linarith⟩
  · obtain ⟨d, found, rfl⟩ := read_of_value? h (by linarith)
    exact le_ceil_thousandth found large up

end Decimal

/-- The exact value of a number. -/
def Number.value? : Number → Option ℚ
  | .natural n => some n.toNat
  | .negative below => some (-1 - below.val)
  | .real x => Decimal.value? x

def Json.value? : Json → Option ℚ
  | .num n => n.value?
  | _ => none

open Decimal

theorem sizeInGb_eq_ok {x : Float} {gb : UInt64} :
    sizeInGb x = .ok gb ↔ ∃ n, ceil? (x / 1000) = some n ∧ gb = clamp n := by
  rw [sizeInGb]
  cases ceil? (x / 1000) with
  | none => simp
  | some n => simp [eq_comm]

namespace CloudProperties

theorem parseSize_eq_ok {value : Json} {size : UInt64} :
    parseSize value = .ok size ↔ ∃ n : Nat, 0 < n ∧ value.value? = some (n : ℚ) ∧ size = clamp n := by
  cases value with
  | num number =>
    rw [Json.value?]
    cases number with
    | natural n =>
      have zero : (0 : UInt64) < n ↔ 0 < n.toNat := UInt64.lt_iff_toNat_lt
      have parsed : parseSize (.num (.natural n)) = .ok size ↔ 0 < n.toNat ∧ size = n := by
        rw [← zero]
        by_cases pos : 0 < n <;> simp [parseSize, pos, eq_comm]
      simp only [parsed, Number.value?, Option.some.injEq, Nat.cast_inj]
      constructor
      · rintro ⟨pos, rfl⟩
        exact ⟨size.toNat, pos, rfl, (clamp_toNat size).symm⟩
      · rintro ⟨m, pos, rfl, rfl⟩
        exact ⟨pos, clamp_toNat n⟩
    | negative below =>
      have refused : parseSize (.num (.negative below)) ≠ .ok size := by simp [parseSize]
      refine ⟨fun h => absurd h refused, ?_⟩
      rintro ⟨m, -, same, -⟩
      have same : (-1 - below.val : ℚ) = m := Option.some.inj same
      have : (0 : ℚ) ≤ m := Nat.cast_nonneg m
      have : (0 : ℚ) ≤ (below.val : ℚ) := Nat.cast_nonneg _
      linarith
    | real x =>
      have parsed : parseSize (.num (.real x)) = .ok size ↔ ∃ n, positiveWhole? x = some n ∧ size = clamp n := by
        cases found : positiveWhole? x <;> simp [parseSize, found, eq_comm]
      simp only [parsed, positiveWhole?_eq_some, Number.value?, and_assoc]
  | _ => simp [parseSize, Json.value?]

/-- A size is taken if it is a positive whole number, and becomes what fits 64 bits. -/
theorem ofFields_eq_ok {properties : Entries Json} {vm disk : String} {value : Json} {p : CloudProperties}
    (hv : properties.find? "vm_flavor" = some (.str vm)) (hd : properties.find? "disk_flavor" = some (.str disk))
    (given : properties.find? sizeKey = some value) :
    ofFields properties = .ok p ↔ ∃ n : Nat, 0 < n ∧ value.value? = some (n : ℚ) ∧ p = ⟨vm, disk, clamp n⟩ := by
  have parsed : ofFields properties = .ok p ↔ ∃ size, parseSize value = .ok size ∧ p = ⟨vm, disk, size⟩ := by
    unfold ofFields
    rw [Arguments.property_eq_ok.2 hv, Arguments.property_eq_ok.2 hd, given]
    change (parseSize value >>= fun size => Except.ok ⟨vm, disk, size⟩) = .ok p ↔ _
    rw [Arguments.bind_eq_ok]
    simp only [Except.ok.injEq, eq_comm (b := p)]
  rw [parsed]
  constructor
  · rintro ⟨size, taken, rfl⟩
    obtain ⟨n, pos, whole, rfl⟩ := parseSize_eq_ok.1 taken
    exact ⟨n, pos, whole, rfl⟩
  · rintro ⟨n, pos, whole, rfl⟩
    exact ⟨clamp n, parseSize_eq_ok.2 ⟨n, pos, whole, rfl⟩, rfl⟩

end CloudProperties

/-- Whatever stands for the size of a machine's own disk is taken exactly if it is a positive whole number, and it is
kept if it has 64 bits. A persistent disk of less than 140737488355329008 MiB has the space that was asked for, and a
greater one lacks less than its 2 ^ 53rd part, unless it is as large as sizes get. -/
theorem sizes_kept (properties : Entries Json) (vm disk : String) (value : Json) (size : Float) (q : ℚ) (gb : UInt64) :
    (properties.find? "vm_flavor" = some (.str vm) → properties.find? "disk_flavor" = some (.str disk) →
      properties.find? CloudProperties.sizeKey = some value →
      ((∃ p, CloudProperties.ofFields properties = .ok p) ↔ ∃ n : Nat, 0 < n ∧ value.value? = some (n : ℚ)) ∧
      ∀ p, CloudProperties.ofFields properties = .ok p → ∀ n : Nat, value.value? = some (n : ℚ) →
        p.attachedDiskSizeGb.toNat = min n (2 ^ 64 - 1)) ∧
    (value? size = some q → sizeInGb size = .ok gb →
      (q < 140737488355329008 → q ≤ gb.toNat * 1000) ∧
      (gb.toNat < 2 ^ 64 - 1 → q ≤ gb.toNat * 1000 * (1 + 1 / 2 ^ 53))) := by
  refine ⟨fun hv hd given => ⟨⟨?_, ?_⟩, ?_⟩, fun exact accepted => ?_⟩
  · rintro ⟨p, taken⟩
    obtain ⟨n, pos, whole, -⟩ := (CloudProperties.ofFields_eq_ok hv hd given).1 taken
    exact ⟨n, pos, whole⟩
  · rintro ⟨n, pos, whole⟩
    exact ⟨_, (CloudProperties.ofFields_eq_ok hv hd given).2 ⟨n, pos, whole, rfl⟩⟩
  · intro p taken n whole
    obtain ⟨m, pos, same, rfl⟩ := (CloudProperties.ofFields_eq_ok hv hd given).1 taken
    obtain rfl : n = m := by
      rw [whole] at same
      exact_mod_cast Option.some.inj same
    exact toNat_clamp n
  · obtain ⟨n, up, rfl⟩ := sizeInGb_eq_ok.1 accepted
    obtain ⟨enough, loss⟩ := le_ceil exact up
    rw [toNat_clamp]
    constructor
    · intro small
      rcases Nat.le_total n (2 ^ 64 - 1) with fits | beyond
      · rw [Nat.min_eq_left fits]
        linarith [enough small]
      · rw [Nat.min_eq_right beyond]
        norm_num
        linarith
    · intro fits
      rw [Nat.min_eq_left (by omega)]
      linarith

/-- Sizes that end in zeros behind the point, and sizes with a rest. -/
theorem sizes_kept_written :
    (∃ p, CloudProperties.ofFields
        [("vm_flavor", .str "core-100"), ("disk_flavor", .str "core-200"),
          (CloudProperties.sizeKey, .num (.real 32))] = .ok p ∧ p.attachedDiskSizeGb.toNat = 32) ∧
      ∃ gb, sizeInGb 2500.5 = .ok gb ∧ (2500.5 : ℚ) ≤ gb.toNat * 1000 := by
  have whole : Json.value? (.num (.real 32)) = some ((32 : Nat) : ℚ) := by decide +kernel
  obtain ⟨n, up⟩ : ∃ n, ceil? (2500.5 / 1000) = some n := ⟨3, by decide +kernel⟩
  have exact : value? 2500.5 = some 2500.5 := by decide +kernel
  have accepted := sizeInGb_eq_ok.2 ⟨n, up, rfl⟩
  obtain ⟨machine, persistent⟩ := sizes_kept
    [("vm_flavor", .str "core-100"), ("disk_flavor", .str "core-200"), (CloudProperties.sizeKey, .num (.real 32))]
    "core-100" "core-200" (.num (.real 32)) 2500.5 2500.5 (clamp n)
  obtain ⟨taken, kept⟩ := machine (by decide +kernel) (by decide +kernel) (by decide +kernel)
  obtain ⟨p, hp⟩ := taken.2 ⟨32, by decide, whole⟩
  exact ⟨⟨p, hp, kept p hp 32 whole⟩, _, accepted, (persistent exact accepted).1 (by norm_num)⟩

/-- The first size of a persistent disk that becomes too small, and the first size of a machine's own disk that is not
kept. -/
theorem sizes_changed :
    (value? 140737488355329008 = some 140737488355329008 ∧
      ∃ gb, sizeInGb 140737488355329008 = .ok gb ∧ (gb.toNat * 1000 : ℚ) < 140737488355329008) ∧
    ∃ p, CloudProperties.ofFields
        [("vm_flavor", .str "core-100"), ("disk_flavor", .str "core-200"),
          (CloudProperties.sizeKey, .num (.real 18446744073709551616))] = .ok p ∧
      Json.value? (.num (.real 18446744073709551616)) = some ((2 ^ 64 : Nat) : ℚ) ∧
      p.attachedDiskSizeGb.toNat ≠ 2 ^ 64 := by
  refine ⟨⟨by decide +kernel, 140737488355329, by decide +kernel, by decide +kernel⟩, ?_⟩
  exact ⟨⟨"core-100", "core-200", 18446744073709551615⟩, by decide +kernel, by decide +kernel, by decide⟩

end CloudProvider
