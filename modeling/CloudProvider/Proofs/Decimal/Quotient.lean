import Mathlib
import CloudProvider.Decimal.Binary64

/-! # Quotients are rounded to the nearest

The quotient of two binary64 numbers is cut off behind enough bits, with a note of what was cut off
(`Describes`), and then rounded. Neither the shifts nor the carry lose the note, so what comes out is at most half a
unit of its last place away from the exact quotient (`div_nearest`).
-/

namespace CloudProvider.Decimal
open Float.Model Float.Model.UnpackedFloat

/-! ## Exact values -/

def Dyad.value (d : Dyad) : ℚ := d.significand * 2 ^ d.exponent

theorem Dyad.num_eq (d : Dyad) : (d.num : ℚ) = d.value * d.den := by
  have powers : (2 : ℚ) ^ d.exponent.toNat = 2 ^ d.exponent * 2 ^ (-d.exponent).toNat := by
    rw [← zpow_natCast, ← zpow_natCast, ← zpow_add₀ (by norm_num)]
    congr 1
    omega
  simp only [num, den, value, Nat.pow_eq, Nat.cast_mul, Nat.cast_pow, Nat.cast_ofNat, powers]
  ring

theorem Dyad.value_le_ceil (d : Dyad) : d.value ≤ d.ceil := by
  have pos : (0 : ℚ) < d.den := by exact_mod_cast d.den_pos
  have above : (d.num : ℚ) ≤ d.ceil * d.den := by exact_mod_cast d.num_le_ceil_mul_den
  rw [d.num_eq] at above
  exact le_of_mul_le_mul_right above pos

theorem Dyad.whole?_eq_some {d : Dyad} {n : Nat} : d.whole? = some n ↔ d.value = n := by
  have pos : (0 : ℚ) < d.den := by exact_mod_cast d.den_pos
  constructor
  · intro h
    have exactly : ((n * d.den : Nat) : ℚ) = d.num := by exact_mod_cast whole?_mul_den h
    rw [d.num_eq, Nat.cast_mul] at exactly
    exact (mul_right_cancel₀ pos.ne' exactly).symm
  · intro h
    have exactly : d.num = n * d.den := by
      have := d.num_eq
      rw [h] at this
      exact_mod_cast this
    rw [whole?, exactly, Nat.mul_mod_left, if_pos rfl, Nat.mul_div_cancel _ d.den_pos]

/-- The exact value of a finite number. -/
def value? (x : Float) : Option ℚ :=
  match read x with
  | .finite negative d => some (if negative then -d.value else d.value)
  | _ => none

/-! ## What is cut off -/

/-- What the note says of the part that was cut off. -/
def Describes : Accuracy → ℚ → Prop
  | .exact, r => r = 0
  | .inexact .lt, r => 0 < r ∧ r < 1 / 2
  | .inexact .eq, r => r = 1 / 2
  | .inexact .gt, r => 1 / 2 < r ∧ r < 1

theorem describes_fraction {n d : Nat} (h : n < d) : Describes (accuracyOfFraction n d) (n / d) := by
  have pos : (0 : ℚ) < d := by exact_mod_cast Nat.zero_lt_of_lt h
  have less : (n : ℚ) < d := by exact_mod_cast h
  rw [accuracyOfFraction]
  split
  · rename_i zero
    simp [Describes, zero]
  · rename_i some
    have some : (0 : ℚ) < n := by exact_mod_cast Nat.pos_of_ne_zero some
    rcases lt_trichotomy (2 * n) d with side | side | side
    · have half : (2 * n : ℚ) < d := by exact_mod_cast side
      rw [Nat.compare_eq_lt.2 side]
      exact ⟨by positivity, by rw [div_lt_div_iff₀ pos two_pos]; linarith⟩
    · have half : (2 * n : ℚ) = d := by exact_mod_cast side
      rw [Nat.compare_eq_eq.2 side]
      change (n : ℚ) / d = 1 / 2
      rw [div_eq_div_iff pos.ne' two_ne_zero]
      linarith
    · have half : (d : ℚ) < 2 * n := by exact_mod_cast side
      rw [Nat.compare_eq_gt.2 side]
      exact ⟨by rw [div_lt_div_iff₀ two_pos pos]; linarith, by rw [div_lt_one pos]; exact less⟩

theorem describes_ofMantissa (m : Nat) (a : Accuracy) :
    (ExtendedMantissa.ofMantissaAndAccuracy m a).mantissa = m ∧
      (ExtendedMantissa.ofMantissaAndAccuracy m a).accuracy = a := by
  rcases a with _ | (_ | _ | _) <;> exact ⟨rfl, rfl⟩

/-- The bit that is shifted out stands above what was cut off before. -/
theorem describes_shiftRightOne {em : ExtendedMantissa} {v : ℚ} (h : Describes em.accuracy (v - em.mantissa)) :
    Describes em.shiftRightOne.accuracy (v / 2 - em.shiftRightOne.mantissa) := by
  obtain ⟨m, r, s⟩ := em
  have whole : ((m % 2 : Nat) : ℚ) + 2 * ((m / 2 : Nat) : ℚ) = m := by exact_mod_cast Nat.mod_add_div m 2
  have rest : v / 2 - ((m / 2 : Nat) : ℚ) = ((m % 2 : Nat) + (v - m)) / 2 := by linarith
  change Describes (ExtendedMantissa.accuracy ⟨m / 2, m % 2 != 0, r || s⟩) (v / 2 - ((m / 2 : Nat) : ℚ))
  change Describes (ExtendedMantissa.accuracy ⟨m, r, s⟩) (v - m) at h
  rw [rest]
  generalize v - (m : ℚ) = cut at h
  rcases Nat.mod_two_eq_zero_or_one m with bit | bit
  · rw [show (m % 2 != 0) = false by rw [bit]; rfl, bit, Nat.cast_zero, zero_add]
    cases r <;> cases s <;> simp only [ExtendedMantissa.accuracy, Describes, Bool.or] at h ⊢
    · linarith
    all_goals constructor <;> linarith
  · rw [show (m % 2 != 0) = true by rw [bit]; rfl, bit, Nat.cast_one]
    cases r <;> cases s <;> simp only [ExtendedMantissa.accuracy, Describes, Bool.or] at h ⊢
    · linarith
    all_goals constructor <;> linarith

theorem describes_shiftRight {em : ExtendedMantissa} {v : ℚ} (h : Describes em.accuracy (v - em.mantissa)) (n : Nat) :
    Describes (em >>> n).accuracy (v / 2 ^ n - (em >>> n).mantissa) := by
  change Describes (n.repeat _ em).accuracy (v / 2 ^ n - (n.repeat _ em).mantissa)
  induction n with
  | zero => simpa [Nat.repeat] using h
  | succ n ih =>
    rw [Nat.repeat, pow_succ, ← div_div]
    exact describes_shiftRightOne ih

theorem abs_rounded_sub_le {em : ExtendedMantissa} {v : ℚ} (h : Describes em.accuracy (v - em.mantissa)) :
    |(em.roundedMantissa : ℚ) - v| ≤ 1 / 2 := by
  rw [ExtendedMantissa.roundedMantissa, abs_le]
  generalize em.accuracy = a at h
  rcases a with _ | (_ | _ | _)
  · change v - em.mantissa = 0 at h
    simp only [Accuracy.roundToNearestEven]
    constructor <;> linarith
  · obtain ⟨low, high⟩ : 0 < v - em.mantissa ∧ v - em.mantissa < 1 / 2 := h
    simp only [Accuracy.roundToNearestEven]
    constructor <;> linarith
  · change v - em.mantissa = 1 / 2 at h
    simp only [Accuracy.roundToNearestEven]
    rcases Nat.mod_two_eq_zero_or_one em.mantissa with bit | bit <;> rw [bit] <;> push_cast <;> constructor <;> linarith
  · obtain ⟨low, high⟩ : 1 / 2 < v - em.mantissa ∧ v - em.mantissa < 1 := h
    simp only [Accuracy.roundToNearestEven]
    push_cast
    constructor <;> linarith

theorem Describes.bounds {a : Accuracy} {r : ℚ} (h : Describes a r) : 0 ≤ r ∧ r < 1 := by
  rcases a with _ | (_ | _ | _) <;> simp only [Describes] at h <;> constructor <;> linarith

/-! ## Rounding -/

theorem shift_first {m : Nat} (large : 2 ^ 52 ≤ m) {e : Int} (least : -1074 ≤ e) (a : Accuracy) :
    shiftToTargetExponent Format.binary64 m e a =
      (ExtendedMantissa.ofMantissaAndAccuracy m a >>> (m.log2 - 52), e + (m.log2 - 52 : Nat)) := by
  have long : 52 ≤ m.log2 := (Nat.le_log2 (by omega)).2 large
  have target : Format.binary64.targetExponent (totalExponent m e) = e + (m.log2 - 52 : Nat) := by
    simp only [Format.targetExponent, totalExponent, Format.mantissaBits, Format.minExponent]
    omega
  have amount : (e + ((m.log2 - 52 : Nat) : Int) - e).toNat = m.log2 - 52 := by omega
  rw [shiftToTargetExponent, target, shiftToExponent, amount]

/-- A mantissa of the right length stays, and one that the carry has made too long loses its last zero. -/
theorem shift_second {r : Nat} (low : 2 ^ 52 ≤ r) (high : r ≤ 2 ^ 53) {e : Int} (least : -1074 ≤ e) :
    ∃ M E, shiftToTargetExponent Format.binary64 r e .exact = (⟨M, false, false⟩, E) ∧ 2 ^ 52 ≤ M ∧ M < 2 ^ 53 ∧
      e ≤ E ∧ E ≤ e + 1 ∧ (M : ℚ) * 2 ^ E = r * 2 ^ e := by
  rw [shift_first low least]
  rcases Nat.lt_or_eq_of_le high with short | rfl
  · have bits : r.log2 = 52 := (Nat.log2_eq_iff (by omega)).2 ⟨low, short⟩
    rw [bits]
    exact ⟨r, e + 0, rfl, low, short, by omega, by omega, by rw [add_zero]⟩
  · rw [Nat.log2_two_pow]
    refine ⟨2 ^ 52, e + 1, rfl, le_rfl, by norm_num, by omega, le_rfl, ?_⟩
    rw [zpow_add₀ two_ne_zero]
    push_cast
    ring

theorem round_nearest (s : Sign) {m : Nat} (large : 2 ^ 52 ≤ m) {e : Int} (least : -1074 ≤ e) {a : Accuracy} {v : ℚ}
    (h : Describes a (v - m)) :
    ∃ M E pos, roundWithAccuracy Format.binary64 s m e a = .finite s M E pos ∧ 2 ^ 52 ≤ M ∧ M < 2 ^ 53 ∧ e ≤ E ∧
      E ≤ e + (m.log2 - 52 : Nat) + 1 ∧ |(M : ℚ) * 2 ^ E - v * 2 ^ e| ≤ 2 ^ E / 2 := by
  have long : 52 ≤ m.log2 := (Nat.le_log2 (by omega)).2 large
  obtain ⟨k, bits⟩ := Nat.exists_eq_add_of_le long
  have low : 2 ^ 52 * 2 ^ k ≤ m := by
    rw [← pow_add, ← bits]
    exact Nat.log2_self_le (by omega)
  have high : m + 1 ≤ 2 ^ 53 * 2 ^ k := by
    have := Nat.lt_log2_self (n := m)
    rwa [bits, show 52 + k + 1 = 53 + k by omega, pow_add] at this
  let em := ExtendedMantissa.ofMantissaAndAccuracy m a >>> k
  let w := v / 2 ^ k
  have near : |(em.roundedMantissa : ℚ) - w| ≤ 1 / 2 := by
    obtain ⟨mantissa, accuracy⟩ := describes_ofMantissa m a
    exact abs_rounded_sub_le (describes_shiftRight (by rwa [mantissa, accuracy]) k)
  have pos : (0 : ℚ) < 2 ^ k := by positivity
  have inside : 2 ^ 52 ≤ w ∧ w < 2 ^ 53 := by
    obtain ⟨above, below⟩ := h.bounds
    have low : (2 ^ 52 * 2 ^ k : ℚ) ≤ m := by exact_mod_cast low
    have high : (m + 1 : ℚ) ≤ 2 ^ 53 * 2 ^ k := by exact_mod_cast high
    exact ⟨(le_div_iff₀ pos).2 (by linarith), (div_lt_iff₀ pos).2 (by linarith)⟩
  obtain ⟨below, above⟩ := abs_le.1 near
  have rounded : 2 ^ 52 ≤ em.roundedMantissa ∧ em.roundedMantissa ≤ 2 ^ 53 := by
    constructor <;> by_contra beyond
    · have : (em.roundedMantissa + 1 : ℚ) ≤ 2 ^ 52 := by exact_mod_cast Nat.lt_of_not_le beyond
      linarith [inside.1]
    · have : (2 ^ 53 + 1 : ℚ) ≤ em.roundedMantissa := by exact_mod_cast Nat.lt_of_not_le beyond
      linarith [inside.2]
  obtain ⟨M, E, shifted, lower, upper, after, soon, same⟩ :=
    shift_second rounded.1 rounded.2 (e := e + k) (by omega)
  have some : M ≠ 0 := by omega
  refine ⟨M, E, Nat.pos_of_ne_zero some, ?_, lower, upper, by omega, by omega, ?_⟩
  · have length : m.log2 - 52 = k := by omega
    rw [roundWithAccuracy, shift_first large least, length]
    dsimp only
    rw [shifted]
    exact dif_neg some
  · have exact : v * 2 ^ e = w * 2 ^ (e + k) := by
      rw [zpow_add₀ two_ne_zero, zpow_natCast]
      simp only [w]
      field_simp
    have unit : (0 : ℚ) < 2 ^ (e + k) := zpow_pos two_pos _
    have grown : (2 : ℚ) ^ (e + k) ≤ 2 ^ E := zpow_le_zpow_right₀ one_le_two after
    rw [same, exact, ← sub_mul, abs_mul, abs_of_pos unit]
    calc |(em.roundedMantissa : ℚ) - w| * 2 ^ (e + k) ≤ 1 / 2 * 2 ^ (e + k) := by gcongr
      _ ≤ 2 ^ E / 2 := by linarith

/-! ## Numbers of full length -/

/-- The bits of a positive number that has the hidden bit. -/
theorem ofBits_normal {bits : UInt64} {d : Dyad} (normal : 2 ^ 52 ≤ d.significand) :
    Reading.ofBits bits = .finite false d ↔ ∃ field fraction, 0 < field ∧ field < 2047 ∧ fraction < 2 ^ 52 ∧
      bits.toNat = field * 2 ^ 52 + fraction ∧ d = ⟨2 ^ 52 + fraction, field - 1075⟩ := by
  have bound := bits.toNat_lt
  have unit : hiddenBit = 2 ^ 52 := rfl
  simp only [Reading.ofBits, unit]
  constructor
  · intro h
    split at h
    · split at h <;> cases h
    · rename_i finite
      split at h
      · obtain ⟨-, rfl⟩ : ¬ 0x8000000000000000 ≤ bits.toNat ∧ _ = d := by simpa using h
        exact absurd (Nat.mod_lt bits.toNat (by decide)) (Nat.not_lt.2 normal)
      · rename_i some
        obtain ⟨positive, rfl⟩ : ¬ 0x8000000000000000 ≤ bits.toNat ∧ _ = d := by simpa using h
        exact ⟨bits.toNat / 2 ^ 52 % 0x800, bits.toNat % 2 ^ 52, by omega, by omega, by omega, by omega, rfl⟩
  · rintro ⟨field, fraction, some, finite, short, split, rfl⟩
    have parts : bits.toNat / 2 ^ 52 % 0x800 = field ∧ bits.toNat % 2 ^ 52 = fraction := by omega
    have positive : decide (0x8000000000000000 ≤ bits.toNat) = false := by
      rw [decide_eq_false_iff_not]
      omega
    simp only [parts, positive, if_neg finite.ne, if_neg some.ne']

/-- Only numbers far below one lack the hidden bit. -/
theorem full_of_large {x : Float} {d : Dyad} (h : read x = .finite false d) (large : 1 ≤ d.value) :
    2 ^ 52 ≤ d.significand := by
  rw [read, Reading.ofBits] at h
  split at h
  · split at h <;> cases h
  · split at h
    · obtain ⟨-, rfl⟩ : _ ∧ _ = d := by simpa using h
      have short : x.toBits.toNat % hiddenBit ≤ 2 ^ 52 := (Nat.mod_lt _ (by decide)).le
      have tiny : Dyad.value ⟨x.toBits.toNat % hiddenBit, -1074⟩ ≤ 2 ^ 52 * 2 ^ (-1074 : Int) :=
        mul_le_mul_of_nonneg_right (by exact_mod_cast short) (zpow_pos two_pos _).le
      rw [← zpow_natCast, ← zpow_add₀ two_ne_zero] at tiny
      have below : (2 : ℚ) ^ ((52 : Nat) + -1074 : Int) < 1 := zpow_lt_one_of_neg₀ one_lt_two (by norm_num)
      linarith
    · obtain ⟨-, rfl⟩ : _ ∧ _ = d := by simpa using h
      exact Nat.le_add_right _ _

theorem toNat_append {m n : Nat} (a : BitVec m) (b : BitVec n) : (a ++ b).toNat = a.toNat * 2 ^ n + b.toNat := by
  rw [BitVec.toNat_append, ← Nat.shiftLeft_add_eq_or_of_lt b.isLt, Nat.shiftLeft_eq]

theorem unpack_normal {b : BitVec 64} {field fraction : Nat} (some : 0 < field) (bounded : field < 2047)
    (short : fraction < 2 ^ 52) (split : b.toNat = field * 2 ^ 52 + fraction) :
    ∃ pos, UnpackedFloat.unpack Format.binary64 b =
      .finite .positive (2 ^ 52 + fraction) (field - 1075) pos := by
  have mantissa : @unpackMantissa Format.binary64 b = BitVec.ofNat 52 fraction := by
    apply BitVec.eq_of_toNat_eq
    simp only [unpackMantissa, BitVec.toNat_cast, BitVec.extractLsb_toNat, Nat.shiftRight_zero, BitVec.toNat_ofNat]
    omega
  have exponent : @unpackExponent Format.binary64 b = BitVec.ofNat 11 field := by
    apply BitVec.eq_of_toNat_eq
    simp only [unpackExponent, BitVec.toNat_cast, BitVec.extractLsb_toNat, Nat.shiftRight_eq_div_pow, BitVec.toNat_ofNat]
    omega
  have sign : @unpackSign Format.binary64 b = 0#1 := by
    apply BitVec.eq_of_toNat_eq
    simp only [unpackSign, BitVec.toNat_cast, BitVec.extractLsb_toNat, Nat.shiftRight_eq_div_pow, BitVec.toNat_ofNat]
    omega
  have inner : BitVec.ofNat 11 field ≠ -1#11 ∧ BitVec.ofNat 11 field ≠ 0#11 := by
    constructor <;> intro same <;> have := congrArg BitVec.toNat same <;> simp at this <;> omega
  refine ⟨by omega, ?_⟩
  rw [UnpackedFloat.unpack]
  simp only [mantissa, exponent, sign, if_neg inner.1, if_neg inner.2, toNat_append, BitVec.toNat_ofNat, finite.injEq]
  have bias : ((Format.binary64.exponentBias : Nat) : Int) = 1023 := rfl
  exact ⟨rfl, by omega, by omega⟩

/-- A number that is read as positive and has the hidden bit is taken apart in the same way. -/
theorem unpack_of_read {x : Float} {d : Dyad} (h : read x = .finite false d) (normal : 2 ^ 52 ≤ d.significand) :
    ∃ pos, x.toModel.unpack = .finite .positive d.significand d.exponent pos ∧ d.significand < 2 ^ 53 ∧
      -1074 ≤ d.exponent ∧ d.exponent ≤ 971 := by
  obtain ⟨field, fraction, some, finite, short, split, rfl⟩ := (ofBits_normal normal).1 h
  obtain ⟨pos, unpacked⟩ := unpack_normal some finite short split
  exact ⟨pos, unpacked, by dsimp only; omega, by dsimp only; omega, by dsimp only; omega⟩

theorem read_pack {M : Nat} {E : Int} (low : 2 ^ 52 ≤ M) (high : M < 2 ^ 53) (least : -1074 ≤ E) (most : E ≤ 971)
    (pos : 0 < M) : read (.ofModel (.pack (.finite .positive M E pos))) = .finite false ⟨M, E⟩ := by
  have length : M.log2 = 52 := (Nat.log2_eq_iff (by omega)).2 ⟨low, high⟩
  have inside : ¬ 2 ^ Format.binary64.exponentBits ≤
      (E + Format.binary64.exponentBias + Format.binary64.mantissaBitsWithoutImplicit).toNat + 1 := by
    change ¬ 2048 ≤ (E + 1023 + 52).toNat + 1
    omega
  refine (ofBits_normal low).2 ⟨(E + 1075).toNat, M - 2 ^ 52, by omega, by omega, by omega, ?_, ?_⟩
  · change (UnpackedFloat.pack Format.binary64 (.finite .positive M E pos)).toNat = _
    rw [UnpackedFloat.pack, if_neg inside, length, if_pos (by rfl)]
    change (0#1 ++ BitVec.ofNat 11 (E + 1023 + 52).toNat ++ BitVec.ofNat 52 M).toNat = _
    simp only [toNat_append, BitVec.toNat_ofNat]
    omega
  · rw [Dyad.mk.injEq]
    omega

/-! ## Quotients -/

theorem divCore_normal {m n : Nat} {e f : Int} (hm : m.log2 = 52) (hn : n.log2 = 52) (least : -1021 ≤ e - f) :
    divCore Format.binary64 m e n f =
      ((m <<< 53) / n, e - f - 53, accuracyOfFraction ((m <<< 53) % n) n) := by
  have target : Format.binary64.targetExponent (totalExponent m e - totalExponent n f) = e - f - 53 := by
    simp only [Format.targetExponent, totalExponent, hm, hn, Format.mantissaBits, Format.minExponent]
    omega
  have lower : min (e - f) (e - f - 53) = e - f - 53 := by omega
  have amount : (e - f - (e - f - 53)).toNat = 53 := by omega
  rw [divCore, target, lower, amount]

/-- The quotient of two positive numbers of full length is off by half a unit of its last place at most. -/
theorem div_nearest {x y : Float} {c d : Dyad} (hx : read x = .finite false c) (hy : read y = .finite false d)
    (full : 2 ^ 52 ≤ c.significand) (full' : 2 ^ 52 ≤ d.significand) (least : -1021 ≤ c.exponent - d.exponent)
    (most : c.exponent - d.exponent ≤ 1022) :
    ∃ r, read (x / y) = .finite false r ∧ 2 ^ 52 ≤ r.significand ∧
      |r.value - c.value / d.value| ≤ 2 ^ r.exponent / 2 := by
  obtain ⟨m, e⟩ := c
  obtain ⟨n, f⟩ := d
  dsimp only at full full' least most
  obtain ⟨mpos, unpacked, short, -, -⟩ := unpack_of_read hx full
  obtain ⟨npos, unpacked', short', -, -⟩ := unpack_of_read hy full'
  dsimp only at mpos npos unpacked unpacked' short short'
  have length : m.log2 = 52 := (Nat.log2_eq_iff (by omega)).2 ⟨full, short⟩
  have length' : n.log2 = 52 := (Nat.log2_eq_iff (by omega)).2 ⟨full', short'⟩
  have large : 2 ^ 52 ≤ (m <<< 53) / n := by
    rw [Nat.shiftLeft_eq, Nat.le_div_iff_mul_le npos]
    exact Nat.mul_le_mul full short'.le
  have small : (m <<< 53) / n < 2 ^ 54 := by
    rw [Nat.shiftLeft_eq, Nat.div_lt_iff_lt_mul npos]
    omega
  have longest : ((m <<< 53) / n).log2 < 54 := (Nat.log2_lt (by omega)).2 small
  have rest : ((m * 2 ^ 53 : ℚ) / n) - ((m <<< 53) / n : Nat) = ((m <<< 53) % n : Nat) / n := by
    have whole : (((m <<< 53) % n : Nat) : ℚ) + n * ((m <<< 53) / n : Nat) = m * 2 ^ 53 := by
      exact_mod_cast (Nat.mod_add_div (m <<< 53) n).trans (Nat.shiftLeft_eq m 53)
    have pos : (0 : ℚ) < n := by exact_mod_cast npos
    rw [← whole]
    field_simp
    ring
  obtain ⟨M, E, pos, rounded, low, high, after, soon, near⟩ := round_nearest .positive large (e := e - f - 53)
    (by omega) (v := m * 2 ^ 53 / n) (rest ▸ describes_fraction (Nat.mod_lt _ npos))
  refine ⟨⟨M, E⟩, ?_, low, ?_⟩
  · have quotient : x / y = .ofModel (.pack (.finite .positive M E pos)) := by
      change Float.ofModel (.pack (UnpackedFloat.div Format.binary64 x.toModel.unpack y.toModel.unpack)) = _
      rw [unpacked, unpacked', UnpackedFloat.div, divCore_normal length length' least]
      exact congrArg (fun u => Float.ofModel (.pack u)) rounded
    rw [quotient]
    exact read_pack low high (by omega) (by omega) pos
  · have exact : Dyad.value ⟨m, e⟩ / Dyad.value ⟨n, f⟩ = m * 2 ^ 53 / n * 2 ^ (e - f - 53) := by
      have powers : (2 : ℚ) ^ (e - f - 53) * 2 ^ 53 = 2 ^ e / 2 ^ f := by
        rw [← zpow_sub₀ two_ne_zero, ← zpow_natCast, ← zpow_add₀ two_ne_zero]
        congr 1
        omega
      simp only [Dyad.value]
      rw [mul_div_mul_comm, ← powers]
      ring
    rw [exact]
    exact near

end CloudProvider.Decimal
