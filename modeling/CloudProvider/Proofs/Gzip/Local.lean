import CloudProvider.Gzip.Member
import CloudProvider.Proofs.Json.Decode

/-! # Readers that do not look ahead

What a reader makes of its input is made of the bytes that it uses alone: it does the same whatever stands behind
them, and with as few bytes as these (`Local`). Readers one after the other are local if each of them is, and the
fuel of a loop does not matter as long as there is more of it than bits are used.
-/

namespace CloudProvider.Gzip

open Text (Bytes)

/-- Something with bytes that are still to be read, and with bits that have been taken from the byte before them. -/
class Rest (τ : Type) where
  bytes : τ → Bytes
  put : Bytes → τ → τ
  spare : τ → Nat
  bytes_put (bs : Bytes) (s : τ) : bytes (put bs s) = bs
  put_bytes (s : τ) : put (bytes s) s = s
  put_put (bs cs : Bytes) (s : τ) : put bs (put cs s) = put bs s
  spare_put (bs : Bytes) (s : τ) : spare (put bs s) = spare s

instance : Rest Bytes where
  bytes := id
  put bs _ := bs
  spare _ := 0
  bytes_put _ _ := rfl
  put_bytes _ := rfl
  put_put _ _ _ := rfl
  spare_put _ _ := rfl

instance : Rest Bits where
  bytes s := s.bytes
  put bs s := { s with bytes := bs }
  spare s := s.count
  bytes_put _ _ := rfl
  put_bytes _ := rfl
  put_put _ _ _ := rfl
  spare_put _ _ := rfl

instance {α τ : Type} [Rest τ] : Rest (α × τ) where
  bytes s := Rest.bytes s.2
  put bs s := (s.1, Rest.put bs s.2)
  spare s := Rest.spare s.2
  bytes_put bs s := Rest.bytes_put bs s.2
  put_bytes s := Prod.ext rfl (Rest.put_bytes s.2)
  put_put bs cs s := Prod.ext rfl (Rest.put_put bs cs s.2)
  spare_put bs s := Rest.spare_put bs s.2

instance : Rest (Bits × Array UInt8) where
  bytes s := s.1.bytes
  put bs s := (Rest.put bs s.1, s.2)
  spare s := s.1.count
  bytes_put _ _ := rfl
  put_bytes _ := rfl
  put_put _ _ _ := rfl
  spare_put _ _ := rfl

section
variable {τ β γ : Type} [Rest τ] [Rest β] [Rest γ] {m n : Nat}

open Rest (bytes put spare)

/-- The bits that are still to be read. -/
def size (s : τ) : Nat := 8 * (bytes s).length + spare s

/-- A reader takes these bytes and at least so many bits, whatever stands behind. -/
def Takes (least : Nat) (read : τ → Except Fault β) (s : τ) (r : β) (used : Bytes) : Prop :=
  bytes s = used ++ bytes r ∧ spare r + least ≤ 8 * used.length + spare s ∧
    ∀ more, read (put (used ++ more) s) = .ok (put more r)

def Local (least : Nat) (read : τ → Except Fault β) : Prop :=
  ∀ s r, read s = .ok r → ∃ used, Takes least read s r used

namespace Local
variable {read : τ → Except Fault β} {next : β → Except Fault γ}

theorem error (f : Fault) : Local n (fun _ : τ => (.error f : Except Fault β)) := fun _ _ h => nomatch h

/-- What only rearranges its input is local. -/
theorem ok {g : τ → β} (same : ∀ s, bytes (g s) = bytes s) (less : ∀ s, spare (g s) ≤ spare s)
    (through : ∀ bs s, g (put bs s) = put bs (g s)) : Local 0 (fun s => .ok (g s)) := by
  rintro s _ ⟨⟩
  exact ⟨[], (same s).symm, by simpa using less s, fun more => congrArg _ (through more s)⟩

theorem mono (h : Local m read) (less : n ≤ m) : Local n read := by
  intro s r hr
  obtain ⟨used, split, enough, again⟩ := h s r hr
  exact ⟨used, split, by omega, again⟩

theorem bind (first : Local n read) (second : Local 0 next) : Local n (fun s => read s >>= next) := by
  intro s r h
  obtain ⟨b, hb, hr⟩ := Json.bind_ok h
  obtain ⟨used, split, enough, again⟩ := first s b hb
  obtain ⟨used', split', enough', again'⟩ := second b r hr
  refine ⟨used ++ used', ?_, ?_, fun more => ?_⟩
  · rw [split, split', List.append_assoc]
  · rw [List.length_append]
    omega
  · dsimp only
    rw [List.append_assoc, again (used' ++ more)]
    exact again' more

/-- What stands beside the rest does not change, so it can be fixed. -/
theorem pair {α : Type} {read : α × τ → Except Fault β} (h : ∀ a, Local n fun s => read (a, s)) : Local n read :=
  fun s r hr => h s.1 s.2 r hr

/-- The next reader may depend on what the first has found. -/
theorem andThen {α : Type} {read : τ → Except Fault (α × β)} {next : α × β → Except Fault γ} (first : Local n read)
    (second : ∀ a, Local 0 fun s => next (a, s)) : Local n (fun s => read s >>= next) := first.bind (pair second)

/-- What stands after the rest, likewise. -/
theorem beside {read : Bits × Array UInt8 → Except Fault β} (h : ∀ out, Local n fun s : Bits => read (s, out)) :
    Local n read := fun s r hr => h s.2 s.1 r hr

theorem give {α : Type} (a : α) : Local 0 (fun s : τ => (.ok (a, s) : Except Fault (α × τ))) :=
  ok (fun _ => rfl) (fun _ => Nat.le_refl _) (fun _ _ => rfl)

/-- The first byte is used, and decides what follows. -/
theorem byte {read : Bytes → Except Fault β} (empty : ∀ r, read [] ≠ .ok r)
    (h : ∀ b, Local 0 fun bs => read (b :: bs)) : Local 0 read := by
  rintro (_ | ⟨b, bs⟩) r hr
  · exact absurd hr (empty r)
  · obtain ⟨used, split, less, again⟩ := h b bs r hr
    refine ⟨b :: used, congrArg (b :: ·) split, Nat.le_trans less ?_, again⟩
    exact Nat.add_le_add_right (Nat.mul_le_mul_left 8 (Nat.le_succ used.length)) _

theorem ite {c : Prop} [Decidable c] {read' : τ → Except Fault β} (yes : c → Local n read)
    (no : ¬ c → Local n read') : Local n (fun s => if c then read s else read' s) := by
  by_cases h : c
  · simpa only [if_pos h] using yes h
  · simpa only [if_neg h] using no h

/-- What is made of something else comes first. -/
theorem const {α : Type} (x : Except Fault α) {read : α → τ → Except Fault β} (h : ∀ a, Local n (read a)) :
    Local n (fun s => x >>= fun a => read a s) := by
  cases x with
  | error f => exact error f
  | ok a => exact h a

/-- A reader of bytes takes what stands before the rest, and this is all that it needs. -/
theorem ok_iff {read : Bytes → Except Fault β} (h : Local n read) {bs : Bytes} {r : β} :
    read bs = .ok r ↔ ∃ used, bs = used ++ bytes r ∧ read used = .ok (put [] r) := by
  constructor
  · intro hr
    obtain ⟨used, split, -, again⟩ := h bs r hr
    refine ⟨used, split, ?_⟩
    have alone : read (used ++ []) = .ok (put [] r) := again []
    rwa [List.append_nil] at alone
  · rintro ⟨used, split, hr⟩
    obtain ⟨used', split', -, again⟩ := h used _ hr
    rw [Rest.bytes_put, List.append_nil] at split'
    have same : used = used' := split'
    have behind : read (used' ++ bytes r) = .ok (put (bytes r) (put [] r)) := again (bytes r)
    rw [split, same, behind, Rest.put_put, Rest.put_bytes]

end Local

/-! ## Fuel -/

/-- A local reader that is given fuel, of which it needs no more than there are bits. -/
structure Fueled (read : Nat → τ → Except Fault β) : Prop where
  each (fuel : Nat) : Local 0 (read fuel)
  enough {fuel fuel' : Nat} {s : τ} {r : β} (h : read fuel s = .ok r) (more : size s < fuel') : read fuel' s = .ok r

theorem Local.size_le {read : τ → Except Fault β} (h : Local n read) {s : τ} {r : β} (hr : read s = .ok r) :
    size r + n ≤ size s := by
  obtain ⟨used, split, less, -⟩ := h s r hr
  rw [size, size, split, List.length_append]
  omega

namespace Fueled
variable {read : Nat → τ → Except Fault β}

theorem bind {read : τ → Except Fault β} {next : Nat → β → Except Fault γ} (first : Local 0 read)
    (second : Fueled next) : Fueled (fun fuel s => read s >>= next fuel) := by
  refine ⟨fun fuel => first.bind (second.each fuel), fun {fuel fuel'} s r h more => ?_⟩
  obtain ⟨b, hb, hr⟩ := Json.bind_ok h
  rw [hb]
  exact second.enough hr (Nat.lt_of_le_of_lt (first.size_le hb) more)

theorem pair {α : Type} {read : Nat → α × τ → Except Fault β} (h : ∀ a, Fueled fun fuel s => read fuel (a, s)) :
    Fueled read := ⟨fun fuel => .pair fun a => (h a).each fuel, fun {_ _} s _ hr more => (h s.1).enough hr more⟩

/-- A loop of steps that use a bit at least comes to the same with any fuel that lets it end. -/
theorem loop (step : τ → Except Fault (Bool × τ)) (h : Local 1 step) {loop : Nat → τ → Except Fault τ}
    (zero : ∀ s, loop 0 s = .error .ended)
    (succ : ∀ fuel s, loop (fuel + 1) s = step s >>= fun r => if r.1 then .ok r.2 else loop fuel r.2) :
    Fueled loop := by
  constructor
  · intro fuel
    induction fuel with
    | zero => exact (funext zero : loop 0 = _) ▸ Local.error .ended
    | succ fuel ih =>
      rw [show loop (fuel + 1) = _ from funext (succ fuel)]
      refine (h.mono (Nat.zero_le 1)).andThen fun done => .ite (c := done = true) (fun _ => ?_) fun _ => ih
      exact .ok (fun _ => rfl) (fun _ => Nat.le_refl _) fun _ _ => rfl
  · -- The induction is on the fuel of the run that ended; the bits that are left stay below the other fuel.
    intro fuel fuel' s r hr more
    induction fuel generalizing fuel' s with
    | zero => exact nomatch (zero s).symm.trans hr
    | succ fuel ih =>
      obtain _ | fuel' := fuel'
      · exact absurd more (Nat.not_lt_zero _)
      rw [succ] at hr ⊢
      obtain ⟨⟨done, s'⟩, hs, hr⟩ := Json.bind_ok hr
      have fewer : size s' + 1 ≤ size s := h.size_le hs
      rw [hs]
      cases done with
      | true => exact hr
      | false => exact ih hr (show size s' < fuel' by omega)

/-- With more fuel than there are bits, the reader is local. -/
theorem spend (h : Fueled read) : Local 0 (fun s => read (size s + 1) s) := by
  intro s r hr
  obtain ⟨used, split, less, again⟩ := h.each _ s r hr
  exact ⟨used, split, less, fun more => h.enough (again more) (Nat.lt_succ_self _)⟩

end Fueled
end
end CloudProvider.Gzip
