import Mathlib.Algebra.Group.Nat.Defs
import Mathlib.Data.List.Forall2
import CloudProvider.Proofs.Gzip.Inflate

/-! # The first member of a file

A member is a header, a stream and the trailer that belongs to what the stream stands for. A file is decoded exactly
if a member stands at its beginning, and what is behind that member does not count (`decode_eq_ok`); so a file that is
cut off, or has another trailer, is not decoded, and of several members only the first is (`decode_members`).
-/

namespace CloudProvider.Gzip

open Text (Bytes)

/-! ## Headers -/

theorem takeBytes_local (n : Nat) : Local 0 (takeBytes n) := by
  induction n with
  | zero => exact .give []
  | succ n ih => exact .byte nofun fun b => ih.andThen fun front => .give (b :: front)

theorem takeText_local (room : Nat) : Local 0 (takeText room) := by
  induction room with
  | zero =>
    refine .byte nofun fun b => ?_
    by_cases zero : b = 0
    · subst zero
      exact .give [0]
    · exact funext (fun bs => takeText.eq_2 b bs zero) ▸ .error .headerTooLong
  | succ room ih =>
    refine .byte nofun fun b => ?_
    by_cases zero : b = 0
    · subst zero
      exact .give [0]
    · exact funext (fun bs => takeText.eq_3 room b bs zero) ▸ ih.andThen fun front => .give (b :: front)

theorem takeIf_local (flag : Bool) {take : Bytes → Except Fault (Bytes × Bytes)} (h : Local 0 take) :
    Local 0 (takeIf flag take) := .ite (fun _ => h) fun _ => .give []

theorem takeExtraField_local : Local 0 takeExtraField :=
  (takeBytes_local 2).andThen fun size => (takeBytes_local _).andThen fun field => .give (size ++ field)

theorem skipHeader_local : Local 0 skipHeader := by
  refine (takeBytes_local 10).andThen fun fixed => .ite (fun _ => .error .badHeader) fun _ =>
    (takeIf_local _ takeExtraField_local).andThen fun extra =>
    (takeIf_local _ (takeText_local 65535)).andThen fun name =>
    (takeIf_local _ (takeText_local 65535)).andThen fun comment =>
    (takeIf_local _ (takeBytes_local 2)).andThen fun check => .ite (fun _ => .error .badChecksum) fun _ => ?_
  exact .ok (fun _ => rfl) (fun _ => Nat.le_refl _) (fun _ _ => rfl)

/-! ## Trailers -/

/-- The `n` bytes of a number, the least first. -/
def bytesOf : (n : Nat) → Nat → Bytes
  | 0, _ => []
  | n + 1, v => v.toUInt8 :: bytesOf n (v / 256)

@[simp] theorem length_bytesOf (n v : Nat) : (bytesOf n v).length = n := by
  induction n generalizing v with
  | zero => rfl
  | succ n ih => rw [bytesOf, List.length_cons, ih]

theorem littleEndian_bytesOf (n v : Nat) : littleEndian (bytesOf n v) = v % 256 ^ n := by
  induction n generalizing v with
  | zero => rw [Nat.pow_zero, Nat.mod_one, bytesOf, littleEndian]
  | succ n ih =>
    have byte : v.toUInt8.toNat = v % 256 := rfl
    rw [bytesOf, littleEndian, ih, byte, Nat.pow_succ', Nat.mod_mul]

theorem bytesOf_littleEndian (bs : Bytes) : bytesOf bs.length (littleEndian bs) = bs := by
  induction bs with
  | nil => rfl
  | cons b bs ih =>
    have small : b.toNat < 256 := b.toNat_lt
    have low : (b.toNat + 256 * littleEndian bs).toUInt8 = b := by
      apply UInt8.toNat_inj.1
      show (b.toNat + 256 * littleEndian bs) % 256 = b.toNat
      omega
    have high : (b.toNat + 256 * littleEndian bs) / 256 = littleEndian bs := by omega
    rw [littleEndian, List.length_cons, bytesOf, low, high, ih]

/-- What stands behind a stream: the checksum and the length of what the stream stands for. -/
def trailer (content : Bytes) : Bytes :=
  bytesOf 4 (crc32 content).toNat ++ bytesOf 4 (content.length % UInt32.size)

theorem eq_bytesOf_iff {bs : Bytes} {v : Nat} (small : v < 256 ^ bs.length) :
    littleEndian bs = v ↔ bs = bytesOf bs.length v := by
  constructor
  · rintro rfl
    exact (bytesOf_littleEndian bs).symm
  · intro h
    rw [h, littleEndian_bytesOf, Nat.mod_eq_of_lt small]

/-- The trailer is good if both of its numbers are. -/
theorem eq_trailer_iff {bs content : Bytes} (eight : bs.length = 8) :
    (littleEndian (bs.take 4) = (crc32 content).toNat ∧
      littleEndian (bs.drop 4) = content.length % UInt32.size) ↔ bs = trailer content := by
  have front : (bs.take 4).length = 4 := by simp [eight]
  have back : (bs.drop 4).length = 4 := by simp [eight]
  have crc : (crc32 content).toNat < 256 ^ (bs.take 4).length := by
    rw [front]
    exact (crc32 content).toNat_lt
  have length : content.length % UInt32.size < 256 ^ (bs.drop 4).length := by
    rw [back]
    exact Nat.mod_lt _ (by decide)
  rw [eq_bytesOf_iff crc, eq_bytesOf_iff length, front, back, trailer]
  constructor
  · rintro ⟨first, second⟩
    rw [← first, ← second, List.take_append_drop]
  · rintro rfl
    exact ⟨List.take_left' (length_bytesOf 4 _), List.drop_left' (length_bytesOf 4 _)⟩

theorem length_of_takeBytes {n : Nat} {bs front rest : Bytes} (h : takeBytes n bs = .ok (front, rest)) :
    front.length = n ∧ bs = front ++ rest := by
  induction n generalizing bs front with
  | zero =>
    cases h
    exact ⟨rfl, rfl⟩
  | succ n ih =>
    cases bs with
    | nil => cases h
    | cons b bs =>
      obtain ⟨⟨front', rest'⟩, taken, h⟩ := Json.bind_ok h
      cases h
      obtain ⟨length, rfl⟩ := ih taken
      exact ⟨congrArg (· + 1) length, rfl⟩

theorem takeBytes_append (front rest : Bytes) : takeBytes front.length (front ++ rest) = .ok (front, rest) := by
  induction front with
  | nil => rfl
  | cons b front ih => rw [List.length_cons, List.cons_append, takeBytes, ih]; rfl

/-! ## Members -/

/-- A header, a stream, and the trailer that belongs to what the stream stands for. -/
inductive Member (content : Bytes) : Bytes → Prop
  | mk {header stream : Bytes} (headed : skipHeader header = .ok [])
    (streamed : inflate stream = .ok (content.toArray, [])) : Member content (header ++ stream ++ trailer content)

/-- Takes a member and leaves what is behind it. -/
def takeMember (bs : Bytes) : Except Fault (Bytes × Bytes) := do
  let bs ← skipHeader bs
  let (out, bs) ← inflate bs
  let (trailer, bs) ← takeBytes 8 bs
  let content := out.toList
  if littleEndian (trailer.take 4) = (crc32 content).toNat ∧
      littleEndian (trailer.drop 4) = content.length % UInt32.size then .ok (content, bs)
  else .error .badChecksum

theorem decode_eq (bs : Bytes) : decode bs = (takeMember bs).map (·.1) := by
  rw [decode, takeMember]
  cases skipHeader bs with
  | error f => rfl
  | ok bs =>
    change (inflate bs >>= _) = Except.map _ (inflate bs >>= _)
    cases inflate bs with
    | error f => rfl
    | ok r =>
      change (takeBytes 8 r.2 >>= _) = Except.map _ (takeBytes 8 r.2 >>= _)
      cases takeBytes 8 r.2 with
      | error f => rfl
      | ok t =>
        change (if _ then _ else _) = Except.map _ (if _ then _ else _)
        split <;> rfl

/-- Behind a header and a stream the trailer decides. -/
theorem takeMember_append {header stream content last : Bytes} (headed : skipHeader header = .ok [])
    (streamed : inflate stream = .ok (content.toArray, [])) (eight : last.length = 8) (rest : Bytes) :
    takeMember (header ++ stream ++ last ++ rest) =
      if last = trailer content then .ok (content, rest) else .error .badChecksum := by
  have first : skipHeader (header ++ (stream ++ (last ++ rest))) = .ok (stream ++ (last ++ rest)) :=
    skipHeader_local.ok_iff.2 ⟨header, rfl, headed⟩
  have second : inflate (stream ++ (last ++ rest)) = .ok (content.toArray, last ++ rest) :=
    inflate_local.ok_iff.2 ⟨stream, rfl, streamed⟩
  have third : takeBytes 8 (last ++ rest) = .ok (last, rest) := eight ▸ takeBytes_append last rest
  rw [List.append_assoc, List.append_assoc]
  simp only [takeMember, first, second, third, bind, Except.bind, eq_trailer_iff eight]

/-- A member is taken with its trailer and no more. -/
theorem takeMember_eq_ok {bs content rest : Bytes} :
    takeMember bs = .ok (content, rest) ↔ ∃ member, bs = member ++ rest ∧ Member content member := by
  constructor
  · intro h
    obtain ⟨behind, headed, h⟩ := Json.bind_ok h
    obtain ⟨⟨out, behind'⟩, streamed, h⟩ := Json.bind_ok h
    obtain ⟨⟨last, rest'⟩, taken, h⟩ := Json.bind_ok h
    obtain ⟨eight, split⟩ := length_of_takeBytes taken
    change (if _ then _ else _) = Except.ok _ at h
    split at h
    · rename_i good
      cases h
      obtain ⟨header, rfl, first⟩ := skipHeader_local.ok_iff.1 headed
      obtain ⟨stream, split', second⟩ := inflate_local.ok_iff.1 streamed
      have whole : behind = stream ++ (trailer out.toList ++ rest) := by
        rw [← (eq_trailer_iff eight).1 good, ← split]
        exact split'
      refine ⟨header ++ stream ++ trailer out.toList, ?_, .mk first second⟩
      rw [List.append_assoc, List.append_assoc, ← whole]
      rfl
    · cases h
  · rintro ⟨_, rfl, ⟨headed, streamed⟩⟩
    rw [takeMember_append headed streamed rfl rest, if_pos rfl]

/-- A file is decoded if a member stands at its beginning. -/
theorem decode_eq_ok {bs content : Bytes} :
    decode bs = .ok content ↔ ∃ member, member <+: bs ∧ Member content member := by
  rw [decode_eq]
  constructor
  · intro h
    cases taken : takeMember bs with
    | error f => cases taken ▸ h
    | ok r =>
      rw [taken] at h
      cases h
      obtain ⟨member, rfl, whole⟩ := takeMember_eq_ok.1 taken
      exact ⟨member, List.prefix_append member r.2, whole⟩
  · rintro ⟨member, ⟨rest, rfl⟩, whole⟩
    rw [takeMember_eq_ok.2 ⟨member, rfl, whole⟩]
    rfl

/-- No member is the beginning of another. -/
theorem Member.unique {content content' member more : Bytes} (h : Member content member)
    (h' : Member content' (member ++ more)) : content = content' ∧ more = [] := by
  have short : takeMember (member ++ more) = .ok (content, more) := takeMember_eq_ok.2 ⟨member, rfl, h⟩
  have long : takeMember (member ++ more) = .ok (content', []) :=
    takeMember_eq_ok.2 ⟨_, (List.append_nil _).symm, h'⟩
  cases short.symm.trans long
  exact ⟨rfl, rfl⟩

/-! ## Every content has a member -/

/-- A block for each byte, and an empty one at the end. -/
def storedBlocks : Bytes → Bytes
  | [] => [1, 0, 0, 255, 255]
  | b :: bs => 0 :: 1 :: 0 :: 254 :: 255 :: b :: storedBlocks bs

/-- A member in which the content stands as it is. -/
def store (content : Bytes) : Bytes :=
  [0x1F, 0x8B, 8, 0, 0, 0, 0, 0, 0, 255] ++ storedBlocks content ++ trailer content

theorem inflateBlocks_stored (content : Bytes) (out : Array UInt8) {fuel : Nat} (enough : content.length < fuel) :
    inflateBlocks fuel ⟨0, 0, storedBlocks content⟩ out = .ok (⟨0, 0, []⟩, out ++ content) := by
  induction content generalizing out fuel with
  | nil =>
    obtain ⟨fuel, rfl⟩ := Nat.exists_eq_succ_of_ne_zero (Nat.ne_of_gt enough)
    rfl
  | cons b content ih =>
    obtain ⟨fuel, rfl⟩ := Nat.exists_eq_succ_of_ne_zero (Nat.ne_of_gt (Nat.zero_lt_of_lt enough))
    have block : inflateBlock ⟨0, 7, 1 :: 0 :: 254 :: 255 :: b :: storedBlocks content⟩ out =
        .ok (⟨0, 0, storedBlocks content⟩, out.push b) := by
      simp [inflateBlock, inflateStored, Bits.take, Bits.bit, Bits.align, copyStored, bind, Except.bind]
    have behind : inflateBlocks fuel ⟨0, 0, storedBlocks content⟩ (out.push b) =
        .ok (⟨0, 0, []⟩, out ++ b :: content) :=
      (ih (out.push b) (Nat.lt_of_succ_lt_succ enough)).trans (by simp)
    simp [inflateBlocks, storedBlocks, Bits.bit, bind, Except.bind, block, behind]

theorem length_storedBlocks (content : Bytes) : content.length < (storedBlocks content).length := by
  induction content with
  | nil => decide
  | cons b content ih =>
    simp only [storedBlocks, List.length_cons]
    omega

theorem store_member (content : Bytes) : Member content (store content) := by
  refine .mk (by decide +kernel) ?_
  have enough : content.length < 8 * (storedBlocks content).length + 1 := by
    have := length_storedBlocks content
    omega
  rw [inflate, inflateBlocks_stored content #[] enough]
  simp [bind, Except.bind, Bits.align]

/-! ## Files -/

/-- No member stands at the beginning. -/
def Broken (bs : Bytes) : Prop := ∀ content member, Member content member → ¬ member <+: bs

theorem broken_iff {bs : Bytes} : Broken bs ↔ ∃ f, decode bs = .error f := by
  constructor
  · intro broken
    cases h : decode bs with
    | error f => exact ⟨f, rfl⟩
    | ok content =>
      obtain ⟨member, first, whole⟩ := decode_eq_ok.1 h
      exact absurd first (broken content member whole)
  · rintro ⟨f, failed⟩ content member whole first
    cases failed.symm.trans (decode_eq_ok.2 ⟨member, first, whole⟩)

/-- A file without the header of gzip. -/
theorem Broken.of_headless {bs : Bytes} (h : fixedHeaderIsGood (bs.take 10) = false) : Broken bs := by
  rintro content _ ⟨headed, -⟩ ⟨rest, rfl⟩
  obtain ⟨⟨fixed, behind⟩, taken, good⟩ := Json.bind_ok headed
  obtain ⟨ten, rfl⟩ := length_of_takeBytes taken
  simp only [List.append_assoc, List.take_left' ten] at h
  simp only [h, Bool.false_eq_true, not_false_eq_true, if_true, reduceCtorEq] at good

/-- A member that is cut off. -/
theorem Broken.of_truncated {content bs more : Bytes} (h : Member content (bs ++ more)) (missing : more ≠ []) :
    Broken bs := by
  rintro content' member whole ⟨rest, rfl⟩
  rw [List.append_assoc] at h
  exact missing (List.append_eq_nil_iff.1 (whole.unique h).2).2

/-- A header and a stream with a trailer that does not belong to them. -/
theorem Broken.of_mismatched {header stream content last : Bytes} (headed : skipHeader header = .ok [])
    (streamed : inflate stream = .ok (content.toArray, [])) (eight : last.length = 8) (wrong : last ≠ trailer content)
    (rest : Bytes) : Broken (header ++ stream ++ last ++ rest) := by
  refine broken_iff.2 ⟨.badChecksum, ?_⟩
  rw [decode_eq, takeMember_append headed streamed eight rest, if_neg wrong]
  rfl

/-- Of several members only the first is decoded, and whatever stands behind them does not matter either. -/
theorem decode_members {first : Bytes} {rest members : List Bytes} (h : List.Forall₂ Member (first :: rest) members)
    (tail : Bytes) : decode (members.flatten ++ tail) = .ok first := by
  cases h with
  | cons whole others =>
    rw [List.flatten_cons, List.append_assoc]
    exact decode_eq_ok.2 ⟨_, List.prefix_append _ _, whole⟩

end CloudProvider.Gzip
