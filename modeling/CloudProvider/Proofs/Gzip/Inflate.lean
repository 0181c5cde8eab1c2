import CloudProvider.Proofs.Gzip.Local

/-! # Inflating does not look ahead

Every reader of a deflated stream is local, from single bits (`bit_local`) to the stream (`inflate_local`).
-/

namespace CloudProvider.Gzip

open Text (Bytes)

theorem bit_local : Local 1 Bits.bit := by
  rintro ⟨held, count, bytes⟩ r h
  cases count with
  | succ n =>
    cases h
    exact ⟨[], rfl, by simp [Rest.spare], fun more => rfl⟩
  | zero =>
    cases bytes with
    | nil => cases h
    | cons b bs =>
      cases h
      exact ⟨[b], rfl, by simp [Rest.spare], fun more => rfl⟩

theorem take_local (n : Nat) : Local 0 (Bits.take n) := by
  induction n with
  | zero => exact .give 0
  | succ n ih => exact (bit_local.mono (Nat.zero_le 1)).andThen fun b => ih.andThen fun v => .give (b + 2 * v)

theorem walk_local (symbols : Array Nat) (code first index : Nat) (counts : List Nat) :
    Local 1 (fun s => Code.walk symbols code first index s counts) := by
  induction counts generalizing code first index with
  | nil => exact .error .corruptStream
  | cons n counts ih =>
    refine bit_local.andThen fun b => .ite (fun _ => ?_) (fun _ => (ih _ _ _).mono (Nat.zero_le 1))
    cases symbols[index + (code + b - first)]? with
    | none => exact .error .corruptStream
    | some symbol => exact .give symbol

/-- A code has a bit at least. -/
theorem decode_local (c : Code) : Local 1 c.decode := walk_local _ _ _ _ _

theorem takeExtra_local (table : Array (Nat × Nat)) (i : Nat) : Local 0 (takeExtra table i) := by
  unfold takeExtra
  cases table[i]? with
  | none => exact .error .corruptStream
  | some entry => exact (take_local entry.2).andThen fun v => .give (entry.1 + v)

theorem takeMany_local (width n : Nat) : Local 0 (takeMany width n) := by
  induction n with
  | zero => exact .give []
  | succ n ih => exact (take_local width).andThen fun v => ih.andThen fun vs => .give (v :: vs)

theorem takeLengths_local (code : Code) (fuel n : Nat) (done : List Nat) : Local 0 (takeLengths code fuel n done) := by
  induction fuel generalizing n done with
  | zero =>
    cases n with
    | zero => exact .give done.reverse
    | succ n => exact .error .ended
  | succ fuel ih =>
    cases n with
    | zero => exact .give done.reverse
    | succ n =>
      refine ((decode_local code).mono (Nat.zero_le 1)).andThen fun symbol => ?_
      have again (value least width : Nat) : Local 0 (fun s : Bits => s.take width >>= fun r =>
          if n + 1 < least + r.1 then .error .corruptStream
          else takeLengths code fuel (n + 1 - (least + r.1)) (List.replicate (least + r.1) value ++ done) r.2) :=
        (take_local width).andThen fun extra =>
          .ite (c := n + 1 < least + extra) (fun _ => .error .corruptStream)
            fun _ => ih (n + 1 - (least + extra)) (List.replicate (least + extra) value ++ done)
      refine .ite (fun _ => ih _ _) fun _ => .ite (fun _ => ?_) fun _ =>
        .ite (fun _ => again 0 3 3) fun _ => again 0 11 7
      cases done with
      | nil => exact .error .corruptStream
      | cons last done => exact again last 3 2

theorem takeCodes_local : Local 0 takeCodes := by
  refine (take_local 5).andThen fun literals => (take_local 5).andThen fun distances =>
    (take_local 4).andThen fun orders => .ite (fun _ => .error .corruptStream) fun _ =>
    (takeMany_local 3 _).andThen fun given => .const _ fun code => (takeLengths_local code _ _ _).andThen fun lengths =>
    .const _ fun first => .const _ fun second => ?_
  exact .ok (g := fun s : Bits => (first, second, s)) (fun _ => rfl) (fun _ => Nat.le_refl _) (fun _ _ => rfl)

/-! ## Stored blocks -/

theorem copyStored_local (n : Nat) (out : Array UInt8) : Local 0 (fun bs => copyStored n bs out) := by
  induction n generalizing out with
  | zero =>
    exact .ok (g := fun bs : Bytes => ((⟨0, 0, bs⟩, out) : Bits × Array UInt8)) (fun _ => rfl)
      (fun _ => Nat.le_refl _) (fun _ _ => rfl)
  | succ n ih => exact .byte nofun fun b => ih (out.push b)

theorem align_local : Local 0 (fun s : Bits => (.ok s.align : Except Fault Bits)) :=
  .ok (fun _ => rfl) (fun _ => Nat.zero_le _) (fun _ _ => rfl)

/-- The bits before the next byte are dropped, so the bytes are all that is left. -/
theorem inflateStored_local (out : Array UInt8) : Local 0 (fun s => inflateStored s out) := by
  have length : Local 0 (fun s : Bits => s.align.take 16) := align_local.bind (take_local 16)
  refine length.andThen fun length => (take_local 16).andThen fun check =>
    .ite (fun _ => ?_) fun _ => .error .corruptStream
  intro s r h
  obtain ⟨used, split, enough, again⟩ := copyStored_local length out s.bytes r h
  exact ⟨used, split, Nat.le_trans enough (Nat.add_le_add_left (Nat.zero_le s.count) _), again⟩

/-! ## Blocks of codes -/

theorem takeItem_local (literals distances : Code) : Local 1 (takeItem literals distances) := by
  have copy (symbol : Nat) : Local 0 (fun s : Bits => takeExtra lengthTable (symbol - 257) s >>= fun length =>
      distances.decode length.2 >>= fun code => takeExtra distanceTable code.1 code.2 >>= fun distance =>
        .ok (Item.copy length.1 distance.1, distance.2)) := by
    refine (takeExtra_local _ _).andThen fun length => ?_
    dsimp only
    refine ((decode_local distances).mono (Nat.zero_le 1)).andThen fun code => ?_
    exact (takeExtra_local distanceTable code).andThen fun distance => .give (Item.copy length distance)
  refine (decode_local literals).andThen fun symbol => ?_
  refine Local.ite (c := symbol < 256) (fun _ => .give _) fun _ => ?_
  exact Local.ite (c := symbol = 256) (fun _ => .give _) fun _ => copy symbol

/-- What a code does to the bytes that have been written, and whether it ends the block. -/
def Item.write (out : Array UInt8) : Item → Bool × Array UInt8
  | .byte b => (false, out.push b)
  | .stop => (true, out)
  | .copy length distance => (false, copyBack distance length out)

theorem Item.write_local (item : Item) (out : Array UInt8) : Local 0 (fun s : Bits =>
    (.ok ((item.write out).1, s, (item.write out).2) : Except Fault (Bool × Bits × Array UInt8))) :=
  .ok (g := fun s => ((item.write out).1, s, (item.write out).2)) (fun _ => rfl) (fun _ => Nat.le_refl _)
    (fun _ _ => rfl)

theorem inflateCodes_fueled (literals distances : Code) :
    Fueled (fun fuel (p : Bits × Array UInt8) => inflateCodes literals distances fuel p.1 p.2) := by
  refine Fueled.loop (fun p => takeItem literals distances p.1 >>= fun r =>
    .ok ((r.1.write p.2).1, r.2, (r.1.write p.2).2)) ?_ (fun _ => rfl) fun fuel s => ?_
  · refine .beside fun out => ?_
    dsimp only
    exact (takeItem_local literals distances).andThen fun item => item.write_local out
  · cases h : takeItem literals distances s.1 with
    | error f => simp only [inflateCodes, h]; rfl
    | ok r =>
      obtain ⟨item, s'⟩ := r
      simp only [inflateCodes, h]
      cases item with
      | byte | stop | copy => rfl

/-- What has been written stands beside the bytes that are still to be read. -/
theorem with_local (out : Array UInt8) : Local 0 (fun s : Bits => (.ok (s, out) : Except Fault (Bits × Array UInt8))) :=
  .ok (g := fun s : Bits => (s, out)) (fun _ => rfl) (fun _ => Nat.le_refl _) (fun _ _ => rfl)

/-- The fuel for the codes is given out before the codes are known. -/
theorem inflateBlock_local (out : Array UInt8) : Local 0 (fun s => inflateBlock s out) := by
  refine (take_local 2).andThen fun kind => ?_
  have codes (literals distances : Code) : Fueled fun fuel s => inflateCodes literals distances fuel s out :=
    .bind (with_local out) (inflateCodes_fueled literals distances)
  obtain _ | _ | _ | kind := kind
  · exact inflateStored_local out
  · exact .const _ fun literals => .const _ fun distances => (codes literals distances).spend
  · have brought : Fueled fun fuel s => takeCodes s >>= fun r =>
        inflateCodes r.1 r.2.1 fuel r.2.2 out :=
      .bind takeCodes_local (.pair fun literals => .pair fun distances => codes literals distances)
    exact brought.spend
  · exact .error .corruptStream

/-! ## The stream -/

theorem inflateBlocks_fueled : Fueled (fun fuel (p : Bits × Array UInt8) => inflateBlocks fuel p.1 p.2) := by
  refine Fueled.loop (fun p => p.1.bit >>= fun r => inflateBlock r.2 p.2 >>= fun p =>
    .ok (decide (r.1 = 1), p)) ?_ (fun _ => rfl) fun fuel p => ?_
  · refine .beside fun out => ?_
    dsimp only
    exact bit_local.andThen fun last => (inflateBlock_local out).bind (.give (decide (last = 1)))
  · rw [inflateBlocks, bind_assoc]
    refine congrArg _ (funext fun r => ?_)
    dsimp only
    rw [bind_assoc]
    refine congrArg _ (funext fun p => ?_)
    by_cases h : r.1 = 1
    · rw [if_pos h, decide_eq_true h]
      rfl
    · rw [if_neg h, decide_eq_false h]
      rfl

theorem inflate_local : Local 0 inflate := by
  have start : Local 0 (fun bs : Bytes => (.ok (⟨0, 0, bs⟩, #[]) : Except Fault (Bits × Array UInt8))) :=
    .ok (g := fun bs : Bytes => ((⟨0, 0, bs⟩, #[]) : Bits × Array UInt8)) (fun _ => rfl) (fun _ => Nat.le_refl _)
      (fun _ _ => rfl)
  have finish : Local 0 (fun p : Bits × Array UInt8 =>
      (.ok (p.2, p.1.align.bytes) : Except Fault (Array UInt8 × Bytes))) :=
    .ok (g := fun p : Bits × Array UInt8 => (p.2, p.1.align.bytes)) (fun _ => rfl) (fun _ => Nat.zero_le _)
      (fun _ _ => rfl)
  exact (Fueled.bind start inflateBlocks_fueled).spend.bind finish

end CloudProvider.Gzip
