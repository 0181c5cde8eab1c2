import CloudProvider.Tool.Capture

/-! # What is kept of a stream

What is kept after some bytes is computed from these bytes alone (`ofBytes`). A piece takes what is kept of the
bytes before it to what is kept of the bytes with it (`add_ofBytes`), so how a stream is cut into pieces makes no
difference. A stream is read to its end and no further, as the pieces show that its source still holds.
-/

namespace CloudProvider.Tool
open Text (Bytes)

namespace Captured

/-- What is to be kept of a stream. -/
def ofBytes (limit : Nat) (stream : Bytes) : Captured :=
  ⟨(stream.take limit).toArray, decide (limit < stream.length)⟩

theorem nothing_eq (limit : Nat) : nothing = ofBytes limit [] := by
  simp [nothing, ofBytes]

/-- There is room for what the bytes before have left of the limit, and none once they have reached it. -/
theorem add_ofBytes (limit : Nat) (before piece : Bytes) :
    (ofBytes limit before).add limit piece = ofBytes limit (before ++ piece) := by
  have room : limit - (before.take limit).length = limit - before.length := by
    rw [List.length_take]
    omega
  have kept : (before.take limit).toArray.appendList (piece.take (limit - before.length)) =
      ((before ++ piece).take limit).toArray := by
    rw [List.take_append, Array.appendList_eq_append]
    exact Array.toList_inj.1 (by simp)
  have more : (decide (limit < before.length) || decide (limit - before.length < piece.length)) =
      decide (limit < (before ++ piece).length) := by
    rw [← Bool.decide_or, List.length_append]
    exact decide_eq_decide.2 (by omega)
  simp only [add, ofBytes, List.size_toArray, room, kept, more]

/-- A stream that is cut into pieces is drained to its end, and what comes later is left where it is. -/
theorem drain_ofBytes (limit : Nat) (before : Bytes) {cuts : List Bytes} (filled : ∀ piece ∈ cuts, piece ≠ [])
    (later : List Bytes) :
    drain limit (ofBytes limit before) (cuts ++ [] :: later) = (ofBytes limit (before ++ cuts.flatten), later) := by
  induction cuts generalizing before with
  | nil => simp [drain]
  | cons piece cuts ih =>
    obtain ⟨first, rest⟩ := List.forall_mem_cons.1 filled
    obtain ⟨b, bs, rfl⟩ := List.exists_cons_of_ne_nil first
    rw [List.cons_append, drain, add_ofBytes, ih _ rest, List.flatten_cons, List.append_assoc]
    exact List.cons_ne_nil b bs

/-- Where a source has nothing left, its stream ends as well. -/
theorem read_eq_ofBytes (limit : Nat) {cuts : List Bytes} (filled : ∀ piece ∈ cuts, piece ≠ []) :
    read limit cuts = ofBytes limit cuts.flatten := by
  have ended : ∀ c : Captured, (drain limit c (cuts ++ [[]])).1 = (drain limit c cuts).1 := by
    induction cuts with
    | nil => exact fun c => rfl
    | cons piece cuts ih =>
      obtain ⟨first, rest⟩ := List.forall_mem_cons.1 filled
      obtain ⟨b, bs, rfl⟩ := List.exists_cons_of_ne_nil first
      exact fun c => ih rest _
  rw [read, ← ended, nothing_eq limit, drain_ofBytes limit [] filled, List.nil_append]

end Captured

/-! ## Pieces of a buffer's size -/

/-- The pieces of a stream are never empty and fit into the buffer. -/
def Cuts (stream : Bytes) (cuts : List Bytes) : Prop :=
  cuts.flatten = stream ∧ ∀ piece ∈ cuts, piece ≠ [] ∧ piece.length ≤ pieceSize

theorem pieces_cuts (stream : Bytes) : Cuts stream (pieces stream) := by
  fun_induction pieces stream with
  | case1 => exact ⟨rfl, List.forall_mem_nil _⟩
  | case2 b bs ih =>
    obtain ⟨whole, sized⟩ := ih
    refine ⟨?_, List.forall_mem_cons.2 ⟨⟨List.cons_ne_nil _ _, ?_⟩, sized⟩⟩
    · rw [List.flatten_cons, whole, List.cons_append, List.take_append_drop]
    · rw [List.length_cons, List.length_take, pieceSize]
      omega

/-- However a stream is cut into pieces, it is read to its end and no further; its first bytes are kept, as many as the
limit allows, and it counts as truncated if it has more. -/
theorem Captured.read_exact (limit : Nat) {stream : Bytes} {cuts : List Bytes} (cut : Cuts stream cuts)
    (later : List Bytes) :
    let c := read limit cuts
    nothing.drain limit (cuts ++ [] :: later) = (c, later) ∧
      c.bytes.toList = stream.take (min limit stream.length) ∧ (c.truncated = true ↔ limit < stream.length) ∧
      c = read limit (pieces stream) := by
  intro c
  obtain ⟨rfl, sized⟩ := cut
  have kept : ∀ {cuts' : List Bytes}, Cuts cuts.flatten cuts' → read limit cuts' = ofBytes limit cuts.flatten :=
    fun ⟨whole, sized⟩ => whole ▸ read_eq_ofBytes limit fun piece h => (sized piece h).1
  have whole : c = ofBytes limit cuts.flatten := kept ⟨rfl, sized⟩
  refine ⟨?_, ?_, ?_, whole.trans (kept (pieces_cuts _)).symm⟩
  · rw [whole, nothing_eq limit]
    exact drain_ofBytes limit [] (fun piece h => (sized piece h).1) later
  · rw [whole, ofBytes, ← List.take_eq_take_min]
  · rw [whole, ofBytes, decide_eq_true_iff]

/-- Three pieces, and a limit that is reached with the second of them. -/
theorem Captured.read_exact_at_cut :
    let cuts : List Bytes := [[48, 49, 50], [51], [52, 53]]
    Cuts [48, 49, 50, 51, 52, 53] cuts ∧ nothing.drain 4 (cuts ++ [[], [54]]) = (read 4 cuts, [[54]]) ∧
      (read 4 cuts).bytes.toList = [48, 49, 50, 51] ∧ (read 4 cuts).truncated = true := by
  intro cuts
  have cut : Cuts [48, 49, 50, 51, 52, 53] cuts := ⟨rfl, by decide⟩
  obtain ⟨drained, kept, truncated, -⟩ := read_exact 4 cut [[54]]
  exact ⟨cut, drained, kept, truncated.2 (by decide)⟩

end CloudProvider.Tool
