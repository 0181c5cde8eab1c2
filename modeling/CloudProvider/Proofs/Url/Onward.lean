import CloudProvider.Proofs.Url.Reference

/-! # References that lead on

A reference that begins with letters and a slash leads on from its base, whatever follows and whatever kind of
address the base is; so name and password of the address are those of the base. Where the path of the base is
not divided there is nothing to lead on from (`join_whole`).
-/

namespace CloudProvider.Url
open Url.Parser

/-- What counts of a text holds its front, if nothing in this is left out. -/
theorem relevant_front {s : String} {front rest : List Char} (hs : s.toList = front ++ rest)
    (filled : front ≠ []) (seen : ∀ c ∈ front, isEdge c = false) : ∃ rest', relevant s = front ++ rest' := by
  have kept {cs : List Char} (more : List Char) (hc : cs ≠ []) (seen : ∀ c ∈ cs, isEdge c = false) :
      (cs ++ more).dropWhile isEdge = cs ++ more := by
    obtain ⟨c, cs, rfl⟩ := List.exists_cons_of_ne_nil hc
    exact List.dropWhile_cons_of_neg (Bool.eq_false_iff.1 (seen c List.mem_cons_self))
  have reversed : ∃ back, (front ++ rest).reverse.dropWhile isEdge = back ++ front.reverse := by
    have frontKept := kept [] (mt List.reverse_eq_nil_iff.1 filled) fun c hc => seen c (List.mem_reverse.1 hc)
    rw [List.append_nil] at frontKept
    rw [List.reverse_append, List.dropWhile_append, frontKept]
    split
    · exact ⟨[], rfl⟩
    · exact ⟨_, rfl⟩
  obtain ⟨back, hb⟩ := reversed
  have unblanked : front.filter (fun c => c ≠ '\t' ∧ c ≠ '\n' ∧ c ≠ '\r') = front := by
    refine List.filter_eq_self.2 fun c hc => ?_
    have blank : isEdge '\t' = true ∧ isEdge '\n' = true ∧ isEdge '\r' = true := by decide
    have seen := seen c hc
    rw [decide_eq_true_eq]
    refine ⟨?_, ?_, ?_⟩ <;> rintro rfl
    · exact Bool.false_ne_true (seen.symm.trans blank.1)
    · exact Bool.false_ne_true (seen.symm.trans blank.2.1)
    · exact Bool.false_ne_true (seen.symm.trans blank.2.2)
  refine ⟨back.reverse.filter fun c => c ≠ '\t' ∧ c ≠ '\n' ∧ c ≠ '\r', ?_⟩
  rw [relevant, hs, kept rest filled seen, hb, List.reverse_append, List.reverse_reverse, List.filter_append, unblanked]

/-- It is the second character that makes a volume. -/
theorem startsWithVolume_of_second {c d : Char} (h : d ∉ [':', '|']) (cs : List Char) :
    startsWithVolume (c :: d :: cs) = false := by
  have neither : (d = ':' || d = '|') = false := by simpa using h
  simp only [startsWithVolume, List.take_succ_cons, List.take_zero, isVolume, neither, Bool.and_false, Bool.false_and]

theorem startsWithVolume_eq_false {c : Char} {cs : List Char} (letters : ∀ d ∈ c :: cs, d.isAlpha = true)
    (rest : List Char) : startsWithVolume (c :: cs ++ '/' :: rest) = false := by
  cases cs with
  | nil => exact startsWithVolume_of_second (by decide) rest
  | cons d cs =>
    have hd : d.isAlpha = true := letters d (List.mem_cons_of_mem _ List.mem_cons_self)
    exact startsWithVolume_of_second (not_mem_of_isAlpha hd (by decide)) _

/-- From a path that is not divided nothing leads on. -/
theorem join_whole {base : Url} {text : String} (hb : base.path = .whole text) {reference : String} {c : Char}
    {cs : List Char} (hr : relevant reference = c :: cs) (notHash : c ≠ '#') (noScheme : scheme? (c :: cs) = none) :
    base.join reference = .error .relativeToWhole := by
  rw [join, parseWith, hr, noScheme]
  dsimp only
  split
  · rename_i h
    exact absurd (List.cons.inj h).1 notHash
  · rfl
  · rename_i divided _
    cases hb.symm.trans divided

section
variable {base : Url} {reference : String} {c : Char} {cs rest : List Char}
variable (letters : ∀ d ∈ c :: cs, d.isAlpha = true) (hr : relevant reference = c :: cs ++ '/' :: rest)
include letters hr

/-- What begins with letters and a slash leads on from the last slash of its base. -/
theorem join_onward {list : List String} (hb : base.path = .segments list) : base.join reference =
    .ok (finish base (readPath base.kind (shorten base.kind (segmentsOf base.path)) (relevant reference))) := by
  have hc := letters c List.mem_cons_self
  have notHash : c ≠ '#' := fun h => not_mem_of_isAlpha hc (by decide) (List.mem_singleton.2 h)
  have kept : relevant reference = c :: (cs ++ '/' :: rest) := hr
  have joined := join_of_no_scheme hb kept notHash (scheme?_eq_none letters rest)
  have read := readRelative_onward base (not_mem_of_isAlpha hc (by decide)) (cs ++ '/' :: rest)
    fun _ => startsWithVolume_eq_false letters rest
  rw [kept]
  exact joined.trans read

/-- Name and password are those of the base. -/
theorem join_keeps_userinfo {url : Url} (joined : base.join reference = .ok url) :
    url.username = base.username ∧ url.password = base.password := by
  cases hb : base.path with
  | whole text =>
    have hc := letters c List.mem_cons_self
    have notHash : c ≠ '#' := fun h => not_mem_of_isAlpha hc (by decide) (List.mem_singleton.2 h)
    cases joined.symm.trans (join_whole hb hr notHash (scheme?_eq_none letters rest))
  | segments list =>
    rw [join_onward letters hr hb] at joined
    cases joined
    exact ⟨rfl, rfl⟩

end

end CloudProvider.Url
