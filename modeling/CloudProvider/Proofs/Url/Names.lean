import CloudProvider.Proofs.Url.Onward
import Mathlib.Data.String.Basic

/-! # References of names

Names are made of letters, digits and two marks. They are plain segments and are written as they are, and a
reference of names leads on from every address that is divided into segments, of whatever kind: its text is the
text of the base, without query and fragment, and after it the reference (`join_names`, `text_onward`).
-/

namespace CloudProvider.Url
open Url.Parser

/-! ## Names -/

def isNameChar (c : Char) : Bool := c.isAlphanum || c = '-' || c = '_'

/-- A text of letters, digits and the two marks; it may be empty. -/
def IsName (s : String) : Prop := ∀ c ∈ s.toList, isNameChar c = true

theorem isNameChar_range {c : Char} (h : isNameChar c = true) : 0x2D ≤ c.toNat ∧ c.toNat < 0x7B := by
  simp only [isNameChar, Char.isAlphanum, Bool.or_eq_true, decide_eq_true_eq] at h
  rcases h with ((alpha | digit) | rfl) | rfl
  · rcases Bool.or_eq_true_iff.1 alpha with upper | lower
    · have bounds : 65 ≤ c.toNat ∧ c.toNat ≤ 90 := of_decide_eq_true upper
      omega
    · obtain ⟨low, high⟩ := Bool.and_eq_true_iff.1 lower
      have bounds : 97 ≤ c.toNat ∧ c.toNat ≤ 122 := ⟨of_decide_eq_true low, of_decide_eq_true high⟩
      omega
  · have bounds : 48 ≤ c.toNat ∧ c.toNat ≤ 57 := Char.isDigit_iff_toNat.1 digit
    omega
  · decide
  · decide

theorem not_mem_of_isNameChar {c : Char} {cs : List Char} (h : isNameChar c = true)
    (others : cs.any isNameChar = false) : c ∉ cs :=
  fun hc => List.any_eq_false.1 others c hc h

theorem isNameChar_not_edge {c : Char} (h : isNameChar c = true) : isEdge c = false := by
  have range := isNameChar_range h
  exact decide_eq_false (by omega)

/-- A name is held by a path as it is. -/
theorem percentEncodeChar_isNameChar {c : Char} (h : isNameChar c = true) :
    percentEncodeChar EncodeSet.path c = [c] := by
  have range := isNameChar_range h
  have control : EncodeSet.control c = false := by
    simp only [EncodeSet.control, Bool.or_eq_false_iff, decide_eq_false_iff_not]
    omega
  have fragment : c ∉ [' ', '"', '<', '>', '\x60'] := not_mem_of_isNameChar h (by decide)
  have path : c ∉ ['#', '?', '\x7b', '\x7d'] := not_mem_of_isNameChar h (by decide)
  have free : EncodeSet.path c = false := by
    simp only [EncodeSet.path, EncodeSet.fragment, control, decide_eq_false fragment, decide_eq_false path,
      Bool.or_false]
  have ascii : c.toNat < 0x80 := by omega
  rw [percentEncodeChar, free, decide_eq_true ascii, Bool.not_false, Bool.and_self, if_pos rfl]

namespace IsName
variable {s : String} (h : IsName s)
include h

theorem not_mem {c : Char} (other : isNameChar c = false) : c ∉ s.toList :=
  fun hc => Bool.false_ne_true (other.symm.trans (h c hc))

theorem written_eq : written s = s := by
  have kept : percentEncode EncodeSet.path s.toList = s.toList := by
    rw [percentEncode, List.flatMap_def, List.map_congr_left fun c hc => percentEncodeChar_isNameChar (h c hc),
      ← List.flatMap_def, List.flatMap_singleton']
  rw [written, kept, String.ofList_toList]

theorem unescaped : percentDecode (Text.Utf8.encode s) = Text.Utf8.encode s := by
  have bytes (cs : List Char) (names : ∀ c ∈ cs, isNameChar c = true) :
      percentDecode (cs.flatMap String.utf8EncodeChar) = cs.flatMap String.utf8EncodeChar := by
    induction cs with
    | nil => rfl
    | cons c cs ih =>
      obtain ⟨hc, later⟩ := List.forall_mem_cons.1 names
      have range := isNameChar_range hc
      have noSign : c.toNat.toUInt8 ≠ 0x25 := by
        intro sign
        have code := congrArg UInt8.toNat sign
        simp only [Nat.toUInt8, UInt8.toNat_ofNat'] at code
        have small : c.toNat % 2 ^ 8 = c.toNat := Nat.mod_eq_of_lt (by omega)
        rw [small] at code
        have percent : (0x25 : UInt8).toNat = 37 := rfl
        omega
      rw [List.flatMap_cons, utf8EncodeChar_ascii (by omega), List.singleton_append,
        percentDecode_cons (not_startsEscape noSign _), ih later]
  exact bytes s.toList h

theorem plain : PlainSegment s where
  undivided _ hc := not_mem_of_isNameChar (h _ hc) (by decide)
  unblanked _ hc := not_mem_of_isNameChar (h _ hc) (by decide)
  unescaped := h.unescaped
  stays dot := h.not_mem (c := '.') (by decide) (dot ▸ List.mem_singleton_self '.')
  descends dots := h.not_mem (c := '.') (by decide) (dots ▸ List.mem_cons_self)

theorem not_volume : isVolume s.toList = false := by
  have noColon : ':' ∉ s.toList := h.not_mem (by decide)
  have noBar : '|' ∉ s.toList := h.not_mem (by decide)
  unfold isVolume
  split
  · rename_i c d hs
    have colon : d ≠ ':' := fun hd => noColon (hs ▸ hd ▸ by simp)
    have bar : d ≠ '|' := fun hd => noBar (hs ▸ hd ▸ by simp)
    simp [colon, bar]
  · rfl

end IsName

/-! ## Addresses that references lead on from -/

/-- Without what a path is followed by. -/
def bare (u : Url) : Url := { u with query := none, fragment := none }

/-- The path is that of `front` with a slash at its end, and has no empty front if it is that of a file. -/
structure Grounded (u : Url) (front : List String) : Prop where
  path : u.path = .segments (front ++ [""])
  file : u.kind = .file → front.head? ≠ some ""

theorem withoutEmptyFront_eq {kind : SchemeKind} {segments : Segments}
    (h : kind = .file → segments.head? ≠ some []) : withoutEmptyFront kind segments = segments := by
  unfold withoutEmptyFront
  split
  · refine if_neg fun file => h file rfl
  · rfl

/-- Query and fragment are no matter here. -/
theorem Grounded.of_bare {u u' : Url} {front : List String} (h : u.Grounded front) (same : u'.bare = u.bare) :
    u'.Grounded front where
  path := (congrArg Url.path same).trans h.path
  file isFile := h.file ((congrArg Url.kind same).symm.trans isFile)

/-- The segments do not begin with an empty one, unless there is no other. -/
def Rooted (list : List String) : Prop := list.head? = some "" → list = [""]

theorem withoutEmptyFront_rooted (segments : Segments) :
    Rooted ((withoutEmptyFront .file segments).map .ofList) := by
  induction segments with
  | nil => exact fun h => nomatch h
  | cons s segments ih =>
    rcases s with - | ⟨c, s⟩
    · cases segments with
      | nil => exact fun _ => rfl
      | cons t segments => exact ih
    · intro h
      have empty := congrArg (Option.map String.toList) h
      simp [withoutEmptyFront] at empty

theorem readPath_rooted {done : Segments} {cs : List Char} {list : List String}
    (h : (readPath .file done cs).1 = .segments list) : Rooted list := by
  cases h
  exact withoutEmptyFront_rooted _

/-- The path of a file is rooted. -/
theorem readPathStart_rooted {cs : List Char} {list : List String} (h : (readPathStart .file cs).1 = .segments list) :
    Rooted list := by
  cases cs with
  | nil =>
    cases h
    exact fun _ => rfl
  | cons c cs =>
    unfold readPathStart at h
    split at h
    · cases ‹c :: cs = []›
    · split at h
      · exact readPath_rooted h
      · split at h
        · rename_i other
          exact absurd rfl other.2
        · exact readPath_rooted h

theorem Rooted.ended {list front : List String} (h : Rooted list) (he : Url.ended list = front ++ [""]) :
    front.head? ≠ some "" := by
  intro first
  obtain ⟨rest, rfl⟩ := List.head?_eq_some_iff.1 first
  unfold Url.ended at he
  split at he
  · rw [he] at h
    exact absurd (h rfl) (by simp)
  · rename_i last
    rw [List.append_cancel_right he] at h last
    rw [h rfl] at last
    exact last rfl

/-- Where the path of a target is divided, it is grounded once it has a slash at its end. -/
theorem parse_grounded {s : String} {u : Url} (h : Url.parse s = .ok u) {list : List String}
    (divided : u.path = .segments list) : ∃ front, u.withTrailingSlash.Grounded front := by
  obtain ⟨front, he⟩ := ended_eq_append list
  rw [withTrailingSlash_eq divided, he]
  refine ⟨front, rfl, fun file => ?_⟩
  obtain ⟨scheme, rest, -, read⟩ := parse_ok h
  change u.kind = .file at file
  rw [Url.kind, readWithScheme_scheme read] at file
  obtain ⟨rest, path, -⟩ := readWithScheme_file_ok file read
  exact (readPathStart_rooted (path.symm.trans divided)).ended he

/-- A text without colons has no scheme. -/
theorem scheme?_of_not_mem {cs : List Char} (h : ':' ∉ cs) : scheme? cs = none := by
  unfold scheme?
  split
  · split
    · dsimp only
      split
      · rename_i past
        have there : ':' ∈ List.dropWhile _ _ := past ▸ List.mem_cons_self
        exact absurd ((List.dropWhile_sublist _).mem there) h
      · rfl
    · rfl
  · rfl

/-- What leads on from a grounded path is put in the place of its last, empty, segment. -/
theorem Grounded.shorten_eq {base : Url} {front : List String} (grounded : base.Grounded front) :
    shorten base.kind (segmentsOf base.path) = (front.map String.toList).reverse := by
  rw [grounded.path, segmentsOf, List.map_append, List.reverse_append]
  cases (front.map String.toList).reverse with
  | nil => simp [shorten, isVolume]
  | cons s rest => rfl

section
variable {first : String} {segments : List String} {reference : String}
variable (filled : first ≠ "") (names : ∀ s ∈ first :: segments, IsName s)
variable (hr : reference.toList = slashed (first :: segments))
include names hr

theorem mem_reference {c : Char} (h : c ∈ reference.toList) : c = '/' ∨ isNameChar c = true := by
  rw [hr] at h
  exact (mem_slashed h).imp_right fun ⟨s, hs, hc⟩ => names s hs c hc

theorem relevant_reference : relevant reference = reference.toList := by
  have seen {c : Char} (h : c ∈ reference.toList) : isEdge c = false := by
    rcases mem_reference names hr h with rfl | name
    · decide
    · exact isNameChar_not_edge name
  refine relevant_eq (fun c hc => seen (List.mem_of_head? hc)) (fun c hc => seen (List.mem_of_getLast? hc)) ?_
  intro c hc
  rcases mem_reference names hr hc with rfl | name
  · decide
  · exact not_mem_of_isNameChar name (by decide)

theorem unmarked_reference {d : Char} (other : isNameChar d = false) (noSlash : d ≠ '/') : d ∉ reference.toList := by
  intro hd
  rcases mem_reference names hr hd with slash | name
  · exact noSlash slash
  · exact Bool.false_ne_true (other.symm.trans name)

include filled

theorem reference_cons : ∃ c cs, reference.toList = c :: cs ∧ isNameChar c = true := by
  obtain ⟨c, cs, hf⟩ := List.exists_cons_of_ne_nil (mt String.toList_eq_nil_iff.1 filled)
  have name : isNameChar c = true := names first List.mem_cons_self c (hf ▸ List.mem_cons_self)
  cases segments with
  | nil =>
    have alone : slashed [first] = first.toList := by simp [slashed]
    exact ⟨c, cs, by rw [hr, alone, hf], name⟩
  | cons s segments =>
    refine ⟨c, cs ++ '/' :: slashed (s :: segments), ?_, name⟩
    rw [hr, slashed_cons_cons, hf]
    rfl

/-- Names are read as the segments that they are. -/
theorem readPath_names {kind : SchemeKind} {front : List String} (file : kind = .file → front.head? ≠ some "") :
    readPath kind (front.map String.toList).reverse reference.toList = (.segments (front ++ first :: segments), []) := by
  have whole (_ : kind = .file) : ∀ s ∈ first :: segments, isVolume (written s).toList = false := by
    intro s hs
    rw [(names s hs).written_eq]
    exact (names s hs).not_volume
  have same : (first :: segments).map (String.toList ∘ written) = (first :: segments).map String.toList :=
    List.map_congr_left fun s hs => congrArg String.toList (names s hs).written_eq
  have frontFilled : kind = .file →
      (front.map String.toList ++ (first :: segments).map String.toList).head? ≠ some [] := by
    intro isFile
    have inFront := file isFile
    cases front with
    | nil => simpa using filled
    | cons s front => simpa using inFront
  have texts (list : List String) : (list.map String.toList).map String.ofList = list := by
    simp [Function.comp_def]
  rw [hr, readPath, pathFrom_segments first whole fun s hs => (names s hs).plain]
  dsimp only
  rw [same, List.reverse_append, List.reverse_reverse, List.reverse_reverse, withoutEmptyFront_eq frontFilled,
    ← List.map_append, texts]

/-- Names lead on from their base by themselves. -/
theorem join_names {base : Url} {front : List String} (grounded : base.Grounded front) :
    base.join reference = .ok { base.bare with path := .segments (front ++ first :: segments) } := by
  obtain ⟨c, cs, hc, name⟩ := reference_cons filled names hr
  have inside : c ∉ ['/', '\\', '?', '#'] := not_mem_of_isNameChar name (by decide)
  have notHash : c ≠ '#' := fun h => inside (by simp [h])
  have colon : ':' ∉ c :: cs := hc ▸ unmarked_reference names hr (by decide) (by decide)
  have bar : '|' ∉ c :: cs := hc ▸ unmarked_reference names hr (by decide) (by decide)
  have noVolume : startsWithVolume (c :: cs) = false := by
    cases cs with
    | nil => rfl
    | cons d cs =>
      refine startsWithVolume_of_second ?_ cs
      rintro hd
      simp only [List.mem_cons, List.not_mem_nil, or_false] at hd
      rcases hd with rfl | rfl
      · exact colon (by simp)
      · exact bar (by simp)
  have joined := join_of_no_scheme grounded.path ((relevant_reference names hr).trans hc) notHash
    (scheme?_of_not_mem colon)
  have onward := readRelative_onward base inside _ fun _ => noVolume
  have path := readPath_names filled names hr grounded.file
  rw [hc] at path
  rw [joined, onward, grounded.shorten_eq, path]
  rfl

end

/-! ## Their text -/

theorem cons_slashed (s : String) (segments : List String) :
    '/' :: slashed (s :: segments) = (s :: segments).flatMap fun s => '/' :: s.toList := by
  induction segments generalizing s with
  | nil => simp [slashed]
  | cons s' segments ih =>
    rw [slashed_cons_cons, ih, List.flatMap_cons]
    rfl

theorem Path.toList_text (list : List String) :
    (Path.segments list).text.toList = list.flatMap fun s => '/' :: s.toList := by
  have slash (s : String) : ("/" ++ s).toList = '/' :: s.toList := String.toList_append
  rw [Path.text, String.join_eq, String.toList_ofList, List.map_map, List.flatMap_def]
  exact congrArg List.flatten (List.map_congr_left fun s _ => slash s)

/-- What leads on from a path is written after it. -/
theorem text_onward {base : Url} {front : List String} (hb : base.path = .segments (front ++ [""]))
    {first : String} {segments : List String} {reference : String} (filled : first ≠ "")
    (hr : reference.toList = slashed (first :: segments)) :
    ({ base.bare with path := .segments (front ++ first :: segments) } : Url).text = base.bare.text ++ reference := by
  have path : (Path.segments (front ++ first :: segments)).text = (Path.segments (front ++ [""])).text ++ reference := by
    apply String.toList_inj.1
    rw [String.toList_append, Path.toList_text, Path.toList_text, List.flatMap_append, List.flatMap_append, hr,
      ← cons_slashed, List.append_assoc]
    rfl
  have guarded : ({ base.bare with path := .segments (front ++ first :: segments) } : Url).pathGuard =
      base.bare.pathGuard := by
    unfold pathGuard bare
    rw [hb]
    dsimp only
    cases base.host with
    | some host => rfl
    | none =>
      cases front with
      | nil => simp [filled]
      | cons s front => cases front <;> by_cases hs : s = "" <;> simp [hs]
  have authority : ({ base.bare with path := .segments (front ++ first :: segments) } : Url).authorityText =
      base.bare.authorityText := rfl
  rw [Url.text, Url.text, guarded, authority]
  simp only [bare, hb, path, String.append_empty, String.append_assoc]

end CloudProvider.Url
