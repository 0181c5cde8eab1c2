import CloudProvider.Proofs.Url.Authority
import CloudProvider.Proofs.Url.Percent

/-! # References of plain segments

A reference whose segments are plain leads on from its base by these segments, one for one
(`join_segments`). A segment is plain if nothing in it divides or ends a path, or is left out of an address,
or is a step; what is written of it is read as the segment again.
-/

namespace CloudProvider.Url
open Url.Parser

/-- What a check of each character says of all. There are finitely many characters, so without it all of them
would be tried, and not only those of the list. -/
theorem forall_of_all {p : Char → Prop} [DecidablePred p] {cs : List Char}
    (h : (cs.all fun c => decide (p c)) = true) : ∀ c ∈ cs, p c :=
  fun c hc => of_decide_eq_true (List.all_eq_true.1 h c hc)

/-- A text that a reference holds as one segment, and that is read from it. -/
structure PlainSegment (s : String) : Prop where
  undivided : ∀ c ∈ s.toList, c ∉ ['/', '\\', '?', '#']
  unblanked : ∀ c ∈ s.toList, c ∉ ['\t', '\n', '\r']
  unescaped : percentDecode (Text.Utf8.encode s) = Text.Utf8.encode s
  stays : s ≠ "."
  descends : s ≠ ".."

/-- A segment as a path holds it. -/
def written (s : String) : String := .ofList (percentEncode EncodeSet.path s.toList)

theorem PlainSegment.decode_written {s : String} (h : PlainSegment s) :
    percentDecode (Text.Utf8.encode (written s)) = Text.Utf8.encode s :=
  percentDecode_percentEncode EncodeSet.path h.unescaped

/-! ## Steps -/

/-- Only a capital is changed when it is lowered. -/
theorem toLower_cases (c : Char) : c.toLower = c ∨ 97 ≤ c.toLower.toNat ∧ c.toNat + 32 = c.toLower.toNat := by
  unfold Char.toLower
  split
  · rename_i h
    right
    have low : 65 ≤ c.val.toNat := h.1
    have high : c.val.toNat ≤ 90 := h.2
    have sum : (c.val + ('a'.val - 'A'.val)).toNat = c.val.toNat + 32 := by
      rw [UInt32.toNat_add]
      have step : ('a'.val - 'A'.val).toNat = 32 := by decide
      omega
    simp only [Char.toNat]
    omega
  · exact .inl rfl

theorem eq_of_toLower {c d : Char} (small : d.toNat < 97) (h : c.toLower = d) : c = d := by
  rcases toLower_cases c with same | ⟨high, -⟩
  · exact same.symm.trans h
  · rw [h] at high
    omega

theorem eq_of_toLower_e {c : Char} (h : c.toLower = 'e') : c = 'e' ∨ c = 'E' := by
  rcases toLower_cases c with same | ⟨-, shifted⟩
  · exact .inl (same.symm.trans h)
  · right
    rw [h] at shifted
    have code : c.toNat = 'E'.toNat := by
      have e : 'e'.toNat = 101 := rfl
      have capital : 'E'.toNat = 69 := rfl
      omega
    exact Char.toNat_inj.1 code

theorem map_toLower_cons {cs w : List Char} {d : Char} (h : cs.map Char.toLower = d :: w) :
    ∃ c cs', cs = c :: cs' ∧ c.toLower = d ∧ cs'.map Char.toLower = w := by
  cases cs with
  | nil => cases h
  | cons c cs' =>
    obtain ⟨hc, hcs⟩ := List.cons.inj h
    exact ⟨c, cs', rfl, hc, hcs⟩

/-- Dots, and the lowered texts that are read as them. -/
inductive SpellsDots : List Char → List Char → Prop
  | nil : SpellsDots [] []
  | plain {dots w : List Char} (rest : SpellsDots dots w) : SpellsDots ('.' :: dots) ('.' :: w)
  | escaped {dots w : List Char} (rest : SpellsDots dots w) : SpellsDots ('.' :: dots) ('%' :: '2' :: 'e' :: w)

/-- However a dot is spelled, it is read as a dot. -/
theorem SpellsDots.percentDecode_eq {dots w cs : List Char} (h : SpellsDots dots w)
    (lowered : cs.map Char.toLower = w) :
    percentDecode (cs.flatMap String.utf8EncodeChar) = dots.flatMap String.utf8EncodeChar := by
  induction h generalizing cs with
  | nil =>
    rw [List.map_eq_nil_iff.1 lowered]
    rfl
  | plain rest ih =>
    obtain ⟨c, cs, rfl, hc, later⟩ := map_toLower_cons lowered
    have dot : c = '.' := eq_of_toLower (by decide) hc
    subst dot
    show percentDecode (0x2E :: cs.flatMap String.utf8EncodeChar) = _
    rw [percentDecode_cons (not_startsEscape (by decide) _), ih later]
    rfl
  | escaped rest ih =>
    obtain ⟨c, cs, rfl, hc, afterSign⟩ := map_toLower_cons lowered
    obtain ⟨d, cs, rfl, hd, afterTwo⟩ := map_toLower_cons afterSign
    obtain ⟨e, cs, rfl, he, later⟩ := map_toLower_cons afterTwo
    have sign : c = '%' := eq_of_toLower (by decide) hc
    have two : d = '2' := eq_of_toLower (by decide) hd
    subst sign two
    have dot (b : UInt8) (hb : hexByte? b = some 0xE) :
        percentDecode (0x25 :: 0x32 :: b :: cs.flatMap String.utf8EncodeChar) =
          0x2E :: percentDecode (cs.flatMap String.utf8EncodeChar) := by
      rw [percentDecode, hb]
      rfl
    rcases eq_of_toLower_e he with rfl | rfl
    · exact (dot 0x65 (by decide)).trans (congrArg _ (ih later))
    · exact (dot 0x45 (by decide)).trans (congrArg _ (ih later))

theorem lowered_eq {cs : List Char} {w : String} (h : String.ofList (cs.map Char.toLower) = w) :
    cs.map Char.toLower = w.toList := by
  rw [← h, String.toList_ofList]

/-- A step up is read as two dots. -/
theorem percentDecode_of_isUp {cs : List Char} (h : isUp cs = true) :
    percentDecode (cs.flatMap String.utf8EncodeChar) = Text.Utf8.encode ".." := by
  simp only [isUp, decide_eq_true_eq, Bool.or_eq_true] at h
  rcases h with ((h | h) | h) | h
  · exact (SpellsDots.plain (.plain .nil)).percentDecode_eq (lowered_eq h)
  · exact (SpellsDots.plain (.escaped .nil)).percentDecode_eq (lowered_eq h)
  · exact (SpellsDots.escaped (.plain .nil)).percentDecode_eq (lowered_eq h)
  · exact (SpellsDots.escaped (.escaped .nil)).percentDecode_eq (lowered_eq h)

/-- A step on the spot is read as one dot. -/
theorem percentDecode_of_isHere {cs : List Char} (h : isHere cs = true) :
    percentDecode (cs.flatMap String.utf8EncodeChar) = Text.Utf8.encode "." := by
  simp only [isHere, decide_eq_true_eq, Bool.or_eq_true] at h
  rcases h with h | h
  · exact (SpellsDots.plain .nil).percentDecode_eq (lowered_eq h)
  · exact (SpellsDots.escaped .nil).percentDecode_eq (lowered_eq h)

section
variable {s : String} (h : PlainSegment s)
include h

theorem PlainSegment.isUp_eq_false : isUp (percentEncode EncodeSet.path s.toList) = false := by
  refine Bool.eq_false_iff.2 fun up => h.descends (encode_injective ?_)
  rw [← h.decode_written, written, encode_ofList, percentDecode_of_isUp up]

theorem PlainSegment.isHere_eq_false : isHere (percentEncode EncodeSet.path s.toList) = false := by
  refine Bool.eq_false_iff.2 fun here => h.stays (encode_injective ?_)
  rw [← h.decode_written, written, encode_ofList, percentDecode_of_isHere here]

end

/-! ## Paths -/

/-- Texts with slashes between them. -/
def slashed (segments : List String) : List Char := ['/'].intercalate (segments.map String.toList)

theorem slashed_cons_cons (s s' : String) (segments : List String) :
    slashed (s :: s' :: segments) = s.toList ++ '/' :: slashed (s' :: segments) := by
  rw [slashed, List.map_cons, List.map_cons, List.intercalate_cons_cons, List.append_assoc]
  rfl

section
variable {kind : SchemeKind}

/-- A segment that is no step is put on the path, if it does not stand for a volume. -/
theorem push_segment {segment : List Char} (whole : kind = .file → isVolume segment = false)
    (up : isUp segment = false) (here : isHere segment = false) (done : Segments) (last : Bool) :
    push kind done segment last = segment :: done := by
  unfold push
  rw [up, here, if_neg Bool.false_ne_true, if_neg Bool.false_ne_true]
  split
  · refine if_neg fun volume => ?_
    rw [whole volume.1] at volume
    exact Bool.false_ne_true volume.2.2
  · rfl

theorem push_plain (web : kind ≠ .file) {segment : List Char} (up : isUp segment = false)
    (here : isHere segment = false) (done : Segments) (last : Bool) :
    push kind done segment last = segment :: done :=
  push_segment (fun file => absurd file web) up here done last

theorem pathFrom_segment {cs : List Char} (h : ∀ c ∈ cs, c ∉ ['/', '\\', '?', '#']) (done : Segments)
    (current rest : List Char) : pathFrom kind done current (cs ++ rest) =
      pathFrom kind done ((percentEncode EncodeSet.path cs).reverse ++ current) rest := by
  induction cs generalizing current with
  | nil => rfl
  | cons c cs ih =>
    obtain ⟨hc, hcs⟩ := List.forall_mem_cons.1 h
    simp only [List.mem_cons, List.not_mem_nil, or_false, not_or] at hc
    obtain ⟨slash, backslash, mark, hash⟩ := hc
    have whole : isSlash kind c = false := by simp [isSlash, slash, backslash]
    have goesOn : isTail c = false := by simp [isTail, mark, hash]
    rw [List.cons_append, pathFrom, whole, goesOn, if_neg Bool.false_ne_true, if_neg Bool.false_ne_true, ih hcs,
      percentEncode, percentEncode, List.flatMap_cons, List.reverse_append, List.append_assoc]

/-- Plain segments are read one for one, where none of them stands for a volume. -/
theorem pathFrom_segments (s : String) {segments : List String}
    (whole : kind = .file → ∀ t ∈ s :: segments, isVolume (written t).toList = false)
    (plain : ∀ t ∈ s :: segments, PlainSegment t) (done : Segments) :
    pathFrom kind done [] (slashed (s :: segments)) =
      (((s :: segments).map (String.toList ∘ written)).reverse ++ done, []) := by
  have read {t : String} (ht : PlainSegment t) (whole : kind = .file → isVolume (written t).toList = false)
      (done : Segments) (last : Bool) :
      push kind done ((percentEncode EncodeSet.path t.toList).reverse ++ []).reverse last =
        (written t).toList :: done := by
    rw [written, String.toList_ofList] at whole ⊢
    rw [List.append_nil, List.reverse_reverse]
    exact push_segment whole ht.isUp_eq_false ht.isHere_eq_false done last
  induction segments generalizing s done with
  | nil =>
    have hs := plain s (List.mem_singleton_self s)
    have alone : slashed [s] = s.toList ++ [] := by simp [slashed]
    rw [alone, pathFrom_segment hs.undivided, pathFrom, read hs fun file => whole file s (List.mem_singleton_self s)]
    rfl
  | cons s' segments ih =>
    obtain ⟨hs, later⟩ := List.forall_mem_cons.1 plain
    have slash : isSlash kind '/' = true := by simp [isSlash]
    rw [slashed_cons_cons, pathFrom_segment hs.undivided, pathFrom, if_pos slash,
      read hs fun file => whole file s List.mem_cons_self,
      ih s' (fun file t ht => whole file t (List.mem_cons_of_mem _ ht)) later]
    simp

theorem pathFrom_slashed (web : kind ≠ .file) (s : String) {segments : List String}
    (plain : ∀ t ∈ s :: segments, PlainSegment t) (done : Segments) :
    pathFrom kind done [] (slashed (s :: segments)) =
      (((s :: segments).map (String.toList ∘ written)).reverse ++ done, []) :=
  pathFrom_segments s (fun file => absurd file web) plain done

end

/-! ## References -/

theorem mem_slashed {c : Char} {segments : List String} (h : c ∈ slashed segments) :
    c = '/' ∨ ∃ s ∈ segments, c ∈ s.toList := by
  induction segments with
  | nil => cases h
  | cons s segments ih =>
    cases segments with
    | nil => exact .inr ⟨s, List.mem_singleton_self s, by simpa [slashed] using h⟩
    | cons s' segments =>
      rw [slashed_cons_cons] at h
      rcases List.mem_append.1 h with h | h
      · exact .inr ⟨s, List.mem_cons_self, h⟩
      rcases List.mem_cons.1 h with h | h
      · exact .inl h
      · exact (ih h).imp_right fun ⟨t, ht, hc⟩ => ⟨t, List.mem_cons_of_mem _ ht, hc⟩

theorem getLast?_append_cons (cs : List Char) (d : Char) (rest : List Char) :
    (cs ++ d :: rest).getLast? = (d :: rest).getLast? := by
  rw [List.getLast?_append, List.getLast?_cons]
  rfl

/-- Of a text without blanks at its ends and inside nothing is left out. -/
theorem relevant_eq {s : String} (front : ∀ c, s.toList.head? = some c → isEdge c = false)
    (back : ∀ c, s.toList.getLast? = some c → isEdge c = false)
    (unblanked : ∀ c ∈ s.toList, c ∉ ['\t', '\n', '\r']) : relevant s = s.toList := by
  have keep {cs : List Char} (h : ∀ c, cs.head? = some c → isEdge c = false) : cs.dropWhile isEdge = cs := by
    cases cs with
    | nil => rfl
    | cons c cs => exact List.dropWhile_cons_of_neg (Bool.eq_false_iff.1 (h c rfl))
  have reversed : s.toList.reverse.dropWhile isEdge = s.toList.reverse :=
    keep fun c hc => back c (List.head?_reverse ▸ hc)
  rw [relevant, keep front, reversed, List.reverse_reverse, List.filter_eq_self]
  intro c hc
  have unblanked := unblanked c hc
  simp only [List.mem_cons, List.not_mem_nil, or_false, not_or] at unblanked
  simpa using unblanked

theorem isAlpha_not_edge {c : Char} (h : c.isAlpha = true) : isEdge c = false := by
  have letter : c.isUpper = true ∨ c.isLower = true := (Bool.or_eq_true ..).mp h
  refine decide_eq_false ?_
  rcases letter with upper | lower
  · have : 65 ≤ c.toNat := (of_decide_eq_true upper).1
    omega
  · have : 97 ≤ c.toNat := of_decide_eq_true ((Bool.and_eq_true ..).mp lower).1
    omega

theorem not_mem_of_isAlpha {c : Char} {cs : List Char} (h : c.isAlpha = true)
    (others : cs.any Char.isAlpha = false) : c ∉ cs := by
  intro hc
  exact List.any_eq_false.1 others c hc h

/-- A slash before any colon: there is no scheme. -/
theorem scheme?_eq_none {c : Char} {cs : List Char} (letters : ∀ d ∈ c :: cs, d.isAlpha = true)
    (rest : List Char) : scheme? (c :: cs ++ '/' :: rest) = none := by
  let isPart (d : Char) : Bool := d.isAlphanum || d = '+' || d = '-' || d = '.'
  have past : (c :: cs ++ '/' :: rest).dropWhile isPart = '/' :: rest := by
    rw [List.dropWhile_append_of_pos fun d hd => by simp [isPart, Char.isAlphanum, letters d hd]]
    rfl
  rw [List.cons_append] at past ⊢
  rw [scheme?, if_pos (letters c List.mem_cons_self)]
  dsimp only
  rw [past]
  rfl

/-- What begins neither with a mark nor with a volume leads on from the last slash of its base. -/
theorem readRelative_onward (base : Url) {c : Char} (inside : c ∉ ['/', '\\', '?', '#']) (cs : List Char)
    (whole : base.kind = .file → startsWithVolume (c :: cs) = false) : readRelative base (c :: cs) =
      .ok (finish base (readPath base.kind (shorten base.kind (segmentsOf base.path)) (c :: cs))) := by
  simp only [List.mem_cons, List.not_mem_nil, or_false, not_or] at inside
  obtain ⟨slash, backslash, mark, hash⟩ := inside
  unfold readRelative
  split
  · rename_i h
    cases h
  · rename_i h
    exact absurd (List.cons.inj h).1 mark
  · rename_i h
    exact absurd (List.cons.inj h).1 hash
  · rename_i h
    cases h
    rw [if_neg (by simp [slash, backslash]), if_neg]
    rintro ⟨file, volume⟩
    rw [whole file] at volume
    exact Bool.false_ne_true volume

theorem readRelative_segment {base : Url} (web : base.kind = .web) {c : Char} (hc : c.isAlpha = true)
    (cs : List Char) : readRelative base (c :: cs) =
      .ok (finish base (readPath .web (shorten .web (segmentsOf base.path)) (c :: cs))) := by
  have onward := readRelative_onward base (not_mem_of_isAlpha hc (by decide)) cs fun file => nomatch file.symm.trans web
  rwa [web] at onward

theorem join_of_no_scheme {base : Url} {list : List String} (hb : base.path = .segments list) {s : String}
    {c : Char} {cs : List Char} (hs : relevant s = c :: cs) (notHash : c ≠ '#') (noScheme : scheme? (c :: cs) = none) :
    base.join s = readRelative base (c :: cs) := by
  rw [join, parseWith, hs, noScheme]
  dsimp only
  split
  · rename_i h
    exact absurd (List.cons.inj h).1 notHash
  · rename_i undivided _
    cases hb.symm.trans undivided
  · rfl

/-- A reference whose first segment is of letters leads on from the last slash of its base. -/
theorem join_lettered {base : Url} (web : base.kind = .web) {front : List String}
    (hb : base.path = .segments (front ++ [""])) {c : Char} {cs rest : List Char}
    (letters : ∀ d ∈ c :: cs, d.isAlpha = true) (unblanked : ∀ d ∈ rest, d ∉ ['\t', '\n', '\r'])
    {reference : String} (hr : reference.toList = c :: cs ++ '/' :: rest)
    (edge : ∀ d, rest.getLast? = some d → isEdge d = false) :
    base.join reference = .ok (finish base (readPath .web (front.map String.toList).reverse reference.toList)) := by
  have hc := letters c List.mem_cons_self
  have all : relevant reference = reference.toList := by
    refine relevant_eq ?_ ?_ ?_
    · rintro d hd
      rw [hr] at hd
      cases hd
      exact isAlpha_not_edge hc
    · intro d hd
      rw [hr, List.getLast?_append, List.getLast?_cons] at hd
      cases last : rest.getLast? with
      | none =>
        rw [last] at hd
        cases hd
        decide
      | some e =>
        rw [last] at hd
        cases hd
        exact edge _ last
    · intro d hd
      rw [hr] at hd
      rcases List.mem_append.1 hd with hd | hd
      · exact not_mem_of_isAlpha (letters d hd) (by decide)
      rcases List.mem_cons.1 hd with rfl | hd
      · decide
      · exact unblanked d hd
  have shortened : shorten .web (segmentsOf base.path) = (front.map String.toList).reverse := by
    rw [hb, segmentsOf, List.map_append, List.reverse_append]
    cases (front.map String.toList).reverse <;> rfl
  have notHash : c ≠ '#' := fun h => not_mem_of_isAlpha hc (by decide) (List.mem_singleton.2 h)
  have kept : relevant reference = c :: (cs ++ '/' :: rest) := all.trans hr
  have joined := join_of_no_scheme hb kept notHash (scheme?_eq_none letters rest)
  have read := readRelative_segment web hc (cs ++ '/' :: rest)
  rw [shortened] at read
  rw [hr]
  exact joined.trans read

/-- A reference of plain segments, of which the first is of letters, leads on from its base by them. -/
theorem join_slashed {base : Url} (web : base.kind = .web) {front : List String}
    (hb : base.path = .segments (front ++ [""])) {first second : String} {segments : List String}
    (nonempty : first ≠ "") (letters : ∀ c ∈ first.toList, c.isAlpha = true)
    (plain : ∀ s ∈ first :: second :: segments, PlainSegment s) {reference : String}
    (hr : reference.toList = slashed (first :: second :: segments))
    (edge : ∀ c, (slashed (second :: segments)).getLast? = some c → isEdge c = false) :
    base.join reference = .ok { base with
      path := .segments (front ++ (first :: second :: segments).map written), query := none, fragment := none } := by
  obtain ⟨c, cs, hf⟩ := List.exists_cons_of_ne_nil (mt String.toList_eq_nil_iff.1 nonempty)
  have split : reference.toList = c :: cs ++ '/' :: slashed (second :: segments) := by
    rw [hr, slashed_cons_cons, hf]
  have unblanked : ∀ d ∈ slashed (second :: segments), d ∉ ['\t', '\n', '\r'] := by
    intro d hd
    rcases mem_slashed hd with rfl | ⟨s, hs, hd⟩
    · decide
    · exact (plain s (List.mem_cons_of_mem _ hs)).unblanked d hd
  have path : readPath .web (front.map String.toList).reverse reference.toList =
      (.segments (front ++ (first :: second :: segments).map written), []) := by
    have texts : ((front.map String.toList) ++ (first :: second :: segments).map (String.toList ∘ written)).map
        String.ofList = front ++ (first :: second :: segments).map written := by
      simp [Function.comp_def]
    have kept (done : Segments) : withoutEmptyFront .web done = done := by
      unfold withoutEmptyFront
      split <;> rfl
    rw [hr, readPath, pathFrom_slashed (by decide) first plain]
    dsimp only
    rw [kept, List.reverse_append, List.reverse_reverse, List.reverse_reverse, texts]
  rw [join_lettered web hb (hf ▸ letters) unblanked split edge, path]
  rfl

/-- A step up takes back the segment before it. -/
theorem readPath_up {name : String} (plain : PlainSegment name) (done : Segments) (rest : List Char) :
    readPath .web done (name.toList ++ '/' :: (['.', '.'] ++ '/' :: rest)) = readPath .web done rest := by
  have slash : isSlash .web '/' = true := by decide
  have pushed : push .web done (percentEncode EncodeSet.path name.toList).reverse.reverse false =
      percentEncode EncodeSet.path name.toList :: done := by
    rw [List.reverse_reverse]
    exact push_plain (by decide) plain.isUp_eq_false plain.isHere_eq_false done false
  have popped (s : List Char) : push .web (s :: done) ['.', '.'] false = done := by
    have up : isUp ['.', '.'] = true := by decide
    rw [push, if_pos up]
    cases done <;> rfl
  have past : pathFrom .web done [] (name.toList ++ '/' :: (['.', '.'] ++ '/' :: rest)) =
      pathFrom .web done [] rest := by
    rw [pathFrom_segment plain.undivided, pathFrom, if_pos slash, List.append_nil, pushed,
      pathFrom_segment (forall_of_all (by decide)), pathFrom, if_pos slash]
    exact congrArg (pathFrom .web · [] rest) (popped _)
  rw [readPath, past]
  rfl

/-! ## Addresses alone -/

theorem readPathStart_segments (kind : SchemeKind) (cs : List Char) :
    ∃ list, (readPathStart kind cs).1 = .segments list := by
  unfold readPathStart readPath
  split
  · split <;> exact ⟨_, rfl⟩
  · split
    · exact ⟨_, rfl⟩
    · split <;> exact ⟨_, rfl⟩

/-- An address of the web is divided into segments. -/
theorem parse_segments {s : String} {u : Url} (h : Url.parse s = .ok u) (web : u.kind = .web) :
    ∃ list, u.path = .segments list := by
  obtain ⟨scheme, rest, -, read⟩ := parse_ok h
  rw [Url.kind, readWithScheme_scheme read] at web
  rw [readWithScheme_web web] at read
  obtain ⟨host, port, rest, -, -, rfl⟩ := readAuthority_ok read
  exact readPathStart_segments _ _

/-- Segments with an empty one at their end. -/
def ended (list : List String) : List String := if list.getLast? = some "" then list else list ++ [""]

theorem ended_eq_append (list : List String) : ∃ front, ended list = front ++ [""] := by
  unfold ended
  split
  · rename_i last
    exact List.getLast?_eq_some_iff.1 last
  · exact ⟨list, rfl⟩

theorem withTrailingSlash_eq {u : Url} {list : List String} (h : u.path = .segments list) :
    u.withTrailingSlash = { u with path := .segments (ended list) } := by
  unfold withTrailingSlash ended
  rw [h]
  dsimp only
  split
  · rw [← h]
  · rfl

theorem withTrailingSlash_whole {u : Url} {text : String} (h : u.path = .whole text) :
    ∃ text', u.withTrailingSlash.path = .whole text' := by
  unfold withTrailingSlash
  rw [h]
  dsimp only
  split
  · exact ⟨text, h⟩
  · exact ⟨_, rfl⟩

/-- What ends in a slash is followed by references to what is under it. -/
theorem withTrailingSlash_segments {u : Url} {list : List String} (h : u.path = .segments list) :
    ∃ front, u.withTrailingSlash.path = .segments (front ++ [""]) := by
  obtain ⟨front, hf⟩ := ended_eq_append list
  exact ⟨front, by rw [withTrailingSlash_eq h, hf]⟩

end CloudProvider.Url
