import CloudProvider.Proofs.Url.Names

/-! # A slash more

An address that does not end in a slash and the same with a slash at its end are read alike: if both can be
read, they differ in no more than the slash at the end of the path, and in what follows the path (`parse_slash`).
Each part of the reader is followed with a slash behind what it reads.
-/

namespace CloudProvider.Url
open Url.Parser

/-! ## Texts with a slash behind them -/

theorem takeWhile_slash {p : Char → Bool} (h : p '/' = false) (cs : List Char) :
    (cs ++ ['/']).takeWhile p = cs.takeWhile p := by
  induction cs with
  | nil => simp [h]
  | cons c cs ih =>
    rw [List.cons_append, List.takeWhile_cons, List.takeWhile_cons, ih]

theorem dropWhile_slash {p : Char → Bool} (h : p '/' = false) (cs : List Char) :
    (cs ++ ['/']).dropWhile p = cs.dropWhile p ++ ['/'] := by
  induction cs with
  | nil => simp [h]
  | cons c cs ih =>
    rw [List.cons_append, List.dropWhile_cons, List.dropWhile_cons, ih]
    split <;> rfl

/-- What does not end in a slash, as addresses of the kind have them. -/
def Open (kind : SchemeKind) (cs : List Char) : Prop := ∀ c, cs.getLast? = some c → isSlash kind c = false

theorem Open.suffix {kind : SchemeKind} {cs rest : List Char} (h : Open kind cs) (suffix : rest <:+ cs) :
    Open kind rest := by
  obtain ⟨front, rfl⟩ := suffix
  intro c last
  refine h c ?_
  rw [List.getLast?_append, last]
  rfl

theorem Open.tail {kind : SchemeKind} {c : Char} {cs : List Char} (h : Open kind (c :: cs)) : Open kind cs :=
  h.suffix (List.suffix_cons c cs)

/-- A slash is not the last of such a text. -/
theorem Open.ne_nil {kind : SchemeKind} {c : Char} {cs : List Char} (h : Open kind (c :: cs))
    (slash : isSlash kind c = true) : cs ≠ [] := by
  rintro rfl
  exact Bool.false_ne_true ((h c rfl).symm.trans slash)

/-! ## Paths -/

theorem percentEncodeChar_ne_nil (set : EncodeSet) (c : Char) : percentEncodeChar set c ≠ [] := by
  unfold percentEncodeChar
  split
  · exact List.cons_ne_nil _ _
  · obtain ⟨b, bs, hb⟩ := List.exists_cons_of_ne_nil (String.utf8EncodeChar_ne_nil (c := c))
    rw [hb, List.flatMap_cons]
    exact List.cons_ne_nil _ _

section
variable {kind : SchemeKind}

theorem push_nil (done : Segments) (last : Bool) : push kind done [] last = [] :: done := by
  have up : isUp [] = false := by decide
  have here : isHere [] = false := by decide
  exact push_segment (fun _ => rfl) up here done last

/-- With a slash more, a path read last first has an empty segment more, if it does not end in one already. -/
def MoreEmpty (done done' : Segments) : Prop :=
  done' = done ∨ done' = [] :: done ∧ ∃ s rest, done = s :: rest ∧ s ≠ []

theorem push_slash (done : Segments) {segment : List Char} (filled : segment ≠ []) :
    MoreEmpty (push kind done segment true) ([] :: push kind done segment false) := by
  cases up : isUp segment with
  | true => exact .inl (by simp [push, up])
  | false =>
    cases here : isHere segment with
    | true => exact .inl (by simp [push, up, here])
    | false =>
      have same : push kind done segment false = push kind done segment true := by simp [push, up, here]
      refine .inr ⟨by rw [same], ?_⟩
      unfold push
      rw [up, here, if_neg Bool.false_ne_true, if_neg Bool.false_ne_true]
      split
      · split
        · exact ⟨_, _, rfl, List.cons_ne_nil _ _⟩
        · exact ⟨_, _, rfl, List.cons_ne_nil _ _⟩
      · exact ⟨_, _, rfl, filled⟩

theorem pathFrom_slash {cs : List Char} (unended : Open kind cs) {current : List Char}
    (filled : cs ≠ [] ∨ current ≠ []) (done : Segments) :
    MoreEmpty (pathFrom kind done current cs).1 (pathFrom kind done current (cs ++ ['/'])).1 := by
  induction cs generalizing current done with
  | nil =>
    have slash : isSlash kind '/' = true := by simp [isSlash]
    have some : current.reverse ≠ [] := mt List.reverse_eq_nil_iff.1 (filled.resolve_left (· rfl))
    rw [List.nil_append, pathFrom, pathFrom, if_pos slash, pathFrom, List.reverse_nil, push_nil]
    exact push_slash done some
  | cons c cs ih =>
    rw [List.cons_append, pathFrom, pathFrom]
    split
    · rename_i slash
      exact ih unended.tail (.inl (unended.ne_nil slash)) _
    · split
      · exact .inl rfl
      · refine ih unended.tail (.inr ?_) _
        have written := percentEncodeChar_ne_nil EncodeSet.path c
        simp [written]

/-- The second path is the first with a slash at its end, or ends as the first does. -/
inductive Slashes : Path → Path → Prop
  | same (list : List String) : Slashes (.segments list) (.segments list)
  | more (list : List String) (h : list.getLast? ≠ some "") : Slashes (.segments list) (.segments (list ++ [""]))

theorem withoutEmptyFront_append {segments : Segments} {s : List Char} (last : segments.getLast? = some s)
    (filled : s ≠ []) : withoutEmptyFront kind (segments ++ [[]]) = withoutEmptyFront kind segments ++ [[]] ∧
      (withoutEmptyFront kind segments).getLast? = some s := by
  induction segments with
  | nil => cases last
  | cons t segments ih =>
    cases segments with
    | nil =>
      cases last
      have kept (rest : Segments) : withoutEmptyFront kind (t :: rest) = t :: rest :=
        withoutEmptyFront_eq fun _ h => filled (Option.some.inj h)
      rw [List.singleton_append, kept, kept]
      exact ⟨rfl, rfl⟩
    | cons u segments =>
      have last' : (u :: segments).getLast? = some s := by rwa [List.getLast?_cons_cons] at last
      by_cases empty : kind = .file ∧ t = []
      · obtain ⟨rfl, rfl⟩ := empty
        exact ih last'
      · have kept (rest : Segments) : withoutEmptyFront kind (t :: rest) = t :: rest :=
          withoutEmptyFront_eq fun file h => empty ⟨file, Option.some.inj h⟩
        rw [List.cons_append, kept, kept]
        exact ⟨rfl, last⟩

theorem readPath_fst (done : Segments) (cs : List Char) : (readPath kind done cs).1 =
    .segments ((withoutEmptyFront kind (pathFrom kind done [] cs).1.reverse).map .ofList) := rfl

theorem readPath_slash {cs : List Char} (unended : Open kind cs) (filled : cs ≠ []) :
    Slashes (readPath kind [] cs).1 (readPath kind [] (cs ++ ['/'])).1 := by
  rw [readPath_fst, readPath_fst]
  rcases pathFrom_slash unended (.inl filled : cs ≠ [] ∨ ([] : List Char) ≠ []) [] with same | ⟨more, s, rest, ended, some⟩
  · rw [same]
    exact .same _
  · have last : ((pathFrom kind [] [] cs).1.reverse).getLast? = Option.some s := by rw [ended]; simp
    obtain ⟨appended, kept⟩ := @withoutEmptyFront_append kind _ _ last some
    rw [more, List.reverse_cons, appended, List.map_append]
    refine .more _ ?_
    rw [List.getLast?_map, kept]
    intro empty
    have nothing := congrArg (Option.map String.toList) empty
    simp only [Option.map_some, String.toList_ofList] at nothing
    exact some (Option.some.inj nothing)

theorem readPathStart_slash {cs : List Char} (unended : Open kind cs) :
    Slashes (readPathStart kind cs).1 (readPathStart kind (cs ++ ['/'])).1 := by
  cases cs with
  | nil =>
    have started : (readPathStart kind ['/']).1 = .segments [""] := by
      cases kind <;> rfl
    rw [List.nil_append, started, readPathStart]
    split
    · exact .same _
    · exact .more [] (by simp)
  | cons c cs =>
    rw [List.cons_append, readPathStart, readPathStart]
    split
    · rename_i slash
      exact readPath_slash unended.tail (unended.ne_nil slash)
    · split
      · exact .same _
      · exact readPath_slash unended (List.cons_ne_nil c cs)

/-- Two addresses that differ in no more than the slash at the end of the path, and in what follows the path. -/
structure MoreSlash (u u' : Url) : Prop where
  path : Slashes u.path u'.path
  rest : { u'.bare with path := u.path } = u.bare

theorem finish_slash (u : Url) {cs : List Char} (unended : Open kind cs) :
    MoreSlash (finish u (readPathStart kind cs)) (finish u (readPathStart kind (cs ++ ['/']))) where
  path := readPathStart_slash unended
  rest := rfl

/-! ## Authorities -/

theorem hostText_slash (bracketed : Bool) (done cs : List Char) :
    hostText kind bracketed done (cs ++ ['/']) =
      ((hostText kind bracketed done cs).1, (hostText kind bracketed done cs).2 ++ ['/']) := by
  induction cs generalizing bracketed done with
  | nil =>
    have slash : isSlash kind '/' = true := by simp [isSlash]
    rw [List.nil_append, hostText, hostText, slash, Bool.true_or, Bool.true_or, if_pos rfl]
    rfl
  | cons c cs ih =>
    rw [List.cons_append, hostText, hostText]
    split
    · rfl
    · exact ih _ _

theorem splitUserinfo_slash (cs : List Char) : splitUserinfo kind (cs ++ ['/']) =
    (splitUserinfo kind cs).map fun split => (split.1, split.2 ++ ['/']) := by
  have slash : (!(isSlash kind '/' || isTail '/')) = false := by simp [isSlash]
  unfold splitUserinfo
  dsimp only
  rw [takeWhile_slash slash]
  split
  · rename_i sign
    -- Both parts lie within the text: the authority does, and it has at least the at-sign.
    have inside := (List.takeWhile_sublist (l := cs) fun c => !(isSlash kind c || isTail c)).length_le
    have nonempty := List.length_pos_of_mem sign
    rw [List.take_append_of_le_length (by omega), List.drop_append_of_le_length (by omega)]
    rfl
  · rfl

theorem endsPort_slash (cs : List Char) : endsPort (cs ++ ['/']) = endsPort cs := by
  cases cs <;> rfl

theorem readPort_slash (scheme : String) (cs : List Char) : readPort scheme (cs ++ ['/']) =
    (readPort scheme cs).map fun port => (port.1, port.2 ++ ['/']) := by
  have slash : Char.isDigit '/' = false := by decide
  rw [readPort_eq, readPort_eq, takeWhile_slash slash, dropWhile_slash slash]
  dsimp only
  rw [endsPort_slash]
  split
  · rfl
  · split <;> rfl

theorem portOf_slash (scheme : String) (cs : List Char) : portOf scheme (cs ++ ['/']) =
    (portOf scheme cs).map fun port => (port.1, port.2 ++ ['/']) := by
  unfold portOf
  split
  · rename_i rest h
    cases cs with
    | nil => cases h
    | cons c cs =>
      obtain ⟨rfl, rfl⟩ := List.cons.inj h
      exact readPort_slash scheme cs
  · rename_i other
    split
    · exact absurd rfl (other _)
    · rfl

theorem authorityParts_slash (cs : List Char) : authorityParts kind (cs ++ ['/']) =
    ((authorityParts kind cs).1, (authorityParts kind cs).2 ++ ['/']) := by
  rw [authorityParts, authorityParts, splitUserinfo_slash]
  cases splitUserinfo kind cs <;> rfl

end

/-- Whether there are name, password and port or not, a slash behind an authority is left for the path. -/
theorem readAuthority_slash {scheme : String} {cs : List Char} {u u' : Url} (h : readAuthority scheme cs = .ok u)
    (h' : readAuthority scheme (cs ++ ['/']) = .ok u') (unended : Open (.of scheme) cs) : MoreSlash u u' := by
  obtain ⟨host, port, rest, hh, hp, rfl⟩ := readAuthority_ok h
  obtain ⟨host', port', rest', hh', hp', rfl⟩ := readAuthority_ok h'
  rw [authorityParts_slash, hostText_slash] at hh' hp'
  dsimp only at hh' hp'
  cases hh.symm.trans hh'
  rw [portOf_slash, hp] at hp'
  cases hp'
  rw [authorityParts_slash]
  have inside := (portOf_suffix hp).trans ((hostText_suffix ..).trans (authorityParts_suffix cs))
  exact finish_slash _ (unended.suffix inside)

/-! ## Files -/

theorem Slashes.hasVolume_eq {path path' : Path} (h : Slashes path path') : hasVolume path' = hasVolume path := by
  cases h with
  | same list => rfl
  | more list last => cases list <;> rfl

theorem withoutHostOfVolume_slash {u u' : Url} (h : MoreSlash u u') :
    MoreSlash (withoutHostOfVolume u) (withoutHostOfVolume u') := by
  rw [withoutHostOfVolume_eq, withoutHostOfVolume_eq, h.path.hasVolume_eq]
  split
  · exact ⟨h.path, congrArg (fun v : Url => { v with host := some (.domain "") }) h.rest⟩
  · exact h

theorem readFileAuthority_slash {cs : List Char} {u u' : Url} (h : readFileAuthority cs = .ok u)
    (h' : readFileAuthority (cs ++ ['/']) = .ok u') (unended : Open .file cs) : MoreSlash u u' := by
  have slash : (!(isSlash .file '/' || isTail '/')) = false := by decide
  unfold readFileAuthority at h h'
  dsimp only at h h'
  rw [takeWhile_slash slash, dropWhile_slash slash] at h'
  have inside := unended.suffix (List.dropWhile_suffix fun c => !(isSlash .file c || isTail c))
  split at h
  · rename_i volume
    rw [if_pos volume] at h'
    cases h
    cases h'
    exact finish_slash _ unended
  rename_i noVolume
  rw [if_neg noVolume] at h'
  split at h
  · rename_i empty
    rw [if_pos empty] at h'
    cases h
    cases h'
    exact finish_slash _ inside
  rename_i named
  rw [if_neg named] at h'
  obtain ⟨host, hh, h⟩ := Json.bind_ok h
  obtain ⟨host', hh', h'⟩ := Json.bind_ok h'
  cases hh.symm.trans hh'
  split at h
  · rename_i isLocal
    rw [if_pos isLocal] at h'
    cases h
    cases h'
    exact finish_slash _ inside
  · rename_i isLocal
    rw [if_neg isLocal] at h'
    cases h
    cases h'
    exact withoutHostOfVolume_slash (finish_slash _ inside)

/-! ## Addresses -/

theorem scheme?_slash {cs : List Char} {scheme : String} {rest : List Char} (h : scheme? cs = some (scheme, rest)) :
    scheme? (cs ++ ['/']) = some (scheme, rest ++ ['/']) ∧ rest <:+ cs := by
  let isPart (c : Char) : Bool := c.isAlphanum || c = '+' || c = '-' || c = '.'
  have slash : isPart '/' = false := by decide
  cases cs with
  | nil => cases h
  | cons c cs =>
    unfold scheme? at h ⊢
    dsimp only [List.cons_append] at h ⊢
    split at h
    · rename_i letter
      have past := dropWhile_slash slash (c :: cs)
      have before := takeWhile_slash slash (c :: cs)
      rw [List.cons_append] at past before
      rw [if_pos letter, past, before]
      split at h
      · rename_i rest' hd
        cases h
        change List.dropWhile isPart (c :: cs) = _ at hd
        rw [hd]
        exact ⟨rfl, (List.suffix_cons ':' rest).trans (hd ▸ List.dropWhile_suffix isPart)⟩
      · cases h
    · cases h

section
variable {scheme : String} {cs : List Char} {u u' : Url}

theorem readWithScheme_file_slash (hk : SchemeKind.of scheme = .file) (h : readWithScheme none scheme cs = .ok u)
    (h' : readWithScheme none scheme (cs ++ ['/']) = .ok u') (unended : Open .file cs) : MoreSlash u u' := by
  rw [readWithScheme_file hk] at h h'
  have plain {cs : List Char} (unended : Open .file cs) :
      MoreSlash (finish localFile (readPathStart .file cs)) (finish localFile (readPathStart .file (cs ++ ['/']))) :=
    finish_slash _ unended
  rcases cs with - | ⟨c, - | ⟨d, rest⟩⟩
  · cases h
    cases h'
    exact plain unended
  · have one : ¬(isSlash .file c = true ∧ isSlash .file '/' = true) := fun both => unended.ne_nil both.1 rfl
    cases h
    rw [List.cons_append, List.nil_append] at h'
    dsimp only at h'
    rw [if_neg one] at h'
    cases h'
    exact plain unended
  · rw [List.cons_append, List.cons_append] at h'
    dsimp only at h h'
    split at h
    · rename_i both
      rw [if_pos both] at h'
      exact readFileAuthority_slash h h' unended.tail.tail
    · rename_i both
      rw [if_neg both] at h'
      cases h
      cases h'
      exact plain unended

theorem readWithScheme_web_slash (hk : SchemeKind.of scheme = .web) (h : readWithScheme none scheme cs = .ok u)
    (h' : readWithScheme none scheme (cs ++ ['/']) = .ok u') (unended : Open .web cs) : MoreSlash u u' := by
  rw [readWithScheme_web hk] at h h'
  have left : (cs ++ ['/']).dropWhile (isSlash .web) = cs.dropWhile (isSlash .web) ++ ['/'] := by
    rw [List.dropWhile_append, if_neg]
    intro nothing
    rw [List.isEmpty_iff.1 nothing, readAuthority_nil hk] at h
    cases h
  rw [left] at h'
  exact readAuthority_slash h h' (hk ▸ unended.suffix (List.dropWhile_suffix _))

theorem readWithScheme_other_slash (hk : SchemeKind.of scheme = .other) (h : readWithScheme none scheme cs = .ok u)
    (h' : readWithScheme none scheme (cs ++ ['/']) = .ok u') (unended : Open .other cs) {list : List String}
    (divided : u.path = .segments list) : MoreSlash u u' := by
  rw [readWithScheme_other hk] at h h'
  have slash : isSlash .other '/' = true := by decide
  dsimp only at h
  split at h
  · rename_i rest
    exact readAuthority_slash h h' (hk ▸ unended.tail.tail)
  · rename_i rest single
    have filled := unended.ne_nil slash
    cases h
    obtain ⟨c, rest, rfl⟩ := List.exists_cons_of_ne_nil filled
    have other : c ≠ '/' := fun hc => single rest (by rw [hc])
    dsimp only [List.cons_append] at h'
    split at h'
    · rename_i h
      exact absurd (List.cons.inj (List.cons.inj h).2).1 other
    · rename_i h
      cases h
      cases h'
      exact ⟨readPath_slash unended.tail filled, rfl⟩
    · rename_i neither
      exact absurd rfl (neither _)
  · cases h
    cases divided

/-- What a slash adds to an address that is divided into segments. -/
theorem readWithScheme_slash (h : readWithScheme none scheme cs = .ok u)
    (h' : readWithScheme none scheme (cs ++ ['/']) = .ok u') (unended : Open (.of scheme) cs) {list : List String}
    (divided : u.path = .segments list) : MoreSlash u u' := by
  cases hk : SchemeKind.of scheme with
  | file => exact readWithScheme_file_slash hk h h' (hk ▸ unended)
  | web => exact readWithScheme_web_slash hk h h' (hk ▸ unended)
  | other => exact readWithScheme_other_slash hk h h' (hk ▸ unended) divided

end

/-- A slash after a text that does not end in a blank counts. -/
theorem relevant_slash {s : String} (seen : ∀ c, s.toList.getLast? = some c → isEdge c = false) :
    relevant (s ++ "/") = relevant s ++ ['/'] := by
  have slash : isEdge '/' = false := by decide
  have back (cs : List Char) (h : ∀ c, cs.getLast? = some c → isEdge c = false) :
      (cs.reverse.dropWhile isEdge).reverse = cs := by
    rcases List.eq_nil_or_concat cs with rfl | ⟨front, c, rfl⟩
    · rfl
    · have last : isEdge c = false := h c (by simp)
      rw [List.concat_eq_append, List.reverse_append, List.reverse_singleton, List.singleton_append,
        List.dropWhile_cons_of_neg (Bool.eq_false_iff.1 last), List.reverse_cons, List.reverse_reverse]
  have text : (s ++ "/").toList = s.toList ++ ['/'] := String.toList_append
  have inside : s.toList.dropWhile isEdge <:+ s.toList := List.dropWhile_suffix _
  rw [relevant, relevant, text, dropWhile_slash slash, back _ fun c last => ?_, back _ fun c last => ?_, List.filter_append]
  · rfl
  · obtain ⟨front, hf⟩ := inside
    refine seen c ?_
    rw [← hf, List.getLast?_append, last]
    rfl
  · rw [List.getLast?_append] at last
    cases last
    exact slash

/-- A slash at the end of an address that is divided into segments is no more than the slash at the end of its
path, if it is part of the path at all. -/
theorem parse_slash {s s' : String} {u u' : Url} (h : Url.parse s = .ok u) (h' : Url.parse s' = .ok u')
    (added : relevant s' = relevant s ++ ['/']) (unended : Open u.kind (relevant s)) {list : List String}
    (divided : u.path = .segments list) : MoreSlash u u' := by
  obtain ⟨scheme, rest, hs, read⟩ := parse_ok h
  obtain ⟨scheme', rest', hs', read'⟩ := parse_ok h'
  obtain ⟨slashed, inside⟩ := scheme?_slash hs
  rw [added, slashed] at hs'
  cases hs'
  rw [Url.kind, readWithScheme_scheme read] at unended
  exact readWithScheme_slash read read' (unended.suffix inside) divided

theorem Slashes.ended_eq {path path' : Path} (h : Slashes path path') :
    ∃ list list', path = .segments list ∧ path' = .segments list' ∧ ended list' = ended list := by
  cases h with
  | same list => exact ⟨list, list, rfl, rfl, rfl⟩
  | more list last =>
    refine ⟨list, list ++ [""], rfl, rfl, ?_⟩
    have already : (list ++ [""]).getLast? = some "" := by simp
    rw [ended, ended, if_pos already, if_neg last]

/-- With a slash at the end of the path the two are one address, but for what follows the path. -/
theorem MoreSlash.withTrailingSlash {u u' : Url} (h : MoreSlash u u') :
    u'.withTrailingSlash.bare = u.withTrailingSlash.bare := by
  obtain ⟨list, list', hp, hp', same⟩ := h.path.ended_eq
  rw [withTrailingSlash_eq hp, withTrailingSlash_eq hp', same]
  exact congrArg (fun v : Url => { v with path := .segments (ended list) }) h.rest

end CloudProvider.Url
