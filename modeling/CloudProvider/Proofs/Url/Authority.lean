import CloudProvider.Proofs.Json.Decode
import CloudProvider.Url.Parser

/-! # How addresses are read

What each reader of an address has done if it succeeds, as an equation or as the parts that it has found. What
is left of a text is always an end of it, and an address has the scheme that its text begins with.
-/

namespace CloudProvider.Url
open Url.Parser

/-! ## Authorities -/

section
variable {kind : SchemeKind}

theorem hostText_suffix (bracketed : Bool) (done cs : List Char) : (hostText kind bracketed done cs).2 <:+ cs := by
  induction cs generalizing bracketed done with
  | nil => exact List.suffix_refl []
  | cons c cs ih =>
    rw [hostText]
    split
    · exact List.suffix_refl _
    · exact (ih _ _).trans (List.suffix_cons c cs)

theorem splitUserinfo_suffix {cs : List Char} {split : List Char × List Char}
    (h : splitUserinfo kind cs = some split) : split.2 <:+ cs := by
  unfold splitUserinfo at h
  dsimp only at h
  split at h
  · cases h
    exact List.drop_suffix _ _
  · cases h

/-- The parts of an authority: what stands for name and password, and what follows it. -/
def authorityParts (kind : SchemeKind) (cs : List Char) : List Char × List Char :=
  (splitUserinfo kind cs).getD ([], cs)

theorem authorityParts_suffix (cs : List Char) : (authorityParts kind cs).2 <:+ cs := by
  rw [authorityParts]
  cases h : splitUserinfo kind cs with
  | none => exact List.suffix_refl _
  | some split => exact splitUserinfo_suffix h

end

/-- What may follow the digits of a port. -/
def endsPort : List Char → Bool
  | [] => true
  | c :: _ => c = '/' || c = '\\' || isTail c

theorem readPort_eq (scheme : String) (cs : List Char) : readPort scheme cs =
    let digits := cs.takeWhile Char.isDigit
    let rest := cs.dropWhile Char.isDigit
    let port := digits.foldl (fun n d => n * 10 + (d.toNat - 48)) 0
    if 65535 < port ∨ ¬endsPort rest then .error .invalidPort
    else if digits.isEmpty ∨ defaultPort? scheme = some port then .ok (none, rest)
    else .ok (some port, rest) := by
  unfold readPort
  cases cs.dropWhile Char.isDigit <;> rfl

theorem readPort_suffix {scheme : String} {cs rest : List Char} {port : Option Nat}
    (h : readPort scheme cs = .ok (port, rest)) : rest <:+ cs := by
  rw [readPort_eq] at h
  dsimp only at h
  split at h
  · cases h
  · split at h <;> cases h <;> exact List.dropWhile_suffix _

/-- The port behind a host, if there is one. -/
def portOf (scheme : String) : List Char → Except Fault (Option Nat × List Char)
  | ':' :: rest => readPort scheme rest
  | rest => .ok (none, rest)

theorem portOf_bind {α : Type} (scheme : String) (cs : List Char) (f : Option Nat × List Char → Except Fault α) :
    portOf scheme cs >>= f =
      match cs with
      | ':' :: rest => readPort scheme rest >>= f
      | rest => .ok (none, rest) >>= f := by
  unfold portOf
  split <;> rfl

theorem portOf_suffix {scheme : String} {cs rest : List Char} {port : Option Nat}
    (h : portOf scheme cs = .ok (port, rest)) : rest <:+ cs := by
  unfold portOf at h
  split at h
  · exact (readPort_suffix h).trans (List.suffix_cons _ _)
  · cases h
    exact List.suffix_refl _

/-- How an authority is read. -/
theorem readAuthority_ok {scheme : String} {cs : List Char} {u : Url} (h : readAuthority scheme cs = .ok u) :
    let kind := SchemeKind.of scheme
    let parts := authorityParts kind cs
    let named := hostText kind false [] parts.2
    ∃ host port rest, (if kind.isSpecial then Host.readSpecial named.1 else Host.readOther named.1) = .ok host ∧
      portOf scheme named.2 = .ok (port, rest) ∧
      u = finish ⟨scheme, (readUserinfo parts.1).1, (readUserinfo parts.1).2, some host, port, .segments [], none, none⟩
        (readPathStart kind rest) := by
  intro kind parts named
  unfold readAuthority at h
  dsimp only at h
  split at h
  · cases h
  · have read : ∃ host, (if kind.isSpecial then Host.readSpecial named.1 else Host.readOther named.1) = .ok host ∧
        (portOf scheme named.2 >>= fun port => .ok (finish ⟨scheme, (readUserinfo parts.1).1, (readUserinfo parts.1).2,
          some host, port.1, .segments [], none, none⟩ (readPathStart kind port.2))) = Except.ok u := by
      split at h
      · rename_i special
        obtain ⟨host, hh, h⟩ := Json.bind_ok h
        exact ⟨host, (if_pos special).trans hh, (portOf_bind ..).trans h⟩
      · rename_i special
        obtain ⟨host, hh, h⟩ := Json.bind_ok h
        exact ⟨host, (if_neg special).trans hh, (portOf_bind ..).trans h⟩
    obtain ⟨host, hh, read⟩ := read
    obtain ⟨⟨port, rest⟩, hp, read⟩ := Json.bind_ok read
    cases read
    exact ⟨host, port, rest, hh, hp, rfl⟩

section
variable {scheme : String} {cs : List Char} {u : Url}

theorem readAuthority_scheme (h : readAuthority scheme cs = .ok u) : u.scheme = scheme := by
  obtain ⟨host, port, rest, -, -, rfl⟩ := readAuthority_ok h
  rfl

theorem readAuthority_nil (hk : SchemeKind.of scheme = .web) : readAuthority scheme [] = .error .emptyHost := by
  unfold readAuthority
  rw [hk]
  rfl

/-! ## Files -/

/-- A path that begins with a volume. -/
def hasVolume : Path → Bool
  | .segments (s :: _) => isVolume s.toList
  | _ => false

theorem withoutHostOfVolume_eq (u : Url) :
    withoutHostOfVolume u = if hasVolume u.path then { u with host := some (.domain "") } else u := by
  unfold withoutHostOfVolume
  split
  · rename_i s rest hp
    rw [hp]
    rfl
  · rename_i other
    cases hp : u.path with
    | whole text => rfl
    | segments list =>
      cases list with
      | nil => rfl
      | cons s rest => exact absurd hp (other s rest)

/-- A file address has a path behind its authority, and no name, password or port. -/
theorem readFileAuthority_ok (h : readFileAuthority cs = .ok u) :
    ∃ rest, u.path = (readPathStart .file rest).1 ∧ u.scheme = "file" := by
  unfold readFileAuthority at h
  dsimp only at h
  split at h
  · cases h
    exact ⟨_, rfl, rfl⟩
  split at h
  · cases h
    exact ⟨_, rfl, rfl⟩
  obtain ⟨host, -, h⟩ := Json.bind_ok h
  split at h
  · cases h
    exact ⟨_, rfl, rfl⟩
  · cases h
    rw [withoutHostOfVolume_eq]
    split
    · exact ⟨_, rfl, rfl⟩
    · exact ⟨_, rfl, rfl⟩

/-! ## Addresses -/

theorem readWithScheme_file (hk : SchemeKind.of scheme = .file) (cs : List Char) :
    readWithScheme none scheme cs =
      match cs with
      | c :: d :: rest =>
        if isSlash .file c ∧ isSlash .file d then readFileAuthority rest
        else .ok (finish localFile (readPathStart .file cs))
      | _ => .ok (finish localFile (readPathStart .file cs)) := by
  unfold readWithScheme
  rw [hk]
  rfl

theorem readWithScheme_web (hk : SchemeKind.of scheme = .web) (cs : List Char) :
    readWithScheme none scheme cs = readAuthority scheme (cs.dropWhile (isSlash .web)) := by
  unfold readWithScheme
  rw [hk]
  rfl

theorem readWithScheme_other (hk : SchemeKind.of scheme = .other) (cs : List Char) :
    readWithScheme none scheme cs =
      let bare : Url := ⟨scheme, "", none, none, none, .segments [], none, none⟩
      match cs with
      | '/' :: '/' :: rest => readAuthority scheme rest
      | '/' :: rest => .ok (finish bare (readPath .other [] rest))
      | cs => .ok (finish bare
          (.whole (.ofList (percentEncode EncodeSet.control (cs.takeWhile (!isTail ·)))), cs.dropWhile (!isTail ·))) := by
  unfold readWithScheme
  generalize SchemeKind.of scheme = kind at hk
  subst hk
  rfl

theorem SchemeKind.of_eq_file : SchemeKind.of scheme = .file ↔ scheme = "file" := by
  unfold SchemeKind.of
  split
  · rename_i file
    exact iff_of_true rfl file
  · rename_i other
    refine iff_of_false ?_ other
    split <;> decide

theorem readWithScheme_file_ok (hk : SchemeKind.of scheme = .file) (h : readWithScheme none scheme cs = .ok u) :
    ∃ rest, u.path = (readPathStart .file rest).1 ∧ u.scheme = "file" := by
  rw [readWithScheme_file hk] at h
  split at h
  · split at h
    · exact readFileAuthority_ok h
    · cases h
      exact ⟨_, rfl, rfl⟩
  · cases h
    exact ⟨_, rfl, rfl⟩

/-- An address has the scheme that its text begins with. -/
theorem readWithScheme_scheme (h : readWithScheme none scheme cs = .ok u) : u.scheme = scheme := by
  cases hk : SchemeKind.of scheme with
  | file =>
    obtain ⟨rest, -, file⟩ := readWithScheme_file_ok hk h
    exact file.trans (SchemeKind.of_eq_file.1 hk).symm
  | web =>
    rw [readWithScheme_web hk] at h
    exact readAuthority_scheme h
  | other =>
    rw [readWithScheme_other hk] at h
    dsimp only at h
    split at h
    · exact readAuthority_scheme h
    · cases h
      rfl
    · cases h
      rfl

end

theorem parse_ok {s : String} {u : Url} (h : Url.parse s = .ok u) :
    ∃ scheme rest, scheme? (relevant s) = some (scheme, rest) ∧ readWithScheme none scheme rest = .ok u := by
  unfold Url.parse parseWith at h
  dsimp only at h
  split at h
  · rename_i scheme rest hs
    exact ⟨scheme, rest, hs, h⟩
  · cases h

end CloudProvider.Url
