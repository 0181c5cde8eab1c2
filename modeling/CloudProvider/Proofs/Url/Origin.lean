import CloudProvider.Proofs.Url.Onward

/-! # References that stay with their base

A reference departs from its base if it has another scheme, or an authority. One that does not depart leads to an
address with the scheme of its base, and if this is on the web, with its host and port too (`join_stays`); so does
one that begins with letters and has no scheme, whatever kind of address the base is (`join_letters_stays`).
-/

namespace CloudProvider.Url
open Url.Parser

/-- How many slashes, of either kind, there are at the front. -/
def slashes (cs : List Char) : Nat := (cs.takeWhile (isSlash .web)).length

/-- The reference has a scheme that its base has not, or an authority, with the scheme of its base or without. -/
inductive Departs (base : Url) (reference : String) : Prop
  | scheme {scheme : String} {rest : List Char} (named : scheme? (relevant reference) = some (scheme, rest))
    (other : scheme ≠ base.scheme) : Departs base reference
  | absolute {scheme : String} {rest : List Char} (named : scheme? (relevant reference) = some (scheme, rest))
    (authority : 2 ≤ slashes rest) : Departs base reference
  | relative (unnamed : scheme? (relevant reference) = none) (authority : 2 ≤ slashes (relevant reference)) :
    Departs base reference

section
variable {base u : Url} {cs : List Char}

theorem readRelative_scheme (h : readRelative base cs = .ok u) : u.scheme = base.scheme := by
  have ofFile (file : base.kind = .file) (scheme : u.scheme = "file") : u.scheme = base.scheme :=
    scheme.trans (SchemeKind.of_eq_file.1 file).symm
  have ofAuthority {after : List Char} (file : base.kind = .file) (h : readFileAuthority after = .ok u) :
      u.scheme = base.scheme := by
    obtain ⟨-, -, scheme⟩ := readFileAuthority_ok h
    exact ofFile file scheme
  unfold readRelative at h
  dsimp only at h
  split at h
  · cases h
    rfl
  · cases h
    rfl
  · cases h
    rfl
  split at h
  · split at h
    · split at h
      · exact ofAuthority ‹_› h
      · split at h <;> exact readAuthority_scheme h
    · split at h
      · exact ofAuthority ‹_› h
      · exact readAuthority_scheme h
    · split at h
      · rename_i volume
        cases h
        exact ofFile volume.1 rfl
      · cases h
        rfl
  · split at h
    · rename_i volume
      cases h
      exact ofFile volume.1 rfl
    · cases h
      rfl

theorem readRelative_stays (web : base.kind = .web) (few : slashes cs < 2) (h : readRelative base cs = .ok u) :
    u.origin = base.origin := by
  have notFile : base.kind ≠ .file := by rw [web]; decide
  have two {c d : Char} (hc : isSlash .web c = true) (hd : isSlash .web d = true) (rest : List Char) :
      2 ≤ slashes (c :: d :: rest) := by
    simp [slashes, hc, hd]
  unfold readRelative at h
  dsimp only at h
  split at h
  · cases h
    rfl
  · cases h
    rfl
  · cases h
    rfl
  split at h
  · rename_i c rest _ _ slash
    have first : isSlash .web c = true := by rcases slash with rfl | rfl <;> decide
    split at h
    · exact absurd few (Nat.not_lt.2 (two first (by decide) _))
    · exact absurd few (Nat.not_lt.2 (two first (by decide) _))
    · rw [if_neg fun volume => notFile volume.1] at h
      cases h
      rfl
  · rw [if_neg fun volume => notFile volume.1] at h
    cases h
    rfl

/-- A base completes what has its own scheme, unless this has an authority. -/
theorem readWithScheme_some (base : Url) (scheme : String) (cs : List Char) : readWithScheme (some base) scheme cs =
    if base.scheme = scheme ∧ (base.kind = .file ∨ base.kind = .web ∧ slashes cs < 2) then readRelative base cs
    else readWithScheme none scheme cs := by
  by_cases same : base.scheme = scheme
  · subst same
    cases hk : base.kind with
    | file =>
      have hk' : SchemeKind.of base.scheme = .file := hk
      unfold readWithScheme
      rw [hk']
      simp [Option.filter, SchemeKind.of_eq_file.1 hk]
    | web =>
      have hk' : SchemeKind.of base.scheme = .web := hk
      unfold readWithScheme
      rw [hk']
      simp [Option.filter, slashes]
    | other =>
      have hk' : SchemeKind.of base.scheme = .other := hk
      rw [if_neg (by simp)]
      unfold readWithScheme
      rw [hk']
  · rw [if_neg fun h => same h.1]
    unfold readWithScheme
    cases hk : SchemeKind.of scheme with
    | file =>
      rw [SchemeKind.of_eq_file.1 hk] at same
      simp [Option.filter, same]
    | web => simp [Option.filter, same]
    | other => rfl

end

/-! ## References that do not depart -/

section
variable {base url : Url} {reference : String} (joined : base.join reference = .ok url)
include joined

/-- A reference that does not depart is read from its base. -/
theorem join_eq (stays : ¬base.Departs reference) :
    url = { base with fragment := url.fragment } ∨
      (∃ cs, slashes cs < 2 ∧ readRelative base cs = .ok url) ∨
      base.kind = .other ∧ ∃ cs, readWithScheme none base.scheme cs = .ok url := by
  unfold Url.join parseWith at joined
  dsimp only at joined
  split at joined
  · rename_i scheme rest named
    have same : base.scheme = scheme := Decidable.byContradiction fun other => stays (.scheme named (Ne.symm other))
    have few : slashes rest < 2 := Nat.not_le.1 fun authority => stays (.absolute named authority)
    subst same
    rw [readWithScheme_some] at joined
    split at joined
    · exact .inr (.inl ⟨rest, few, joined⟩)
    · rename_i unread
      refine .inr (.inr ⟨?_, rest, joined⟩)
      cases hk : base.kind with
      | file => exact absurd ⟨rfl, .inl hk⟩ unread
      | web => exact absurd ⟨rfl, .inr ⟨hk, few⟩⟩ unread
      | other => rfl
  · rename_i unnamed
    have few : slashes (relevant reference) < 2 := Nat.not_le.1 fun authority => stays (.relative unnamed authority)
    split at joined
    · cases joined
      exact .inl rfl
    · cases joined
    · exact .inr (.inl ⟨_, few, joined⟩)

theorem join_scheme (stays : ¬base.Departs reference) : url.scheme = base.scheme := by
  rcases join_eq joined stays with same | ⟨cs, -, read⟩ | ⟨-, cs, read⟩
  · rw [same]
  · exact readRelative_scheme read
  · exact readWithScheme_scheme read

/-- What does not depart from an address on the web leads to the same host. -/
theorem join_stays (web : base.kind = .web) (stays : ¬base.Departs reference) : url.origin = base.origin := by
  rcases join_eq joined stays with same | ⟨cs, few, read⟩ | ⟨other, -⟩
  · rw [same]
    rfl
  · exact readRelative_stays web few read
  · cases other.symm.trans web

/-- What begins with two letters and has no scheme leads on from its base, whatever kind of address this is. -/
theorem join_letters_stays {c d : Char} {cs : List Char} (hr : relevant reference = c :: d :: cs)
    (hc : c.isAlpha = true) (hd : d.isAlpha = true) (noScheme : scheme? (c :: d :: cs) = none) :
    url.origin = base.origin := by
  have notHash : c ≠ '#' := fun h => not_mem_of_isAlpha hc (by decide) (List.mem_singleton.2 h)
  cases hb : base.path with
  | whole text => cases joined.symm.trans (join_whole hb hr notHash noScheme)
  | segments list =>
    have read := readRelative_onward base (not_mem_of_isAlpha hc (by decide)) (d :: cs)
      fun _ => startsWithVolume_of_second (not_mem_of_isAlpha hd (by decide)) cs
    rw [join_of_no_scheme hb hr notHash noScheme, read] at joined
    cases joined
    rfl

end

end CloudProvider.Url
