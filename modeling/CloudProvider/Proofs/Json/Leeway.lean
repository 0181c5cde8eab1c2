import Mathlib.Logic.Relation
import CloudProvider.Proofs.Json.Decode

/-! # Documents that read the same

How an object may be rewritten without another value being read from it: a member that nobody declared
may be put in anywhere, and a declared one may be changed as its own leeway allows. For each field of a
record it is enough to know that its decoder keeps to the leeway (`Field.Allows`); the record then keeps
to the leeway of the whole object (`Record.Allows.decoder`), however deep it stands, and so does what is
read from a text (`Decoder.Allows.ofText`).
-/

namespace CloudProvider.Json

/-! ## Leeway -/

/-- How a member may be rewritten: its value by another one, or by none when it is left out. -/
abbrev Leeway := Tree → Option Tree → Prop

namespace Leeway

/-- The member stays as it is. -/
def Strict : Leeway := fun _ _ => False

/-- Null may be left out, or one of the defaults written in its place. -/
inductive Tolerant (defaults : List Json) : Leeway
  | leftOut : Tolerant defaults .null none
  | filled {j : Json} (h : j ∈ defaults) : Tolerant defaults .null (some (.ofJson j))

def Either (l l' : Leeway) : Leeway := fun t m => l t m ∨ l' t m

/-- The members that are declared, each with its leeway. -/
inductive Object (members : List (String × Leeway)) : Leeway
  | added (before after : List (Except Fault String × Tree)) {k : String} (new : k ∉ members.map (·.1))
    (t : Tree) :
    Object members (.obj none (before ++ after) .closed) (some (.obj none (before ++ (.ok k, t) :: after) .closed))
  | changed (before after : List (Except Fault String × Tree)) {k : String} {l : Leeway}
    (declared : (k, l) ∈ members) {t : Tree} {m : Option Tree} (h : l t m) :
    Object members (.obj none (before ++ (.ok k, t) :: after) .closed)
      (some (.obj none (before ++ (m.map (.ok k, ·)).toList ++ after) .closed))

theorem Object.objects {members : List (String × Leeway)} {t : Tree} {m : Option Tree}
    (h : Object members t m) :
    ∃ fields fields', t = .obj none fields .closed ∧ m = some (.obj none fields' .closed) := by
  cases h with
  | added => exact ⟨_, _, rfl, rfl⟩
  | changed => exact ⟨_, _, rfl, rfl⟩

/-- The second text is the first one rewritten once. -/
def Rewrites (l : Leeway) (s s' : String) : Prop :=
  ∃ t t', Document.Written s t ∧ Document.Written s' t' ∧ l t (some t')

end Leeway

/-! ## Decoders and fields that keep to it -/

/-- What is put in can be passed over. -/
def Skippable (m : Option Tree) : Prop := ∀ t, m = some t → t.skip = .ok ()

/-- Where `n` levels may be entered, a value that is rewritten reads as before. -/
def Decoder.Allows {α : Type} (d : Decoder α) (n : Nat) (l : Leeway) : Prop :=
  ∀ (p : Place) (t t' : Tree) (x : α), n ≤ p.levels → l t (some t') → t'.skip = .ok () →
    d p t = .ok x → d p t' = .ok x

namespace Field
variable {α : Type}

/-- A member, or what stands for one that is left out, reads as `x`. -/
def Reads (f : Field α) (p : Place) (x : α) : Option Tree → Prop
  | some t => f.decoder p t = .ok x
  | none => f.inObject = some x

def Allows (f : Field α) (n : Nat) (l : Leeway) : Prop :=
  ∀ (p : Place) (t : Tree) (m : Option Tree) (x : α), n ≤ p.levels → l t m → Skippable m →
    f.decoder p t = .ok x → f.Reads p x m

variable {f : Field α} {n : Nat}

theorem Allows.strict : f.Allows n .Strict := fun _ _ _ _ _ h => absurd h id

theorem Allows.either {l l' : Leeway} (h : f.Allows n l) (h' : f.Allows n l') : f.Allows n (.Either l l') := by
  rintro p t m x hp (hl | hl) hm hx
  · exact h p t m x hp hl hm hx
  · exact h' p t m x hp hl hm hx

/-- Null, the absence of the member and each of the defaults read the same. -/
theorem Allows.tolerant {x : α} {defaults : List Json} (null : ∀ p, f.decoder p .null = .ok x)
    (absent : f.inObject = some x)
    (default : ∀ j ∈ defaults, ∀ p : Place, n ≤ p.levels → f.decoder p (.ofJson j) = .ok x) :
    f.Allows n (.Tolerant defaults) := by
  intro p t m y hp hl _ hy
  cases hl with
  | leftOut => rw [null] at hy; cases hy; exact absent
  | filled h => rw [null] at hy; cases hy; exact default _ h p hp

/-- One default that can be read one level further in. -/
theorem Allows.tolerant_one {name : String} {default : α} {d : Decoder α} {j : Json}
    (h : ∀ levels surplus, d.orDefault default ⟨levels + 1, surplus⟩ (.ofJson j) = .ok default) :
    (Field.tolerant name default d).Allows (n + 1) (.Tolerant [j]) := by
  refine .tolerant (fun _ => rfl) rfl (List.forall_mem_singleton.2 fun p hp => ?_)
  obtain ⟨levels, surplus⟩ := p
  obtain ⟨m, rfl⟩ := Nat.exists_eq_add_of_le' hp
  exact h (m + n) surplus

/-- A value that may be missing has no default but null. -/
theorem Allows.nullable {name : String} {d : Decoder α} :
    (Field.defaulted name none d.nullable).Allows n (.Tolerant []) :=
  .tolerant (fun _ => rfl) rfl nofun

theorem Allows.object {members : List (String × Leeway)} (h : f.decoder.Allows n (.Object members)) :
    f.Allows n (.Object members) := by
  intro p t m x hp hl hm hx
  obtain ⟨_, _, rfl, rfl⟩ := hl.objects
  exact h p _ _ x hp hl (hm _ rfl) hx

end Field

theorem Decoder.Allows.orDefault {α : Type} {d : Decoder α} {n : Nat} {members : List (String × Leeway)}
    (h : d.Allows n (.Object members)) (default : α) : (d.orDefault default).Allows n (.Object members) := by
  intro p t t' x hp hl hs hx
  obtain ⟨fields, fields', rfl, ht⟩ := hl.objects
  cases ht
  simp only [Decoder.orDefault, Decoder.nullable] at hx ⊢
  cases hd : d p (.obj none fields .closed) with
  | error f => rw [hd] at hx; cases hx
  | ok y => rw [h p _ _ y hp hl hs hd]; rwa [hd] at hx

/-! ## Records -/

namespace Record
variable {α β : Type} {p : Place}

/-- What is checked and built with `t` for the member `k` is checked and built alike with `m`. -/
structure Follows (r : Record α) (p : Place) (k : String) (t : Tree) (m : Option Tree) : Prop where
  check : r.check k p t = .ok () → ∀ t', m = some t' → r.check k p t' = .ok ()
  build : ∀ (expected : String) (position : Nat) (source source' : Entries Tree) (x : α),
    source.find? k = some t → source'.find? k = m → (∀ j, j ≠ k → source'.find? j = source.find? j) →
    r.build expected position p (.named source) = .ok x →
    r.build expected position p (.named source') = .ok x

/-- Where `n` levels may be entered, the record keeps to the leeway of its members. -/
structure Allows (r : Record α) (n : Nat) (members : List (String × Leeway)) : Prop where
  names : r.names = members.map (·.1)
  /-- No other member is looked at. -/
  frame : ∀ (expected : String) (position : Nat) (p : Place) (source source' : Entries Tree) (x : α),
    (∀ k ∈ r.names, source'.find? k = source.find? k) →
    r.build expected position p (.named source) = .ok x →
    r.build expected position p (.named source') = .ok x
  follows : ∀ p : Place, n ≤ p.levels → ∀ e ∈ members, ∀ t m, e.2 t m → Skippable m → r.Follows p e.1 t m

section
variable (expected : String) (position : Nat) (p : Place) (source : Entries Tree)

theorem takeField_named (f : Field α) (x : α) :
    takeField f expected position p (.named source) = .ok x ↔ f.Reads p x (source.find? f.name) := by
  rw [takeField]
  cases source.find? f.name with
  | some t => exact Iff.rfl
  | none =>
    cases h : f.inObject with
    | none => simp [Field.Reads, h]
    | some y => simp [Field.Reads, h]

theorem build_field (r : Record (α → β)) (f : Field α) (y : β) :
    (r.field f).build expected position p (.named source) = .ok y ↔
      ∃ g x, r.build expected position p (.named source) = .ok g ∧ f.Reads p x (source.find? f.name) ∧
        g x = y := by
  constructor
  · intro h
    obtain ⟨g, hg, h⟩ := bind_ok h
    obtain ⟨x, hx, h⟩ := bind_ok h
    cases h
    exact ⟨g, x, hg, (takeField_named ..).1 hx, rfl⟩
  · rintro ⟨g, x, hg, hx, rfl⟩
    show (do let g ← r.build expected position p (.named source); _) = _
    rw [hg]
    show (do let x ← takeField f expected (position + r.names.length) p (.named source); _) = _
    rw [(takeField_named ..).2 hx]
    rfl

end

theorem check_field (r : Record (α → β)) (f : Field α) (p : Place) (t : Tree) :
    (r.field f).check f.name p t = .ok () ↔ ∃ x, f.decoder p t = .ok x := by
  show (if f.name = f.name then (f.decoder p t).map fun _ => () else _) = _ ↔ _
  rw [if_pos rfl]
  cases f.decoder p t with
  | error g => exact ⟨nofun, fun ⟨_, h⟩ => nomatch h⟩
  | ok x => exact ⟨fun _ => ⟨x, rfl⟩, fun _ => rfl⟩

namespace Allows
variable {n : Nat} {members : List (String × Leeway)}

theorem pure (x : α) (n : Nat) : Allows (Record.pure x) n [] where
  names := rfl
  frame _ _ _ _ _ _ _ h := h
  follows _ _ _ h := nomatch h

/-- One more field, with its leeway. -/
theorem field {r : Record (α → β)} (h : r.Allows n members) {f : Field α} {l : Leeway} (hf : f.Allows n l)
    (new : f.name ∉ members.map (·.1)) : (r.field f).Allows n (members ++ [(f.name, l)]) where
  names := by rw [Record.field, h.names, List.map_append]; rfl
  frame expected position p source source' y same hy := by
    obtain ⟨g, x, hg, hx, rfl⟩ := (build_field ..).1 hy
    refine (build_field ..).2 ⟨g, x, h.frame _ _ _ _ _ _ ?_ hg, ?_, rfl⟩
    · exact fun k hk => same k (List.mem_append_left _ hk)
    · rwa [same f.name (List.mem_append_right _ (List.mem_singleton_self _))]
  follows p hp e he t m hl hm := by
    rcases List.mem_append.1 he with he | he
    · -- The new field is another one, and is read as before.
      have other : e.1 ≠ f.name := fun heq => new (List.mem_map.2 ⟨e, he, heq⟩)
      have first := h.follows p hp e he t m hl hm
      constructor
      · show (if e.1 = f.name then _ else r.check e.1 p t) = _ → ∀ t', _ → (if e.1 = f.name then _ else _) = _
        rw [if_neg other]
        intro hc t' ht
        rw [if_neg other]
        exact first.check hc t' ht
      · intro expected position source source' y ht hm' same hy
        obtain ⟨g, x, hg, hx, rfl⟩ := (build_field ..).1 hy
        refine (build_field ..).2 ⟨g, x, first.build _ _ _ _ _ ht hm' same hg, ?_, rfl⟩
        rwa [same f.name other.symm]
    · -- The new field is the one that is rewritten; those before it are left alone.
      rw [List.mem_singleton.1 he] at hl ⊢
      constructor
      · intro hc t' ht
        obtain ⟨x, hx⟩ := (check_field ..).1 hc
        have hx' := hf p t m x hp hl hm hx
        rw [ht] at hx'
        exact (check_field ..).2 ⟨x, hx'⟩
      · intro expected position source source' y ht hm' same hy
        obtain ⟨g, x, hg, hx, rfl⟩ := (build_field ..).1 hy
        refine (build_field ..).2 ⟨g, x, h.frame _ _ _ _ _ _ (fun k hk => same k ?_) hg, ?_, rfl⟩
        · rintro rfl
          exact new (h.names ▸ hk)
        · rw [ht] at hx
          rw [hm']
          exact hf p t m x hp hl hm hx

end Allows

/-! ## Collecting the members of an object -/

section
variable {r : Record α} {fields fields' : List (Except Fault String × Tree)} {seen out : Entries Tree}

theorem collect_append (seen : Entries Tree) :
    r.collect p seen (fields ++ fields') = (do let seen ← r.collect p seen fields; r.collect p seen fields') := by
  induction fields generalizing seen with
  | nil => rfl
  | cons e fields ih =>
    obtain ⟨k, t⟩ := e
    cases k with
    | error f => rfl
    | ok k =>
      show (if k ∈ r.names then _ else _) = ((if k ∈ r.names then _ else _) >>= _)
      split
      · split
        · rfl
        · cases hc : r.check k p t with
          | error f => rfl
          | ok u => exact ih _
      · cases ht : t.skip with
        | error f => rfl
        | ok u => exact ih _

/-- A member that is not declared is passed over. -/
theorem collect_undeclared {k : String} (h : k ∉ r.names) {t : Tree} :
    r.collect p seen ((.ok k, t) :: fields) = .ok out ↔ t.skip = .ok () ∧ r.collect p seen fields = .ok out := by
  show (if k ∈ r.names then _ else _) = _ ↔ _
  rw [if_neg h]
  cases t.skip with
  | error f => exact ⟨nofun, fun h => nomatch h.1⟩
  | ok u => exact ⟨fun h => ⟨rfl, h⟩, fun h => h.2⟩

/-- A declared member is new and passes its check. -/
theorem collect_declared_iff {k : String} (h : k ∈ r.names) {t : Tree} :
    r.collect p seen ((.ok k, t) :: fields) = .ok out ↔
      seen.find? k = none ∧ r.check k p t = .ok () ∧ r.collect p (seen ++ [(k, t)]) fields = .ok out := by
  show (if k ∈ r.names then (if (seen.find? k).isSome then _ else _) else _) = _ ↔ _
  rw [if_pos h]
  cases seen.find? k with
  | some u => exact ⟨nofun, fun h => nomatch h.1⟩
  | none =>
    cases r.check k p t with
    | error f => exact ⟨nofun, fun h => nomatch h.2.1⟩
    | ok u => exact ⟨fun h => ⟨rfl, rfl, h⟩, fun h => h.2.2⟩

theorem find?_snoc {j k : String} {t : Tree} :
    Entries.find? j (seen ++ [(k, t)]) = none ↔ seen.find? j = none ∧ k ≠ j := by
  rw [Entries.find?_append, Option.or_eq_none_iff, Entries.find?_cons]
  by_cases h : k = j
  · rw [if_pos h]
    exact ⟨fun hn => (nomatch hn.2), fun hn => absurd h hn.2⟩
  · rw [if_neg h]
    exact ⟨fun hn => ⟨hn.1, h⟩, fun hn => ⟨hn.1, rfl⟩⟩

/-- Which members are found does not depend on those before them, as long as none comes twice. -/
theorem collect_found (h : r.collect p seen fields = .ok out) :
    ∃ found, out = seen ++ found ∧ (∀ e ∈ found, seen.find? e.1 = none) ∧
      ∀ seen' : Entries Tree, (∀ e ∈ found, seen'.find? e.1 = none) →
        r.collect p seen' fields = .ok (seen' ++ found) := by
  induction fields generalizing seen with
  | nil =>
    cases h
    exact ⟨[], (List.append_nil _).symm, nofun, fun seen' _ => congrArg Except.ok (List.append_nil _).symm⟩
  | cons e fields ih =>
    obtain ⟨k, t⟩ := e
    obtain ⟨k, rfl, -⟩ := bind_ok h
    by_cases hk : k ∈ r.names
    · obtain ⟨new, checked, h⟩ := (collect_declared_iff hk).1 h
      obtain ⟨found, rfl, free, again⟩ := ih h
      refine ⟨(k, t) :: found, by rw [List.append_assoc, List.singleton_append], ?_, fun seen' free' => ?_⟩
      · exact List.forall_mem_cons.2 ⟨new, fun e he => (find?_snoc.1 (free e he)).1⟩
      · obtain ⟨new', free'⟩ := List.forall_mem_cons.1 free'
        refine (collect_declared_iff hk).2 ⟨new', checked, ?_⟩
        rw [again _ fun e he => find?_snoc.2 ⟨free' e he, (find?_snoc.1 (free e he)).2⟩,
          List.append_assoc, List.singleton_append]
    · obtain ⟨skipped, h⟩ := (collect_undeclared hk).1 h
      obtain ⟨found, hout, free, again⟩ := ih h
      exact ⟨found, hout, free, fun seen' free' => (collect_undeclared hk).2 ⟨skipped, again seen' free'⟩⟩

/-- With another value for a declared member, or without it, all other members are found as before. -/
theorem collect_changed {before after : List (Except Fault String × Tree)} {k : String} (hk : k ∈ r.names)
    {t : Tree} {m : Option Tree} (h : r.collect p [] (before ++ (.ok k, t) :: after) = .ok out)
    (check : r.check k p t = .ok () → ∀ t', m = some t' → r.check k p t' = .ok ()) :
    ∃ out' : Entries Tree, r.collect p [] (before ++ (m.map (.ok k, ·)).toList ++ after) = .ok out' ∧
      out.find? k = some t ∧ out'.find? k = m ∧ ∀ j, j ≠ k → out'.find? j = out.find? j := by
  rw [collect_append] at h
  obtain ⟨seen, hs, h⟩ := bind_ok h
  obtain ⟨new, checked, h⟩ := (collect_declared_iff hk).1 h
  obtain ⟨found, rfl, free, again⟩ := collect_found h
  have unseen : Entries.find? k found = none :=
    Entries.find?_eq_none fun e he => ((find?_snoc.1 (free e he)).2).symm
  refine ⟨seen ++ (m.map (k, ·)).toList ++ found, ?_, ?_, ?_, fun j hj => ?_⟩
  · rw [List.append_assoc, collect_append, hs]
    cases m with
    | none =>
      show r.collect p seen after = .ok (seen ++ [] ++ found)
      rw [List.append_nil]
      exact again seen fun e he => (find?_snoc.1 (free e he)).1
    | some t' =>
      refine (collect_declared_iff hk).2 ⟨new, check checked t' rfl, again _ fun e he => ?_⟩
      exact find?_snoc.2 (find?_snoc.1 (free e he))
  · rw [Entries.find?_append, Entries.find?_append, new, Entries.find?_cons, if_pos rfl]
    rfl
  · rw [Entries.find?_append, Entries.find?_append, new, unseen]
    cases m with
    | none => rfl
    | some t' => rw [Option.map_some, Option.toList_some, Entries.find?_cons, if_pos rfl]; rfl
  · rw [Entries.find?_append, Entries.find?_append, Entries.find?_append, Entries.find?_append,
      Entries.find?_cons, if_neg hj.symm]
    cases m with
    | none => rfl
    | some t' => rw [Option.map_some, Option.toList_some, Entries.find?_cons, if_neg hj.symm]

end

/-- A record keeps to the leeway of its object, one level further out. -/
theorem Allows.decoder {r : Record α} {n : Nat} {members : List (String × Leeway)} (h : r.Allows n members)
    (title : String) : (r.decoder title).Allows (n + 1) (.Object members) := by
  intro p t t' x hp hl hs hx
  obtain ⟨p', he, hp'⟩ := Place.enter_succ hp
  have entered : ∀ fields, r.decoder title p (.obj none fields .closed) = (do
      let seen ← r.collect p' [] fields
      r.build s!"struct {title}" 0 p' (.named seen)) := by
    intro fields
    rw [Record.decoder, he]
    rfl
  cases hl with
  | added before after new u =>
    rw [entered] at hx ⊢
    rw [← h.names] at new
    have skipped := Tree.skip_obj.1 hs _ (List.mem_append_right _ List.mem_cons_self)
    obtain ⟨seen, hc, hb⟩ := bind_ok hx
    rw [collect_append] at hc ⊢
    obtain ⟨front, hf, hc⟩ := bind_ok hc
    rw [hf]
    show (do let seen ← r.collect p' front _; _) = _
    rw [(collect_undeclared new).2 ⟨skipped, hc⟩]
    exact hb
  | @changed before after k l declared t m hl =>
    rw [entered] at hx ⊢
    have hk : k ∈ r.names := h.names ▸ List.mem_map.2 ⟨_, declared, rfl⟩
    have skippable : Skippable m := by
      rintro u rfl
      exact Tree.skip_obj.1 hs _ (List.mem_append_left _ (List.mem_append_right _ List.mem_cons_self))
    have follows := h.follows p' hp' _ declared t m hl skippable
    obtain ⟨seen, hc, hb⟩ := bind_ok hx
    obtain ⟨seen', hc', before, after, others⟩ := collect_changed hk hc follows.check
    rw [hc']
    exact follows.build _ _ _ _ _ before after others hb

end Record

/-! ## Texts -/

/-- Printed values are documents, and are rewritten as these. -/
theorem Leeway.rewrites_text {l : Leeway} {j j' : Json} (whole : j.IntegersOnly) (whole' : j'.IntegersOnly)
    (h : l (.ofJson j) (some (.ofJson j'))) : l.Rewrites j.text j'.text :=
  ⟨_, _, written_text whole, written_text whole', h⟩

theorem Decoder.Allows.ofText {α : Type} {d : Decoder α} {n : Nat} {l : Leeway} (h : d.Allows n l) (hn : n ≤ 127)
    {s s' : String} (hr : l.Rewrites s s') {x : α} (hx : d.ofText s = .ok x) : d.ofText s' = .ok x := by
  obtain ⟨t, t', hs, hs', hl⟩ := hr
  have first := ofText_ok hx
  rw [hs.read] at first
  have second := h .ofText t t' x hn hl hs'.skip first
  rw [Decoder.ofText, hs'.read]
  dsimp only
  rw [second]
  rfl

/-- Any number of times over. -/
theorem Decoder.Allows.ofText_of_rewritten {α : Type} {d : Decoder α} {n : Nat} {l : Leeway} (h : d.Allows n l)
    (hn : n ≤ 127) {s s' : String} (hr : Relation.ReflTransGen l.Rewrites s s') {x : α}
    (hx : d.ofText s = .ok x) : d.ofText s' = .ok x := by
  induction hr with
  | refl => exact hx
  | tail _ once ih => exact h.ofText hn once ih

end CloudProvider.Json
