import CloudProvider.Json.Record
import CloudProvider.Proofs.Json.Reader
import CloudProvider.Proofs.SortedMap

/-! # Decoding what was printed, and what decoding gives

A decoder of any value gives back a value that is canonical and does not nest deeper than the place
allows (`json_ofJson`), and gives nothing else (`json_ok`). Parts of a document are judged by what they
may hold at their place (`Fits`).
-/

namespace CloudProvider.Json

/-! ## Parts of a value -/

theorem canonicalItems {js : List Json} : CanonicalItems js ↔ ∀ j ∈ js, j.Canonical := by
  induction js with
  | nil => exact ⟨fun _ _ h => (nomatch h), fun _ => trivial⟩
  | cons j js ih => rw [CanonicalItems, ih, List.forall_mem_cons]

theorem canonicalFields {fields : List (String × Json)} :
    CanonicalFields fields ↔ ∀ e ∈ fields, e.2.Canonical := by
  induction fields with
  | nil => exact ⟨fun _ _ h => (nomatch h), fun _ => trivial⟩
  | cons e fields ih => rw [CanonicalFields, ih, List.forall_mem_cons]

theorem integersOnlyItems {js : List Json} : IntegersOnlyItems js ↔ ∀ j ∈ js, j.IntegersOnly := by
  induction js with
  | nil => exact ⟨fun _ _ h => (nomatch h), fun _ => trivial⟩
  | cons j js ih => rw [IntegersOnlyItems, ih, List.forall_mem_cons]

theorem integersOnlyFields {fields : List (String × Json)} :
    IntegersOnlyFields fields ↔ ∀ e ∈ fields, e.2.IntegersOnly := by
  induction fields with
  | nil => exact ⟨fun _ _ h => (nomatch h), fun _ => trivial⟩
  | cons e fields ih => rw [IntegersOnlyFields, ih, List.forall_mem_cons]

theorem depthItems_le {js : List Json} {n : Nat} : depthItems js ≤ n ↔ ∀ j ∈ js, j.depth ≤ n := by
  induction js with
  | nil => exact ⟨fun _ _ h => (nomatch h), fun _ => Nat.zero_le n⟩
  | cons j js ih => rw [depthItems, Nat.max_le, ih, List.forall_mem_cons]

theorem depthFields_le {fields : List (String × Json)} {n : Nat} :
    depthFields fields ≤ n ↔ ∀ e ∈ fields, e.2.depth ≤ n := by
  induction fields with
  | nil => exact ⟨fun _ _ h => (nomatch h), fun _ => Nat.zero_le n⟩
  | cons e fields ih => rw [depthFields, Nat.max_le, ih, List.forall_mem_cons]

/-- A value that a document may hold where `levels` may still be entered. -/
structure Fits (levels : Nat) (j : Json) : Prop where
  canonical : j.Canonical
  integersOnly : j.IntegersOnly
  shallow : j.depth ≤ levels

/-- Members that an object may hold where `levels` may still be entered from within it. -/
def Members.Fit (levels : Nat) (m : Members) : Prop := ∀ e ∈ m.entries, e.2.Fits levels

namespace Fits
variable {levels : Nat}

theorem str (s : String) : (Json.str s).Fits levels := ⟨trivial, trivial, Nat.zero_le _⟩

theorem mono {levels' : Nat} {j : Json} (h : j.Fits levels) (hl : levels ≤ levels') : j.Fits levels' :=
  ⟨h.canonical, h.integersOnly, Nat.le_trans h.shallow hl⟩

theorem obj {fs : Entries Json} (ha : fs.Ascending) (h : ∀ e ∈ fs, e.2.Fits levels) :
    (Json.obj fs).Fits (levels + 1) where
  canonical := ⟨ha, canonicalFields.2 fun e he => (h e he).canonical⟩
  integersOnly := integersOnlyFields.2 fun e he => (h e he).integersOnly
  shallow := Nat.succ_le_succ (depthFields_le.2 fun e he => (h e he).shallow)

/-- The fields of an object as members. -/
theorem fields {fs : List (String × Json)} (h : (Json.obj fs).Fits (levels + 1)) :
    Entries.Ascending fs ∧ ∀ e ∈ fs, e.2.Fits levels := by
  obtain ⟨⟨ha, hc⟩, hi, hd⟩ := h
  refine ⟨ha, fun e he => ⟨canonicalFields.1 hc e he, integersOnlyFields.1 hi e he, ?_⟩⟩
  exact depthFields_le.1 (Nat.le_of_succ_le_succ hd) e he

end Fits

namespace Members
variable {levels : Nat} {m : Members}

theorem Fit.empty (levels : Nat) : Members.Fit levels ∅ := by
  intro e he
  exact absurd he List.not_mem_nil

theorem Fit.find? (h : m.Fit levels) {k : String} {j : Json} (hf : m.find? k = some j) :
    j.Fits levels := h _ (Entries.mem_of_find? hf)

theorem Fit.insert (h : m.Fit levels) (k : String) {j : Json} (hj : j.Fits levels) :
    Members.Fit levels (m.insert k j) := by
  intro e he
  rcases Entries.mem_insert he with rfl | he
  · exact hj
  · exact h e he

theorem Fit.singleton (k : String) {j : Json} (hj : j.Fits levels) :
    Members.Fit levels (.singleton k j) := by
  intro e he
  rw [List.mem_singleton.1 he]
  exact hj

theorem Fit.integersOnly (h : m.Fit levels) : (ofMembers m).IntegersOnly :=
  integersOnlyFields.2 fun e he => (h e he).integersOnly

end Members

/-! ## Any value -/

namespace Tree

mutual
/-- In a value there is no fault for one who passes over it. -/
theorem skip_ofJson : (j : Json) → (ofJson j).skip = .ok ()
  | .null | .bool _ | .num _ | .str _ => rfl
  | .arr js => skip_arr.2 (skip_ofItems js)
  | .obj fields => skip_obj.2 (skip_ofFields fields)
termination_by structural j => j

theorem skip_ofItems : (js : List Json) → ∀ t ∈ ofItems js, t.skip = .ok ()
  | [] => List.forall_mem_nil _
  | j :: js => List.forall_mem_cons.2 ⟨skip_ofJson j, skip_ofItems js⟩
termination_by structural js => js

theorem skip_ofFields : (fields : List (String × Json)) → ∀ e ∈ ofFields fields, e.2.skip = .ok ()
  | [] => List.forall_mem_nil _
  | (_, j) :: fields => List.forall_mem_cons.2 ⟨skip_ofJson j, skip_ofFields fields⟩
termination_by structural fields => fields
end

end Tree

theorem Place.enter_succ {p : Place} {n : Nat} (h : n + 1 ≤ p.levels) :
    ∃ p' : Place, p.enter = .ok p' ∧ n ≤ p'.levels := by
  obtain ⟨levels, surplus⟩ := p
  cases levels with
  | zero => exact absurd h (Nat.not_succ_le_zero n)
  | succ levels => exact ⟨_, rfl, Nat.le_of_succ_le_succ h⟩

theorem Place.enter_ok {p p' : Place} (h : p.enter = .ok p') : p.levels = p'.levels + 1 := by
  obtain ⟨levels, surplus⟩ := p
  cases levels with
  | zero => cases h
  | succ levels => cases h; rfl

/-- The bind of a computation that may fail, taken apart. -/
theorem bind_ok {ε α β : Type} {x : Except ε α} {f : α → Except ε β} {y : β}
    (h : (x >>= f) = .ok y) : ∃ a, x = .ok a ∧ f a = .ok y := by
  cases x with
  | error e => cases h
  | ok a => exact ⟨a, rfl, h⟩

theorem ok_of_toOption {ε α : Type} {x : Except ε α} {y : α} (h : x.toOption = some y) : x = .ok y := by
  cases x with
  | error e => cases h
  | ok a => cases h; rfl

namespace Decoder

mutual
theorem json_ofJson : (j : Json) → ∀ {p : Place}, j.Canonical → j.depth ≤ p.levels →
    json p (.ofJson j) = .ok j
  | .null, _, _, _ | .bool _, _, _, _ | .num _, _, _, _ | .str _, _, _, _ => rfl
  | .arr js, p, hc, hd => by
    obtain ⟨p', hp, hl⟩ := Place.enter_succ hd
    rw [Tree.ofJson, json, hp]
    show (do let js ← jsonItems p' (Tree.ofItems js); _) = _
    rw [jsonItems_ofItems js hc hl]
    rfl
  | .obj fields, p, hc, hd => by
    obtain ⟨p', hp, hl⟩ := Place.enter_succ hd
    rw [Tree.ofJson, json, hp]
    show (do let entries ← jsonFields p' (Tree.ofFields fields); _) = _
    rw [jsonFields_ofFields fields hc.2 hl]
    show Except.ok (Json.obj (Entries.ofList fields)) = _
    rw [Entries.ofList_of_ascending hc.1]
termination_by structural j => j

theorem jsonItems_ofItems : (js : List Json) → ∀ {p : Place}, CanonicalItems js →
    depthItems js ≤ p.levels → jsonItems p (Tree.ofItems js) = .ok js
  | [], _, _, _ => rfl
  | j :: js, p, hc, hd => by
    obtain ⟨hj, hjs⟩ := Nat.max_le.1 hd
    rw [Tree.ofItems, jsonItems, json_ofJson j hc.1 hj, jsonItems_ofItems js hc.2 hjs]
    rfl
termination_by structural js => js

theorem jsonFields_ofFields : (fields : List (String × Json)) → ∀ {p : Place}, CanonicalFields fields →
    depthFields fields ≤ p.levels → jsonFields p (Tree.ofFields fields) = .ok fields
  | [], _, _, _ => rfl
  | (k, j) :: fields, p, hc, hd => by
    obtain ⟨hj, hfields⟩ := Nat.max_le.1 hd
    rw [Tree.ofFields, jsonFields, json_ofJson j hc.1 hj, jsonFields_ofFields fields hc.2 hfields]
    rfl
termination_by structural fields => fields
end

mutual
/-- A value that was decoded is canonical, and no deeper than its place allows. -/
theorem json_ok : (t : Tree) → ∀ {p : Place} {j : Json}, json p t = .ok j →
    j.Canonical ∧ j.depth ≤ p.levels
  | .null, _, _, h | .bool _, _, _, h => by cases h; exact ⟨trivial, Nat.zero_le _⟩
  | .num n, _, _, h => by cases n <;> cases h; exact ⟨trivial, Nat.zero_le _⟩
  | .str s, _, _, h => by cases s <;> cases h; exact ⟨trivial, Nat.zero_le _⟩
  | .malformed _, _, _, h | .broken _, _, _, h => by cases h
  | .arr ts ending, p, j, h => by
    obtain ⟨p', hp, h⟩ := bind_ok h
    obtain ⟨js, hjs, h⟩ := bind_ok h
    obtain ⟨-, -, h⟩ := bind_ok h
    cases h
    obtain ⟨hc, hd⟩ := jsonItems_ok ts hjs
    exact ⟨hc, Place.enter_ok hp ▸ Nat.succ_le_succ hd⟩
  | .obj _ fields ending, p, j, h => by
    obtain ⟨p', hp, h⟩ := bind_ok h
    obtain ⟨entries, hes, h⟩ := bind_ok h
    obtain ⟨-, -, h⟩ := bind_ok h
    cases h
    have hes := jsonFields_ok fields hes
    refine ⟨⟨Entries.ascending_ofList entries, ?_⟩, Place.enter_ok hp ▸ Nat.succ_le_succ ?_⟩
    · exact canonicalFields.2 fun e he => (hes e (Entries.mem_ofList he)).1
    · exact depthFields_le.2 fun e he => (hes e (Entries.mem_ofList he)).2
termination_by structural t => t

theorem jsonItems_ok : (ts : List Tree) → ∀ {p : Place} {js : List Json}, jsonItems p ts = .ok js →
    CanonicalItems js ∧ depthItems js ≤ p.levels
  | [], _, _, h => by cases h; exact ⟨trivial, Nat.zero_le _⟩
  | t :: ts, p, js, h => by
    obtain ⟨j, hj, h⟩ := bind_ok h
    obtain ⟨rest, hr, h⟩ := bind_ok h
    cases h
    obtain ⟨hc, hd⟩ := json_ok t hj
    obtain ⟨hcs, hds⟩ := jsonItems_ok ts hr
    exact ⟨⟨hc, hcs⟩, Nat.max_le.2 ⟨hd, hds⟩⟩
termination_by structural ts => ts

theorem jsonFields_ok : (fields : List (Except Fault String × Tree)) → ∀ {p : Place}
    {entries : List (String × Json)}, jsonFields p fields = .ok entries →
    ∀ e ∈ entries, e.2.Canonical ∧ e.2.depth ≤ p.levels
  | [], _, _, h => by cases h; exact fun _ he => nomatch he
  | (k, t) :: fields, p, entries, h => by
    obtain ⟨k', -, h⟩ := bind_ok h
    obtain ⟨j, hj, h⟩ := bind_ok h
    obtain ⟨rest, hr, h⟩ := bind_ok h
    cases h
    exact List.forall_mem_cons.2 ⟨json_ok t hj, jsonFields_ok fields hr⟩
termination_by structural fields => fields
end

/-! ## Lists, maps and whole texts -/

section
variable {α : Type} {d : Decoder α} {p : Place}

theorem ofText_text (d : Decoder α) {j : Json} (h : j.IntegersOnly) :
    d.ofText j.text = d .ofText (.ofJson j) := by
  rw [ofText, read_text h]
  dsimp only
  cases d .ofText (.ofJson j) <;> rfl

theorem ofText_ok {s : String} {x : α} (h : d.ofText s = .ok x) :
    d .ofText (Document.read s).tree = .ok x := by
  obtain ⟨y, hy, h⟩ := bind_ok h
  split at h
  · cases h
  · cases h
    exact hy

theorem orDefault_ok {default x : α} {t : Tree} (h : d.orDefault default p t = .ok x) :
    x = default ∨ d p t = .ok x := by
  unfold orDefault nullable at h
  split at h
  · cases h; exact .inl rfl
  · cases hd : d p t with
    | error f => rw [hd] at h; cases h
    | ok y => rw [hd] at h; cases h; exact .inr rfl

theorem orDefault_of_ok {default x : α} {t : Tree} (ht : t ≠ .null) (h : d p t = .ok x) :
    d.orDefault default p t = .ok x := by
  unfold orDefault nullable
  split
  · exact absurd rfl ht
  · rw [h]; rfl

/-- A variant is found again by its name, if no other has this name. -/
theorem variant_ofJson {variants : List (String × α)} {name : String} {x : α}
    (h : variants.lookup name = some x) : variant variants p (.ofJson (.str name)) = .ok x := by
  show variantNamed variants name = .ok x
  rw [variantNamed, h]

/-- What may be left out is read as it stands, unless it is null. -/
theorem nullable_ofJson {j : Json} {x : α} (hj : j ≠ .null) (h : d p (.ofJson j) = .ok x) :
    d.nullable p (.ofJson j) = .ok (some x) := by
  unfold nullable
  split
  · rename_i heq
    cases j <;> first | exact absurd rfl hj | cases heq
  · rw [h]
    rfl

theorem list_map {γ : Type} {toJson : γ → Json} {value : γ → α} {xs : List γ} {n : Nat} (hp : n + 1 ≤ p.levels)
    (hd : ∀ x ∈ xs, ∀ p : Place, n ≤ p.levels → d p (.ofJson (toJson x)) = .ok (value x)) :
    d.list p (.ofJson (.arr (xs.map toJson))) = .ok (xs.map value) := by
  obtain ⟨p', he, hl⟩ := Place.enter_succ hp
  have hi : items d p' (Tree.ofItems (xs.map toJson)) = .ok (xs.map value) := by
    induction xs with
    | nil => rfl
    | cons x xs ih =>
      rw [List.map_cons, Tree.ofItems, items, hd x List.mem_cons_self p' hl,
        ih fun y hy => hd y (List.mem_cons_of_mem _ hy)]
      rfl
  rw [Tree.ofJson, list, he]
  show (do let xs ← items d p' (Tree.ofItems (xs.map toJson)); _) = _
  rw [hi]
  rfl

theorem list_ofJson {toJson : α → Json} {xs : List α} {n : Nat} (hp : n + 1 ≤ p.levels)
    (hd : ∀ x ∈ xs, ∀ p : Place, n ≤ p.levels → d p (.ofJson (toJson x)) = .ok x) :
    d.list p (.ofJson (.arr (xs.map toJson))) = .ok xs := by
  have all := list_map hp hd
  rwa [List.map_id'] at all

theorem items_json_ok {ts : List Tree} {js : List Json} (h : items json p ts = .ok js) :
    ∀ j ∈ js, j.Canonical ∧ j.depth ≤ p.levels := by
  induction ts generalizing js with
  | nil => cases h; exact fun _ h => nomatch h
  | cons t ts ih =>
    obtain ⟨j, hj, h⟩ := bind_ok h
    obtain ⟨rest, hr, h⟩ := bind_ok h
    cases h
    exact List.forall_mem_cons.2 ⟨json_ok t hj, ih hr⟩

theorem list_json_ok {t : Tree} {js : List Json} (h : list json p t = .ok js) :
    ∀ j ∈ js, j.Canonical ∧ j.depth + 1 ≤ p.levels := by
  unfold list at h
  split at h
  · rename_i ts ending
    obtain ⟨p', hp, h⟩ := bind_ok h
    obtain ⟨js', hjs, h⟩ := bind_ok h
    obtain ⟨-, -, h⟩ := bind_ok h
    cases h
    rw [Place.enter_ok hp]
    exact fun j hj => (items_json_ok hjs j hj).imp_right Nat.succ_le_succ
  · obtain ⟨_, _, h⟩ := bind_ok h
    cases h

theorem map_ofMembers {m : Members} {n : Nat} (hp : n + 1 ≤ p.levels) (h : m.Fit n) :
    map json p (.ofJson (.ofMembers m)) = .ok m := by
  obtain ⟨p', he, hl⟩ := Place.enter_succ hp
  have hm : members json p' (Tree.ofFields m.entries) = .ok m.entries := by
    have fit : ∀ e ∈ m.entries, json p' (.ofJson e.2) = .ok e.2 := fun e he =>
      json_ofJson e.2 (h e he).canonical (Nat.le_trans (h e he).shallow hl)
    revert fit
    generalize m.entries = entries
    intro fit
    induction entries with
    | nil => rfl
    | cons e entries ih =>
      rw [Tree.ofFields, members, fit e List.mem_cons_self,
        ih fun f hf => fit f (List.mem_cons_of_mem _ hf)]
      rfl
  rw [ofMembers, Tree.ofJson, map, he]
  show (do let entries ← members json p' (Tree.ofFields m.entries); _) = _
  rw [hm]
  show Except.ok (SortedMap.ofList m.entries) = _
  rw [show SortedMap.ofList m.entries = m from SortedMap.ext (Entries.ofList_of_ascending m.ascending)]

theorem members_json_ok {fields : List (Except Fault String × Tree)} {entries : List (String × Json)}
    (h : members json p fields = .ok entries) :
    ∀ e ∈ entries, e.2.Canonical ∧ e.2.depth ≤ p.levels := by
  induction fields generalizing entries with
  | nil => cases h; exact fun _ h => nomatch h
  | cons f fields ih =>
    obtain ⟨k, -, h⟩ := bind_ok h
    obtain ⟨j, hj, h⟩ := bind_ok h
    obtain ⟨rest, hr, h⟩ := bind_ok h
    cases h
    exact List.forall_mem_cons.2 ⟨json_ok _ hj, ih hr⟩

theorem map_json_ok {t : Tree} {m : Members} (h : map json p t = .ok m) :
    ∀ e ∈ m.entries, e.2.Canonical ∧ e.2.depth + 1 ≤ p.levels := by
  unfold map at h
  split at h
  · rename_i fields ending
    obtain ⟨p', hp, h⟩ := bind_ok h
    obtain ⟨entries, hes, h⟩ := bind_ok h
    obtain ⟨-, -, h⟩ := bind_ok h
    cases h
    rw [Place.enter_ok hp]
    exact fun e he => (members_json_ok hes e (Entries.mem_ofList he)).imp_right Nat.succ_le_succ
  · obtain ⟨_, _, h⟩ := bind_ok h
    cases h

end

end Decoder

/-! ## Records -/

namespace Field
variable {α : Type} (name : String) (default : α) (d : Decoder α)

@[simp] theorem name_required : (required name d).name = name := rfl

@[simp] theorem name_defaulted : (defaulted name default d).name = name := rfl

@[simp] theorem name_nullable : (nullable name d).name = name := rfl

@[simp] theorem name_tolerant : (tolerant name default d).name = name := rfl

end Field

namespace Record
variable {α β : Type} {p : Place}

/-- A member that has been taken was decoded or stands for one that is left out. -/
theorem takeField_ok {f : Field α} {expected : String} {position : Nat} {source : Source} {x : α}
    (h : takeField f expected position p source = .ok x) :
    (∃ t, f.decoder p t = .ok x) ∨ f.inObject = some x ∨ f.inArray = some x := by
  unfold takeField at h
  split at h
  · split at h
    · exact .inl ⟨_, h⟩
    · rename_i hf; cases h; exact .inr (.inl hf)
    · cases h
  · split at h
    · exact .inl ⟨_, h⟩
    · cases h
    · rename_i hf; cases h; exact .inr (.inr hf)
    · cases h

/-- The last member of a record, and those before it. -/
theorem build_field_ok {r : Record (α → β)} {f : Field α} {expected : String} {position : Nat}
    {source : Source} {y : β} (h : (r.field f).build expected position p source = .ok y) :
    ∃ g x, r.build expected position p source = .ok g ∧ y = g x ∧
      ((∃ t, f.decoder p t = .ok x) ∨ f.inObject = some x ∨ f.inArray = some x) := by
  obtain ⟨g, hg, h⟩ := bind_ok h
  obtain ⟨x, hx, h⟩ := bind_ok h
  cases h
  exact ⟨g, x, hg, rfl, takeField_ok hx⟩

/-- However a record is written, it is built one level further in. -/
theorem decoder_ok {title : String} {r : Record α} {t : Tree} {x : α}
    (h : r.decoder title p t = .ok x) :
    ∃ (p' : Place) (expected : String) (source : Source),
      p.levels = p'.levels + 1 ∧ r.build expected 0 p' source = .ok x := by
  unfold decoder at h
  split at h
  · obtain ⟨p', hp, h⟩ := bind_ok h
    obtain ⟨seen, -, h⟩ := bind_ok h
    obtain ⟨-, -, h⟩ := bind_ok h
    exact ⟨p', _, _, Place.enter_ok hp, h⟩
  · obtain ⟨p', hp, h⟩ := bind_ok h
    obtain ⟨y, hy, h⟩ := bind_ok h
    split at h
    · cases h
    · split at h
      · cases h
        exact ⟨p', _, _, Place.enter_ok hp, hy⟩
      · cases h
  · obtain ⟨_, _, h⟩ := bind_ok h
    cases h

/-- Members come once each. Those that are declared are collected if each can be read; others are passed over. -/
theorem collect_members {r : Record α} {members : List (String × Json)} (seen : Entries Tree)
    (once : (members.map (·.1)).Nodup) (unseen : ∀ e ∈ members, Entries.find? e.1 seen = none)
    (check : ∀ e ∈ members, e.1 ∈ r.names → r.check e.1 p (.ofJson e.2) = .ok ()) :
    r.collect p seen (Tree.ofFields members) =
      .ok (seen ++ (members.filter fun e => e.1 ∈ r.names).map fun e => (e.1, Tree.ofJson e.2)) := by
  induction members generalizing seen with
  | nil => rw [Tree.ofFields, collect, List.filter_nil, List.map_nil, List.append_nil]
  | cons e members ih =>
    obtain ⟨k, j⟩ := e
    obtain ⟨hu, unseen⟩ := List.forall_mem_cons.1 unseen
    obtain ⟨hc, check⟩ := List.forall_mem_cons.1 check
    obtain ⟨hk, once⟩ := List.nodup_cons.1 once
    rw [Tree.ofFields, collect]
    show (if k ∈ r.names then _ else _) = _
    by_cases declared : k ∈ r.names
    · rw [if_pos declared, hu, List.filter_cons_of_pos (by simpa using declared)]
      show (do r.check k p (.ofJson j); r.collect p (seen ++ [(k, Tree.ofJson j)]) (Tree.ofFields members)) = _
      rw [hc declared]
      show r.collect p (seen ++ [(k, Tree.ofJson j)]) (Tree.ofFields members) = _
      rw [ih _ once _ check, List.append_assoc, List.map_cons, List.singleton_append]
      intro e he
      have hne : e.1 ≠ k := fun heq => hk (List.mem_map.2 ⟨e, he, heq⟩)
      rw [Entries.find?_append, unseen e he, Entries.find?_cons, if_neg hne.symm]
      rfl
    · rw [if_neg declared, Tree.skip_ofJson, List.filter_cons_of_neg (by simpa using declared)]
      exact ih seen once unseen check

/-- The members of a document, of which some are left out. -/
def written (fields : List (String × Option Json)) : List (String × Json) :=
  fields.filterMap fun e => e.2.map (e.1, ·)

theorem written_append (fields fields' : List (String × Option Json)) :
    written (fields ++ fields') = written fields ++ written fields' :=
  List.filterMap_append

theorem names_written (fields : List (String × Option Json)) :
    ((written fields).map (·.1)).Sublist (fields.map (·.1)) := by
  induction fields with
  | nil => exact .slnil
  | cons f fields ih =>
    obtain ⟨k, j?⟩ := f
    cases j? with
    | none => exact ih.cons k
    | some j => exact ih.cons_cons k

theorem mem_written {fields : List (String × Option Json)} {k : String} {j : Json} :
    (k, j) ∈ written fields ↔ (k, some j) ∈ fields := by
  rw [written, List.mem_filterMap]
  constructor
  · rintro ⟨⟨l, j?⟩, he, same⟩
    obtain ⟨_, rfl, same⟩ := Option.map_eq_some_iff.1 same
    cases same
    exact he
  · exact fun he => ⟨_, he, rfl⟩

theorem find?_written {fields : List (String × Option Json)} (once : (fields.map (·.1)).Nodup)
    {e : String × Option Json} (he : e ∈ fields) : Entries.find? e.1 (written fields) = e.2 := by
  obtain ⟨k, j?⟩ := e
  cases j? with
  | some j => exact Entries.find?_of_mem (once.sublist (names_written fields)) (mem_written.2 he)
  | none =>
    refine Entries.find?_eq_none ?_
    rintro ⟨_, j⟩ hj rfl
    cases (Entries.find?_of_mem once he).symm.trans (Entries.find?_of_mem once (mem_written.1 hj))

/-- Written as those of these fields that are not left out, and no others, a record reads as `x` where `n`
levels may be entered. -/
structure Reads (r : Record α) (n : Nat) (fields : List (String × Option Json)) (x : α) : Prop where
  names : r.names = fields.map (·.1)
  once : r.names.Nodup
  check : ∀ p : Place, n ≤ p.levels → ∀ e ∈ written fields, r.check e.1 p (.ofJson e.2) = .ok ()
  build : ∀ (expected : String) (position : Nat) (p : Place) (source : Entries Tree), n ≤ p.levels →
    (∀ e ∈ fields, source.find? e.1 = e.2.map .ofJson) →
    r.build expected position p (.named source) = .ok x

namespace Reads
variable {r : Record (α → β)} {n : Nat} {fields : List (String × Option Json)}

theorem pure (x : α) : Reads (Record.pure x) n [] x where
  names := rfl
  once := List.Pairwise.nil
  check _ _ _ h := nomatch h
  build _ _ _ _ _ _ := rfl

/-- One more member, which may be left out if there is something to stand for it. -/
theorem member {g : α → β} (h : r.Reads n fields g) {f : Field α} {j? : Option Json} {x : α}
    (new : f.name ∉ fields.map (·.1))
    (given : ∀ j, j? = some j → ∀ p : Place, n ≤ p.levels → f.decoder p (.ofJson j) = .ok x)
    (leftOut : j? = none → f.inObject = some x) :
    (r.field f).Reads n (fields ++ [(f.name, j?)]) (g x) where
  names := by rw [Record.field, h.names, List.map_append]; rfl
  once := List.nodup_append.2 ⟨h.once, List.pairwise_singleton .., fun a ha b hb =>
    List.mem_singleton.1 hb ▸ fun he => new (he ▸ h.names ▸ ha)⟩
  check p hp e he := by
    show (if e.1 = f.name then (f.decoder p (.ofJson e.2)).map fun _ => () else
      r.check e.1 p (.ofJson e.2)) = _
    rw [written_append] at he
    rcases List.mem_append.1 he with he | he
    · have hne : e.1 ≠ f.name := fun heq =>
        new ((names_written fields).subset (List.mem_map.2 ⟨e, he, heq⟩))
      rw [if_neg hne]
      exact h.check p hp e he
    · cases j? with
      | none => cases he
      | some j =>
        rw [List.mem_singleton.1 he, if_pos rfl, given j rfl p hp]
        rfl
  build expected position p source hp found := by
    have hg := h.build expected position p source hp fun e he => found e (List.mem_append_left _ he)
    have hx : takeField f expected (position + r.names.length) p (.named source) = .ok x := by
      have hj : source.find? f.name = j?.map .ofJson :=
        found (f.name, j?) (List.mem_append_right _ (List.mem_singleton_self _))
      rw [takeField, hj]
      cases j? with
      | none => rw [leftOut rfl]; rfl
      | some j => exact given j rfl p hp
    show (do let g ← r.build expected position p (.named source); _) = _
    rw [hg]
    show (do let x ← takeField f expected (position + r.names.length) p (.named source); _) = _
    rw [hx]
    rfl

theorem field {g : α → β} (h : r.Reads n fields g) {f : Field α} {j : Json} {x : α}
    (new : f.name ∉ fields.map (·.1)) (hf : ∀ p : Place, n ≤ p.levels → f.decoder p (.ofJson j) = .ok x) :
    (r.field f).Reads n (fields ++ [(f.name, some j)]) (g x) :=
  h.member new (by rintro _ ⟨⟩; exact hf) nofun

/-- The members may stand in any order, and among others. -/
theorem decoder_members {r : Record α} {x : α} (h : r.Reads n fields x) (title : String) (hp : n + 1 ≤ p.levels)
    {members : List (String × Json)} (once : (members.map (·.1)).Nodup)
    (holds : ∀ e ∈ fields, Entries.find? e.1 members = e.2) :
    r.decoder title p (.ofJson (.obj members)) = .ok x := by
  obtain ⟨p', he, hl⟩ := Place.enter_succ hp
  have named {k : String} : k ∈ r.names ↔ ∃ j?, (k, j?) ∈ fields := by
    rw [h.names, List.mem_map]
    exact ⟨fun ⟨e, he, hk⟩ => ⟨e.2, hk ▸ he⟩, fun ⟨j?, he⟩ => ⟨_, he, rfl⟩⟩
  have check : ∀ e ∈ members, e.1 ∈ r.names → r.check e.1 p' (.ofJson e.2) = .ok () := by
    intro e hm declared
    obtain ⟨j?, he⟩ := named.1 declared
    obtain rfl : j? = some e.2 := (holds _ he).symm.trans (Entries.find?_of_mem once hm)
    exact h.check p' hl e (mem_written.2 he)
  rw [Tree.ofJson, Record.decoder, he]
  show (do let seen ← r.collect p' [] (Tree.ofFields members); _) = _
  rw [collect_members [] once (fun _ _ => rfl) check, List.nil_append]
  refine h.build _ _ p' _ hl fun e he => ?_
  rw [Entries.find?_map, Entries.find?_filter (named.2 ⟨e.2, he⟩), holds e he]

theorem decoder {r : Record α} {x : α} (h : r.Reads n fields x) (title : String)
    (hp : n + 1 ≤ p.levels) : r.decoder title p (.ofJson (.obj (written fields))) = .ok x := by
  have once : (fields.map (·.1)).Nodup := h.names ▸ h.once
  exact h.decoder_members title hp (once.sublist (names_written fields)) fun e he => find?_written once he

end Reads
end Record
end CloudProvider.Json
