import CloudProvider.Agent.Environment
import CloudProvider.Proofs.Json.Decode

/-! # Environments and their documents

The document of an environment decodes to this environment, provided that its open parts fit where they
stand (`WellFormed`). What is decoded from a document fits but for its numbers, and recording or striking
out a disk keeps it fitting: the table of disks grows by an object of texts, which nests no deeper than
what is there.
-/

namespace CloudProvider.Agent
open Json (Decoder Record Field Tree Place Fault Fits Members)

/-! ## Decoding -/

theorem Machine.decoder_ofJson (m : Machine) {p : Place} (hp : 1 ≤ p.levels) :
    Machine.decoder p (.ofJson m.toJson) = .ok m :=
  (((Record.Reads.pure Machine.mk).field (n := 0) (j := .str m.name) (by simp) fun _ _ => rfl).field
    (j := .str m.id) (by simp) fun _ _ => rfl).decoder _ hp

theorem ofMembers_tolerant {m : Json.Members} {n : Nat} (h : m.Fit n) {p : Place} (hp : n + 1 ≤ p.levels) :
    (Decoder.map Decoder.json).orDefault ∅ p (.ofJson (.ofMembers m)) = .ok m :=
  Decoder.orDefault_of_ok (fun h => nomatch h) (Decoder.map_ofMembers hp h)

theorem Blobstore.decoder_ofJson (b : Blobstore) {p : Place} (hp : 126 ≤ p.levels)
    (h : b.options.Fit 124) : Blobstore.decoder p (.ofJson b.toJson) = .ok b :=
  (((Record.Reads.pure Blobstore.mk).field (n := 125) (j := .str b.provider) (by simp)
    fun _ _ => rfl).field (j := .ofMembers b.options) (by simp)
    fun _ hl => ofMembers_tolerant h hl).decoder _ hp

/-- The open parts of an environment fit where they stand in its document. -/
structure Environment.WellFormed (e : Environment) : Prop where
  networks : e.networks.Fit 125
  env : e.env.Fit 125
  disks : e.disks.Fit 125
  options : e.blobstore.options.Fit 124

namespace Environment
variable {e : Environment}

theorem decoder_ofJson (h : e.WellFormed) {p : Place} (hp : 127 ≤ p.levels) :
    decoder p (.ofJson e.toJson) = .ok e := by
  have ntp : ∀ p : Place, 126 ≤ p.levels →
      (Decoder.list Decoder.string).orDefault [] p (.ofJson (.arr (e.ntp.map .str))) = .ok e.ntp :=
    fun p hl => Decoder.orDefault_of_ok (fun h => nomatch h)
      (Decoder.list_ofJson (n := 0) (Nat.le_trans (by decide) hl) fun _ _ _ _ => rfl)
  have blobstore : ∀ p : Place, 126 ≤ p.levels →
      Blobstore.decoder.orDefault .none p (.ofJson e.blobstore.toJson) = .ok e.blobstore :=
    fun p hl => Decoder.orDefault_of_ok (fun h => nomatch h) (e.blobstore.decoder_ofJson hl h.options)
  have reads := (Record.Reads.pure (n := 126) Environment.mk)
    |>.field (f := .required "agent_id" .string) (j := .str e.agentId) (by simp) (fun _ _ => rfl)
    |>.field (f := .required "vm" Machine.decoder) (j := e.vm.toJson) (by simp)
      (fun _ hl => e.vm.decoder_ofJson (Nat.le_trans (by decide) hl))
    |>.field (f := .required "mbus" .string) (j := .str e.mbus) (by simp) (fun _ _ => rfl)
    |>.field (f := .tolerant "ntp" [] (.list .string)) (j := .arr (e.ntp.map .str))
      (by simp) ntp
    |>.field (f := .tolerant "networks" ∅ (.map .json)) (j := .ofMembers e.networks)
      (by simp)
      (fun _ hl => ofMembers_tolerant h.networks hl)
    |>.field (f := .tolerant "env" ∅ (.map .json)) (j := .ofMembers e.env)
      (by simp)
      (fun _ hl => ofMembers_tolerant h.env hl)
    |>.field (f := .tolerant "disks" ∅ (.map .json)) (j := .ofMembers e.disks)
      (by simp)
      (fun _ hl => ofMembers_tolerant h.disks hl)
    |>.field (f := .tolerant "blobstore" .none Blobstore.decoder) (j := e.blobstore.toJson)
      (by simp) blobstore
  exact reads.decoder _ hp

theorem WellFormed.integersOnly (h : e.WellFormed) : e.toJson.IntegersOnly := by
  have ntp : Json.IntegersOnlyItems (e.ntp.map .str) := Json.integersOnlyItems.2 fun j hj => by
    obtain ⟨s, -, rfl⟩ := List.mem_map.1 hj
    trivial
  exact ⟨trivial, ⟨trivial, trivial, trivial⟩, trivial, ntp, h.networks.integersOnly,
    h.env.integersOnly, h.disks.integersOnly, ⟨trivial, h.options.integersOnly, trivial⟩, trivial⟩

/-- An environment is what its document decodes to. -/
theorem decoder_document (h : e.WellFormed) : decoder.ofText e.document = .ok e := by
  rw [document, Decoder.ofText_text _ h.integersOnly]
  exact decoder_ofJson h (Nat.le_refl _)

/-! ## What is decoded -/

/-- Members that were read as such or are left out. -/
theorem tolerant_ok {name : String} {p : Place} {m : Json.Members}
    (h : (∃ t, (Field.tolerant name ∅ (.map .json)).decoder p t = .ok m) ∨
      (Field.tolerant name ∅ (.map .json)).inObject = some m ∨
      (Field.tolerant name ∅ (.map .json)).inArray = some m) :
    ∀ e ∈ m.entries, e.2.Canonical ∧ e.2.depth + 1 ≤ p.levels := by
  rcases h with ⟨t, h⟩ | h | h
  · rcases Decoder.orDefault_ok h with rfl | h
    · exact fun e he => nomatch he
    · exact Decoder.map_json_ok h
  · cases h; exact fun e he => nomatch he
  · cases h; exact fun e he => nomatch he

theorem blobstore_ok {p : Place} {t : Tree} {b : Blobstore} (h : Blobstore.decoder p t = .ok b) :
    ∀ e ∈ b.options.entries, e.2.Canonical ∧ e.2.depth + 2 ≤ p.levels := by
  obtain ⟨p', _, _, hp, h₂⟩ := Record.decoder_ok h
  obtain ⟨_, options, h₁, rfl, ho⟩ := Record.build_field_ok h₂
  obtain ⟨_, provider, h₀, rfl, -⟩ := Record.build_field_ok h₁
  cases h₀
  rw [hp]
  exact fun e he => (tolerant_ok ho e he).imp_right Nat.succ_le_succ

/-- A blobstore that was read or is left out. -/
theorem tolerantBlobstore_ok {p : Place} {b : Blobstore}
    (h : (∃ t, (Field.tolerant "blobstore" .none Blobstore.decoder).decoder p t = .ok b) ∨
      (Field.tolerant "blobstore" .none Blobstore.decoder).inObject = some b ∨
      (Field.tolerant "blobstore" .none Blobstore.decoder).inArray = some b) :
    ∀ e ∈ b.options.entries, e.2.Canonical ∧ e.2.depth + 2 ≤ p.levels := by
  rcases h with ⟨t, h⟩ | h | h
  · rcases Decoder.orDefault_ok h with rfl | h
    · exact fun e he => nomatch he
    · exact blobstore_ok h
  · cases h; exact fun e he => nomatch he
  · cases h; exact fun e he => nomatch he

theorem fit_of_ok {m : Json.Members} {n : Nat}
    (h : ∀ e ∈ m.entries, e.2.Canonical ∧ e.2.depth + 1 ≤ n + 1) (hi : (Json.ofMembers m).IntegersOnly) :
    m.Fit n := fun e he =>
  ⟨(h e he).1, Json.integersOnlyFields.1 hi e he, Nat.le_of_succ_le_succ (h e he).2⟩

/-- The open parts of an environment that is read are canonical, and not too deep. -/
theorem parts_of_ofText {document : String} (h : decoder.ofText document = .ok e) :
    (∀ x ∈ e.networks.entries, x.2.Canonical ∧ x.2.depth + 1 ≤ 125 + 1) ∧
      (∀ x ∈ e.env.entries, x.2.Canonical ∧ x.2.depth + 1 ≤ 125 + 1) ∧
      (∀ x ∈ e.disks.entries, x.2.Canonical ∧ x.2.depth + 1 ≤ 125 + 1) ∧
      ∀ x ∈ e.blobstore.options.entries, x.2.Canonical ∧ x.2.depth + 2 ≤ 125 + 1 := by
  obtain ⟨p, _, _, hp, h₈⟩ := Record.decoder_ok (Decoder.ofText_ok h)
  obtain ⟨_, blobstore, h₇, rfl, hb⟩ := Record.build_field_ok h₈
  obtain ⟨_, disks, h₆, rfl, hd⟩ := Record.build_field_ok h₇
  obtain ⟨_, env, h₅, rfl, he⟩ := Record.build_field_ok h₆
  obtain ⟨_, networks, h₄, rfl, hn⟩ := Record.build_field_ok h₅
  obtain ⟨_, ntp, h₃, rfl, -⟩ := Record.build_field_ok h₄
  obtain ⟨_, mbus, h₂, rfl, -⟩ := Record.build_field_ok h₃
  obtain ⟨_, vm, h₁, rfl, -⟩ := Record.build_field_ok h₂
  obtain ⟨_, agentId, h₀, rfl, -⟩ := Record.build_field_ok h₁
  cases h₀
  have hl : p.levels = 125 + 1 := Nat.succ_inj.1 hp.symm
  exact ⟨hl ▸ tolerant_ok hn, hl ▸ tolerant_ok he, hl ▸ tolerant_ok hd, hl ▸ tolerantBlobstore_ok hb⟩

/-- What a text decodes to is well formed if it holds no number with a fraction or an exponent. -/
theorem wellFormed_of_ofText {document : String} (h : decoder.ofText document = .ok e)
    (hi : e.toJson.IntegersOnly) : e.WellFormed := by
  obtain ⟨networks, env, disks, options⟩ := parts_of_ofText h
  obtain ⟨-, -, -, -, in', ie, id, ⟨-, io, -⟩, -⟩ := hi
  exact ⟨fit_of_ok networks in', fit_of_ok env ie, fit_of_ok disks id,
    fit_of_ok (fun x hx => (options x hx).imp_right fun h => by omega) io⟩

/-! ## Recording a disk and striking it out -/

/-- The table of persistent disks, if there is one. -/
def persistentEntries (e : Environment) : Entries Json :=
  match e.disks.find? persistentKey with
  | some (.obj entries) => entries
  | _ => []

/-- The environment with another table of persistent disks. -/
def withPersistent (e : Environment) (entries : Entries Json) : Environment :=
  { e with disks := e.disks.insert persistentKey (.obj entries) }

/-- Nothing stands in the place of the table of persistent disks but a table. -/
def Tabular (e : Environment) : Prop :=
  match e.disks.find? persistentKey with
  | none | some .null | some (.obj _) => True
  | some _ => False

@[simp] theorem persistentIds_eq (e : Environment) :
    e.persistentIds = e.persistentEntries.map (·.1) := by
  unfold persistentIds persistentEntries
  split <;> simp_all

@[simp] theorem persistentEntries_withPersistent (e : Environment) (entries : Entries Json) :
    (e.withPersistent entries).persistentEntries = entries := by
  rw [persistentEntries, withPersistent, SortedMap.find?_insert_self]

@[simp] theorem withPersistent_withPersistent (e : Environment) (entries entries' : Entries Json) :
    (e.withPersistent entries).withPersistent entries' = e.withPersistent entries' := by
  simp only [withPersistent, SortedMap.insert_insert]

theorem tabular_withPersistent (e : Environment) (entries : Entries Json) :
    (e.withPersistent entries).Tabular := by
  rw [Tabular, withPersistent, SortedMap.find?_insert_self]
  trivial

theorem insertPersistent_eq (h : e.Tabular) (id : String) : e.insertPersistent id =
    .ok (e.withPersistent (Entries.insert id (persistentEntry id) e.persistentEntries)) := by
  unfold Tabular at h
  unfold insertPersistent persistentEntries
  split at h <;> simp_all <;> rfl

theorem tabular_of_insertPersistent {e' : Environment} {id : String}
    (h : e.insertPersistent id = .ok e') : e.Tabular := by
  unfold insertPersistent at h
  unfold Tabular
  split <;> simp_all

/-- Where there is no table there is nothing to strike out. -/
theorem removePersistent_cases (h : e.Tabular) (id : String) :
    (e.removePersistent id = .ok (false, e) ∧ e.persistentEntries = []) ∨
      e.removePersistent id = .ok ((Entries.find? id e.persistentEntries).isSome,
        e.withPersistent (Entries.erase id e.persistentEntries)) := by
  unfold removePersistent persistentEntries withPersistent
  unfold Tabular at h
  cases hf : e.disks.find? persistentKey with
  | none => exact .inl ⟨rfl, rfl⟩
  | some j =>
    rw [hf] at h
    cases j with
    | null => exact .inl ⟨rfl, rfl⟩
    | obj entries => exact .inr rfl
    | bool b | num n | str s | arr items => exact h.elim

theorem tabular_of_removePersistent {r : Bool × Environment} {id : String}
    (h : e.removePersistent id = .ok r) : e.Tabular := by
  unfold removePersistent at h
  unfold Tabular
  split <;> simp_all

/-! ## Updates -/

/-- A disk is recorded or struck out. -/
inductive Update where
  | record (disk : String)
  | strike (disk : String)

namespace Update

def apply : Update → Environment → Except Failure Environment
  | .record disk, e => e.insertPersistent disk
  | .strike disk, e => (e.removePersistent disk).map (·.2)

/-- What an update makes of the table of persistent disks. -/
def table : Update → Entries Json → Entries Json
  | .record disk, entries => Entries.insert disk (persistentEntry disk) entries
  | .strike disk, entries => Entries.erase disk entries

theorem tabular_of_ok {u : Update} {e' : Environment} (h : u.apply e = .ok e') : e.Tabular := by
  cases u with
  | record disk => exact tabular_of_insertPersistent h
  | strike disk =>
    cases hr : e.removePersistent disk with
    | ok r => exact tabular_of_removePersistent hr
    | error f => rw [apply, hr] at h; cases h

/-- An update leaves the environment alone or puts another table into it. -/
theorem apply_cases (u : Update) (h : e.Tabular) :
    (u.apply e = .ok e ∧ u.table e.persistentEntries = e.persistentEntries) ∨
      u.apply e = .ok (e.withPersistent (u.table e.persistentEntries)) := by
  cases u with
  | record disk => exact .inr (insertPersistent_eq h disk)
  | strike disk =>
    rcases removePersistent_cases h disk with ⟨hr, he⟩ | hr
    · exact .inl ⟨by rw [apply, hr]; rfl, by rw [table, he]; rfl⟩
    · exact .inr (by rw [apply, hr]; rfl)

theorem table_table (u : Update) (entries : Entries Json) :
    u.table (u.table entries) = u.table entries := by
  cases u with
  | record disk => exact Entries.insert_insert ..
  | strike disk => exact Entries.erase_erase ..

/-- What has been updated needs no further update. -/
theorem apply_settled {u : Update} {e' : Environment} (h : u.apply e = .ok e') : u.apply e' = .ok e' := by
  rcases u.apply_cases (tabular_of_ok h) with ⟨hs, -⟩ | hs
  · rw [h] at hs
    cases hs
    exact h
  · rw [h] at hs
    cases hs
    rcases u.apply_cases (tabular_withPersistent e (u.table e.persistentEntries)) with ⟨hs, -⟩ | hs
    · exact hs
    · rw [hs, persistentEntries_withPersistent, table_table, withPersistent_withPersistent]

theorem apply_tabular {u : Update} {e' : Environment} (h : u.apply e = .ok e') : e'.Tabular :=
  tabular_of_ok (apply_settled h)

theorem apply_entries {u : Update} {e' : Environment} (h : u.apply e = .ok e') :
    e'.persistentEntries = u.table e.persistentEntries := by
  rcases u.apply_cases (tabular_of_ok h) with ⟨hs, ht⟩ | hs
  · rw [h] at hs
    cases hs
    exact ht.symm
  · rw [h] at hs
    cases hs
    exact persistentEntries_withPersistent ..

end Update

/-! ## Updates fit -/

/-- What is said of a disk: its id and its path. -/
theorem diskEntry_fits (id path : String) (n : Nat) :
    (Json.obj [("id", .str id), ("path", .str path)]).Fits (n + 1) := by
  refine .obj ?_ fun e he => ?_
  · have before : "id" < "path" := by decide
    exact List.pairwise_pair.2 before
  · simp only [List.mem_cons, List.not_mem_nil, or_false] at he
    rcases he with rfl | rfl
    · exact .str _
    · exact .str _

theorem WellFormed.persistentEntries (h : e.WellFormed) :
    Entries.Ascending e.persistentEntries ∧ ∀ f ∈ e.persistentEntries, f.2.Fits 124 := by
  unfold Environment.persistentEntries
  split
  · rename_i entries hf
    exact (h.disks.find? hf).fields
  · exact ⟨List.Pairwise.nil, fun f hf => nomatch hf⟩

theorem WellFormed.withPersistent (h : e.WellFormed) {entries : Entries Json}
    (ha : entries.Ascending) (hf : ∀ f ∈ entries, f.2.Fits 124) : (e.withPersistent entries).WellFormed :=
  ⟨h.networks, h.env, h.disks.insert _ (.obj ha hf), h.options⟩

theorem WellFormed.apply (h : e.WellFormed) {u : Update} {e' : Environment} (hu : u.apply e = .ok e') :
    e'.WellFormed := by
  obtain ⟨ha, hf⟩ := h.persistentEntries
  rcases u.apply_cases (Update.tabular_of_ok hu) with ⟨hs, -⟩ | hs
  · rw [hu] at hs
    cases hs
    exact h
  · rw [hu] at hs
    cases hs
    cases u with
    | record disk =>
      refine h.withPersistent ha.insert fun f hm => ?_
      rcases Entries.mem_insert hm with rfl | hm
      · exact diskEntry_fits ..
      · exact hf f hm
    | strike disk => exact h.withPersistent ha.erase fun f hm => hf f (Entries.mem_erase hm)

end Environment
end CloudProvider.Agent
