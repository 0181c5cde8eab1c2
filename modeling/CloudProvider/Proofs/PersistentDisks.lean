import CloudProvider.Proofs.Environment
import Mathlib.Data.Finset.Sort
import Mathlib.Data.List.Induction
import Mathlib.Data.String.Basic

/-! # The table of persistent disks is a set of disks

Over any series of updates the recorded disks are what insertions into a set and removals from it leave,
in ascending order, and the entry of a disk is the one it was recorded with. Where something other than a
table stands, every update fails, and the environment is as it was though updates work on it in place.
-/

namespace CloudProvider

theorem Entries.isSome_find? {α : Type} (k : String) (es : Entries α) :
    (find? k es).isSome = decide (k ∈ es.map (·.1)) := by
  induction es with
  | nil => rfl
  | cons e es ih =>
    obtain ⟨l, x⟩ := e
    rw [find?_cons]
    by_cases h : l = k
    · simp [h]
    · have other : ¬k = l := fun heq => h heq.symm
      simp [h, other, ih]

namespace Agent.Environment
variable {e : Environment}

/-! ## Updates in place -/

/-- The place of the table is taken by null if nothing stands there. -/
def planted (e : Environment) : Environment :=
  match e.disks.find? persistentKey with
  | none => { e with disks := e.disks.insert persistentKey .null }
  | some _ => e

/-- Null gives way to an empty table. -/
def opened (e : Environment) : Environment :=
  match e.disks.find? persistentKey with
  | some .null => e.withPersistent []
  | _ => e

namespace Update

/-- What an update leaves behind, whether it succeeds or fails half way. -/
def inPlace : Update → Environment → Environment
  | .record disk, e =>
    let e := e.planted.opened
    match e.disks.find? persistentKey with
    | some (.obj entries) => e.withPersistent (Entries.insert disk (persistentEntry disk) entries)
    | _ => e
  | .strike disk, e =>
    match e.disks.find? persistentKey with
    | some (.obj entries) => e.withPersistent (Entries.erase disk entries)
    | _ => e

/-- What a series of updates leaves behind. Every one is tried, whatever became of those before it. -/
def after (us : List Update) (e : Environment) : Environment := us.foldl (fun e u => u.inPlace e) e

@[simp] theorem after_nil (e : Environment) : after [] e = e := rfl

@[simp] theorem after_concat (us : List Update) (u : Update) (e : Environment) :
    after (us ++ [u]) e = u.inPlace (after us e) := by
  rw [after, List.foldl_append]
  rfl

end Update

theorem withPersistent_withNull (e : Environment) (entries : Entries Json) :
    withPersistent { e with disks := e.disks.insert persistentKey .null } entries =
      e.withPersistent entries := by
  simp only [withPersistent, SortedMap.insert_insert]

/-- A place that can hold a table holds one when it has been planted and opened. -/
theorem opened_planted (h : e.Tabular) :
    e.planted.opened = e.withPersistent e.persistentEntries := by
  unfold Tabular at h
  unfold planted persistentEntries
  cases hf : e.disks.find? persistentKey with
  | none =>
    dsimp only
    rw [opened, SortedMap.find?_insert_self]
    exact withPersistent_withNull e []
  | some j =>
    rw [hf] at h
    cases j with
    | null => rw [opened, hf]
    | obj entries =>
      rw [opened, hf]
      exact congrArg (fun disks => { e with disks := disks }) (SortedMap.insert_of_find? hf).symm
    | bool b | num n | str s | arr items => exact h.elim

/-- What stands in the place of a table without being one is not null either. -/
theorem occupied (h : ¬e.Tabular) :
    ∃ j, e.disks.find? persistentKey = some j ∧ j ≠ .null ∧ ∀ entries, j ≠ .obj entries := by
  unfold Tabular at h
  cases hf : e.disks.find? persistentKey with
  | none => rw [hf] at h; exact absurd trivial h
  | some j =>
    rw [hf] at h
    refine ⟨j, rfl, ?_, fun entries => ?_⟩
    · rintro rfl
      exact h trivial
    · rintro rfl
      exact h trivial

theorem opened_planted_of_not_tabular (h : ¬e.Tabular) : e.planted.opened = e := by
  obtain ⟨j, hf, hnull, -⟩ := occupied h
  have planted : e.planted = e := by rw [Environment.planted, hf]
  rw [planted, opened, hf]
  split
  · rename_i hj
    exact absurd (Option.some.inj hj) hnull
  · rfl

theorem insertPersistent_of_not_tabular (h : ¬e.Tabular) (disk : String) :
    e.insertPersistent disk = .error unexpectedPersistent := by
  obtain ⟨j, hf, hnull, hobj⟩ := occupied h
  rw [insertPersistent, hf]
  cases j with
  | null => exact absurd rfl hnull
  | obj entries => exact absurd rfl (hobj entries)
  | bool | num | str | arr => rfl

theorem removePersistent_of_not_tabular (h : ¬e.Tabular) (disk : String) :
    e.removePersistent disk = .error unexpectedPersistent := by
  obtain ⟨j, hf, hnull, hobj⟩ := occupied h
  rw [removePersistent, hf]
  cases j with
  | null => exact absurd rfl hnull
  | obj entries => exact absurd rfl (hobj entries)
  | bool | num | str | arr => rfl

namespace Update

/-- An update that succeeds leaves in place what it results in. -/
theorem apply_inPlace (u : Update) (h : e.Tabular) : u.apply e = .ok (u.inPlace e) := by
  cases u with
  | record disk =>
    have found : (e.withPersistent e.persistentEntries).disks.find? persistentKey =
        some (.obj e.persistentEntries) := SortedMap.find?_insert_self ..
    rw [apply, insertPersistent_eq h, inPlace, opened_planted h, found]
    exact congrArg _ (withPersistent_withPersistent ..).symm
  | strike disk =>
    rw [apply, removePersistent, inPlace]
    unfold Tabular at h
    cases hf : e.disks.find? persistentKey with
    | none => rfl
    | some j =>
      rw [hf] at h
      cases j with
      | null | obj => rfl
      | bool | num | str | arr => exact h.elim

/-- An update that fails has changed nothing. -/
theorem inPlace_of_not_tabular (u : Update) (h : ¬e.Tabular) : u.inPlace e = e := by
  have left : ∀ entries, e.disks.find? persistentKey ≠ some (.obj entries) := by
    intro entries hf
    obtain ⟨j, hj, -, hobj⟩ := occupied h
    exact hobj entries (Option.some.inj (hj.symm.trans hf))
  cases u with
  | record disk =>
    rw [inPlace, opened_planted_of_not_tabular h]
    split
    · rename_i entries hf
      exact absurd hf (left entries)
    · rfl
  | strike disk =>
    rw [inPlace]
    split
    · rename_i entries hf
      exact absurd hf (left entries)
    · rfl

theorem inPlace_tabular (u : Update) (h : e.Tabular) : (u.inPlace e).Tabular :=
  apply_tabular (u.apply_inPlace h)

theorem inPlace_entries (u : Update) (h : e.Tabular) :
    (u.inPlace e).persistentEntries = u.table e.persistentEntries :=
  apply_entries (u.apply_inPlace h)

/-- An update that changes anything puts another table in. -/
theorem inPlace_cases (u : Update) (e : Environment) :
    u.inPlace e = e ∨ ∃ entries, u.inPlace e = e.withPersistent entries := by
  by_cases h : e.Tabular
  · have applied := u.apply_inPlace h
    rcases u.apply_cases h with ⟨same, -⟩ | put
    · rw [applied] at same
      exact .inl (Except.ok.inj same)
    · rw [applied] at put
      exact .inr ⟨_, Except.ok.inj put⟩
  · exact .inl (u.inPlace_of_not_tabular h)

end Update

/-- Striking out tells whether the disk was there. -/
theorem removePersistent_eq (h : e.Tabular) (disk : String) : e.removePersistent disk =
    .ok (decide (disk ∈ e.persistentIds), (Update.strike disk).inPlace e) := by
  have applied := (Update.strike disk).apply_inPlace h
  rw [Update.apply] at applied
  rcases removePersistent_cases h disk with ⟨hr, none⟩ | hr
  · rw [hr] at applied
    rw [hr, persistentIds_eq, none, ← Except.ok.inj applied]
    rfl
  · rw [hr] at applied
    rw [hr, persistentIds_eq, Entries.isSome_find?, ← Except.ok.inj applied]

namespace Update

/-! ## Series of updates -/

/-- The disks that a series of updates leaves of those there were. -/
def remaining (us : List Update) (disks : Finset String) : Finset String :=
  us.foldl (fun disks u =>
    match u with
    | .record disk => insert disk disks
    | .strike disk => disks.erase disk) disks

theorem remaining_record (us : List Update) (disk : String) (disks : Finset String) :
    remaining (us ++ [.record disk]) disks = insert disk (remaining us disks) := by
  rw [remaining, List.foldl_append]
  rfl

theorem remaining_strike (us : List Update) (disk : String) (disks : Finset String) :
    remaining (us ++ [.strike disk]) disks = (remaining us disks).erase disk := by
  rw [remaining, List.foldl_append]
  rfl

theorem table_ascending {entries : Entries Json} (u : Update) (h : entries.Ascending) :
    (u.table entries).Ascending := by
  cases u with
  | record disk => exact h.insert
  | strike disk => exact h.erase

theorem after_tabular (us : List Update) (h : e.Tabular) : (after us e).Tabular := by
  induction us using List.reverseRecOn with
  | nil => exact h
  | append_singleton us u ih =>
    rw [after_concat]
    exact u.inPlace_tabular ih

theorem after_of_not_tabular (us : List Update) (h : ¬e.Tabular) : after us e = e := by
  induction us using List.reverseRecOn with
  | nil => rfl
  | append_singleton us u ih => rw [after_concat, ih, u.inPlace_of_not_tabular h]

theorem after_ascending (us : List Update) (h : e.Tabular) (ha : e.persistentEntries.Ascending) :
    (after us e).persistentEntries.Ascending := by
  induction us using List.reverseRecOn with
  | nil => exact ha
  | append_singleton us u ih =>
    rw [after_concat, u.inPlace_entries (after_tabular us h)]
    exact u.table_ascending ih

/-- The recorded disks are those that set operations leave. -/
theorem mem_after (us : List Update) (h : e.Tabular) (disk : String) :
    disk ∈ (after us e).persistentIds ↔ disk ∈ remaining us e.persistentIds.toFinset := by
  induction us using List.reverseRecOn with
  | nil => rw [remaining, List.foldl_nil, List.mem_toFinset, after_nil]
  | append_singleton us u ih =>
    rw [persistentIds_eq] at ih
    rw [after_concat, persistentIds_eq, u.inPlace_entries (after_tabular us h)]
    cases u with
    | record d => rw [table, Entries.mem_keys_insert, ih, remaining_record, Finset.mem_insert]
    | strike d => rw [table, Entries.mem_keys_erase, ih, remaining_strike, Finset.mem_erase, and_comm]

theorem after_persistentIds (us : List Update) (h : e.Tabular) (ha : e.persistentEntries.Ascending) :
    (after us e).persistentIds = (remaining us e.persistentIds.toFinset).sort (· ≤ ·) := by
  have ascending : (after us e).persistentIds.Pairwise (· < ·) := by
    rw [persistentIds_eq]
    exact List.pairwise_map.2 (after_ascending us h ha)
  have same : (after us e).persistentIds.toFinset = remaining us e.persistentIds.toFinset := by
    ext disk
    rw [List.mem_toFinset, mem_after us h]
  rw [← same]
  exact ((List.toFinset_sort _ (ascending.imp fun hlt => ne_of_lt hlt)).2 (ascending.imp le_of_lt)).symm

/-- A disk that is in the table was recorded in it or has been there all along. -/
theorem after_entry (us : List Update) (h : e.Tabular) {disk : String} {entry : Json}
    (hf : Entries.find? disk (after us e).persistentEntries = some entry) :
    (.record disk ∈ us → entry = persistentEntry disk) ∧
      (.record disk ∉ us → Entries.find? disk e.persistentEntries = some entry) := by
  induction us using List.reverseRecOn with
  | nil => exact ⟨fun hm => absurd hm List.not_mem_nil, fun _ => hf⟩
  | append_singleton us u ih =>
    rw [after_concat, u.inPlace_entries (after_tabular us h)] at hf
    simp only [List.mem_append, List.mem_singleton, not_or]
    cases u with
    | record d =>
      by_cases hd : disk = d
      · rw [hd, table, Entries.find?_insert_self] at hf
        rw [hd]
        exact ⟨fun _ => (Option.some.inj hf).symm, fun hm => absurd rfl hm.2⟩
      · rw [table, Entries.find?_insert_of_ne hd] at hf
        have other : Update.record disk ≠ .record d := fun heq => hd (Update.record.inj heq)
        exact ⟨fun hm => (ih hf).1 (hm.resolve_right other), fun hm => (ih hf).2 hm.1⟩
    | strike d =>
      by_cases hd : disk = d
      · rw [hd, table, Entries.find?_erase_self] at hf
        cases hf
      · rw [table, Entries.find?_erase_of_ne hd] at hf
        have other : Update.record disk ≠ .strike d := by
          rintro ⟨⟩
        exact ⟨fun hm => (ih hf).1 (hm.resolve_right other), fun hm => (ih hf).2 hm.1⟩

/-- A series of updates changes nothing but the table. -/
theorem after_elsewhere (us : List Update) (e : Environment) :
    (∀ key, key ≠ persistentKey → (after us e).disks.find? key = e.disks.find? key) ∧
      { after us e with disks := e.disks } = e := by
  induction us using List.reverseRecOn with
  | nil => exact ⟨fun _ _ => rfl, rfl⟩
  | append_singleton us u ih =>
    rw [after_concat]
    rcases u.inPlace_cases (after us e) with same | ⟨entries, put⟩
    · rw [same]
      exact ih
    · rw [put]
      refine ⟨fun key hk => ?_, ih.2⟩
      rw [withPersistent, SortedMap.find?_insert_of_ne _ hk]
      exact ih.1 key hk

end Update

/-- The members of an object that is read stand in order, so the table of disks does. -/
theorem ordered_of_ofText {document : String} (h : decoder.ofText document = .ok e) :
    e.persistentEntries.Ascending := by
  obtain ⟨-, -, disks, -⟩ := parts_of_ofText h
  unfold persistentEntries
  split
  · rename_i entries hf
    exact (disks _ (Entries.mem_of_find? hf)).1.1
  · exact List.Pairwise.nil

/-- Where there is a table of persistent disks or room for one, every update succeeds, and the table is a set
of disks with an entry for each. Where there is something else, every update fails and changes nothing. All
else stays as it was. -/
theorem persistent_updates (e : Environment) (ordered : e.persistentEntries.Ascending) (us : List Update) :
    (e.Tabular →
      (∀ disk, (Update.after us e).insertPersistent disk = .ok (Update.after (us ++ [.record disk]) e)) ∧
      (∀ disk, (Update.after us e).removePersistent disk =
        .ok (decide (disk ∈ (Update.after us e).persistentIds), Update.after (us ++ [.strike disk]) e)) ∧
      (Update.after us e).persistentIds =
        (Update.remaining us e.persistentIds.toFinset).sort (· ≤ ·) ∧
      ∀ disk entry, Entries.find? disk (Update.after us e).persistentEntries = some entry →
        (.record disk ∈ us → entry = .obj [("id", .str disk), ("path", .str "")]) ∧
        (.record disk ∉ us → Entries.find? disk e.persistentEntries = some entry)) ∧
    (¬e.Tabular →
      let fault := Failure.metadata "Unexpected type found in VM metadata for persistent disks"
      (∀ disk, (Update.after us e).insertPersistent disk = .error fault) ∧
      (∀ disk, (Update.after us e).removePersistent disk = .error fault) ∧
      Update.after us e = e) ∧
    (∀ key, key ≠ "persistent" → (Update.after us e).disks.find? key = e.disks.find? key) ∧
    { Update.after us e with disks := e.disks } = e := by
  refine ⟨fun h => ?_, fun h => ?_, Update.after_elsewhere us e⟩
  · have tabular := Update.after_tabular us h
    refine ⟨fun disk => ?_, fun disk => ?_, Update.after_persistentIds us h ordered,
      fun disk entry hf => Update.after_entry us h hf⟩
    · rw [Update.after_concat]
      exact (Update.record disk).apply_inPlace tabular
    · rw [Update.after_concat]
      exact removePersistent_eq tabular disk
  · rw [Update.after_of_not_tabular us h]
    exact ⟨insertPersistent_of_not_tabular h, removePersistent_of_not_tabular h, rfl⟩

/-- Two disks are recorded where null stands, and one of them is struck out again. -/
theorem persistent_updates_from_null :
    let e : Environment := ⟨"", ⟨"", "vm-1"⟩, "", [], ∅, ∅, .singleton "persistent" .null, .none⟩
    let us : List Update := [.record "disk-2", .record "disk-1", .strike "disk-2"]
    Entries.Ascending e.persistentEntries ∧ (Update.after us e).persistentIds = ["disk-1"] ∧
      Entries.find? "disk-1" (Update.after us e).persistentEntries =
        some (.obj [("id", .str "disk-1"), ("path", .str "")]) ∧
      (Update.after us e).removePersistent "disk-1" = .ok (true, Update.after (us ++ [.strike "disk-1"]) e) := by
  intro e us
  have ordered : Entries.Ascending e.persistentEntries := List.Pairwise.nil
  obtain ⟨-, removed, ids, entries⟩ := (persistent_updates e ordered us).1 trivial
  have left : Update.remaining us e.persistentIds.toFinset = {"disk-1"} := by decide
  have one : (Update.after us e).persistentIds = ["disk-1"] := by rw [ids, left, Finset.sort_singleton]
  obtain ⟨entry, found⟩ : ∃ entry, Entries.find? "disk-1" (Update.after us e).persistentEntries = some entry := by
    rw [← Option.isSome_iff_exists, Entries.isSome_find?, ← persistentIds_eq, one]
    rfl
  have value := (entries "disk-1" entry found).1 (.tail _ (.head _))
  exact ⟨ordered, one, found.trans (congrArg some value), by rw [removed, one]; rfl⟩

end Agent.Environment
end CloudProvider
