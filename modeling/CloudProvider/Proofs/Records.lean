import CloudProvider.Proofs.Convergence

/-! # Environments name the disks of their machines

A disk names the machines that have it, and the environment of a machine names its disks. The two are
kept apart and are changed one after the other. Here is what single operations, and the steps by which a
disk is attached or detached, make of their agreement (`Recorded`). Ids matter here: a new machine has no
disk only because no machine before it had its id (`Settled`).
-/

namespace CloudProvider
open Agent (Environment)
open Agent.Environment (Update)

/-- Ids are distinct and none of them is empty. -/
structure FreshIds (fresh : Nat → String) : Prop where
  distinct : ∀ {m n}, fresh m = fresh n → m = n
  filled : ∀ n, fresh n ≠ ""

namespace Inventory

/-- The machine has the disk. -/
def Attached (inv : Inventory) (vm disk : String) : Prop :=
  ∃ d, inv.disks.find? disk = some d ∧ vm ∈ d.vms

/-- The environment of a machine names the disks that the machine has, and no others. -/
def Records (inv : Inventory) (vm : String) (v : Vm) : Prop :=
  ∃ env, v.Reads env ∧ env.WellFormed ∧ env.Tabular ∧
    ∀ disk, disk ∈ env.persistentIds ↔ inv.Attached vm disk

/-- Every environment names the disks of its machine. -/
def Recorded (inv : Inventory) : Prop :=
  ∀ vm record, inv.vms.find? vm = some record → inv.Records vm record.vm

/-- No fault is armed, and all ids have been given out. -/
structure Settled (fresh : Nat → String) (inv : Inventory) : Prop where
  clear : inv.Faultless
  named : inv.omitsDiskIds = false
  vmIds : inv.vms.NamedBy fresh inv.issued
  diskIds : inv.disks.NamedBy fresh inv.issued

section
variable {fresh : Nat → String} {allowed : (e : Effect) → e.Reply → Prop} {inv inv' : Inventory}

/-! ## Ids that have been given out -/

theorem Settled.empty (fresh : Nat → String) : (Inventory.empty false).Settled fresh where
  clear _ := rfl
  named := rfl
  vmIds _ _ h := nomatch h
  diskIds _ _ h := nomatch h

theorem Settled.of_performs (h : inv.Settled fresh) (hl : Later inv inv') {op : Operation} {x : op.Reply}
    (hp : inv.Performs fresh op x inv') : inv'.Settled fresh := by
  have vms := h.vmIds.mono hl.issued
  have disks := h.diskIds.mono hl.issued
  suffices ids : inv'.vms.NamedBy fresh inv'.issued ∧ inv'.disks.NamedBy fresh inv'.issued from
    ⟨hl.faultless h.clear, hl.omitsDiskIds.trans h.named, ids.1, ids.2⟩
  have same : ∀ {images}, inv'.Holds inv.vms inv.disks images → _ := fun hh =>
    And.intro (hh.1 ▸ vms) (hh.2.1 ▸ disks)
  cases op with
  | createVm project spec =>
    obtain ⟨n, -, hn, -, hv, hd, -⟩ := hp
    exact ⟨hv ▸ vms.insert ⟨n, hn, rfl⟩, hd ▸ disks⟩
  | getVm vm => obtain ⟨_, _, _, hh⟩ := hp; exact same hh
  | deleteVm vm => obtain ⟨_, _, hv, hd, -⟩ := hp; exact ⟨hv ▸ vms.erase vm, hd ▸ disks⟩
  | startVm vm | stopVm vm | restartVm vm | attachIso vm path | detachIso vm | setMetadata vm metadata =>
    obtain ⟨record, hf, hv, hd, -⟩ := hp
    exact ⟨hv ▸ vms.insert (vms _ _ hf), hd ▸ disks⟩
  | attachDisk vm disk | detachDisk vm disk =>
    obtain ⟨record, d, -, hf, hv, hd, -⟩ := hp
    exact ⟨hv ▸ vms, hd ▸ disks.insert (disks _ _ hf)⟩
  | createDisk project spec =>
    obtain ⟨n, -, hn, -, hv, hd, -⟩ := hp
    exact ⟨hv ▸ vms, hd ▸ disks.insert ⟨n, hn, rfl⟩⟩
  | getDisk disk => exact same hp.2
  | deleteDisk disk => obtain ⟨d, -, hv, hd, -⟩ := hp; exact ⟨hv ▸ vms, hd ▸ disks.erase disk⟩
  | listDisks project => exact same hp.2
  | createImage name file => obtain ⟨_, _, _, _, _, _, hh⟩ := hp; exact same hh
  | deleteImage image => obtain ⟨_, -, hh⟩ := hp; exact same hh

theorem Settled.of_holds (h : inv.Settled fresh) (hl : Later inv inv')
    (hh : inv'.Holds inv.vms inv.disks inv.images) : inv'.Settled fresh where
  clear := hl.faultless h.clear
  named := hl.omitsDiskIds.trans h.named
  vmIds := hh.1 ▸ h.vmIds.mono hl.issued
  diskIds := hh.2.1 ▸ h.diskIds.mono hl.issued

theorem Settled.answers (h : inv.Settled fresh) {e : Effect} {r : e.Reply}
    (ha : Answers fresh allowed e inv r inv') : inv'.Settled fresh := by
  cases e with
  | remote op =>
    rcases perform_cases ha with ⟨f, -, hh, -⟩ | ⟨x, -, hp⟩
    · exact h.of_holds (perform_later ha) hh
    · exact h.of_performs (perform_later ha) hp
  | runTool | openFile | writeFile | createDirectory | createFile | removeDirectory | removeFile =>
    obtain ⟨-, rfl⟩ := ha
    exact h

/-! ## What is attached -/

theorem attached_insert {id : String} {d : PersistentDisk} (hd : inv'.disks = inv.disks.insert id d)
    {vm disk : String} :
    inv'.Attached vm disk ↔ if disk = id then vm ∈ d.vms else inv.Attached vm disk := by
  simp only [Attached, hd, SortedMap.find?_insert]
  split
  · simp only [Option.some.injEq, exists_eq_left']
  · rfl

theorem attached_erase {id : String} (hd : inv'.disks = inv.disks.erase id) {vm disk : String} :
    inv'.Attached vm disk ↔ disk ≠ id ∧ inv.Attached vm disk := by
  simp only [Attached, hd, SortedMap.find?_erase]
  split
  · rename_i he; simp [he]
  · rename_i he; simp [he]

theorem attached_congr (hd : inv'.disks = inv.disks) {vm disk : String} :
    inv'.Attached vm disk ↔ inv.Attached vm disk := by
  rw [Attached, Attached, hd]

theorem Records.framed {vm : String} {v v' : Vm} (h : inv.Records vm v) (hm : v'.metadata = v.metadata)
    (same : ∀ disk, inv'.Attached vm disk ↔ inv.Attached vm disk) : inv'.Records vm v' := by
  obtain ⟨env, ⟨document, hf, hd⟩, wf, tabular, ids⟩ := h
  exact ⟨env, ⟨document, hm ▸ hf, hd⟩, wf, tabular, fun disk => (ids disk).trans (same disk).symm⟩

/-- What machines there are had the same environments and the same disks before. -/
theorem Recorded.framed (h : inv.Recorded)
    (frame : ∀ vm record', inv'.vms.find? vm = some record' → ∃ record, inv.vms.find? vm = some record ∧
      record'.vm.metadata = record.vm.metadata ∧ ∀ disk, inv'.Attached vm disk ↔ inv.Attached vm disk) :
    inv'.Recorded := by
  intro vm record' hf'
  obtain ⟨record, hf, hm, same⟩ := frame vm record' hf'
  exact (h vm record hf).framed hm same

theorem Recorded.of_holds (h : inv.Recorded) {images : SortedMap ImageRecord}
    (hh : inv'.Holds inv.vms inv.disks images) : inv'.Recorded :=
  h.framed fun _ record hf => ⟨record, hh.1 ▸ hf, rfl, fun _ => attached_congr hh.2.1⟩

/-- A machine is put in place with an environment of its own. -/
theorem Recorded.insertVm (h : inv.Recorded) {vm : String} {record : VmRecord}
    {images : SortedMap ImageRecord} (hh : inv'.Holds (inv.vms.insert vm record) inv.disks images)
    (hr : inv.Records vm record.vm) : inv'.Recorded := by
  intro vm' record' hf
  rw [hh.1, SortedMap.find?_insert] at hf
  have same : ∀ disk, inv'.Attached vm' disk ↔ inv.Attached vm' disk := fun _ =>
    attached_congr hh.2.1
  split at hf
  · rename_i he
    subst he
    cases hf
    exact hr.framed rfl same
  · exact (h vm' record' hf).framed rfl same

theorem Recorded.changeVm (h : inv.Recorded) {vm : String} {change : VmRecord → VmRecord}
    (hc : inv.ChangesVm vm change inv') (same : ∀ record, (change record).vm.metadata = record.vm.metadata) :
    inv'.Recorded := by
  obtain ⟨record, hf, hh⟩ := hc
  exact h.insertVm hh ((h vm record hf).framed (same record) fun disk => .rfl)

/-- A disk that no machine has may come and go. -/
theorem Recorded.eraseDisk (h : inv.Recorded) {disk : String} (free : ∀ vm, ¬ inv.Attached vm disk)
    {images : SortedMap ImageRecord} (hh : inv'.Holds inv.vms (inv.disks.erase disk) images) :
    inv'.Recorded := by
  refine h.framed fun vm record hf => ⟨record, hh.1 ▸ hf, rfl, fun disk' => ?_⟩
  rw [attached_erase hh.2.1, and_iff_right_iff_imp]
  rintro ha rfl
  exact free vm ha

theorem Recorded.insertDisk (h : inv.Recorded) {disk : String} (new : inv.disks.find? disk = none)
    {d : PersistentDisk} (free : d.vms = []) {images : SortedMap ImageRecord}
    (hh : inv'.Holds inv.vms (inv.disks.insert disk d) images) : inv'.Recorded := by
  refine h.framed fun vm record hf => ⟨record, hh.1 ▸ hf, rfl, fun disk' => ?_⟩
  rw [attached_insert hh.2.1]
  split
  · rename_i he
    rw [he, free, Attached, new]
    simp
  · rfl

/-! ## Operations -/

/-- The operations that are to be answered for. -/
def accountable : List String :=
  ["create_vm", "set_metadata", "attach_disk", "detach_disk", "delete_disk"]

theorem Recorded.performs (h : inv.Recorded) (settled : inv.Settled fresh) (ids : FreshIds fresh)
    {op : Operation} {x : op.Reply} (hp : inv.Performs fresh op x inv') (hop : op.name ∉ accountable) :
    inv'.Recorded := by
  cases op with
  | createVm | setMetadata | attachDisk | detachDisk | deleteDisk =>
    exact absurd (by simp [accountable, Operation.name]) hop
  | getVm vm => obtain ⟨_, _, _, hh⟩ := hp; exact h.of_holds hh
  | deleteVm vm =>
    obtain ⟨_, _, hv, hd, -⟩ := hp
    refine h.framed fun vm' record hf => ?_
    rw [hv, SortedMap.find?_erase] at hf
    split at hf
    · cases hf
    · exact ⟨record, hf, rfl, fun disk => attached_congr hd⟩
  | startVm vm | stopVm vm | restartVm vm | attachIso vm path | detachIso vm =>
    exact h.changeVm hp fun _ => rfl
  | createDisk project spec =>
    obtain ⟨n, hn, -, -, hh⟩ := hp
    exact h.insertDisk (settled.diskIds.find?_fresh ids.distinct hn) rfl hh
  | getDisk disk => exact h.of_holds hp.2
  | listDisks project => exact h.of_holds hp.2
  | createImage name file => obtain ⟨_, _, _, _, _, _, hh⟩ := hp; exact h.of_holds hh
  | deleteImage image => obtain ⟨_, -, hh⟩ := hp; exact h.of_holds hh

end
end Inventory

/-! ## Attaching and detaching -/

namespace Revision
variable {rev : Revision} {vm disk : String} {inv inv' : Inventory}

theorem mem_machines {v : String} {vms : List String} :
    v ∈ rev.machines vm vms ↔ if v = vm then rev = .attach else v ∈ vms := by
  cases rev with
  | attach =>
    simp only [machines]
    by_cases hv : v = vm
    · subst hv
      split <;> simp_all
    · split <;> simp [hv]
  | detach => by_cases hv : v = vm <;> simp [machines, hv]

theorem mem_table {id : String} {entries : Entries Json} :
    id ∈ ((rev.update disk).table entries).map (·.1) ↔
      if id = disk then rev = .attach else id ∈ entries.map (·.1) := by
  cases rev with
  | attach =>
    rw [update, Update.table, Entries.mem_keys_insert]
    by_cases hi : id = disk <;> simp [hi]
  | detach =>
    rw [update, Update.table, Entries.mem_keys_erase]
    by_cases hi : id = disk <;> simp [hi]

/-- The disk and the environment of the machine have been changed alike. -/
theorem Done.recorded (h : rev.Done vm disk inv inv') (hr : inv.Recorded) : inv'.Recorded := by
  obtain ⟨record, d, _, path, hf, hd, ⟨env, env', he, ha, rfl⟩, hv', hd', -⟩ := h
  obtain ⟨env₀, he₀, wf, tabular, ids⟩ := hr vm record hf
  obtain rfl := he.unique he₀
  have attached : ∀ v id, inv'.Attached v id ↔
      if v = vm ∧ id = disk then rev = .attach else inv.Attached v id := by
    intro v id
    rw [Inventory.attached_insert hd', revise, mem_machines]
    by_cases hi : id = disk
    · subst hi
      have before : inv.Attached v id ↔ v ∈ d.vms := by
        simp only [Inventory.Attached, hd, Option.some.injEq, exists_eq_left']
      simp only [if_true, and_true, before]
    · simp only [hi, if_false, and_false]
  intro v record' hf'
  rw [hv', SortedMap.find?_insert] at hf'
  split at hf'
  · rename_i hv
    subst hv
    cases hf'
    refine ⟨env', Vm.reads_withDocument _ (wf.apply ha), wf.apply ha, Update.apply_tabular ha, fun id => ?_⟩
    rw [Environment.persistentIds_eq, Update.apply_entries ha, mem_table, attached, ← ids,
      Environment.persistentIds_eq]
    simp only [true_and]
  · rename_i hv
    refine (hr v record' hf').framed rfl fun id => ?_
    rw [attached, if_neg fun h => hv h.1]

/-- Where environments name their disks, a call needs no more than that machine and disk are there. -/
theorem ready_of_recorded (hr : inv.Recorded) {record : VmRecord} {d : PersistentDisk}
    (hf : inv.vms.find? vm = some record) (hd : inv.disks.find? disk = some d) :
    rev.Ready vm disk inv := by
  obtain ⟨env, he, wf, tabular, ids⟩ := hr vm record hf
  rcases (rev.update disk).apply_cases tabular with ⟨ha, -⟩ | ha
  · exact ⟨record, d, env, env, hf, hd, he, ha⟩
  · exact ⟨record, d, env, _, hf, hd, he, ha⟩

/-- With no fault armed and all else working, either nothing is done or everything. -/
theorem steps_recorded {fresh : Nat → String} {allowed : (e : Effect) → e.Reply → Prop}
    (hr : inv.Recorded) (clear : inv.Faultless) (works : Obliging (Inventory.Answers fresh allowed)) :
    Call.Leaves (Inventory.Answers fresh allowed) (rev.steps vm disk) Inventory.Recorded inv := by
  have whole : inv.WholeNumbers vm := by
    intro record env hf he
    obtain ⟨env₀, he₀, wf, -⟩ := hr vm record hf
    obtain rfl := he.unique he₀
    exact wf.integersOnly
  by_cases ready : rev.Ready vm disk inv
  · exact ((Halfway.refl inv).steps_ends whole fresh allowed).mono (fun _ _ hd => hd.recorded hr)
      fun _ _ hh => absurd ⟨clear, works, ready⟩ hh.2
  · rw [Call.Leaves, steps, Call.ends_bind]
    refine Inventory.ends_remote (fun f inv₁ _ hh _ => hr.of_holds hh) fun t inv₁ _ hp => ?_
    obtain ⟨record, d, hf, hd, -⟩ := performs_operation hp
    exact absurd (ready_of_recorded hr hf hd) ready

end Revision
end CloudProvider
