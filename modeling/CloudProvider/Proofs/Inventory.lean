import CloudProvider.Proofs.SortedMap
import CloudProvider.Proofs.World

/-! # What an operation can do to a control plane in memory

An operation is refused and leaves machines, disks and images as they are, or it is performed
(`perform_cases`). `Refuses` tells why it is refused when no fault is armed for it, `Performs` what it
finds and leaves. Nothing below opens `perform` again.
-/

namespace CloudProvider.Inventory

/-- Machines, disks and images of an inventory. -/
def Holds (inv : Inventory) (vms : SortedMap VmRecord) (disks : SortedMap PersistentDisk)
    (images : SortedMap ImageRecord) : Prop :=
  inv.vms = vms ∧ inv.disks = disks ∧ inv.images = images

/-- What stands against an operation that no fault is armed for. -/
def Refuses (inv : Inventory) : Operation → CloudFault → Prop
  | .createVm .., _ | .createDisk .., _ | .listDisks _, _ => False
  | .getVm vm, f | .deleteVm vm, f | .startVm vm, f | .stopVm vm, f | .restartVm vm, f
  | .attachIso vm _, f | .setMetadata vm _, f => inv.vms.find? vm = none ∧ f = vmNotFound vm
  | .attachDisk vm disk, f | .detachDisk vm disk, f =>
    inv.vms.find? vm = none ∧ f = vmNotFound vm ∨
      inv.disks.find? disk = none ∧ f = diskNotFound disk
  | .detachIso vm, f =>
    inv.vms.find? vm = none ∧ f = vmNotFound vm ∨
      ∃ record, inv.vms.find? vm = some record ∧ record.iso = none ∧ f.isTaskFailure = true
  | .getDisk disk, f | .deleteDisk disk, f =>
    inv.disks.find? disk = none ∧ f = diskNotFound disk
  | .createImage name file, f =>
    ∃ fault, file.content = .error fault ∧ f = .localFile s!"{name}: {fault.message}"
  | .deleteImage image, f => inv.images.find? image = none ∧ f = imageNotFound image

/-- A machine is found and changed. -/
def ChangesVm (inv : Inventory) (vm : String) (change : VmRecord → VmRecord) (inv' : Inventory) : Prop :=
  ∃ record, inv.vms.find? vm = some record ∧
    inv'.Holds (inv.vms.insert vm (change record)) inv.disks inv.images

/-- A machine and a disk are found, and the machines of the disk are changed. -/
def ChangesDisk (inv : Inventory) (vm disk : String) (change : List String → List String)
    (inv' : Inventory) : Prop :=
  ∃ record d, inv.vms.find? vm = some record ∧ inv.disks.find? disk = some d ∧
    inv'.Holds inv.vms (inv.disks.insert disk { d with vms := change d.vms }) inv.images

/-- The disks of a new machine. -/
def newDisks (fresh : Nat → String) (inv : Inventory) (disks : List AttachedDisk) : List AttachedDisk :=
  if inv.omitsDiskIds then disks.map ({ · with id := "" }) else nameDisks fresh inv.issued disks

/-- What an operation answers and leaves when it is performed. -/
def Performs (fresh : Nat → String) (inv : Inventory) :
    (op : Operation) → op.Reply → Inventory → Prop
  | .createVm _ spec, t, inv' => ∃ n, inv.issued ≤ n ∧ n < inv'.issued ∧ t.entity.id = fresh n ∧
      inv'.Holds (inv.vms.insert (fresh n)
        ⟨⟨fresh n, spec.name, "STOPPED", newDisks fresh inv spec.attachedDisks, ∅⟩, none⟩)
        inv.disks inv.images
  | .getVm vm, v, inv' => ∃ record, inv.vms.find? vm = some record ∧ v = record.vm ∧
      inv'.Holds inv.vms inv.disks inv.images
  | .deleteVm vm, _, inv' => ∃ record, inv.vms.find? vm = some record ∧
      inv'.Holds (inv.vms.erase vm) inv.disks inv.images
  | .startVm vm, _, inv' | .restartVm vm, _, inv' => inv.ChangesVm vm (setState "STARTED") inv'
  | .stopVm vm, _, inv' => inv.ChangesVm vm (setState "STOPPED") inv'
  | .attachDisk vm disk, _, inv' =>
    inv.ChangesDisk vm disk (fun vms => if vm ∈ vms then vms else vms ++ [vm]) inv'
  | .detachDisk vm disk, _, inv' => inv.ChangesDisk vm disk (·.filter (· ≠ vm)) inv'
  | .attachIso vm path, _, inv' => inv.ChangesVm vm ({ · with iso := some path }) inv'
  | .detachIso vm, _, inv' => inv.ChangesVm vm ({ · with iso := none }) inv'
  | .setMetadata vm metadata, _, inv' =>
    inv.ChangesVm vm (VmRecord.putMetadata · metadata.metadata) inv'
  | .createDisk _ spec, t, inv' => ∃ n, inv.issued ≤ n ∧ n < inv'.issued ∧ t.entity.id = fresh n ∧
      inv'.Holds inv.vms
        (inv.disks.insert (fresh n) ⟨fresh n, spec.name, spec.flavor, spec.capacityGb, []⟩) inv.images
  | .getDisk disk, d, inv' => inv.disks.find? disk = some d ∧
      inv'.Holds inv.vms inv.disks inv.images
  | .deleteDisk disk, _, inv' => ∃ d, inv.disks.find? disk = some d ∧
      inv'.Holds inv.vms (inv.disks.erase disk) inv.images
  | .listDisks _, ds, inv' => ds = inv.disks.values ∧ inv'.Holds inv.vms inv.disks inv.images
  | .createImage name file, t, inv' => ∃ content n, file.content = .ok content ∧ inv.issued ≤ n ∧
      n < inv'.issued ∧ t.entity.id = fresh n ∧
      inv'.Holds inv.vms inv.disks (inv.images.insert (fresh n) ⟨name, content⟩)
  | .deleteImage image, _, inv' => ∃ i, inv.images.find? image = some i ∧
      inv'.Holds inv.vms inv.disks (inv.images.erase image)

/-- What goes on beside machines, disks and images: ids are used up, and so are faults. -/
structure Later (inv inv' : Inventory) : Prop where
  issued : inv.issued ≤ inv'.issued
  omitsDiskIds : inv'.omitsDiskIds = inv.omitsDiskIds
  faults : ∀ name, inv.faults.find? name = none → inv'.faults.find? name = none

section
variable {fresh : Nat → String} {inv inv' : Inventory}

theorem changeVm_cases {operation vm : String} {f : VmRecord → VmRecord}
    {r : Except CloudFault Task} (h : inv.changeVm fresh operation vm f = (r, inv')) :
    (r = .error (vmNotFound vm) ∧ inv' = inv ∧ inv.vms.find? vm = none) ∨
      ((∃ t, r = .ok t) ∧ inv.ChangesVm vm f inv') := by
  unfold changeVm at h
  split at h
  · rename_i hf
    cases h
    exact .inl ⟨rfl, rfl, hf⟩
  · rename_i record hf
    cases h
    exact .inr ⟨⟨_, rfl⟩, record, hf, rfl, rfl, rfl⟩

theorem changeDisk_cases {operation vm disk : String} {f : List String → List String}
    {r : Except CloudFault Task} (h : inv.changeDisk fresh operation vm disk f = (r, inv')) :
    (inv' = inv ∧ (r = .error (vmNotFound vm) ∧ inv.vms.find? vm = none ∨
      r = .error (diskNotFound disk) ∧ inv.disks.find? disk = none)) ∨
      ((∃ t, r = .ok t) ∧ inv.ChangesDisk vm disk f inv') := by
  unfold changeDisk at h
  split at h
  · rename_i hf
    cases h
    exact .inl ⟨rfl, .inl ⟨rfl, hf⟩⟩
  · rename_i hf
    cases h
    exact .inl ⟨rfl, .inr ⟨rfl, hf⟩⟩
  · rename_i record d hv hd
    cases h
    exact .inr ⟨⟨_, rfl⟩, record, d, hv, hd, rfl, rfl, rfl⟩

theorem removeIso_cases {vm : String} {r : Except CloudFault Task}
    (h : inv.removeIso fresh vm = (r, inv')) :
    (∃ f, r = .error f ∧ inv'.Holds inv.vms inv.disks inv.images ∧ inv.Refuses (.detachIso vm) f) ∨
      ((∃ t, r = .ok t) ∧ inv.ChangesVm vm ({ · with iso := none }) inv') := by
  unfold removeIso at h
  split at h
  · rename_i hf
    cases h
    exact .inl ⟨_, rfl, ⟨rfl, rfl, rfl⟩, .inl ⟨hf, rfl⟩⟩
  · rename_i v hf
    cases h
    exact .inl ⟨_, rfl, ⟨rfl, rfl, rfl⟩, .inr ⟨_, hf, rfl, rfl⟩⟩
  · rename_i v path hf
    cases h
    exact .inr ⟨⟨_, rfl⟩, _, hf, rfl, rfl, rfl⟩

theorem addVm_performs {spec : VmCreateSpec} {r : Except CloudFault Task}
    (project : String) (h : inv.addVm fresh spec = (r, inv')) :
    ∃ t, r = .ok t ∧ inv.Performs fresh (.createVm project spec) t inv' := by
  cases h
  refine ⟨_, rfl, _, ?_, Nat.lt_succ_of_lt (Nat.lt_succ_self _), rfl, rfl, rfl, rfl⟩
  split <;> omega

theorem act_cases {op : Operation} {r : op.Answer} (h : inv.act fresh op = (r, inv')) :
    (∃ f, r = .error f ∧ inv'.Holds inv.vms inv.disks inv.images ∧ inv.Refuses op f) ∨
      ∃ x, r = .ok x ∧ inv.Performs fresh op x inv' := by
  have same : inv.Holds inv.vms inv.disks inv.images := ⟨rfl, rfl, rfl⟩
  cases op with
  | createVm project spec => exact .inr (addVm_performs project h)
  | getVm vm =>
    cases hf : inv.vms.find? vm with
    | none => simp only [act, hf] at h; cases h; exact .inl ⟨_, rfl, same, hf, rfl⟩
    | some record => simp only [act, hf] at h; cases h; exact .inr ⟨_, rfl, record, hf, rfl, same⟩
  | deleteVm vm =>
    cases hf : inv.vms.find? vm with
    | none => simp only [act, hf] at h; cases h; exact .inl ⟨_, rfl, same, hf, rfl⟩
    | some record =>
      simp only [act, hf] at h; cases h; exact .inr ⟨_, rfl, record, hf, rfl, rfl, rfl⟩
  | startVm vm | stopVm vm | restartVm vm | attachIso vm path | setMetadata vm metadata =>
    rcases changeVm_cases h with ⟨rfl, rfl, hf⟩ | ⟨⟨t, rfl⟩, hc⟩
    · exact .inl ⟨_, rfl, same, hf, rfl⟩
    · exact .inr ⟨t, rfl, hc⟩
  | attachDisk vm disk | detachDisk vm disk =>
    simp only [act] at h
    rcases changeDisk_cases h with ⟨rfl, ⟨rfl, hf⟩ | ⟨rfl, hf⟩⟩ | ⟨⟨t, rfl⟩, hc⟩
    · exact .inl ⟨_, rfl, same, .inl ⟨hf, rfl⟩⟩
    · exact .inl ⟨_, rfl, same, .inr ⟨hf, rfl⟩⟩
    · exact .inr ⟨t, rfl, hc⟩
  | detachIso vm =>
    rcases removeIso_cases h with hr | ⟨⟨t, rfl⟩, hc⟩
    · exact .inl hr
    · exact .inr ⟨t, rfl, hc⟩
  | createDisk project spec =>
    cases h
    exact .inr ⟨_, rfl, inv.issued, Nat.le_refl _, Nat.lt_succ_of_lt (Nat.lt_succ_self _), rfl, rfl, rfl, rfl⟩
  | getDisk disk =>
    cases hf : inv.disks.find? disk with
    | none => simp only [act, hf] at h; cases h; exact .inl ⟨_, rfl, same, hf, rfl⟩
    | some d => simp only [act, hf] at h; cases h; exact .inr ⟨_, rfl, hf, same⟩
  | deleteDisk disk =>
    cases hf : inv.disks.find? disk with
    | none => simp only [act, hf] at h; cases h; exact .inl ⟨_, rfl, same, hf, rfl⟩
    | some d => simp only [act, hf] at h; cases h; exact .inr ⟨_, rfl, d, hf, rfl, rfl, rfl⟩
  | listDisks project => cases h; exact .inr ⟨_, rfl, rfl, same⟩
  | createImage name file =>
    obtain ⟨content⟩ := file
    cases content with
    | error fault => cases h; exact .inl ⟨_, rfl, same, fault, rfl, rfl⟩
    | ok content =>
      cases h
      exact .inr ⟨_, rfl, content, inv.issued, rfl, Nat.le_refl _,
        Nat.lt_succ_of_lt (Nat.lt_succ_self _), rfl, rfl, rfl, rfl⟩
  | deleteImage image =>
    cases hf : inv.images.find? image with
    | none => simp only [act, hf] at h; cases h; exact .inl ⟨_, rfl, same, hf, rfl⟩
    | some i => simp only [act, hf] at h; cases h; exact .inr ⟨_, rfl, i, hf, rfl, rfl, rfl⟩

theorem Later.refl (inv : Inventory) : Later inv inv := ⟨Nat.le_refl _, rfl, fun _ h => h⟩

theorem Later.complete {operation entity : String} (h : Later inv inv') :
    Later inv (complete fresh inv' operation entity).2 :=
  ⟨Nat.le_succ_of_le h.issued, h.omitsDiskIds, h.faults⟩

theorem changeVm_later (operation vm : String) (f : VmRecord → VmRecord) :
    Later inv (inv.changeVm fresh operation vm f).2 := by
  unfold changeVm
  split
  · exact .refl inv
  · exact .complete ⟨Nat.le_refl _, rfl, fun _ h => h⟩

theorem changeDisk_later (operation vm disk : String) (f : List String → List String) :
    Later inv (inv.changeDisk fresh operation vm disk f).2 := by
  unfold changeDisk
  split
  · exact .refl inv
  · exact .refl inv
  · exact .complete ⟨Nat.le_refl _, rfl, fun _ h => h⟩

theorem act_later (op : Operation) : Later inv (inv.act fresh op).2 := by
  cases op with
  | createVm project spec =>
    refine .complete ⟨?_, rfl, fun _ h => h⟩
    change inv.issued ≤ (if inv.omitsDiskIds then _ else _) + 1
    split <;> omega
  | getVm vm | getDisk disk | listDisks project => exact .refl inv
  | startVm vm | stopVm vm | restartVm vm | attachIso vm path | setMetadata vm metadata =>
    exact changeVm_later ..
  | attachDisk vm disk | detachDisk vm disk => exact changeDisk_later ..
  | createDisk project spec => exact .complete ⟨Nat.le_succ _, rfl, fun _ h => h⟩
  | createImage name file =>
    obtain ⟨content⟩ := file
    cases content with
    | error fault => exact .refl inv
    | ok content => exact .complete ⟨Nat.le_succ _, rfl, fun _ h => h⟩
  | deleteVm vm | deleteDisk disk | deleteImage image =>
    simp only [act]
    split
    · exact .refl inv
    · exact .complete ⟨Nat.le_refl _, rfl, fun _ h => h⟩
  | detachIso vm =>
    simp only [act, removeIso]
    split
    · exact .refl inv
    · exact ⟨Nat.le_succ _, rfl, fun _ h => h⟩
    · exact .complete ⟨Nat.le_refl _, rfl, fun _ h => h⟩

theorem begin_later (inv : Inventory) (operation : String) : Later inv (inv.begin operation).2 := by
  refine ⟨Nat.le_refl _, rfl, fun name hn => ?_⟩
  change (inv.faults.erase operation).find? name = none
  rw [SortedMap.find?_erase, hn, ite_self]

/-- What stands between an operation and its act: a fault, or nothing. An image that cannot be read is
not even begun. -/
theorem perform_eq (fresh : Nat → String) (inv : Inventory) (op : Operation) :
    (∃ fault, inv.faults.find? op.name = some fault ∧
      inv.perform fresh op = (.error fault, (inv.begin op.name).2)) ∨
    (∃ begun, Later inv begun ∧ begun.issued = inv.issued ∧
      begun.Holds inv.vms inv.disks inv.images ∧ inv.perform fresh op = begun.act fresh op) := by
  unfold perform
  split
  · exact .inr ⟨inv, .refl inv, rfl, ⟨rfl, rfl, rfl⟩, rfl⟩
  · cases hf : inv.faults.find? op.name with
    | some fault =>
      refine .inl ⟨fault, rfl, ?_⟩
      simp only [begin, hf]
    | none =>
      refine .inr ⟨(inv.begin op.name).2, begin_later inv op.name, rfl, ⟨rfl, rfl, rfl⟩, ?_⟩
      simp only [begin, hf]

/-- An operation is refused, by a fault or by what is not there, or it is performed. -/
theorem perform_cases {op : Operation} {r : op.Answer} (h : inv.perform fresh op = (r, inv')) :
    (∃ f, r = .error f ∧ inv'.Holds inv.vms inv.disks inv.images ∧
      (inv.faults.find? op.name = some f ∨ inv.Refuses op f)) ∨
      ∃ x, r = .ok x ∧ inv.Performs fresh op x inv' := by
  rcases perform_eq fresh inv op with ⟨fault, hf, hp⟩ | ⟨begun, hl, hi, ⟨hv, hd, hm⟩, hp⟩
  · rw [hp] at h
    cases h
    exact .inl ⟨fault, rfl, ⟨rfl, rfl, rfl⟩, .inl hf⟩
  · rw [hp] at h
    have ho := hl.omitsDiskIds
    obtain ⟨vms, disks, images, faults, journal, issued, omits⟩ := begun
    cases hv; cases hd; cases hm; cases hi; cases ho
    rcases act_cases h with ⟨f, hr, hh, hw⟩ | ⟨x, hr, hx⟩
    · exact .inl ⟨f, hr, hh, .inr hw⟩
    · exact .inr ⟨x, hr, by cases op <;> exact hx⟩

theorem perform_later {op : Operation} {r : op.Answer} (h : inv.perform fresh op = (r, inv')) :
    Later inv inv' := by
  rcases perform_eq fresh inv op with ⟨fault, hf, hp⟩ | ⟨begun, hl, hi, hh, hp⟩
  · rw [hp] at h
    cases h
    exact begin_later inv op.name
  · rw [hp] at h
    have ha : Later begun inv' := by
      have later : Later begun (begun.act fresh op).2 := act_later op
      rwa [h] at later
    exact ⟨Nat.le_trans hl.issued ha.issued, ha.omitsDiskIds.trans hl.omitsDiskIds,
      fun name hn => ha.faults name (hl.faults name hn)⟩

/-- The rule for an operation in memory. -/
theorem ends_remote {allowed : (e : Effect) → e.Reply → Prop} {op : Operation}
    {Q : op.Reply → Inventory → Prop} {E : Failure → Inventory → Prop}
    (refused : ∀ f inv', Later inv inv' → inv'.Holds inv.vms inv.disks inv.images →
      (inv.faults.find? op.name = some f ∨ inv.Refuses op f) → E (.cloud f) inv')
    (performed : ∀ x inv', Later inv inv' → inv.Performs fresh op x inv' → Q x inv') :
    Call.Ends (Answers fresh allowed) (Call.remote op) Q E inv := by
  rw [Call.ends_remote]
  intro r inv' h
  rcases perform_cases h with ⟨f, rfl, hh, hw⟩ | ⟨x, rfl, hp⟩
  · exact refused f inv' (perform_later h) hh hw
  · exact performed x inv' (perform_later h) hp

end
end CloudProvider.Inventory
