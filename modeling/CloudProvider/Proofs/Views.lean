import CloudProvider.Proofs.Records

/-! # What a call about one machine sees

A call that attaches or detaches a disk asks about one machine. Of the control plane it sees this machine,
and of each disk all but the other machines that have it (`SameFor`). An operation that serves the machine
is answered by what it sees, but for the id of its task, and leaves what it sees the same
(`perform_alike`); an operation that serves another machine changes nothing of it (`perform_spares`).
-/

namespace CloudProvider

/-- The operations by which disks are attached and detached, if they are about the machine. -/
def Operation.Serves (vm : String) : Operation → Prop
  | .attachDisk v _ | .detachDisk v _ | .getVm v | .setMetadata v _ | .detachIso v | .attachIso v _ => v = vm
  | _ => False

/-- Answers that make no difference to a call that does not look at tasks. Failed tasks matter to it
only where an image is detached, and there one is as good as another. -/
def Operation.Interchangeable : (op : Operation) → op.Answer → op.Answer → Prop
  | .attachDisk .., r, r' | .detachDisk .., r, r' | .setMetadata .., r, r' | .attachIso .., r, r' =>
    r.map (fun _ => ()) = r'.map fun _ => ()
  | .detachIso _, r, r' => r.map (fun _ => ()) = r'.map (fun _ => ()) ∨
      ∃ f f', r = .error f ∧ r' = .error f' ∧ f.isTaskFailure = true ∧ f'.isTaskFailure = true
  | _, r, r' => r = r'

theorem Operation.Interchangeable.refl (op : Operation) (r : op.Answer) : op.Interchangeable r r := by
  cases op with
  | detachIso vm => exact .inl rfl
  | _ => exact rfl

/-- A disk without the machines that have it, and whether one of them is this one. -/
def PersistentDisk.seenBy (d : PersistentDisk) (vm : String) : PersistentDisk × Bool :=
  ({ d with vms := [] }, vm ∈ d.vms)

namespace Inventory

/-- The machine is the same, and so are the disks as it sees them. -/
structure SameFor (vm : String) (inv inv' : Inventory) : Prop where
  machine : inv'.vms.find? vm = inv.vms.find? vm
  disks : ∀ id, (inv'.disks.find? id).map (·.seenBy vm) = (inv.disks.find? id).map (·.seenBy vm)

section
variable {fresh : Nat → String} {vm other : String} {inv inv' inv'' : Inventory}

theorem SameFor.refl (vm : String) (inv : Inventory) : SameFor vm inv inv := ⟨rfl, fun _ => rfl⟩

theorem SameFor.symm (h : SameFor vm inv inv') : SameFor vm inv' inv :=
  ⟨h.machine.symm, fun id => (h.disks id).symm⟩

theorem SameFor.trans (h : SameFor vm inv inv') (h' : SameFor vm inv' inv'') : SameFor vm inv inv'' :=
  ⟨h'.machine.trans h.machine, fun id => (h'.disks id).trans (h.disks id)⟩

theorem SameFor.of_holds (h : inv'.Holds inv.vms inv.disks inv.images) : SameFor vm inv inv' := by
  obtain ⟨vms, disks, -⟩ := h
  exact ⟨by rw [vms], fun id => by rw [disks]⟩

/-- The same machines with their metadata and images, and on every disk the same machines. -/
def SameMachines (inv inv' : Inventory) : Prop :=
  inv'.vms = inv.vms ∧ ∀ vm disk, inv'.Attached vm disk ↔ inv.Attached vm disk

/-- What is the same for every machine is the same, but for the order of the machines of a disk. -/
theorem SameFor.all (h : ∀ vm, SameFor vm inv inv') : inv.SameMachines inv' := by
  refine ⟨SortedMap.ext_find? fun vm => (h vm).machine, fun vm disk => ?_⟩
  have attached : ∀ inv : Inventory,
      inv.Attached vm disk ↔ (((inv.disks.find? disk).map (·.seenBy vm)).map (·.2)) = some true := by
    intro inv
    unfold Attached
    cases inv.disks.find? disk with
    | none => simp
    | some d => simp [PersistentDisk.seenBy]
  rw [attached, attached, (h vm).disks disk]

/-! ## Operations that serve the machine -/

theorem SameFor.disk_none (h : SameFor vm inv inv') (id : String) :
    inv'.disks.find? id = none ↔ inv.disks.find? id = none := by
  have seen := h.disks id
  constructor
  · intro none
    rw [none] at seen
    exact Option.map_eq_none_iff.1 seen.symm
  · intro none
    rw [none] at seen
    exact Option.map_eq_none_iff.1 seen

/-- The machine is found in both, or in neither, and changed. -/
theorem SameFor.changeVm (h : SameFor vm inv inv') (operation : String) (f : VmRecord → VmRecord) :
    (inv.changeVm fresh operation vm f).1.map (fun _ => ()) =
        (inv'.changeVm fresh operation vm f).1.map (fun _ => ()) ∧
      SameFor vm (inv.changeVm fresh operation vm f).2 (inv'.changeVm fresh operation vm f).2 := by
  unfold Inventory.changeVm
  rw [h.machine]
  cases inv.vms.find? vm with
  | none => exact ⟨rfl, h⟩
  | some record =>
    refine ⟨rfl, ?_, h.disks⟩
    exact (SortedMap.find?_insert_self ..).trans (SortedMap.find?_insert_self ..).symm

/-- The machine and the disk are found in both, or not, and what becomes of the machine's part in the
disk does not depend on the others. -/
theorem SameFor.changeDisk (h : SameFor vm inv inv') (operation disk : String)
    {f : List String → List String} (own : ∀ vms vms', vm ∈ f vms ↔ vm ∈ f vms') :
    (inv.changeDisk fresh operation vm disk f).1.map (fun _ => ()) =
        (inv'.changeDisk fresh operation vm disk f).1.map (fun _ => ()) ∧
      SameFor vm (inv.changeDisk fresh operation vm disk f).2 (inv'.changeDisk fresh operation vm disk f).2 := by
  unfold Inventory.changeDisk
  rw [h.machine]
  cases inv.vms.find? vm with
  | none => exact ⟨rfl, h⟩
  | some record =>
    cases hd : inv.disks.find? disk with
    | none =>
      rw [(h.disk_none disk).2 hd]
      exact ⟨rfl, h⟩
    | some d =>
      cases hd' : inv'.disks.find? disk with
      | none => rw [(h.disk_none disk).1 hd'] at hd; cases hd
      | some d' =>
        have seen := h.disks disk
        rw [hd, hd', Option.map_some, Option.map_some, Option.some.injEq] at seen
        refine ⟨rfl, h.machine, ?_⟩
        intro id
        show ((inv'.disks.insert disk _).find? id).map _ = ((inv.disks.insert disk _).find? id).map _
        rw [SortedMap.find?_insert, SortedMap.find?_insert]
        split
        · have bare : { d' with vms := [] } = { d with vms := [] } := congrArg Prod.fst seen
          simp only [Option.map_some, PersistentDisk.seenBy, Option.some.injEq, Prod.mk.injEq]
          exact ⟨bare, by rw [decide_eq_decide]; exact own d'.vms d.vms⟩
        · exact h.disks id

theorem SameFor.removeIso (h : SameFor vm inv inv') :
    (Operation.detachIso vm).Interchangeable (inv.removeIso fresh vm).1 (inv'.removeIso fresh vm).1 ∧
      SameFor vm (inv.removeIso fresh vm).2 (inv'.removeIso fresh vm).2 := by
  unfold Inventory.removeIso
  rw [h.machine]
  cases inv.vms.find? vm with
  | none => exact ⟨.inl rfl, h⟩
  | some record =>
    obtain ⟨v, iso⟩ := record
    cases iso with
    | none => exact ⟨.inr ⟨_, _, rfl, rfl, rfl, rfl⟩, h.machine, h.disks⟩
    | some path =>
      refine ⟨.inl rfl, ?_, h.disks⟩
      exact (SortedMap.find?_insert_self ..).trans (SortedMap.find?_insert_self ..).symm

theorem act_alike {op : Operation} (serves : op.Serves vm) (h : SameFor vm inv inv') :
    op.Interchangeable (inv.act fresh op).1 (inv'.act fresh op).1 ∧
      SameFor vm (inv.act fresh op).2 (inv'.act fresh op).2 := by
  cases op with
  | getVm v =>
    cases serves
    refine ⟨?_, h⟩
    show _ = _
    simp only [act, h.machine]
  | setMetadata v metadata | attachIso v path =>
    cases serves
    exact h.changeVm _ _
  | attachDisk v disk =>
    cases serves
    refine h.changeDisk _ _ fun vms vms' => ?_
    have present : ∀ vms : List String, vm ∈ (if vm ∈ vms then vms else vms ++ [vm]) := by
      intro vms
      split
      · assumption
      · simp
    exact iff_of_true (present vms) (present vms')
  | detachDisk v disk =>
    cases serves
    refine h.changeDisk _ _ fun vms vms' => ?_
    simp
  | detachIso v =>
    cases serves
    exact h.removeIso
  | _ => exact absurd serves id

/-- Without faults, an operation does what it does. -/
theorem perform_of_faultless (fresh : Nat → String) (clear : inv.Faultless) (op : Operation) :
    ∃ begun : Inventory, begun.Holds inv.vms inv.disks inv.images ∧ inv.perform fresh op = begun.act fresh op := by
  rcases perform_eq fresh inv op with ⟨fault, hf, -⟩ | ⟨begun, -, -, hh, hp⟩
  · rw [clear] at hf
    cases hf
  · exact ⟨begun, hh, hp⟩

/-- An operation that serves the machine is answered by what the machine sees. -/
theorem perform_alike (fresh : Nat → String) {op : Operation} (serves : op.Serves vm) (h : SameFor vm inv inv')
    (clear : inv.Faultless) (clear' : inv'.Faultless) :
    op.Interchangeable (inv.perform fresh op).1 (inv'.perform fresh op).1 ∧
      SameFor vm (inv.perform fresh op).2 (inv'.perform fresh op).2 := by
  obtain ⟨begun, hh, hp⟩ := perform_of_faultless fresh clear op
  obtain ⟨begun', hh', hp'⟩ := perform_of_faultless fresh clear' op
  rw [hp, hp']
  exact act_alike serves (((SameFor.of_holds hh).symm.trans h).trans (.of_holds hh'))

/-! ## Operations that serve another machine -/

theorem ChangesVm.spares {change : VmRecord → VmRecord} (h : inv.ChangesVm other change inv')
    (hne : vm ≠ other) : SameFor vm inv inv' := by
  obtain ⟨record, -, vms, disks, -⟩ := h
  exact ⟨by rw [vms, SortedMap.find?_insert_of_ne _ hne], fun id => by rw [disks]⟩

theorem ChangesDisk.spares {disk : String} {change : List String → List String}
    (h : inv.ChangesDisk other disk change inv') (others : ∀ vms, vm ∈ change vms ↔ vm ∈ vms) :
    SameFor vm inv inv' := by
  obtain ⟨record, d, -, hd, vms, disks, -⟩ := h
  refine ⟨by rw [vms], fun id => ?_⟩
  rw [disks, SortedMap.find?_insert]
  split
  · rename_i same
    subst same
    rw [hd]
    simp only [Option.map_some, PersistentDisk.seenBy, others]
  · rfl

/-- An operation that serves one machine changes nothing that another one sees. -/
theorem perform_spares (fresh : Nat → String) (inv : Inventory) {op : Operation} (serves : op.Serves other)
    (hne : vm ≠ other) : SameFor vm inv (inv.perform fresh op).2 := by
  rcases hr : inv.perform fresh op with ⟨r, inv'⟩
  show SameFor vm inv inv'
  rcases perform_cases hr with ⟨f, -, hh, -⟩ | ⟨x, -, hp⟩
  · exact .of_holds hh
  · cases op with
    | getVm v =>
      obtain ⟨record, -, -, hh⟩ := hp
      exact .of_holds hh
    | setMetadata v metadata | attachIso v path | detachIso v =>
      cases serves
      exact ChangesVm.spares hp hne
    | attachDisk v disk =>
      cases serves
      have changed : inv.ChangesDisk other disk
        (fun vms => if other ∈ vms then vms else vms ++ [other]) inv' := hp
      refine changed.spares fun vms => ?_
      split
      · rfl
      · simp [hne]
    | detachDisk v disk =>
      cases serves
      have changed : inv.ChangesDisk other disk (·.filter (· ≠ other)) inv' := hp
      refine changed.spares fun vms => ?_
      simp [hne]
    | _ => exact absurd serves id

end
end Inventory
end CloudProvider
