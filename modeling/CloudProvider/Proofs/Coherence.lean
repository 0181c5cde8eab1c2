import CloudProvider.Proofs.Footprint
import CloudProvider.Proofs.Inventory

/-! # Attachments do not dangle

Every disk names machines that there are, each once, and records know their own names. Only the deletion
of a machine could break this. It is preceded by a loop over a listing of disks that may stop anywhere;
what the loop has still to do covers every disk that the machine has (`Remaining`).
-/

namespace CloudProvider

namespace Inventory

/-- Records know their names, and disks are attached to machines that there are. -/
structure Coherent (inv : Inventory) : Prop where
  vmId : ∀ {id record}, inv.vms.find? id = some record → record.vm.id = id
  diskId : ∀ {id d}, inv.disks.find? id = some d → d.id = id
  attachedOnce : ∀ {id d}, inv.disks.find? id = some d → d.vms.Nodup
  attached : ∀ {id d vm}, inv.disks.find? id = some d → vm ∈ d.vms →
    ∃ record, inv.vms.find? vm = some record

/-- No disk is attached to the machine but those of a list. -/
def Remaining (inv : Inventory) (vm : String) (ids : List String) : Prop :=
  ∀ id d, inv.disks.find? id = some d → vm ∈ d.vms → id ∈ ids

namespace Coherent
variable {fresh : Nat → String} {inv inv' : Inventory}

theorem empty (omits : Bool) : (Inventory.empty omits).Coherent where
  vmId h := nomatch h
  diskId h := nomatch h
  attachedOnce h := nomatch h
  attached h := nomatch h

theorem of_holds (h : inv.Coherent) {images : SortedMap ImageRecord}
    (hh : inv'.Holds inv.vms inv.disks images) : inv'.Coherent := by
  obtain ⟨hv, hd, -⟩ := hh
  constructor
  · rw [hv]; exact h.vmId
  · rw [hd]; exact h.diskId
  · rw [hd]; exact h.attachedOnce
  · rw [hv, hd]; exact h.attached

/-- A machine is put under its own name. -/
theorem insertVm (h : inv.Coherent) {id : String} {record : VmRecord}
    (hh : inv'.Holds (inv.vms.insert id record) inv.disks inv.images) (hid : record.vm.id = id) :
    inv'.Coherent := by
  obtain ⟨hv, hd, -⟩ := hh
  constructor
  · intro id' record' hf
    rw [hv, SortedMap.find?_insert] at hf
    split at hf
    · rename_i he
      cases hf
      rw [hid, he]
    · exact h.vmId hf
  · rw [hd]; exact h.diskId
  · rw [hd]; exact h.attachedOnce
  · intro id' d vm hf hm
    rw [hd] at hf
    rw [hv, SortedMap.find?_insert]
    split
    · exact ⟨_, rfl⟩
    · exact h.attached hf hm

/-- A disk is put under its own name and is attached only to machines that there are. -/
theorem insertDisk (h : inv.Coherent) {id : String} {d : PersistentDisk}
    (hh : inv'.Holds inv.vms (inv.disks.insert id d) inv.images) (hid : d.id = id)
    (once : d.vms.Nodup) (there : ∀ vm ∈ d.vms, ∃ record, inv.vms.find? vm = some record) :
    inv'.Coherent := by
  obtain ⟨hv, hd, -⟩ := hh
  have found : ∀ {id' d'}, inv'.disks.find? id' = some d' →
      (id' = id ∧ d' = d) ∨ inv.disks.find? id' = some d' := by
    intro id' d' hf
    rw [hd, SortedMap.find?_insert] at hf
    split at hf
    · rename_i he
      cases hf
      exact .inl ⟨he, rfl⟩
    · exact .inr hf
  constructor
  · rw [hv]; exact h.vmId
  · intro id' d' hf
    rcases found hf with ⟨rfl, rfl⟩ | hf
    · exact hid
    · exact h.diskId hf
  · intro id' d' hf
    rcases found hf with ⟨rfl, rfl⟩ | hf
    · exact once
    · exact h.attachedOnce hf
  · intro id' d' vm hf hm
    rw [hv]
    rcases found hf with ⟨rfl, rfl⟩ | hf
    · exact there vm hm
    · exact h.attached hf hm

theorem eraseDisk (h : inv.Coherent) {id : String}
    (hh : inv'.Holds inv.vms (inv.disks.erase id) inv.images) : inv'.Coherent := by
  obtain ⟨hv, hd, -⟩ := hh
  have found : ∀ {id' d'}, inv'.disks.find? id' = some d' → inv.disks.find? id' = some d' := by
    intro id' d' hf
    rw [hd, SortedMap.find?_erase] at hf
    split at hf
    · cases hf
    · exact hf
  constructor
  · rw [hv]; exact h.vmId
  · exact fun hf => h.diskId (found hf)
  · exact fun hf => h.attachedOnce (found hf)
  · intro id' d' vm hf hm
    rw [hv]; exact h.attached (found hf) hm

/-- A machine may go once no disk is attached to it. -/
theorem eraseVm (h : inv.Coherent) {id : String} (free : inv.Remaining id [])
    (hh : inv'.Holds (inv.vms.erase id) inv.disks inv.images) : inv'.Coherent := by
  obtain ⟨hv, hd, -⟩ := hh
  constructor
  · intro id' record hf
    rw [hv, SortedMap.find?_erase] at hf
    split at hf
    · cases hf
    · exact h.vmId hf
  · rw [hd]; exact h.diskId
  · rw [hd]; exact h.attachedOnce
  · intro id' d vm hf hm
    rw [hd] at hf
    rw [hv, SortedMap.find?_erase]
    split
    · rename_i he
      subst he
      exact absurd (free _ _ hf hm) List.not_mem_nil
    · exact h.attached hf hm

theorem changeVm (h : inv.Coherent) {vm : String} {change : VmRecord → VmRecord}
    (hc : inv.ChangesVm vm change inv') (same : ∀ record, (change record).vm.id = record.vm.id) :
    inv'.Coherent := by
  obtain ⟨record, hf, hh⟩ := hc
  exact h.insertVm hh ((same record).trans (h.vmId hf))

theorem changeDisk (h : inv.Coherent) {vm disk : String} {change : List String → List String}
    (hc : inv.ChangesDisk vm disk change inv') (once : ∀ vms, vms.Nodup → (change vms).Nodup)
    (only : ∀ vms, ∀ v ∈ change vms, v ∈ vms ∨ v = vm) : inv'.Coherent := by
  obtain ⟨record, d, hv, hd, hh⟩ := hc
  have hid := h.diskId hd
  have hn := once _ (h.attachedOnce hd)
  refine h.insertDisk hh hid hn fun v hm => ?_
  rcases only _ v hm with hm | rfl
  · exact h.attached hd hm
  · exact ⟨record, hv⟩

/-- No operation but the deletion of a machine can break coherence. -/
theorem performs (h : inv.Coherent) {op : Operation} {x : op.Reply}
    (hp : inv.Performs fresh op x inv') (hop : op.name ≠ "delete_vm") : inv'.Coherent := by
  cases op with
  | createVm project spec =>
    obtain ⟨n, -, -, -, hh⟩ := hp
    exact h.insertVm hh rfl
  | getVm vm => obtain ⟨_, _, _, hh⟩ := hp; exact h.of_holds hh
  | deleteVm vm => exact absurd rfl hop
  | startVm vm | stopVm vm | restartVm vm | attachIso vm path | detachIso vm | setMetadata vm metadata =>
    exact h.changeVm hp fun _ => rfl
  | attachDisk vm disk =>
    have hc : inv.ChangesDisk vm disk (fun vms => if vm ∈ vms then vms else vms ++ [vm]) inv' := hp
    refine h.changeDisk hc (fun vms hn => ?_) fun vms v hm => ?_
    · split
      · exact hn
      · rename_i hnot
        refine List.nodup_append.2 ⟨hn, List.pairwise_singleton .., fun a ha b hb => ?_⟩
        rw [List.mem_singleton.1 hb]
        exact fun he => hnot (he ▸ ha)
    · split at hm
      · exact .inl hm
      · exact (List.mem_append.1 hm).imp_right List.mem_singleton.1
  | detachDisk vm disk =>
    have hc : inv.ChangesDisk vm disk (·.filter (· ≠ vm)) inv' := hp
    exact h.changeDisk hc (fun vms hn => hn.filter _) fun vms v hm => .inl (List.mem_filter.1 hm).1
  | createDisk project spec =>
    obtain ⟨n, -, -, -, hh⟩ := hp
    exact h.insertDisk hh rfl List.nodup_nil fun v hm => absurd hm List.not_mem_nil
  | getDisk disk => exact h.of_holds hp.2
  | deleteDisk disk => obtain ⟨d, -, hh⟩ := hp; exact h.eraseDisk hh
  | listDisks project => exact h.of_holds hp.2
  | createImage name file => obtain ⟨_, _, _, _, _, _, hh⟩ := hp; exact h.of_holds hh
  | deleteImage image => obtain ⟨_, -, hh⟩ := hp; exact h.of_holds hh

/-- Operations within a footprint that spares machines keep coherence, however they are answered. -/
theorem answers (h : inv.Coherent) {allowed : (e : Effect) → e.Reply → Prop} {e : Effect} {r : e.Reply}
    {names : List String} (he : e.Within names) (spares : "delete_vm" ∉ names)
    (ha : Answers fresh allowed e inv r inv') : inv'.Coherent := by
  cases e with
  | remote op =>
    rcases perform_cases ha with ⟨f, -, hh, -⟩ | ⟨x, -, hp⟩
    · exact h.of_holds hh
    · exact h.performs hp fun hn => spares (hn ▸ he)
  | runTool | openFile | writeFile | createDirectory | createFile | removeDirectory | removeFile =>
    obtain ⟨-, rfl⟩ := ha
    exact h

end Coherent

/-! ## The deletion of a machine -/

section
variable {fresh : Nat → String} {allowed : (e : Effect) → e.Reply → Prop} {inv inv' : Inventory}

theorem Remaining.of_holds {vm : String} {ids : List String} (h : inv.Remaining vm ids)
    (hd : inv'.disks = inv.disks) : inv'.Remaining vm ids := by
  rw [Remaining, hd]; exact h

/-- A disk that has been detached need not be detached again. -/
theorem Remaining.detached {vm disk : String} {ids : List String} (h : inv.Remaining vm (disk :: ids))
    (hc : inv.ChangesDisk vm disk (·.filter (· ≠ vm)) inv') : inv'.Remaining vm ids := by
  obtain ⟨record, d, -, -, -, hd, -⟩ := hc
  intro id d' hf hm
  rw [hd, SortedMap.find?_insert] at hf
  split at hf
  · cases hf
    simp at hm
  · rename_i hne
    exact (List.mem_cons.1 (h id d' hf hm)).resolve_left hne

/-- The listing shows every disk that the machine has. -/
theorem Remaining.listed (h : inv.Coherent) (vm : String) :
    inv.Remaining vm ((Disks.attachedTo vm inv.disks.values).map (·.id)) := by
  intro id d hf hm
  refine List.mem_map.2 ⟨d, List.mem_filter.2 ⟨SortedMap.mem_values.2 ⟨id, hf⟩, ?_⟩, h.diskId hf⟩
  simpa using hm

/-- Wherever the loop stops, nothing dangles; if it comes to its end, no disk is attached any more. -/
theorem Coherent.detachAll (vm : String) (ds : List PersistentDisk) (h : inv.Coherent)
    (remaining : inv.Remaining vm (ds.map (·.id))) :
    Call.Ends (Answers fresh allowed) (Vms.detachAll vm ds)
      (fun _ inv => inv.Coherent ∧ inv.Remaining vm []) (fun _ inv => inv.Coherent) inv := by
  induction ds generalizing inv with
  | nil => exact ⟨h, remaining⟩
  | cons d ds ih =>
    rw [Vms.detachAll, Call.ends_bind, Call.ends_info, Call.ends_bind]
    refine ends_remote (fun f inv' _ hh _ => h.of_holds hh) fun t inv' _ hp => ?_
    exact ih (h.performs hp (by simp [Operation.name])) (remaining.detached hp)

theorem Coherent.deleteVm (h : inv.Coherent) (settings : Settings) (args : List Json) :
    Call.Leaves (Answers fresh allowed) (Vms.delete settings args) Coherent inv := by
  rw [Call.Leaves, Vms.delete, Call.ends_bind, Call.ends_argument]
  cases Arguments.vmId args with
  | error fault => exact h
  | ok vm =>
    change Call.Ends _ _ _ _ _
    rw [Call.ends_bind, Call.ends_info, Call.ends_bind, Call.ends_info, Call.ends_bind]
    refine ends_remote (fun f inv' _ hh _ => h.of_holds hh) fun disks inv' _ hp => ?_
    obtain ⟨rfl, hh⟩ := hp
    have listed : inv'.Remaining vm ((Disks.attachedTo vm inv.disks.values).map (·.id)) :=
      (Remaining.listed h vm).of_holds hh.2.1
    rw [Call.ends_bind]
    refine ((h.of_holds hh).detachAll vm _ listed).mono (fun _ inv looped => ?_) fun _ _ h => h
    obtain ⟨h, free⟩ := looped
    rw [Call.ends_bind, Call.ends_info, Call.ends_bind]
    refine ends_remote (fun f inv' _ hh _ => h.of_holds hh) fun t inv' _ hp => ?_
    have stopped : inv'.Coherent := h.performs hp (by simp [Operation.name])
    obtain ⟨record, -, -, hd, -⟩ := hp
    have free' : inv'.Remaining vm [] := free.of_holds hd
    rw [Call.ends_bind, Call.ends_info, Call.ends_bind]
    refine ends_remote (fun f inv' _ hh _ => stopped.of_holds hh) fun t inv'' _ hp => ?_
    obtain ⟨record, -, hh⟩ := hp
    exact stopped.eraseVm free' hh

/-- No call breaks coherence, wherever it stops. -/
theorem Coherent.handler (h : inv.Coherent) (settings : Settings) (args : List Json) {method : String}
    {call : Settings → List Json → Call Json} (hc : Handler method call) :
    Call.Leaves (Answers fresh allowed) (call settings args) Coherent inv := by
  by_cases hd : method = "delete_vm"
  · subst hd
    obtain rfl := hc.unique .deleteVm
    exact h.deleteVm settings args
  · have spares : "delete_vm" ∉ footprint method := by
      unfold footprint
      split <;> simp_all
    exact Call.leaves_of_only (hc.within settings args)
      (fun e inv r inv' he ha h => Coherent.answers h he spares ha) h

end
end Inventory

/-- Nothing dangles in any state that comes of an empty control plane, whatever is called, whatever
fails on the way and whatever the rest of the world does. -/
theorem World.run_coherent {σ : Type} (w : World σ) (fresh : Nat → String) (happenings : List Happening)
    (omits : Bool) (log : CallLog) (rest : σ) :
    (w.run fresh happenings ⟨log, .empty omits, rest⟩).state.1.Coherent := by
  have steps : ∀ (s : At (Inventory × σ)), s.state.1.Coherent →
      (w.run fresh happenings s).state.1.Coherent := by
    induction happenings with
    | nil => exact fun s h => h
    | cons happening happenings ih =>
      intro s h
      refine ih _ ?_
      cases happening with
      | arm operation fault => exact h.of_holds ⟨rfl, rfl, rfl⟩
      | call settings method args =>
        have ends : Program.Ends (Inventory.Answers fresh fun _ _ => True)
            (Dispatch.run .default settings method args) (fun _ inv => inv.Coherent) s.state.1 :=
          Dispatch.run_ends (fun _ => h) fun call hc => h.handler settings args hc
        obtain ⟨_, _, _, h'⟩ := w.withInventory_ends (fun _ _ => trivial) ends
        exact h'
  exact steps _ (.empty omits)

end CloudProvider
