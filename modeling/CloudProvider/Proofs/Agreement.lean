import CloudProvider.Proofs.Coherence
import CloudProvider.Proofs.Documents
import CloudProvider.Proofs.Records

/-! # Environments and attachments agree

In between calls that were read from texts, and as long as nothing fails but what the calls ask for, the
environment of every machine can be read and names exactly the disks that the machine has, in the order in
which they are listed. A call may still be refused on its way. Then it has done nothing that the
environment would not tell of.
-/

namespace CloudProvider
open Agent (Environment)

namespace Inventory

/-- What holds between calls. -/
structure Agrees (fresh : Nat → String) (inv : Inventory) : Prop where
  coherent : inv.Coherent
  settled : inv.Settled fresh
  recorded : inv.Recorded

section
variable {fresh : Nat → String} {allowed : (e : Effect) → e.Reply → Prop} {inv inv' : Inventory}

theorem Agrees.empty (fresh : Nat → String) : (Inventory.empty false).Agrees fresh where
  coherent := .empty false
  settled := .empty fresh
  recorded _ _ h := nomatch h

/-! ## Listings -/

/-- The disks of a listing that a machine has, by name. -/
theorem Coherent.attachedTo_ids (h : inv.Coherent) (vm : String) :
    (Disks.attachedTo vm inv.disks.values).map (·.id) =
      (inv.disks.entries.filter fun e => vm ∈ e.2.vms).map (·.1) := by
  rw [Disks.attachedTo, SortedMap.values, List.filter_map, List.map_map]
  refine List.map_congr_left fun e he => ?_
  exact h.diskId (inv.disks.ascending.find?_of_mem (List.mem_filter.1 he).1)

theorem ascending_attached (inv : Inventory) (vm : String) :
    Entries.Ascending (inv.disks.entries.filter fun e => vm ∈ e.2.vms) :=
  List.Pairwise.filter _ inv.disks.ascending

theorem mem_attached {vm disk : String} :
    disk ∈ (inv.disks.entries.filter fun e => vm ∈ e.2.vms).map (·.1) ↔ inv.Attached vm disk := by
  simp only [List.mem_map, List.mem_filter, decide_eq_true_eq, Attached]
  constructor
  · rintro ⟨e, ⟨he, hm⟩, rfl⟩
    exact ⟨e.2, inv.disks.ascending.find?_of_mem he, hm⟩
  · rintro ⟨d, hf, hm⟩
    exact ⟨(disk, d), ⟨Entries.mem_of_find? hf, hm⟩, rfl⟩

/-- An environment that names the disks of its machine names them in the order of the listing. -/
theorem Coherent.persistentIds_eq (h : inv.Coherent) {vm : String} {env : Environment}
    (wf : env.WellFormed) (ids : ∀ disk, disk ∈ env.persistentIds ↔ inv.Attached vm disk) :
    env.persistentIds = (Disks.attachedTo vm inv.disks.values).map (·.id) := by
  rw [h.attachedTo_ids]
  rw [Environment.persistentIds_eq] at ids ⊢
  exact wf.persistentEntries.1.keys_ext (inv.ascending_attached vm) fun disk =>
    (ids disk).trans mem_attached.symm

theorem eraseDups_of_nodup {ids : List String} (h : ids.Nodup) : ids.eraseDups = ids := by
  induction ids with
  | nil => rfl
  | cons id ids ih =>
    obtain ⟨hn, h⟩ := List.nodup_cons.1 h
    have others : ids.filter (fun other => !other == id) = ids := List.filter_eq_self.2 fun other ho => by
      simpa using fun he : other = id => hn (he ▸ ho)
    rw [List.eraseDups_cons, others, ih h]

/-- The disks of a machine are listed, each once. -/
theorem Coherent.ends_list (h : inv.Coherent) (clear : inv.Faultless) (settings : Settings) (vm : String) :
    Call.Ends (Answers fresh allowed) (Disks.list settings [.str vm])
      (fun result _ => result = .arr (((Disks.attachedTo vm inv.disks.values).map (·.id)).map .str))
      (fun _ _ => False) inv := by
  have once : ((Disks.attachedTo vm inv.disks.values).map (·.id)).Nodup := by
    rw [h.attachedTo_ids, List.nodup_iff_pairwise_ne, List.pairwise_map]
    have ascending : List.Pairwise (fun e f : String × PersistentDisk => e.1 < f.1) _ :=
      inv.ascending_attached vm
    refine ascending.imp fun {e f} hlt => ?_
    intro he
    exact String.lt_irrefl f.1 (he ▸ hlt)
  have vmId : Arguments.vmId [.str vm] = .ok vm := rfl
  rw [Disks.list, Call.ends_bind, Call.ends_argument, vmId]
  change Call.Ends _ _ _ _ _
  rw [Call.ends_bind, Call.ends_info, Call.ends_bind]
  refine ends_remote (fun f _ _ _ hr => not_refused clear hr) fun disks _ _ hp => ?_
  obtain ⟨rfl, -⟩ := hp
  rw [Call.ends_pure, eraseDups_of_nodup once]

/-! ## Creation of a machine -/

/-- The disk that goes with a new machine is found by its name and has an id. -/
theorem ephemeralDiskId_new (ids : FreshIds fresh) (named : inv.omitsDiskIds = false)
    (a : Vms.CreateArguments) {v : Vm} (hv : v.attachedDisks = newDisks fresh inv a.spec.attachedDisks) :
    Vms.ephemeralDiskId v = .ok (fresh (inv.issued + 1)) := by
  have disks : v.attachedDisks =
      [{ a.disk "boot-disk" 50 true with id := fresh inv.issued },
        { a.disk Vms.ephemeralDiskName a.properties.attachedDiskSizeGb false with
          id := fresh (inv.issued + 1) }] := by
    rw [hv, newDisks, named]; rfl
  have boot : ¬ ("boot-disk" = Vms.ephemeralDiskName) := by decide
  simp only [Vms.ephemeralDiskId, disks, Vms.CreateArguments.disk, List.find?_cons, boot, false_and,
    decide_false, ids.filled, ne_eq, not_false_eq_true, and_self, decide_true]

theorem Agrees.unattached (h : inv.Agrees fresh) (ids : FreshIds fresh) {n : Nat} (hn : inv.issued ≤ n)
    (disk : String) : ¬ inv.Attached (fresh n) disk := by
  rintro ⟨d, hd, hm⟩
  obtain ⟨record, hf⟩ := h.coherent.attached hd hm
  rw [h.settled.vmIds.find?_fresh ids.distinct hn] at hf
  cases hf

/-- A new machine has no disk, and its environment names none. -/
theorem Agrees.createVm (h : inv.Agrees fresh) (ids : FreshIds fresh)
    (works : Obliging (Answers fresh allowed)) {settings : Settings} {args : List Json}
    (options : settings.agent.blobstore.options.Fit 124) (fit : ∀ j ∈ args, j.Fits 125) :
    Call.Leaves (Answers fresh allowed) (Vms.create settings args) Recorded inv := by
  rw [Call.Leaves, Vms.create, Call.ends_bind, Call.ends_argument]
  cases hp : Vms.CreateArguments.parse args with
  | error fault => exact h.recorded
  | ok a =>
    obtain ⟨networks, env⟩ := Vms.CreateArguments.parse_fits hp fit
    change Call.Ends _ _ _ _ _
    rw [Call.ends_bind, Call.ends_info, Call.ends_bind]
    refine ends_remote (fun f _ _ _ hr => (not_refused h.settled.clear hr).elim) fun t inv₁ hl₁ hp₁ => ?_
    have hp₁' := hp₁
    obtain ⟨n, hn, -, hid, hh₁⟩ := hp₁
    have h₁ : inv₁.Settled fresh := h.settled.of_performs hl₁ hp₁'
    have found : inv₁.vms.find? (fresh n) = some _ := hh₁.1 ▸ SortedMap.find?_insert_self ..
    rw [Call.ends_bind, Call.ends_info, Call.ends_bind, hid]
    refine ends_remote (fun f _ _ _ hr => ?_) fun v inv₂ hl₂ hp₂ => ?_
    · have := (not_refused h₁.clear hr).1
      rw [found] at this
      cases this
    obtain ⟨record, hf, rfl, hh₂⟩ := hp₂
    rw [found] at hf
    cases hf
    rw [Call.ends_bind, Call.ends_ofExcept, ephemeralDiskId_new ids h.settled.named a rfl]
    change Call.Ends _ _ _ _ _
    rw [Call.ends_bind]
    refine ends_sync (hh₂.1 ▸ found) _ (fun f inv₃ v iso _ _ _ hn => ?_) fun inv₃ image _ hh₃ => ?_
    · exact absurd ⟨hl₂.faultless h₁.clear, works⟩ hn
    have created : inv₃.Recorded := by
      have wf := Environment.forNewMachine_wellFormed a.agentId ⟨a.spec.name, fresh n⟩
        (fresh (inv.issued + 1)) a.networks a.env settings.agent networks env options
      have hv := hh₃.1
      rw [hh₂.1, hh₁.1, SortedMap.insert_insert] at hv
      refine h.recorded.insertVm ⟨hv, hh₃.2.1.trans (hh₂.2.1.trans hh₁.2.1), rfl⟩
        ⟨_, Vm.reads_withDocument _ wf, wf, Environment.forNewMachine_tabular .., fun disk => ?_⟩
      simp only [Environment.forNewMachine_persistentIds, List.not_mem_nil, false_iff]
      exact h.unattached ids hn disk
    rw [Call.ends_bind, Call.ends_info, Call.ends_bind]
    refine ends_remote (fun f inv₄ _ hh _ => created.of_holds hh) fun t inv₄ _ hp => ?_
    exact created.changeVm hp fun _ => rfl

/-! ## Deletion -/

/-- The machines are as before, and so are the disks of all machines but one. -/
def Spares (inv : Inventory) (vm : String) (inv' : Inventory) : Prop :=
  inv'.vms = inv.vms ∧ ∀ v, v ≠ vm → ∀ disk, inv'.Attached v disk ↔ inv.Attached v disk

theorem Spares.of_holds {vm : String} (hh : inv'.Holds inv.vms inv.disks inv.images) :
    inv.Spares vm inv' :=
  ⟨hh.1, fun _ _ _ => attached_congr hh.2.1⟩

theorem Spares.trans {inv'' : Inventory} {vm : String} (h : inv.Spares vm inv') (h' : inv'.Spares vm inv'') :
    inv.Spares vm inv'' :=
  ⟨h'.1.trans h.1, fun v hv disk => (h'.2 v hv disk).trans (h.2 v hv disk)⟩

/-- Once the machine is gone, what its disks were does not matter. -/
theorem Spares.recorded {vm : String} (h : inv.Spares vm inv') (hr : inv.Recorded)
    (gone : inv'.vms.find? vm = none) : inv'.Recorded := by
  refine hr.framed fun v record hf => ⟨record, h.1 ▸ hf, rfl, h.2 v fun he => ?_⟩
  rw [he, gone] at hf
  cases hf

/-- The loop comes to its end if all that it asks for is there. -/
theorem ends_detachAll (vm : String) (ds : List PersistentDisk) (clear : inv.Faultless)
    (there : ∀ d ∈ ds, ∃ record d', inv.vms.find? vm = some record ∧ inv.disks.find? d.id = some d') :
    Call.Ends (Answers fresh allowed) (Vms.detachAll vm ds)
      (fun _ inv' => inv.Spares vm inv' ∧ inv'.Faultless) (fun _ _ => False) inv := by
  induction ds generalizing inv with
  | nil => exact ⟨.of_holds ⟨rfl, rfl, rfl⟩, clear⟩
  | cons d ds ih =>
    obtain ⟨⟨record, d', hf, hd⟩, there⟩ := List.forall_mem_cons.1 there
    rw [Vms.detachAll, Call.ends_bind, Call.ends_info, Call.ends_bind]
    refine ends_remote (fun f _ _ _ hr => ?_) fun t inv₁ hl hp => ?_
    · rcases not_refused clear hr with ⟨hn, -⟩ | ⟨hn, -⟩
      · rw [hf] at hn; cases hn
      · rw [hd] at hn; cases hn
    obtain ⟨record', d'', -, hd'', hv, hds, -⟩ := hp
    have step : inv.Spares vm inv₁ := by
      refine ⟨hv, fun v hne disk => ?_⟩
      rw [attached_insert hds]
      split
      · rename_i he
        simp [Attached, he, hd'', hne]
      · rfl
    refine (ih (hl.faultless clear) fun e he => ?_).mono (fun _ _ h => ⟨step.trans h.1, h.2⟩)
      fun _ _ h => h
    obtain ⟨record, d', hf, hd⟩ := there e he
    have still : ∃ e', inv₁.disks.find? e.id = some e' := by
      rw [hds, SortedMap.find?_insert]
      split
      · exact ⟨_, rfl⟩
      · exact ⟨d', hd⟩
    obtain ⟨e', he'⟩ := still
    exact ⟨record, e', hv ▸ hf, he'⟩

/-- A machine is deleted with its environment, or nothing is done. -/
theorem Agrees.deleteVm (h : inv.Agrees fresh) (settings : Settings) (args : List Json) :
    Call.Leaves (Answers fresh allowed) (Vms.delete settings args) Recorded inv := by
  rw [Call.Leaves, Vms.delete, Call.ends_bind, Call.ends_argument]
  cases Arguments.vmId args with
  | error fault => exact h.recorded
  | ok vm =>
    change Call.Ends _ _ _ _ _
    rw [Call.ends_bind, Call.ends_info, Call.ends_bind, Call.ends_info, Call.ends_bind]
    refine ends_remote (fun f _ _ hh _ => h.recorded.of_holds hh) fun disks inv₁ hl₁ hp => ?_
    obtain ⟨rfl, hh₁⟩ := hp
    have there : ∀ d ∈ Disks.attachedTo vm inv.disks.values,
        ∃ record d', inv₁.vms.find? vm = some record ∧ inv₁.disks.find? d.id = some d' := by
      intro d hd
      obtain ⟨hd, hm⟩ := List.mem_filter.1 hd
      obtain ⟨id, hf⟩ := SortedMap.mem_values.1 hd
      obtain ⟨record, hv⟩ := h.coherent.attached hf (by simpa using hm)
      exact ⟨record, d, hh₁.1 ▸ hv, by rw [h.coherent.diskId hf, hh₁.2.1, hf]⟩
    rw [Call.ends_bind]
    refine (ends_detachAll vm _ (hl₁.faultless h.settled.clear) there).mono (fun _ inv₂ looped => ?_)
      fun _ _ hn => hn.elim
    obtain ⟨spares, clear⟩ := looped
    have spares₂ : inv.Spares vm inv₂ := (Spares.of_holds hh₁).trans spares
    rw [Call.ends_bind, Call.ends_info, Call.ends_bind]
    refine ends_remote (fun f inv₃ _ hh hr => ?_) fun t inv₃ hl₃ hp => ?_
    · have gone := (not_refused clear hr).1
      exact (spares₂.trans (.of_holds hh)).recorded h.recorded (hh.1 ▸ gone)
    obtain ⟨record, -, hv₃, hd₃, -⟩ := hp
    rw [Call.ends_bind, Call.ends_info, Call.ends_bind]
    refine ends_remote (fun f _ _ _ hr => ?_) fun t inv₄ _ hp => ?_
    · have := (not_refused (hl₃.faultless clear) hr).1
      rw [hv₃, SortedMap.find?_insert_self] at this
      cases this
    obtain ⟨-, -, hv₄, hd₄, -⟩ := hp
    refine h.recorded.framed fun v record hf => ?_
    rw [hv₄, SortedMap.find?_erase] at hf
    split at hf
    · cases hf
    · rename_i hne
      rw [hv₃, SortedMap.find?_insert_of_ne _ hne, spares₂.1] at hf
      refine ⟨record, hf, rfl, fun disk => ?_⟩
      rw [attached_congr (hd₄.trans hd₃)]
      exact spares₂.2 v hne disk

/-- A disk that no machine has is named by no environment. -/
theorem Agrees.deleteDisk (h : inv.Agrees fresh) (settings : Settings) {args : List Json}
    (free : ∀ disk, Disks.diskId args = .ok disk → ∀ vm, ¬ inv.Attached vm disk) :
    Call.Leaves (Answers fresh allowed) (Disks.delete settings args) Recorded inv := by
  rw [Call.Leaves, Disks.delete, Call.ends_bind, Call.ends_argument]
  cases hd : Disks.diskId args with
  | error fault => exact h.recorded
  | ok disk =>
    change Call.Ends _ _ _ _ _
    rw [Call.ends_bind, Call.ends_info, Call.ends_bind]
    refine ends_remote (fun f _ _ hh _ => h.recorded.of_holds hh) fun t inv₁ _ hp => ?_
    obtain ⟨d, -, hh⟩ := hp
    exact h.recorded.eraseDisk (free disk hd) hh

/-! ## Any call -/

/-- A call that comes to none of the operations that are to be answered for. -/
theorem Agrees.spared (h : inv.Agrees fresh) (ids : FreshIds fresh) (settings : Settings)
    (args : List Json) {method : String} {call : Settings → List Json → Call Json}
    (hc : Handler method call) (harmless : ∀ name ∈ footprint method, name ∉ accountable) :
    Call.Leaves (Answers fresh allowed) (call settings args) Recorded inv := by
  have step : ∀ (e : Effect) (inv : Inventory) (r : e.Reply) (inv' : Inventory),
      e.Within (footprint method) → Answers fresh allowed e inv r inv' →
      inv.Settled fresh ∧ inv.Recorded → inv'.Settled fresh ∧ inv'.Recorded := by
    intro e inv r inv' he ha ⟨hs, hr⟩
    refine ⟨hs.answers ha, ?_⟩
    cases e with
    | remote op =>
      rcases perform_cases ha with ⟨f, -, hh, -⟩ | ⟨x, -, hp⟩
      · exact hr.of_holds hh
      · exact hr.performs hs ids hp (harmless _ he)
    | runTool | openFile | writeFile | createDirectory | createFile | removeDirectory | removeFile =>
      obtain ⟨-, rfl⟩ := ha
      exact hr
  exact (Call.leaves_of_only (hc.within settings args) step ⟨h.settled, h.recorded⟩).mono
    (fun _ _ h => h.2) fun _ _ h => h.2

theorem Agrees.revise (h : inv.Agrees fresh) (works : Obliging (Answers fresh allowed)) (rev : Revision)
    (settings : Settings) (args : List Json) :
    Call.Leaves (Answers fresh allowed) (rev.call settings args) Recorded inv := by
  cases hp : Disks.pair args with
  | error fault => rw [Call.Leaves, rev.ends_call_of_fault settings hp]; exact h.recorded
  | ok pair =>
    rw [Call.Leaves, rev.ends_call settings hp]
    exact rev.steps_recorded h.recorded h.settled.clear works

/-- A disk may be deleted when no machine has it. -/
def Permits (inv : Inventory) (method : String) (args : List Json) : Prop :=
  method = "delete_disk" → ∀ disk, Disks.diskId args = .ok disk → ∀ vm, ¬ inv.Attached vm disk

/-- No call breaks the agreement, whether it is refused or succeeds. -/
theorem Agrees.handler (h : inv.Agrees fresh) (ids : FreshIds fresh)
    (works : Obliging (Answers fresh allowed)) {settings : Settings} {args : List Json}
    (options : settings.agent.blobstore.options.Fit 124) (fit : ∀ j ∈ args, j.Fits 125) {method : String}
    {call : Settings → List Json → Call Json} (hc : Handler method call)
    (permits : inv.Permits method args) :
    Call.Leaves (Answers fresh allowed) (call settings args) (Agrees fresh) inv := by
  have settled : Call.Leaves (Answers fresh allowed) (call settings args) (Settled fresh) inv :=
    Call.leaves_of_only (Program.only_true _) (fun _ _ _ _ _ ha h => h.answers ha) h.settled
  have recorded : Call.Leaves (Answers fresh allowed) (call settings args) Recorded inv := by
    have spared : (∀ name ∈ footprint method, name ∉ accountable) →
        Call.Leaves (Answers fresh allowed) (call settings args) Recorded inv := h.spared ids settings args hc
    cases hc with
    | createVm => exact h.createVm ids works options fit
    | deleteVm => exact h.deleteVm settings args
    | deleteDisk => exact h.deleteDisk settings (permits rfl)
    | attachDisk => exact h.revise works .attach settings args
    | detachDisk => exact h.revise works .detach settings args
    | createStemcell | deleteStemcell | hasVm | restartVm | setVmMetadata | createDisk | hasDisk
    | listDisks => exact spared (by decide)
  exact ((h.coherent.handler settings args hc).and (settled.and recorded)).mono
    (fun _ _ h => ⟨h.1, h.2.1, h.2.2⟩) fun _ _ h => ⟨h.1, h.2.1, h.2.2⟩

/-- One call keeps the agreement, in a world where nothing else fails. -/
theorem Agrees.respond {σ : Type} {w : World σ} {s : World.At (Inventory × σ)}
    (h : s.state.1.Agrees fresh) (ids : FreshIds fresh) (works : w.Works) {settings : Settings}
    (options : settings.agent.blobstore.options.Fit 124) {method : String} {args : List Json}
    (fit : ∀ j ∈ args, j.Fits 125) (permits : s.state.1.Permits (Text.lowerCase method) args) :
    ((w.withInventory fresh).respond settings method args s).2.state.1.Agrees fresh := by
  have ends : Program.Ends (Answers fresh fun e r => e.Works r)
      (Dispatch.run .default settings method args) (fun _ inv => inv.Agrees fresh) s.state.1 :=
    Dispatch.run_ends (fun _ => h) fun call hc =>
      h.handler ids (Answers.obliging fun _ _ h => h) options fit hc permits
  obtain ⟨_, _, _, h'⟩ := w.withInventory_ends works ends
  exact h'

/-- The disks of a machine, as the director is told of them. -/
theorem Agrees.respond_list {σ : Type} {s : World.At (Inventory × σ)} (h : s.state.1.Agrees fresh)
    (w : World σ) (settings : Settings) (vm : String) :
    ((w.withInventory fresh).respond settings "get_disks" [.str vm] s).1.result =
      some (.arr (((Disks.attachedTo vm s.state.1.disks.values).map (·.id)).map .str)) := by
  have ends : Program.Ends (Answers fresh fun _ _ => True)
      (Dispatch.run .default settings "get_disks" [.str vm])
      (fun outcome _ => outcome = .ok
        (.arr (((Disks.attachedTo vm s.state.1.disks.values).map (·.id)).map .str))) s.state.1 := by
    rw [Dispatch.run_ends_of_call Handler.listDisks.found]
    exact (h.coherent.ends_list h.settled.clear settings vm).mono (fun _ _ hr => congrArg Except.ok hr)
      fun _ _ hn => hn.elim
  obtain ⟨outcome, log, hr, rfl⟩ := w.withInventory_ends (fun _ _ => trivial) ends
  rw [hr]
  rfl

end
end Inventory

/-! ## Whole runs -/

/-- The states between calls, each read from a text, from an empty control plane on. -/
inductive World.Reaches {σ : Type} (w : World σ) (fresh : Nat → String) (settings : Settings) :
    World.At (Inventory × σ) → Prop
  | start (log : CallLog) (rest : σ) : w.Reaches fresh settings ⟨log, .empty false, rest⟩
  | call {s : World.At (Inventory × σ)} {text : String} {request : Request}
      (before : w.Reaches fresh settings s) (read : Request.decoder.ofText text = .ok request)
      (whole : request.toJson.IntegersOnly)
      (permits : s.state.1.Permits (Text.lowerCase request.method) request.arguments) :
      w.Reaches fresh settings
        ((w.withInventory fresh).respond settings request.method request.arguments s).2

section
variable {σ : Type} {w : World σ} {fresh : Nat → String} {settings : Settings}
variable {s : World.At (Inventory × σ)}

theorem World.Reaches.agrees (h : w.Reaches fresh settings s) (ids : FreshIds fresh) (works : w.Works)
    (options : settings.agent.blobstore.options.Fit 124) : s.state.1.Agrees fresh := by
  induction h with
  | start log rest => exact .empty fresh
  | call before read whole permits ih =>
    exact ih.respond ids works options (Request.argument_fits read whole) permits

/-- The environment of every machine can be read and names exactly the disks that the machine has, which
are those that the director is told of. -/
theorem World.Reaches.environments_agree (h : w.Reaches fresh settings s) (ids : FreshIds fresh)
    (works : w.Works) {valueOf : String → Option String} {patience : Nat} {text : String}
    (read : Settings.parse valueOf patience text = some (.ok settings))
    (whole : settings.toJson.IntegersOnly) {vm : String} {record : VmRecord}
    (hf : s.state.1.vms.find? vm = some record) :
    ∃ document env, record.vm.metadata.find? Agent.metadataKey = some document ∧
      Environment.decoder.ofText document = .ok env ∧
      env.persistentIds = ((s.state.1.disks.values.filter fun d => vm ∈ d.vms).map (·.id)) ∧
      ((w.withInventory fresh).respond settings "get_disks" [.str vm] s).1.result =
        some (.arr (env.persistentIds.map .str)) := by
  have agrees := h.agrees ids works (Settings.options_fit read whole)
  obtain ⟨env, ⟨document, hd, he⟩, wf, -, same⟩ := agrees.recorded vm record hf
  have listed := agrees.coherent.persistentIds_eq wf same
  refine ⟨document, env, hd, he, listed, ?_⟩
  rw [listed]
  exact agrees.respond_list w settings vm

end

/-! ## A run -/

theorem FreshIds.repr : FreshIds Nat.repr where
  distinct {m n} h := by
    have digits : Nat.toDigits 10 m = Nat.toDigits 10 n := by
      rw [← Nat.toList_repr, ← Nat.toList_repr, h]
    have values := congrArg (fun cs => Nat.ofDigitChars 10 cs 0) digits
    simpa [Nat.ofDigitChars_toDigits] using values
  filled _ := Nat.repr_ne_empty

/-- Creates a machine. -/
def Request.machine : Request := ⟨"create_vm", [.str "agent-1", .str "stemcell-1",
  .obj [("disk_flavor", .str "core-100"), ("vm_flavor", .str "small")], .obj [], .arr [], .obj []]⟩

theorem Request.machine_whole : Request.machine.toJson.IntegersOnly :=
  ⟨trivial, ⟨trivial, trivial, ⟨trivial, trivial, trivial⟩, trivial, trivial, trivial, trivial⟩, trivial⟩

/-- Creates a disk of a thousand MiB. -/
def Request.disk : Request :=
  ⟨"create_disk", [.num (.natural 1000), .obj [("disk_flavor", .str "core-100")], .str "2"]⟩

theorem Request.disk_whole : Request.disk.toJson.IntegersOnly :=
  ⟨trivial, ⟨trivial, ⟨trivial, trivial⟩, trivial, trivial⟩, trivial⟩

/-- Attaches the disk that comes of the second call to the machine that comes of the first. -/
def Request.attachment : Request := ⟨"attach_disk", [.str "2", .str "8"]⟩

theorem Request.attachment_whole : Request.attachment.toJson.IntegersOnly :=
  ⟨trivial, ⟨trivial, trivial, trivial⟩, trivial⟩

/-- A machine, a disk, and the disk attached to it. -/
theorem World.Reaches.environments_agree_attached : ∃ s : World.At (Inventory × Unit),
    World.calm.Reaches Nat.repr .plain s ∧ ∃ record document env,
      s.state.1.vms.find? "2" = some record ∧
      record.vm.metadata.find? Agent.metadataKey = some document ∧
      Environment.decoder.ofText document = .ok env ∧ env.persistentIds = ["8"] ∧
      ((World.calm.withInventory Nat.repr).respond .plain "get_disks" [.str "2"] s).1.result =
        some (.arr [.str "8"]) := by
  have read : ∀ request : Request, request.toJson.IntegersOnly →
      (Request.decoder .ofText (.ofJson request.toJson)).toOption = some request →
      Request.decoder.ofText request.toJson.text = .ok request := by
    intro request whole h
    rw [Json.Decoder.ofText_text _ whole]
    exact Json.ok_of_toOption h
  have start : World.calm.Reaches Nat.repr .plain ⟨.empty, .empty false, ()⟩ := .start .empty ()
  have created := start.call (read .machine Request.machine_whole (by decide +kernel))
    Request.machine_whole fun h => absurd h (by decide +kernel)
  have beside := created.call (read .disk Request.disk_whole (by decide +kernel))
    Request.disk_whole fun h => absurd h (by decide +kernel)
  have attached := beside.call (read .attachment Request.attachment_whole (by decide +kernel))
    Request.attachment_whole fun h => absurd h (by decide +kernel)
  obtain ⟨s, h, there, disks⟩ : ∃ s : World.At (Inventory × Unit), World.calm.Reaches Nat.repr .plain s ∧
      (s.state.1.vms.find? "2").isSome = true ∧
      (s.state.1.disks.values.filter fun d => "2" ∈ d.vms).map (·.id) = ["8"] :=
    ⟨_, attached, by decide +kernel⟩
  obtain ⟨record, hf⟩ := Option.isSome_iff_exists.1 there
  obtain ⟨document, env, hd, he, ids, told⟩ := h.environments_agree FreshIds.repr World.calm_works
    Settings.parse_plain Settings.plain_whole hf
  have named : env.persistentIds = ["8"] := ids.trans disks
  rw [named] at told
  exact ⟨s, h, record, document, env, hf, hd, he, named, told⟩

end CloudProvider
