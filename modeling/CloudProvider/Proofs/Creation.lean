import CloudProvider.Proofs.Arguments
import CloudProvider.Proofs.Media

/-! # A machine is created beside all that there is

Creating a machine takes six operations and an image, and any of them may fail. Wherever the call ends,
what was there before is as it was, and the machine that it has added, if any, is stopped until its
environment is in place (`ends_create`): only the last operation starts it.
-/

namespace CloudProvider

/-- The machine has the environment that its agent starts from, in its metadata and on an image. -/
structure VmRecord.Configured (record : VmRecord) (settings : Settings) (args : List Json) : Prop where
  image : record.iso.isSome
  document : ∃ agentId networks env disk, args[0]? = some (.str agentId) ∧
    args[3]? = some (.obj networks) ∧ args[5]? = some (.obj env) ∧
    disk ∈ record.vm.attachedDisks ∧ disk.name = Vms.ephemeralDiskName ∧
    (∀ other ∈ record.vm.attachedDisks, other.name = Vms.ephemeralDiskName → other = disk) ∧
    record.vm.metadata.find? Agent.metadataKey =
      some (Agent.Environment.forNewMachine agentId ⟨record.vm.name, record.vm.id⟩ disk.id
        (.ofList networks) (.ofList env) settings.agent).document

/-- The document by its members. The only disk in it is the one that goes with the machine. -/
theorem VmRecord.Configured.written {record : VmRecord} {settings : Settings} {args : List Json}
    (h : record.Configured settings args) : ∃ agentId networks env disk, args[0]? = some (.str agentId) ∧
      args[3]? = some (.obj networks) ∧ args[5]? = some (.obj env) ∧
      disk ∈ record.vm.attachedDisks ∧ disk.name = "bosh-ephemeral-disk" ∧
      record.vm.metadata.find? "bosh-cpi" = some (Json.obj
        [("agent_id", .str agentId),
          ("vm", .obj [("name", .str record.vm.name), ("id", .str record.vm.id)]),
          ("mbus", .str settings.agent.mbus),
          ("ntp", .arr (settings.agent.ntp.map .str)),
          ("networks", .ofMembers (.ofList networks)),
          ("env", .ofMembers (.ofList env)),
          ("disks", .obj [("ephemeral", .obj [("id", .str disk.id), ("path", .str "/dev/sdb")])]),
          ("blobstore", .obj [("provider", .str settings.agent.blobstore.provider),
            ("options", .ofMembers settings.agent.blobstore.options)])]).text := by
  obtain ⟨agentId, networks, env, disk, agent, nets, given, attached, named, -, document⟩ := h.document
  exact ⟨agentId, networks, env, disk, agent, nets, given, attached, named, document⟩

namespace Inventory

/-- All is as it was, but for a machine that is new. -/
inductive Adds (inv : Inventory) : Option (String × VmRecord) → Inventory → Prop
  | nothing {inv' : Inventory} (h : inv'.Holds inv.vms inv.disks inv.images) : Adds inv none inv'
  | machine {id : String} {record : VmRecord} {inv' : Inventory} (new : inv.vms.find? id = none)
    (h : inv'.Holds (inv.vms.insert id record) inv.disks inv.images) : Adds inv (some (id, record)) inv'

section
variable {fresh : Nat → String} {allowed : (e : Effect) → e.Reply → Prop} {inv inv' inv'' : Inventory}
variable {added : Option (String × VmRecord)} {id : String} {record record' : VmRecord}

theorem Adds.of_holds (h : inv.Adds added inv') (hh : inv''.Holds inv'.vms inv'.disks inv'.images) :
    inv.Adds added inv'' := by
  cases h with
  | nothing h => exact .nothing (h.trans hh)
  | machine new h => exact .machine new (h.trans hh)

theorem Adds.found (h : inv.Adds (some (id, record)) inv') : inv'.vms.find? id = some record := by
  cases h with
  | machine new h =>
    rw [h.1]
    exact SortedMap.find?_insert_self ..

/-- A machine that was there is as it was, and so are all disks. -/
theorem Adds.kept (h : inv.Adds added inv') (hf : inv.vms.find? id = some record) :
    inv'.vms.find? id = some record ∧ inv'.disks = inv.disks := by
  cases h with
  | nothing h => exact ⟨h.1 ▸ hf, h.2.1⟩
  | @machine id' record' _ new h =>
    obtain ⟨vms, disks, -⟩ := h
    have other : id ≠ id' := by
      rintro rfl
      cases hf.symm.trans new
    exact ⟨vms ▸ (SortedMap.find?_insert_of_ne _ other _).trans hf, disks⟩

/-- The new machine is changed, and nothing else. -/
theorem Adds.replace (h : inv.Adds (some (id, record)) inv')
    (hh : inv''.Holds (inv'.vms.insert id record') inv'.disks inv'.images) :
    inv.Adds (some (id, record')) inv'' := by
  cases h with
  | machine new h =>
    obtain ⟨vms, disks, images⟩ := h
    refine .machine new ⟨?_, hh.2.1.trans disks, hh.2.2.trans images⟩
    rw [hh.1, vms, SortedMap.insert_insert]

/-- A new machine has two disks, and one of them is the one that goes with it. -/
theorem newDisks_named (fresh : Nat → String) (inv : Inventory) (a : Vms.CreateArguments) :
    ∃ boot own, newDisks fresh inv a.spec.attachedDisks = [boot, own] ∧
      boot.name ≠ Vms.ephemeralDiskName ∧ own.name = Vms.ephemeralDiskName := by
  have differ : "boot-disk" ≠ Vms.ephemeralDiskName := by decide
  unfold newDisks
  split
  · exact ⟨_, _, rfl, differ, rfl⟩
  · exact ⟨_, _, rfl, differ, rfl⟩

/-- The id that is found is the id of this disk. -/
theorem ephemeralDisk_of_ok {a : Vms.CreateArguments} {vm : Vm} {disk : String}
    (hv : vm.attachedDisks = newDisks fresh inv a.spec.attachedDisks)
    (h : Vms.ephemeralDiskId vm = .ok disk) :
    ∃ own ∈ vm.attachedDisks, own.name = Vms.ephemeralDiskName ∧ own.id = disk ∧
      ∀ other ∈ vm.attachedDisks, other.name = Vms.ephemeralDiskName → other = own := by
  obtain ⟨boot, own, disks, hb, ho⟩ := newDisks_named fresh inv a
  rw [disks] at hv
  unfold Vms.ephemeralDiskId at h
  rw [hv] at h ⊢
  refine ⟨own, by simp, ho, ?_, ?_⟩
  · by_cases unnamed : own.id = ""
    · simp [hb, ho, unnamed] at h
    · simpa [hb, ho, unnamed] using h
  · intro other hm hn
    simp only [List.mem_cons, List.not_mem_nil, or_false] at hm
    rcases hm with rfl | rfl
    · exact absurd hn hb
    · rfl

/-- The call has ended early: a machine that it has added is stopped. -/
def Abandoned (inv inv' : Inventory) : Prop :=
  ∃ added, inv.Adds added inv' ∧ ∀ id record, added = some (id, record) → record.vm.state = "STOPPED"

/-- The call has ended well: the machine that it has added is configured and started. -/
def Created (inv : Inventory) (settings : Settings) (args : List Json) (result : Json)
    (inv' : Inventory) : Prop :=
  ∃ id record, result = .str id ∧ inv.Adds (some (id, record)) inv' ∧ record.vm.id = id ∧
    record.vm.state = "STARTED" ∧ record.Configured settings args

theorem Adds.abandoned (h : inv.Adds (some (id, record)) inv') (stopped : record.vm.state = "STOPPED") :
    inv.Abandoned inv' := by
  refine ⟨_, h, ?_⟩
  intro id' record' same
  cases same
  exact stopped

/-- The last step starts the machine, or leaves it stopped. -/
theorem ends_start {settings : Settings} {args : List Json} (h : inv.Adds (some (id, record)) inv')
    (named : record.vm.id = id) (stopped : record.vm.state = "STOPPED")
    (configured : record.Configured settings args) :
    Call.Ends (Answers fresh allowed)
      (do
        Call.info "Starting VM"
        let _ ← Call.remote (.startVm id)
        return .str id)
      (inv.Created settings args) (fun _ => inv.Abandoned) inv' := by
  rw [Call.ends_bind, Call.ends_info, Call.ends_bind]
  refine ends_remote ?_ ?_
  · intro f inv'' _ hh _
    exact (h.of_holds hh).abandoned stopped
  · intro t inv'' _ hp
    obtain ⟨record', hf, hh⟩ := hp
    rw [h.found] at hf
    cases hf
    exact ⟨id, setState "STARTED" record, rfl, h.replace hh, named, rfl, configured.image,
      configured.document⟩

/-- Between its creation and its start the machine is stopped, whatever fails. -/
theorem ends_configure {settings : Settings} {args : List Json} {a : Vms.CreateArguments} {disks : List AttachedDisk}
    (hp : Vms.CreateArguments.parse args = .ok a) (hd : disks = newDisks fresh inv a.spec.attachedDisks)
    (h : inv.Adds (some (id, ⟨⟨id, a.spec.name, "STOPPED", disks, ∅⟩, none⟩)) inv') {disk : String}
    (found : Vms.ephemeralDiskId ⟨id, a.spec.name, "STOPPED", disks, ∅⟩ = .ok disk) :
    Call.Ends (Answers fresh allowed)
      (do
        Agent.sync id (.forNewMachine a.agentId ⟨a.spec.name, id⟩ disk a.networks a.env settings.agent)
        Call.info "Starting VM"
        let _ ← Call.remote (.startVm id)
        return .str id)
      (inv.Created settings args) (fun _ => inv.Abandoned) inv' := by
  rw [Call.ends_bind]
  refine ends_sync h.found _ ?_ ?_
  · intro f inv'' v iso _ hh hv _
    refine (h.replace hh).abandoned ?_
    rcases hv with rfl | rfl
    · rfl
    · rfl
  · intro inv'' image _ hh
    obtain ⟨-, agent, -, -, ⟨networks, hn, networksOf⟩, env, he, envOf⟩ := Arguments.createVm_eq_ok.1 hp
    obtain ⟨own, hm, named, rfl, only⟩ := ephemeralDisk_of_ok hd found
    refine ends_start (h.replace hh) rfl rfl ⟨rfl, a.agentId, networks, env, own, agent, hn, he, hm, named,
      only, ?_⟩
    rw [networksOf, envOf]
    exact SortedMap.find?_insert_self ..

/-- However the call ends, all that was there before is as it was. -/
theorem ends_create (new : ∀ n, inv.issued ≤ n → inv.vms.find? (fresh n) = none) (settings : Settings)
    (args : List Json) :
    Call.Ends (Answers fresh allowed) (Vms.create settings args) (inv.Created settings args)
      (fun _ => inv.Abandoned) inv := by
  have nothing : ∀ inv', inv'.Holds inv.vms inv.disks inv.images → inv.Abandoned inv' := by
    intro inv' hh
    refine ⟨none, .nothing hh, ?_⟩
    intro id record none
    cases none
  rw [Vms.create, Call.ends_bind, Call.ends_argument]
  cases hp : Vms.CreateArguments.parse args with
  | error fault => exact nothing inv ⟨rfl, rfl, rfl⟩
  | ok a =>
    change Call.Ends _ _ _ _ _
    rw [Call.ends_bind, Call.ends_info, Call.ends_bind]
    refine ends_remote ?_ ?_
    · intro f inv₁ _ hh _
      exact nothing inv₁ hh
    intro t inv₁ _ hp₁
    obtain ⟨n, hn, -, hid, hh₁⟩ := hp₁
    have adds : inv.Adds _ inv₁ := .machine (new n hn) hh₁
    rw [Call.ends_bind, Call.ends_info, Call.ends_bind, hid]
    refine ends_remote ?_ ?_
    · intro f inv₂ _ hh _
      exact (adds.of_holds hh).abandoned rfl
    intro v inv₂ _ hp₂
    obtain ⟨record, hf, rfl, hh₂⟩ := hp₂
    rw [adds.found] at hf
    cases hf
    have adds₂ := adds.of_holds hh₂
    rw [Call.ends_bind, Call.ends_ofExcept]
    cases found : Vms.ephemeralDiskId _ with
    | error f => exact adds₂.abandoned rfl
    | ok disk => exact ends_configure hp rfl adds₂ found

end
end Inventory

/-- Whatever fails, creating a machine adds one machine at most and changes nothing else. After a failure
the machine is stopped; after a success it is the one that is answered, it is started, and its agent finds
its environment. -/
theorem World.respond_creates_machine {σ : Type} (w : World σ) (fresh : Nat → String) (settings : Settings)
    (args : List Json) (s : World.At (Inventory × σ))
    (new : ∀ n, s.state.1.issued ≤ n → s.state.1.vms.find? (fresh n) = none) :
    let r := (w.withInventory fresh).respond settings "create_vm" args s
    ∃ added, s.state.1.Adds added r.2.state.1 ∧
      (r.1.isSuccess = false → ∀ id record, added = some (id, record) → record.vm.state = "STOPPED") ∧
      (r.1.isSuccess = true → ∃ id record, r.1.result = some (.str id) ∧ added = some (id, record) ∧
        record.vm.id = id ∧ record.vm.state = "STARTED" ∧ record.Configured settings args) := by
  have ends : Program.Ends (Inventory.Answers fresh fun _ _ => True)
      (Dispatch.run .default settings "create_vm" args)
      (Call.Ending (s.state.1.Created settings args) (fun _ => s.state.1.Abandoned)) s.state.1 := by
    rw [Dispatch.run_ends_of_call Handler.createVm.found]
    exact Inventory.ends_create new settings args
  obtain ⟨outcome, log, hr, hq⟩ := w.withInventory_ends (fun _ _ => trivial) ends
  intro r
  change r.1 = _ at hr
  rw [hr]
  cases outcome with
  | error f =>
    obtain ⟨added, adds, stopped⟩ := hq
    refine ⟨added, adds, fun _ => stopped, ?_⟩
    intro success
    cases success
  | ok result =>
    obtain ⟨id, record, rfl, adds, named, started, configured⟩ := hq
    refine ⟨_, adds, ?_, fun _ => ⟨id, record, rfl, rfl, named, started, configured⟩⟩
    intro failure
    cases failure

/-- The same call beside a machine with a disk, and again where the image cannot be attached. -/
theorem World.respond_creates_machine_refused :
    let args : List Json := [.str "agent-1", .str "stemcell-1",
      .obj [("disk_flavor", .str "core-100"), ("vm_flavor", .str "small")], .obj [], .arr [], .obj []]
    let settings : Settings := .bare "http://127.0.0.1" "project" "nats"
    let respond := fun inv : Inventory => (World.calm.withInventory Nat.repr).respond settings "create_vm" args
      ⟨.empty, inv, ()⟩
    let inv := ((Inventory.empty false).insertVm "vm-1").insertDisk "disk-1" ["vm-1"]
    let r := respond inv
    let r' := respond (inv.arm "attach_iso" (.transport "reset"))
    (∃ record, r.1.result = some (.str "2") ∧ r.2.state.1.vms.find? "2" = some record ∧
      record.vm.state = "STARTED" ∧ record.Configured settings args ∧
      record.vm.metadata.find? "bosh-cpi" = some (Json.obj
        [("agent_id", .str "agent-1"), ("vm", .obj [("name", .str "bosh-vm"), ("id", .str "2")]),
          ("mbus", .str "nats"), ("ntp", .arr []), ("networks", .obj []), ("env", .obj []),
          ("disks", .obj [("ephemeral", .obj [("id", .str "1"), ("path", .str "/dev/sdb")])]),
          ("blobstore", .obj [("provider", .str ""), ("options", .obj [])])]).text) ∧
    (r'.1.isSuccess = false ∧ ∃ record, r'.2.state.1.vms.find? "2" = some record ∧
      record.vm.state = "STOPPED") ∧
    ∀ after ∈ [r.2.state.1, r'.2.state.1],
      after.vms.find? "vm-1" = inv.vms.find? "vm-1" ∧ after.disks = inv.disks := by
  intro args settings respond inv r r'
  obtain ⟨success, result, details⟩ : r.1.isSuccess = true ∧ r.1.result = some (.str "2") ∧
      (r.2.state.1.vms.find? "2").map (fun record => (record.vm.name, record.vm.attachedDisks.map fun d =>
        (d.name, d.id))) = some ("bosh-vm", [("boot-disk", "0"), ("bosh-ephemeral-disk", "1")]) := by decide +kernel
  have failure : r'.1.isSuccess = false ∧ r'.2.state.1.vms.keys = ["2", "vm-1"] := by decide +kernel
  have new : ∀ n, 0 ≤ n → inv.vms.find? (Nat.repr n) = none := by
    intro n _
    have other : Nat.repr n ≠ "vm-1" := by
      intro named
      have digits : ∀ c ∈ (Nat.repr n).toList, c.isDigit = true := by
        rw [Nat.toList_repr]
        exact fun c => Nat.isDigit_of_mem_toDigits (by decide) (by decide)
      rw [named] at digits
      cases digits 'v' (List.mem_cons_self ..)
    exact SortedMap.find?_insert_of_ne ∅ other _
  obtain ⟨_, adds, -, created⟩ := World.calm.respond_creates_machine Nat.repr settings args ⟨.empty, inv, ()⟩ new
  change inv.Adds _ r.2.state.1 at adds
  obtain ⟨id, record, answered, rfl, named, started, configured⟩ := created success
  have answered' : some (Json.str id) = some (.str "2") := answered.symm.trans result
  cases answered'
  have found := adds.found
  rw [found] at details
  obtain ⟨called, disks⟩ := Prod.mk.inj (Option.some.inj details)
  obtain ⟨_, _, _, disk, ⟨⟩, ⟨⟩, ⟨⟩, attached, own, document⟩ := configured.written
  have shown : (disk.name, disk.id) ∈ [("boot-disk", "0"), ("bosh-ephemeral-disk", "1")] :=
    disks ▸ List.mem_map_of_mem attached
  have numbered : disk.id = "1" := by simpa [own] using shown
  rw [called, named, numbered] at document
  obtain ⟨added, adds', stopped, -⟩ := World.calm.respond_creates_machine Nat.repr settings args
    ⟨.empty, inv.arm "attach_iso" (.transport "reset"), ()⟩ new
  change (inv.arm _ _).Adds _ r'.2.state.1 at adds'
  have there : inv.vms.find? "vm-1" = some ⟨⟨"vm-1", "bosh-vm", "STOPPED", [], ∅⟩, none⟩ := rfl
  refine ⟨⟨record, result, found, started, configured, document⟩, ⟨failure.1, ?_⟩, ?_⟩
  · have besides : "2" ∈ r'.2.state.1.vms.keys := failure.2 ▸ List.mem_cons_self ..
    obtain ⟨record', hf⟩ := SortedMap.mem_keys.1 besides
    refine ⟨record', hf, ?_⟩
    cases adds' with
    | nothing h =>
      rw [h.1] at hf
      cases hf
    | machine absent h =>
      rw [h.1, SortedMap.find?_insert] at hf
      split at hf
      · cases hf
        exact stopped failure.1 _ _ rfl
      · cases hf
  · rw [there]
    exact List.forall_mem_cons.2 ⟨adds.kept there, List.forall_mem_singleton.2 (adds'.kept there)⟩

end CloudProvider
