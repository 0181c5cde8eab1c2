import CloudProvider.Proofs.Effects

/-! # What each call asks of the control plane

A call comes to a few operations and to no others, whatever it is answered. The table is read by every
invariant that only some operations could break.
-/

namespace CloudProvider

/-- The operations that the call of a method may come to, by their names. -/
def footprint : String → List String
  | "create_stemcell" => ["create_image"]
  | "delete_stemcell" => ["delete_image"]
  | "create_vm" => ["create_vm", "get_vm", "set_metadata", "detach_iso", "attach_iso", "start_vm"]
  | "delete_vm" => ["list_disks", "detach_disk", "stop_vm", "delete_vm"]
  | "has_vm" => ["get_vm"]
  | "restart_vm" => ["restart_vm"]
  | "create_disk" => ["create_disk"]
  | "delete_disk" => ["delete_disk"]
  | "has_disk" => ["get_disk"]
  | "get_disks" => ["list_disks"]
  | "attach_disk" => ["attach_disk", "get_vm", "set_metadata", "detach_iso", "attach_iso"]
  | "detach_disk" => ["detach_disk", "get_vm", "set_metadata", "detach_iso", "attach_iso"]
  | _ => []

/-- All that is local, and these operations of the control plane. -/
def Effect.Within (names : List String) : Effect → Prop
  | .remote op => op.name ∈ names
  | _ => True

theorem Effect.IsLocal.within {names : List String} {e : Effect} (h : e.IsLocal) : e.Within names := by
  cases e with
  | remote op => exact absurd h id
  | runTool | openFile | writeFile | createDirectory | createFile | removeDirectory | removeFile =>
    trivial

/-- A call that comes to no operations but these. -/
def AsksOnly {α : Type} (names : List String) (call : Call α) : Prop :=
  call.run.Only (Effect.Within names)

namespace AsksOnly
variable {α : Type}

variable {names : List String}

theorem ofExcept (r : Except Failure α) : AsksOnly names (Call.ofExcept r) := trivial

theorem argument (r : Except ArgumentFault α) : AsksOnly names (Call.argument r) := trivial

theorem info (message : String) : AsksOnly names (Call.info message) := trivial

theorem remote {op : Operation} (h : op.name ∈ names) : AsksOnly names (Call.remote op) :=
  Call.only_remote h

theorem pure (x : α) : AsksOnly names (Pure.pure x : Call α) := trivial

theorem bind {β : Type} {call : Call α} {f : α → Call β} (hc : AsksOnly names call)
    (hf : ∀ x, AsksOnly names (f x)) : AsksOnly names (call >>= f) := Call.only_bind hc hf

theorem ofLocal {call : Call α} (h : call.run.Only Effect.IsLocal) : AsksOnly names call :=
  h.mono fun _ => Effect.IsLocal.within

/-! ## Local work -/

theorem ask_only {e : Effect} (he : e.IsLocal) : (Program.ask e : Activity _).Only Effect.IsLocal :=
  (Program.only_ask e).2 he

theorem dropDirectory_only (path : String) : (Scratch.dropDirectory path).Only Effect.IsLocal :=
  (ask_only (by trivial)).bind fun r => by cases r <;> trivial

theorem dropFile_only (path : String) : (Scratch.dropFile path).Only Effect.IsLocal :=
  (ask_only (by trivial)).bind fun r => by cases r <;> trivial

theorem makingFile_only (stem suffix : String) {call : String → Call Unit}
    (h : ∀ path, (call path).run.Only Effect.IsLocal) :
    (Scratch.makingFile stem suffix call).run.Only Effect.IsLocal := by
  refine Call.only_bind (Call.only_bind (Call.only_lift (ask_only (by trivial))) fun _ => trivial)
    fun path => ?_
  exact Call.only_thenOnFailure (dropFile_only path) (Call.only_bind (h path) fun _ => trivial)

theorem render_only (env : Agent.Environment) : (Agent.render env).run.Only Effect.IsLocal := by
  refine Call.only_bind (Call.only_bind (Call.only_lift (ask_only (by trivial))) fun _ => trivial)
    fun directory => Call.only_thenAlways (dropDirectory_only directory) ?_
  refine Call.only_bind (Call.only_bind (Call.only_lift (ask_only (by trivial))) fun _ => trivial)
    fun _ => makingFile_only _ _ fun image => ?_
  refine Call.only_bind (Call.only_lift (ask_only (by trivial))) fun r => ?_
  cases r with
  | error fault => trivial
  | ok outcome => dsimp only; split <;> trivial

theorem decompress_only (source : String) : (Stemcells.decompress source).run.Only Effect.IsLocal := by
  refine makingFile_only _ _ fun target => ?_
  refine Call.only_bind (Call.only_lift (Stemcells.gunzip_only trivial fun _ => trivial)) fun r => ?_
  cases r <;> trivial

/-! ## Environments -/

theorem fetch (h : "get_vm" ∈ names) (vm : String) : AsksOnly names (Agent.fetch vm) := by
  refine Call.only_bind (Call.only_remote h) fun v => ?_
  cases v.metadata.find? Agent.metadataKey <;> trivial

theorem sync (h : ∀ name ∈ ["set_metadata", "detach_iso", "attach_iso"], name ∈ names) (vm : String)
    (env : Agent.Environment) : AsksOnly names (Agent.sync vm env) := by
  refine Call.only_bind trivial fun _ => Call.only_bind (ofLocal (render_only env)) fun image => ?_
  refine Call.only_thenAlways ((dropFile_only image).mono fun _ => Effect.IsLocal.within) ?_
  refine Call.only_bind trivial fun _ => ?_
  refine Call.only_bind (Call.only_bind (Call.only_remote (h _ (by simp [Operation.name])))
    fun _ => trivial) fun _ => ?_
  have detachImage : AsksOnly names (Agent.detachImage vm) := by
    refine Call.only_bind (Call.only_lift ((Program.only_ask _).2 (h _ (by simp [Operation.name]))))
      fun r => ?_
    cases r with
    | ok t => trivial
    | error fault => dsimp only; split <;> trivial
  refine Call.only_bind detachImage fun _ => Call.only_bind trivial fun _ => ?_
  exact Call.only_bind (Call.only_remote (h _ (by simp [Operation.name]))) fun _ => trivial

/-! ## Calls -/

/-- A call that reads its arguments and reports comes to what its only step comes to. -/
theorem step {β : Type} {γ : β → Type} {read : Except ArgumentFault β} {message : β → String}
    {next : (x : β) → Call (γ x)} {result : (x : β) → γ x → α} (h : ∀ x, AsksOnly names (next x)) :
    AsksOnly names (do
      let x ← Call.argument read
      Call.info (message x)
      let y ← next x
      return result x y) :=
  (argument _).bind fun x => (info _).bind fun _ => (h x).bind fun _ => pure _

theorem lookUp (settings : Settings) (what : String) {op : Operation} (h : op.name ∈ names) :
    AsksOnly names (Call.exists settings what op) := by
  refine Call.only_bind (Call.only_lift ((Program.only_ask _).2 h)) fun r => ?_
  cases r with
  | ok x => trivial
  | error fault => dsimp only; split <;> trivial

theorem detachAll (h : "detach_disk" ∈ names) (vm : String) :
    ∀ disks, AsksOnly names (Vms.detachAll vm disks)
  | [] => trivial
  | _ :: ds => Call.only_bind trivial fun _ => Call.only_bind (Call.only_remote h) fun _ =>
      detachAll h vm ds

variable (settings : Settings) (args : List Json)

theorem createStemcell : AsksOnly ["create_image"] (Stemcells.create settings args) := by
  refine (argument _).bind fun image => (info _).bind fun _ => (info _).bind fun _ =>
    (ofLocal (decompress_only _)).bind fun raw => ?_
  refine Call.only_thenAlways ((dropFile_only raw).mono fun _ => Effect.IsLocal.within) ?_
  have openFile : AsksOnly ["create_image"] (Call.openFile raw) :=
    ofLocal (Call.only_bind (Call.only_lift (ask_only (by trivial))) fun _ => trivial)
  exact openFile.bind fun file => (info _).bind fun _ =>
    (remote (List.mem_singleton_self _)).bind fun task => pure _

theorem deleteStemcell : AsksOnly ["delete_image"] (Stemcells.delete settings args) :=
  step fun _ => remote (List.mem_singleton_self _)

theorem createVm : AsksOnly ["create_vm", "get_vm", "set_metadata", "detach_iso", "attach_iso", "start_vm"]
    (Vms.create settings args) :=
  (argument _).bind fun _ => (info _).bind fun _ => (remote (by simp [Operation.name])).bind fun _ =>
    (info _).bind fun _ => (remote (by simp [Operation.name])).bind fun _ => (ofExcept _).bind fun _ =>
    (sync (by simp) _ _).bind fun _ => (info _).bind fun _ =>
    (remote (by simp [Operation.name])).bind fun _ => pure _

theorem deleteVm : AsksOnly ["list_disks", "detach_disk", "stop_vm", "delete_vm"]
    (Vms.delete settings args) :=
  (argument _).bind fun _ => (info _).bind fun _ => (info _).bind fun _ =>
    (remote (by simp [Operation.name])).bind fun _ => (detachAll (by simp) _ _).bind fun _ =>
    (info _).bind fun _ => (remote (by simp [Operation.name])).bind fun _ => (info _).bind fun _ =>
    (remote (by simp [Operation.name])).bind fun _ => pure _

theorem hasVm : AsksOnly ["get_vm"] (Vms.has settings args) :=
  step fun _ => lookUp settings _ (List.mem_singleton_self _)

theorem restartVm : AsksOnly ["restart_vm"] (Vms.restart settings args) :=
  step fun _ => remote (List.mem_singleton_self _)

theorem setVmMetadata : AsksOnly [] (Vms.setMetadata settings args) :=
  (argument _).bind fun _ => (info _).bind fun _ => pure _

theorem createDisk : AsksOnly ["create_disk"] (Disks.create settings args) :=
  step fun _ => remote (List.mem_singleton_self _)

theorem deleteDisk : AsksOnly ["delete_disk"] (Disks.delete settings args) :=
  step fun _ => remote (List.mem_singleton_self _)

theorem hasDisk : AsksOnly ["get_disk"] (Disks.has settings args) :=
  step fun _ => lookUp settings _ (List.mem_singleton_self _)

theorem listDisks : AsksOnly ["list_disks"] (Disks.list settings args) :=
  step fun _ => remote (List.mem_singleton_self _)

theorem attachDisk : AsksOnly ["attach_disk", "get_vm", "set_metadata", "detach_iso", "attach_iso"]
    (Disks.attach settings args) :=
  (argument _).bind fun _ => (info _).bind fun _ => (remote (by simp [Operation.name])).bind fun _ =>
    (info _).bind fun _ => (fetch (by simp) _).bind fun _ => (ofExcept _).bind fun _ =>
    (sync (by simp) _ _).bind fun _ => pure _

theorem detachDisk : AsksOnly ["detach_disk", "get_vm", "set_metadata", "detach_iso", "attach_iso"]
    (Disks.detach settings args) := by
  refine (argument _).bind fun a => (info _).bind fun _ =>
    (remote (by simp [Operation.name])).bind fun _ => (info _).bind fun _ =>
    (fetch (by simp) _).bind fun _ => (ofExcept _).bind fun struck => ?_
  have rest : AsksOnly ["detach_disk", "get_vm", "set_metadata", "detach_iso", "attach_iso"]
      (Agent.sync a.1 struck.2 >>= fun _ => (Pure.pure Json.null : Call Json)) :=
    (sync (by simp) _ _).bind fun _ => pure _
  dsimp only
  split
  · exact (info _).bind fun _ => rest
  · exact rest

end AsksOnly

/-- A call comes to the operations of its footprint and to no others. -/
theorem Handler.within {method : String} {call : Settings → List Json → Call Json}
    (h : Handler method call) (settings : Settings) (args : List Json) :
    AsksOnly (footprint method) (call settings args) := by
  cases h with
  | createStemcell => exact AsksOnly.createStemcell settings args
  | deleteStemcell => exact AsksOnly.deleteStemcell settings args
  | createVm => exact AsksOnly.createVm settings args
  | deleteVm => exact AsksOnly.deleteVm settings args
  | hasVm => exact AsksOnly.hasVm settings args
  | restartVm => exact AsksOnly.restartVm settings args
  | setVmMetadata => exact AsksOnly.setVmMetadata settings args
  | createDisk => exact AsksOnly.createDisk settings args
  | deleteDisk => exact AsksOnly.deleteDisk settings args
  | hasDisk => exact AsksOnly.hasDisk settings args
  | listDisks => exact AsksOnly.listDisks settings args
  | attachDisk => exact AsksOnly.attachDisk settings args
  | detachDisk => exact AsksOnly.detachDisk settings args

end CloudProvider
