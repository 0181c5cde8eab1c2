import CloudProvider.Call.Disks

/-!
Calls about machines. A new machine is started only after its agent's environment is in place, and a
machine is deleted only after its disks have been detached and it has been stopped.
-/

namespace CloudProvider.Vms

structure CreateArguments where
  agentId : String
  stemcellId : String
  properties : CloudProperties
  networks : Json.Members
  env : Json.Members

/-- The fifth argument, ids of disks, has no use here. -/
def CreateArguments.parse (args : List Json) : Except ArgumentFault CreateArguments := do
  Arguments.expect args 6
  let agentId ← Arguments.string args 0 "agent_id"
  let stemcellId ← Arguments.string args 1 "stemcell_cid"
  let properties ← CloudProperties.ofFields (← Arguments.object args 2 "cloud_properties")
  let networks ← Arguments.object args 3 "networks"
  let env ← Arguments.object args 5 "env"
  return ⟨agentId, stemcellId, properties, .ofList networks, .ofList env⟩

def ephemeralDiskName : String := "bosh-ephemeral-disk"

def CreateArguments.disk (a : CreateArguments) (name : String) (capacityGb : UInt64) (boot : Bool) :
    AttachedDisk :=
  ⟨"", name, "ephemeral-disk", a.properties.diskFlavor, capacityGb, boot, "STARTED"⟩

/-- The control plane sizes the boot disk after the image, whatever is asked for. -/
def CreateArguments.spec (a : CreateArguments) : VmCreateSpec :=
  ⟨"bosh-vm", a.properties.vmFlavor, a.stemcellId,
    [a.disk "boot-disk" 50 true, a.disk ephemeralDiskName a.properties.attachedDiskSizeGb false]⟩

/-- The id of the disk that goes with a new machine. -/
def ephemeralDiskId (vm : Vm) : Except Failure String :=
  match vm.attachedDisks.find? fun d => d.name = ephemeralDiskName ∧ d.id ≠ "" with
  | some d => .ok d.id
  | none => .error (.classified .cloudError false
      s!"Could not find ID for ephemeral disk of new VM {vm.id}")

def create (settings : Settings) (args : List Json) : Call Json := do
  let a ← Call.argument (CreateArguments.parse args)
  Call.info (s!"CreateVM with agent_id: '{a.agentId}', stemcell_cid: '{a.stemcellId}', " ++
    s!"cloud_properties: '{a.properties.shown}'")
  let task ← Call.remote (.createVm settings.controlPlane.projectId a.spec)
  let id := task.entity.id
  Call.info s!"Getting details of VM: {id}"
  let vm ← Call.remote (.getVm id)
  let disk ← Call.ofExcept (ephemeralDiskId vm)
  Agent.sync id (.forNewMachine a.agentId ⟨vm.name, vm.id⟩ disk a.networks a.env settings.agent)
  Call.info "Starting VM"
  let _ ← Call.remote (.startVm id)
  return .str id

/-- Detaches disks from a machine, one after the other. -/
def detachAll (vm : String) : List PersistentDisk → Call Unit
  | [] => return ()
  | d :: ds => do
    Call.info s!"Detaching disk: {d.id}"
    let _ ← Call.remote (.detachDisk vm d.id)
    detachAll vm ds

def delete (settings : Settings) (args : List Json) : Call Json := do
  let vm ← Call.argument (Arguments.vmId args)
  Call.info s!"Deleting VM: {vm}"
  Call.info "Detaching disks"
  let disks ← Call.remote (.listDisks settings.controlPlane.projectId)
  detachAll vm (Disks.attachedTo vm disks)
  Call.info "Stopping VM"
  let _ ← Call.remote (.stopVm vm)
  Call.info "Deleting VM"
  let _ ← Call.remote (.deleteVm vm)
  return .null

def has (settings : Settings) (args : List Json) : Call Json := do
  let vm ← Call.argument (Arguments.vmId args)
  Call.info s!"Determining if VM exists: {vm}"
  return .bool (← Call.exists settings s!"VM {vm}" (.getVm vm))

def restart (_ : Settings) (args : List Json) : Call Json := do
  let vm ← Call.argument (Arguments.vmId args)
  Call.info s!"Restarting VM: {vm}"
  let _ ← Call.remote (.restartVm vm)
  return .null

/-- The director's tags are accepted and not stored. -/
def setMetadata (_ : Settings) (args : List Json) : Call Json := do
  let (vm, metadata) ← Call.argument do
    Arguments.expect args 2
    let vm ← Arguments.string args 0 "vm_cid"
    let metadata ← Arguments.object args 1 "metadata"
    return (vm, metadata)
  Call.info s!"SetVMMetadata with vm_cid: '{vm}', {metadata.length} keys ignored"
  return .null

end CloudProvider.Vms
