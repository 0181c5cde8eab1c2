import CloudProvider.Agent.Media
import CloudProvider.Call.Absence
import CloudProvider.Call.Sizes

/-!
Calls about persistent disks. A disk that is attached or detached is also entered into the environment
of the machine's agent, or struck out of it; each step may be repeated, so a call that has failed can be
made again.
-/

namespace CloudProvider.Disks

structure CreateArguments where
  sizeGb : UInt64
  flavor : String
  vm : String
  deriving DecidableEq

def CreateArguments.parse (args : List Json) : Except ArgumentFault CreateArguments := do
  Arguments.expect args 3
  let sizeGb ← sizeInGb (← Arguments.number args 0 "size")
  let flavor ← Arguments.property (← Arguments.object args 1 "cloud_properties") "disk_flavor"
  let vm ← Arguments.string args 2 "vm_cid"
  return ⟨sizeGb, flavor, vm⟩

def diskId (args : List Json) : Except ArgumentFault String := do
  Arguments.expect args 1
  Arguments.string args 0 "disk_cid"

/-- A machine and a disk. -/
def pair (args : List Json) : Except ArgumentFault (String × String) := do
  Arguments.expect args 2
  let vm ← Arguments.string args 0 "vm_cid"
  let disk ← Arguments.string args 1 "disk_cid"
  return (vm, disk)

def CreateArguments.spec (a : CreateArguments) : DiskCreateSpec :=
  ⟨s!"disk-for-vm-{a.vm}", "persistent-disk", a.flavor, a.sizeGb⟩

def create (settings : Settings) (args : List Json) : Call Json := do
  let a ← Call.argument (CreateArguments.parse args)
  Call.info s!"CreateDisk with size: {a.sizeGb} GiB, flavor: '{a.flavor}', vm_cid: '{a.vm}'"
  let task ← Call.remote (.createDisk settings.controlPlane.projectId a.spec)
  return .str task.entity.id

def delete (_ : Settings) (args : List Json) : Call Json := do
  let disk ← Call.argument (diskId args)
  Call.info s!"DeleteDisk with disk_cid: '{disk}'"
  let _ ← Call.remote (.deleteDisk disk)
  return .null

def has (settings : Settings) (args : List Json) : Call Json := do
  let disk ← Call.argument (diskId args)
  Call.info s!"HasDisk with disk_cid: '{disk}'"
  return .bool (← Call.exists settings s!"Disk {disk}" (.getDisk disk))

/-- The disks of a listing that a machine has. -/
def attachedTo (vm : String) (disks : List PersistentDisk) : List PersistentDisk :=
  disks.filter fun d => vm ∈ d.vms

def list (settings : Settings) (args : List Json) : Call Json := do
  let vm ← Call.argument (Arguments.vmId args)
  Call.info s!"GetDisks with vm_cid: '{vm}'"
  let disks ← Call.remote (.listDisks settings.controlPlane.projectId)
  return .arr (((attachedTo vm disks).map (·.id)).eraseDups.map .str)

def attach (_ : Settings) (args : List Json) : Call Json := do
  let (vm, disk) ← Call.argument (pair args)
  Call.info s!"AttachDisk with vm_cid: '{vm}', disk_cid: '{disk}'"
  let _ ← Call.remote (.attachDisk vm disk)
  Call.info "Getting metadata for VM"
  let env ← Agent.fetch vm
  let env ← Call.ofExcept (env.insertPersistent disk)
  Agent.sync vm env
  return .null

def detach (_ : Settings) (args : List Json) : Call Json := do
  let (vm, disk) ← Call.argument (pair args)
  Call.info s!"DetachDisk with vm_cid: '{vm}', disk_cid: '{disk}'"
  let _ ← Call.remote (.detachDisk vm disk)
  Call.info "Getting metadata for VM"
  let env ← Agent.fetch vm
  let (recorded, env) ← Call.ofExcept (env.removePersistent disk)
  if !recorded then
    Call.info s!"Disk {disk} was not recorded in the agent env of VM {vm}"
  Agent.sync vm env
  return .null

end CloudProvider.Disks
