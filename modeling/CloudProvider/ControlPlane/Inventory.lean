import CloudProvider.ControlPlane.Operation

/-!
A control plane in memory. It keeps machines, persistent disks and images under their ids, does every
operation at once, and writes down the name of each. A fault can be armed for an operation: the next
one of that name fails with it and does nothing. New ids are the names of ascending numbers.
-/

namespace CloudProvider

structure VmRecord where
  vm : Vm
  /-- The path of the image that is attached. -/
  iso : Option String
  deriving DecidableEq

structure ImageRecord where
  name : String
  content : Text.Bytes
  deriving DecidableEq

structure Inventory where
  vms : SortedMap VmRecord
  disks : SortedMap PersistentDisk
  images : SortedMap ImageRecord
  /-- Faults that are armed, by the name of the operation. -/
  faults : SortedMap CloudFault
  /-- The names of the operations so far. -/
  journal : List String
  /-- How many ids have been given out. -/
  issued : Nat
  /-- New machines come without the ids of their attached disks. -/
  omitsDiskIds : Bool
  deriving DecidableEq

namespace Inventory

def empty (omitsDiskIds : Bool) : Inventory := ⟨∅, ∅, ∅, ∅, [], 0, omitsDiskIds⟩

/-- Arms a fault; one that is armed already gives way. -/
def arm (inv : Inventory) (operation : String) (fault : CloudFault) : Inventory :=
  { inv with faults := inv.faults.insert operation fault }

def insertVm (inv : Inventory) (id : String) : Inventory :=
  { inv with vms := inv.vms.insert id ⟨⟨id, "bosh-vm", "STOPPED", [], ∅⟩, none⟩ }

def insertDisk (inv : Inventory) (id : String) (attachedTo : List String) : Inventory :=
  { inv with disks := inv.disks.insert id ⟨id, s!"disk-{id}", "core-100", 1, attachedTo⟩ }

def insertImage (inv : Inventory) (id name : String) : Inventory :=
  { inv with images := inv.images.insert id ⟨name, []⟩ }

def modifyVm (inv : Inventory) (id : String) (f : VmRecord → VmRecord) : Inventory :=
  match inv.vms.find? id with
  | some record => { inv with vms := inv.vms.insert id (f record) }
  | none => inv

def VmRecord.putMetadata (record : VmRecord) (metadata : SortedMap String) : VmRecord :=
  { record with vm := { record.vm with metadata := record.vm.metadata.union metadata } }

/-- Stores a text with a machine, if there is such a machine; this is no operation. -/
def putMetadata (inv : Inventory) (vm key value : String) : Inventory :=
  inv.modifyVm vm fun record => VmRecord.putMetadata record (.singleton key value)

def metadata? (inv : Inventory) (vm key : String) : Option String := do
  (← inv.vms.find? vm).vm.metadata.find? key

def attachedIso? (inv : Inventory) (vm : String) : Option String := do (← inv.vms.find? vm).iso

/-- Writes an operation down and takes the fault that is armed for it. -/
def begin (inv : Inventory) (operation : String) : Option CloudFault × Inventory :=
  (inv.faults.find? operation,
    { inv with journal := inv.journal ++ [operation], faults := inv.faults.erase operation })

def notFound (code id : String) : CloudFault := .api 404 code s!"'{id}' not found"

def vmNotFound (id : String) : CloudFault := notFound "VmNotFound" id
def diskNotFound (id : String) : CloudFault := notFound "DiskNotFound" id
def imageNotFound (id : String) : CloudFault := notFound "ImageNotFound" id

section
variable (fresh : Nat → String)

/-- Answers with a finished task, which has the next id. -/
def complete (inv : Inventory) (operation entity : String) : Except CloudFault Task × Inventory :=
  (.ok (.completed (fresh inv.issued) (operation.map Char.toUpper) entity),
    { inv with issued := inv.issued + 1 })

/-- Changes a machine, and answers with a finished task. -/
def changeVm (inv : Inventory) (operation vm : String) (f : VmRecord → VmRecord) :
    Except CloudFault Task × Inventory :=
  match inv.vms.find? vm with
  | none => (.error (vmNotFound vm), inv)
  | some record =>
    complete fresh { inv with vms := inv.vms.insert vm (f record) } operation vm

/-- Changes the machines of a disk on behalf of one of them. -/
def changeDisk (inv : Inventory) (operation vm disk : String) (f : List String → List String) :
    Except CloudFault Task × Inventory :=
  match inv.vms.find? vm, inv.disks.find? disk with
  | none, _ => (.error (vmNotFound vm), inv)
  | some _, none => (.error (diskNotFound disk), inv)
  | some _, some d =>
    complete fresh { inv with disks := inv.disks.insert disk { d with vms := f d.vms } } operation vm

def setState (state : String) (record : VmRecord) : VmRecord :=
  { record with vm := { record.vm with state := state } }

/-- Gives the disks of a new machine the ids from `n` on. -/
def nameDisks (n : Nat) : List AttachedDisk → List AttachedDisk
  | [] => []
  | d :: ds => { d with id := fresh n } :: nameDisks (n + 1) ds

def addVm (inv : Inventory) (spec : VmCreateSpec) : Except CloudFault Task × Inventory :=
  let disks := if inv.omitsDiskIds then spec.attachedDisks.map ({ · with id := "" })
    else nameDisks fresh inv.issued spec.attachedDisks
  let n := if inv.omitsDiskIds then inv.issued else inv.issued + disks.length
  let id := fresh n
  complete fresh { inv with
    issued := n + 1
    vms := inv.vms.insert id ⟨⟨id, spec.name, "STOPPED", disks, ∅⟩, none⟩ } "create_vm" id

def addDisk (inv : Inventory) (spec : DiskCreateSpec) : Except CloudFault Task × Inventory :=
  let id := fresh inv.issued
  complete fresh { inv with
    issued := inv.issued + 1
    disks := inv.disks.insert id ⟨id, spec.name, spec.flavor, spec.capacityGb, []⟩ } "create_disk" id

def addImage (inv : Inventory) (name : String) (content : Text.Bytes) :
    Except CloudFault Task × Inventory :=
  let id := fresh inv.issued
  complete fresh { inv with
    issued := inv.issued + 1
    images := inv.images.insert id ⟨name, content⟩ } "create_image" id

def removeIso (inv : Inventory) (vm : String) : Except CloudFault Task × Inventory :=
  match inv.vms.find? vm with
  | none => (.error (vmNotFound vm), inv)
  | some ⟨_, none⟩ =>
    (.error (.task (fresh inv.issued) "DETACH_ISO" s!"No ISO attached to VM '{vm}'"),
      { inv with issued := inv.issued + 1 })
  | some ⟨v, some _⟩ => complete fresh { inv with vms := inv.vms.insert vm ⟨v, none⟩ } "detach_iso" vm

/-- What an operation does once nothing stands against it. -/
def act (inv : Inventory) : (op : Operation) → op.Answer × Inventory
  | .createVm _ spec => inv.addVm fresh spec
  | .getVm vm =>
    (match inv.vms.find? vm with
      | some record => .ok record.vm
      | none => .error (vmNotFound vm), inv)
  | .deleteVm vm =>
    match inv.vms.find? vm with
    | none => (.error (vmNotFound vm), inv)
    | some _ => complete fresh { inv with vms := inv.vms.erase vm } "delete_vm" vm
  | .startVm vm => inv.changeVm fresh "start_vm" vm (setState "STARTED")
  | .stopVm vm => inv.changeVm fresh "stop_vm" vm (setState "STOPPED")
  | .restartVm vm => inv.changeVm fresh "restart_vm" vm (setState "STARTED")
  | .attachDisk vm disk =>
    inv.changeDisk fresh "attach_disk" vm disk fun vms => if vm ∈ vms then vms else vms ++ [vm]
  | .detachDisk vm disk => inv.changeDisk fresh "detach_disk" vm disk (·.filter (· ≠ vm))
  | .attachIso vm path => inv.changeVm fresh "attach_iso" vm ({ · with iso := some path })
  | .detachIso vm => inv.removeIso fresh vm
  | .setMetadata vm metadata =>
    inv.changeVm fresh "set_metadata" vm (VmRecord.putMetadata · metadata.metadata)
  | .createDisk _ spec => inv.addDisk fresh spec
  | .getDisk disk =>
    (match inv.disks.find? disk with
      | some d => .ok d
      | none => .error (diskNotFound disk), inv)
  | .deleteDisk disk =>
    match inv.disks.find? disk with
    | none => (.error (diskNotFound disk), inv)
    | some _ => complete fresh { inv with disks := inv.disks.erase disk } "delete_disk" disk
  | .listDisks _ => (.ok inv.disks.values, inv)
  | .createImage name ⟨.ok content⟩ => inv.addImage fresh name content
  | .createImage name ⟨.error fault⟩ => (.error (.localFile s!"{name}: {fault.message}"), inv)
  | .deleteImage image =>
    match inv.images.find? image with
    | none => (.error (imageNotFound image), inv)
    | some _ => complete fresh { inv with images := inv.images.erase image } "delete_image" image

/-- Performs an operation. An image is read before the operation counts as begun. -/
def perform (inv : Inventory) (op : Operation) : op.Answer × Inventory :=
  match op with
  | .createImage name ⟨.error fault⟩ => inv.act fresh (.createImage name ⟨.error fault⟩)
  | op =>
    match inv.begin op.name with
    | (some fault, inv) => (.error fault, inv)
    | (none, inv) => inv.act fresh op

end
end Inventory
end CloudProvider
