import CloudProvider.SortedMap

/-!
What the control plane deals in: machines, disks, images by their names, and tasks, which stand for
changes under way.
-/

namespace CloudProvider

inductive TaskState where
  | queued
  | started
  | completed
  | failed
  deriving DecidableEq, Repr

namespace TaskState

/-- The spelling in documents. -/
def name : TaskState → String
  | .queued => "QUEUED"
  | .started => "STARTED"
  | .completed => "COMPLETED"
  | .failed => "ERROR"

/-- The spelling in messages. -/
def title : TaskState → String
  | .queued => "Queued"
  | .started => "Started"
  | .completed => "Completed"
  | .failed => "Error"

def variants : List (String × TaskState) :=
  [TaskState.queued, .started, .completed, .failed].map fun s => (s.name, s)

def isTerminal : TaskState → Bool
  | .completed | .failed => true
  | .queued | .started => false

end TaskState

/-- What a task is about. -/
structure Entity where
  id : String
  kind : String
  deriving DecidableEq, Inhabited

/-- A coded error, of a rejected request or of a step of a task. -/
structure ErrorDetail where
  code : String
  message : String
  deriving DecidableEq

structure TaskStep where
  operation : String
  errors : List ErrorDetail
  deriving DecidableEq

structure Task where
  id : String
  state : TaskState
  operation : String
  entity : Entity
  steps : List TaskStep
  deriving DecidableEq

namespace Task

def completed (id operation entity : String) : Task := ⟨id, .completed, operation, ⟨entity, ""⟩, []⟩

/-- The errors of all steps in one line, or the state where there are none. -/
def errorSummary (t : Task) : String :=
  match t.steps.flatMap (·.errors) with
  | [] => s!"task {t.id} ended in state {t.state.title}"
  | errors => "; ".intercalate (errors.map fun e => s!"{e.code}: {e.message}")

end Task

/-- A disk that lives and dies with its machine. -/
structure AttachedDisk where
  id : String
  name : String
  kind : String
  flavor : String
  capacityGb : UInt64
  bootDisk : Bool
  state : String
  deriving DecidableEq

structure VmCreateSpec where
  name : String
  flavor : String
  sourceImageId : String
  attachedDisks : List AttachedDisk
  deriving DecidableEq

structure Vm where
  id : String
  name : String
  state : String
  attachedDisks : List AttachedDisk
  metadata : SortedMap String
  deriving DecidableEq

structure DiskCreateSpec where
  name : String
  kind : String
  flavor : String
  capacityGb : UInt64
  deriving DecidableEq

/-- A disk with a life of its own, and the machines that it is attached to. -/
structure PersistentDisk where
  id : String
  name : String
  flavor : String
  capacityGb : UInt64
  vms : List String
  deriving DecidableEq

/-- Metadata to be stored with a machine. -/
structure VmMetadata where
  metadata : SortedMap String
  deriving DecidableEq

/-- One page of a listing of disks. -/
structure DiskPage where
  items : List PersistentDisk
  nextPageLink : Option String
  deriving DecidableEq

end CloudProvider
