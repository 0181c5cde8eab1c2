import CloudProvider.ControlPlane.Client
import CloudProvider.ControlPlane.Inventory
import CloudProvider.Dispatch
import CloudProvider.Workspace

/-!
A world in memory for calls to run in: a control plane, files, and a tool that does the same whenever it
is run. Everything that the calls do can be read off it afterwards.
-/

namespace CloudProvider

/-- What the image tool does, whatever it is asked for. -/
inductive ToolBehaviour where
  | succeeds
  | fails (output : String)
  | broken (message : String)
  deriving DecidableEq

def ToolBehaviour.outcome : ToolBehaviour → Except Failure ToolOutcome
  | .succeeds => .ok ⟨true, ""⟩
  | .fails output => .ok ⟨false, output⟩
  | .broken message => .error (.internal message)

/-- A run of the tool, with the content of the file that it is given last. -/
structure CommandRecord where
  program : String
  arguments : List String
  document : Option Text.Bytes
  deriving DecidableEq

structure DryRun where
  inventory : Inventory
  workspace : Workspace
  tool : ToolBehaviour
  commands : List CommandRecord
  deriving DecidableEq

namespace DryRun

def new (omitsDiskIds : Bool) (tool : ToolBehaviour) : DryRun :=
  ⟨.empty omitsDiskIds, .empty, tool, []⟩

/-- Runs the tool. -/
def runTool (program : String) (arguments : List String) (w : DryRun) :
    Except Failure ToolOutcome × DryRun :=
  let document := arguments.getLast?.bind fun path => (w.workspace.read path).toOption
  (w.tool.outcome, { w with commands := w.commands ++ [⟨program, arguments, document⟩] })

/-- Changes the files; a change that fails leaves them as they are. -/
def changeFiles {α : Type} (change : Workspace → Except FileFault (α × Workspace)) (w : DryRun) :
    Except FileFault α × DryRun :=
  match change w.workspace with
  | .ok (x, files) => (.ok x, { w with workspace := files })
  | .error fault => (.error fault, w)

def changeFiles' (change : Workspace → Except FileFault Workspace) : DryRun → Except FileFault Unit × DryRun :=
  changeFiles fun files => (change files).map ((), ·)

/-- Has the control plane in memory perform an operation. -/
def perform (fresh : Nat → String) (op : Operation) (w : DryRun) : op.Answer × DryRun :=
  let (r, inventory) := w.inventory.perform fresh op
  (r, { w with inventory := inventory })

section
variable {m : Type → Type} [Monad m] [MonadStateOf DryRun m]

def remote (fresh : Nat → String) (op : Operation) : m op.Answer := modifyGet (perform fresh op)

/-- Answers out of memory, but for the control plane, which may be anywhere. -/
def answer (remote : (op : Operation) → m op.Answer) : (e : Effect) → m e.Reply
  | .remote op => remote op
  | .runTool program arguments => modifyGet (runTool program arguments)
  | .openFile path => do return (← getThe DryRun).workspace.openFile path
  | .writeFile path content => modifyGet (changeFiles' (·.writeFile path content))
  | .createDirectory stem => modifyGet (changeFiles (·.makeTemporary stem "" .directory))
  | .createFile stem suffix => modifyGet (changeFiles (·.makeTemporary stem suffix (.file [])))
  | .removeDirectory path => modifyGet (changeFiles' (·.removeDirectory path))
  | .removeFile path => modifyGet (changeFiles' (·.removeFile path))

/-- Answers a client to whom nobody replies. -/
def offline : (op : Wire) → m (Wire.Reply op)
  | .exchange _ => pure none
  | .openFile path => do return (← getThe DryRun).workspace.openFile path
  | .pause _ => pure ()
  | .clock => pure 0

end
end DryRun
end CloudProvider
