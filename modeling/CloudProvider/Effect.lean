import CloudProvider.ControlPlane.Operation
import CloudProvider.Program

/-!
What calls ask of the world around them: the control plane, the image tool, and files. Scratch files and
directories get a fresh name made of a stem and a suffix.
-/

namespace CloudProvider

/-- How a tool ended, and all that it wrote. -/
structure ToolOutcome where
  success : Bool
  output : String
  deriving DecidableEq, Repr

inductive Effect where
  | remote (op : Operation)
  | runTool (program : String) (arguments : List String)
  | openFile (path : String)
  | writeFile (path : String) (content : Text.Bytes)
  | createDirectory (stem : String)
  | createFile (stem suffix : String)
  | removeDirectory (path : String)
  | removeFile (path : String)

@[reducible] def Effect.Reply : Effect → Type
  | .remote op => op.Answer
  | .runTool .. => Except Failure ToolOutcome
  | .openFile _ => Except FileFault OpenFile
  | .writeFile .. => Except FileFault Unit
  | .createDirectory _ => Except FileFault String
  | .createFile .. => Except FileFault String
  | .removeDirectory _ => Except FileFault Unit
  | .removeFile _ => Except FileFault Unit

abbrev Activity := Program Effect Effect.Reply

namespace Activity

def remote (op : Operation) : Activity op.Answer := Program.ask (Effect.remote op)

def runTool (program : String) (arguments : List String) : Activity (Except Failure ToolOutcome) :=
  Program.ask (Effect.runTool program arguments)

def openFile (path : String) : Activity (Except FileFault OpenFile) := Program.ask (Effect.openFile path)

def writeFile (path : String) (content : Text.Bytes) : Activity (Except FileFault Unit) :=
  Program.ask (Effect.writeFile path content)

end Activity

/-- An activity that may fail. -/
abbrev Call := ExceptT Failure Activity

namespace Call
variable {α : Type}

def ofExcept (r : Except Failure α) : Call α := ExceptT.mk (pure r)

def fail (f : Failure) : Call α := ofExcept (.error f)

def report (e : Event) : Call Unit := ExceptT.lift (Program.log e)

def info (message : String) : Call Unit := report (.info message [])

def argument (r : Except ArgumentFault α) : Call α := ofExcept (r.mapError .argument)

/-- An operation of the control plane with whatever comes of it. -/
def attempt (op : Operation) : Call op.Answer := ExceptT.lift (Activity.remote op)

/-- An operation whose failure is the call's. -/
def remote (op : Operation) : Call op.Reply := do ofExcept ((← attempt op).mapError .cloud)

def openFile (path : String) : Call OpenFile := do
  ofExcept ((← ExceptT.lift (Activity.openFile path)).mapError .io)

def writeFile (path : String) (content : Text.Bytes) : Call Unit := do
  ofExcept ((← ExceptT.lift (Activity.writeFile path content)).mapError .io)

/-- Runs `release` whatever comes of the call, which keeps its own result. -/
def thenAlways (release : Activity Unit) (call : Call α) : Call α := ExceptT.mk do
  let r ← call.run
  release
  return r

/-- Runs `release` if the call fails. -/
def thenOnFailure (release : Activity Unit) (call : Call α) : Call α := ExceptT.mk do
  let r ← call.run
  if r matches .error _ then release
  return r

end Call
end CloudProvider
