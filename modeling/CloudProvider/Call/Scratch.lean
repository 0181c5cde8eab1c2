import CloudProvider.Effect
import CloudProvider.Text.Quoted

/-!
Files and directories that a call makes for itself and removes again, however it ends. A removal that
fails is reported and changes nothing else.
-/

namespace CloudProvider.Scratch

/-- Reports a removal that has failed. -/
def reportRemoval (what path : String) (r : Except FileFault Unit) : Activity Unit :=
  match r with
  | .ok () => pure ()
  | .error fault => Program.log <| .warn s!"Failed to remove temporary {what}"
      [("path", path), ("error", s!"{fault.message} at path {Text.quoted path}")]

def dropDirectory (path : String) : Activity Unit := do
  reportRemoval "directory" path (← Program.ask (Effect.removeDirectory path))

def dropFile (path : String) : Activity Unit := do
  reportRemoval "file" path (← Program.ask (Effect.removeFile path))

def createDirectory (stem : String) : Call String := do
  Call.ofExcept ((← ExceptT.lift (Program.ask (Effect.createDirectory stem))).mapError .io)

def createFile (stem suffix : String) : Call String := do
  Call.ofExcept ((← ExceptT.lift (Program.ask (Effect.createFile stem suffix))).mapError .io)

/-- A call with a directory of its own. -/
def withDirectory {α : Type} (stem : String) (call : String → Call α) : Call α := do
  let path ← createDirectory stem
  Call.thenAlways (dropDirectory path) (call path)

/-- A call that leaves a file of its own to its caller, unless it fails. -/
def makingFile (stem suffix : String) (call : String → Call Unit) : Call String := do
  let path ← createFile stem suffix
  Call.thenOnFailure (dropFile path) (do call path; return path)

end CloudProvider.Scratch
