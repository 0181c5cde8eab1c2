import CloudProvider.Agent.Environment
import CloudProvider.Call.Scratch

/-!
The two copies of an agent's environment: an image attached to the machine, which the agent reads, and a
text in the machine's metadata, from which the next call starts. Both hold the same document. The image
is made first, so that nothing is changed if it cannot be made.
-/

namespace CloudProvider.Agent

def metadataKey : String := "bosh-cpi"

/-- A name that the file system of the image can hold. -/
def fileName : String := "env"

def imageTool : String := "mkisofs"

/-- Has the tool make an image of one file. -/
def makeImage (image file : String) : Call Unit := do
  match ← ExceptT.lift (Activity.runTool imageTool ["-o", image, file]) with
  | .error fault => Call.fail (.mediaRender fault.message "")
  | .ok outcome =>
    if outcome.success then return ()
    else Call.fail (.mediaRender s!"{imageTool} exited unsuccessfully" outcome.output)

/-- Makes an image of the environment and gives its path. -/
def render (env : Environment) : Call String :=
  Scratch.withDirectory "agent-iso-dir" fun directory => do
    let file := directory ++ "/" ++ fileName
    Call.writeFile file (Text.Utf8.encode env.document)
    Scratch.makingFile "agent-env-iso" ".iso" fun image => makeImage image file

/-- Reads the copy in the metadata. -/
def fetch (vm : String) : Call Environment := do
  let v ← Call.remote (.getVm vm)
  match v.metadata.find? metadataKey with
  | none => Call.fail (.metadata s!"No metadata found with key '{metadataKey}' for VM '{vm}'")
  | some document => Call.ofExcept ((Environment.decoder.ofText document).mapError .serialization)

/-- Writes the copy in the metadata. -/
def store (vm : String) (env : Environment) : Call Unit := do
  let _ ← Call.remote (.setMetadata vm ⟨.singleton metadataKey env.document⟩)

/-- Takes the old image from the machine. A task that fails is no failure here: there may be none. -/
def detachImage (vm : String) : Call Unit := do
  match ← Call.attempt (.detachIso vm) with
  | .ok _ => return ()
  | .error fault =>
    if fault.isTaskFailure then
      Call.report (.warn "Ignoring ISO detach failure" [("vm_id", vm), ("error", fault.message)])
    else Call.fail (.cloud fault)

/-- Brings both copies up to date. -/
def sync (vm : String) (env : Environment) : Call Unit := do
  Call.report (.info "Creating agent env" [("vm_id", vm), ("agent_id", env.agentId)])
  let image ← render env
  Call.thenAlways (Scratch.dropFile image) do
    Call.report (.info "Updating metadata for VM" [("vm_id", vm)])
    store vm env
    detachImage vm
    Call.report (.info "Attaching ISO" [("vm_id", vm), ("path", image)])
    let _ ← Call.remote (.attachIso vm image)

end CloudProvider.Agent
