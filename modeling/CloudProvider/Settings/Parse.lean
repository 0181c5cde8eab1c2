import CloudProvider.Settings.Basic
import CloudProvider.Settings.Expansion
import CloudProvider.Text.Blank
import CloudProvider.Url.Parser

/-!
Settings from their text. Variables are put into name, password and token; then the settings have to
make sense: the target is an address, there is a project, and the pause between polls is not zero.
-/

namespace CloudProvider.Settings

/-- The first thing that makes no sense. -/
def problem? (s : Settings) : Option String :=
  match Url.parse s.controlPlane.target with
  | .error fault => some s!"Invalid photon target '{s.controlPlane.target}': {fault.message}"
  | .ok _ =>
    if Text.isBlankText s.controlPlane.projectId then some "photon.project must not be empty"
    else if s.controlPlane.taskPollIntervalMs = some 0 then
      some "photon.task_poll_interval_ms must be > 0"
    else none

def validate (s : Settings) : Except Failure Settings :=
  match s.problem? with
  | some problem => .error (.config problem)
  | none => .ok s

/-- Expands a text that may be absent. -/
def expand (valueOf : String → Option String) (patience : Nat) : Option String → Option (Option String)
  | none => some none
  | some text => (Expansion.run valueOf patience text.toList).map fun cs => some (.ofList cs)

/-- The settings with their variables put in, if the given number of steps suffices for each text. -/
def expanded (valueOf : String → Option String) (patience : Nat) (s : Settings) : Option Settings := do
  let username ← expand valueOf patience s.controlPlane.username
  let password ← expand valueOf patience s.controlPlane.password
  let token ← expand valueOf patience s.controlPlane.token
  return { s with controlPlane := { s.controlPlane with
    username := username, password := password, token := token } }

/-- There is no answer if variables keep referring to one another. -/
def parse (valueOf : String → Option String) (patience : Nat) (text : String) :
    Option (Except Failure Settings) :=
  match decoder.ofText text with
  | .error fault => some (.error (.config s!"Failed to parse config: {fault.message}"))
  | .ok settings => (settings.expanded valueOf patience).map validate

end CloudProvider.Settings
