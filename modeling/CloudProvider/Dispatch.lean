import CloudProvider.Call.Stemcells
import CloudProvider.Call.Vms
import CloudProvider.Envelope
import CloudProvider.Text.EditDistance
import CloudProvider.Text.LowerCase

/-!
From a method's name to its action, and from what comes of the action to a response. The name is lowered
before it is looked up; one that is not known is answered with the nearest known name, if that is near
enough. An action that breaks down fails like any other.
-/

namespace CloudProvider

/-- How an action ends. -/
inductive Ending where
  | returned (result : Except Failure Json)
  /-- The action has broken down; the payload is a text or nothing that can be shown. -/
  | brokeDown (payload : Option String)

/-- What comes of the action of a method. -/
def Ending.outcome (method : String) : Ending → Except Failure Json
  | .returned result => result
  | .brokeDown payload =>
    let shown := payload.getD "unknown panic payload"
    .error (.internal s!"Action {method} panicked: {shown}")

abbrev Action := Settings → List Json → Activity Ending

def Action.ofCall (call : Settings → List Json → Call Json) : Action := fun settings args => do
  return .returned (← (call settings args).run)

abbrev ActionTable := SortedMap Action

namespace ActionTable

def default : ActionTable := .ofList [
  ("create_stemcell", .ofCall Stemcells.create),
  ("delete_stemcell", .ofCall Stemcells.delete),
  ("create_vm", .ofCall Vms.create),
  ("delete_vm", .ofCall Vms.delete),
  ("has_vm", .ofCall Vms.has),
  ("restart_vm", .ofCall Vms.restart),
  ("set_vm_metadata", .ofCall Vms.setMetadata),
  ("create_disk", .ofCall Disks.create),
  ("delete_disk", .ofCall Disks.delete),
  ("has_disk", .ofCall Disks.has),
  ("get_disks", .ofCall Disks.list),
  ("attach_disk", .ofCall Disks.attach),
  ("detach_disk", .ofCall Disks.detach)]

end ActionTable

namespace Dispatch

def maxDistance : Nat := 3

/-- The first of the nearest names within the distance allowed. -/
def nearest (method : String) : List String → Option (Nat × String)
  | [] => none
  | name :: names =>
    let distance := Text.editDistance name method
    match nearest method names with
    | some (best, other) =>
      if best < distance then some (best, other) else some (distance, name)
    | none => if distance ≤ maxDistance then some (distance, name) else none

def suggestion (names : List String) (method : String) : String :=
  match nearest method names with
  | some (_, name) => s!" Did you mean '{name}'?"
  | none => ""

def notSupported (names : List String) (method : String) : Failure :=
  .classified .notSupported false
    s!"Method {method} not supported in photon CPI.{suggestion names method}"

/-- What is reported at the end of an action. -/
def closing (method : String) : Except Failure Json → List Event
  | .ok result => [.info s!"Action response: {result.text}" [], .info s!"End action {method}" []]
  | .error failure => [.error s!"Error encountered during action {method}: {failure.message}" []]

def reportAll : List Event → Activity Unit
  | [] => pure ()
  | e :: es => do Program.log e; reportAll es

/-- Runs the action of a method that has been lowered. -/
def runAction (table : ActionTable) (settings : Settings) (method : String) (args : List Json) :
    Activity (Except Failure Json) := do
  match table.find? method with
  | none =>
    let failure := notSupported table.keys method
    reportAll [.error failure.message []]
    return .error failure
  | some action =>
    reportAll [.info s!"Begin action {method}" [],
      .info s!"Raw action arguments: {(Json.arr args).text}" []]
    let outcome := (← action settings args).outcome method
    reportAll (closing method outcome)
    return outcome

def run (table : ActionTable) (settings : Settings) (method : String) (args : List Json) :
    Activity (Except Failure Json) :=
  runAction table settings (Text.lowerCase method) args

end Dispatch

/-- Work that keeps the log of a call. -/
abbrev Logged (m : Type → Type) := StateT CallLog m

/-- A host that notes events in the log, each with the time at which it comes. -/
def loggingHost {m : Type → Type} [Monad m] (answer : (e : Effect) → Logged m e.Reply)
    (clock : m String) : Program.Host Effect Effect.Reply (Logged m) where
  answer := answer
  note e := do
    let now ← clock
    modify (·.record now e)

/-- Answers one call and empties the log into the response. -/
def respond {m : Type → Type} [Monad m] (host : Program.Host Effect Effect.Reply (Logged m))
    (table : ActionTable) (settings : Settings) (method : String) (args : List Json) :
    Logged m Response := do
  let outcome ← (Dispatch.run table settings method args).run host
  let log ← modifyGet CallLog.take
  return .ofOutcome outcome log

end CloudProvider
