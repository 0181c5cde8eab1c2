import CloudProvider.Json.Fault

/-!
Why a call fails, and what the director is told. Failures are causes; their wording and their place in
the director's taxonomy are functions of the cause. Only a failure that may pass by itself, a broken
connection or a task that takes too long, is worth another try, unless a call says otherwise of its
own failure.
-/

namespace CloudProvider

/-- The director's taxonomy. -/
inductive FaultKind where
  | cloudError
  | cpiError
  | notImplemented
  | notSupported
  | vmNotFound
  | diskNotFound
  | diskNotAttached
  deriving DecidableEq, Repr

namespace FaultKind

def all : List FaultKind :=
  [.cloudError, .cpiError, .notImplemented, .notSupported, .vmNotFound, .diskNotFound, .diskNotAttached]

def name : FaultKind → String
  | .cloudError => "Bosh::Clouds::CloudError"
  | .cpiError => "Bosh::Clouds::CpiError"
  | .notImplemented => "Bosh::Clouds::NotImplemented"
  | .notSupported => "Bosh::Clouds::NotSupported"
  | .vmNotFound => "Bosh::Clouds::VMNotFound"
  | .diskNotFound => "Bosh::Clouds::DiskNotFound"
  | .diskNotAttached => "Bosh::Clouds::DiskNotAttached"

def variants : List (String × FaultKind) := all.map fun k => (k.name, k)

end FaultKind

/-- A failure of the control plane, or on the way to it. -/
inductive CloudFault where
  /-- The request was rejected. -/
  | api (status : Nat) (code message : String)
  /-- The request was accepted, but its task ended in failure. -/
  | task (id operation message : String)
  | taskTimeout (id : String) (waitedSeconds : Nat)
  | transport (message : String)
  /-- A local file that the request needs cannot be read. -/
  | localFile (message : String)
  deriving DecidableEq, Repr

namespace CloudFault

def message : CloudFault → String
  | .api status code message => s!"Photon API error: status {status}, code '{code}': {message}"
  | .task id operation message => s!"Photon task '{id}' ({operation}) failed: {message}"
  | .taskTimeout id waited => s!"Timed out after {waited}s waiting for task '{id}'"
  | .transport message => s!"HTTP transport error: {message}"
  | .localFile message => s!"Local file error: {message}"

def isNotFound : CloudFault → Bool
  | .api status .. => status = 404
  | _ => false

def isForbidden : CloudFault → Bool
  | .api status .. => status = 403
  | _ => false

def isTaskFailure : CloudFault → Bool
  | .task .. => true
  | _ => false

def isTransient : CloudFault → Bool
  | .transport _ | .taskTimeout .. => true
  | _ => false

end CloudFault

inductive ArgumentFault where
  | missing (expected got : Nat)
  | wrongKind (name expected got : String)
  | wrongValue (name value : String)
  deriving DecidableEq, Repr

def ArgumentFault.message : ArgumentFault → String
  | .missing expected got => s!"Expected at least {expected} arguments, got {got}"
  | .wrongKind name expected got =>
    s!"Unexpected argument where {name} should be: expected {expected}, got {got}"
  | .wrongValue name value => s!"Invalid value for {name}: {value}"

/-- The argument or property `name` has a value of another kind. -/
def ArgumentFault.ofKind (name expected : String) (value : Json) : ArgumentFault :=
  .wrongKind name expected value.kind

/-- What the system answers instead of a file. -/
inductive FileFault where
  | absent
  | isDirectory
  | notDirectory
  | denied
  | nameTooLong
  | nulInName
  | notText
  | other (message : String)
  deriving DecidableEq, Repr

def FileFault.message : FileFault → String
  | .absent => "No such file or directory (os error 2)"
  | .isDirectory => "Is a directory (os error 21)"
  | .notDirectory => "Not a directory (os error 20)"
  | .denied => "Permission denied (os error 13)"
  | .nameTooLong => "File name too long (os error 36)"
  | .nulInName => "file name contained an unexpected NUL byte"
  | .notText => "stream did not contain valid UTF-8"
  | .other message => message

/-- Why a call has no result. -/
inductive Failure where
  /-- A call has classified its own failure. -/
  | classified (kind : FaultKind) (canRetry : Bool) (message : String)
  | cloud (fault : CloudFault)
  | argument (fault : ArgumentFault)
  | config (message : String)
  | io (fault : FileFault)
  | serialization (fault : Json.Fault)
  | metadata (message : String)
  | mediaRender (message output : String)
  | internal (message : String)
  deriving DecidableEq

namespace Failure

/-- A failure of the provider itself, with what it was about. -/
def cpi (cause context : String) : Failure :=
  .classified .cpiError false s!"CPI error: '{context}' | Caused by: '{cause}'"

def vmNotFound (vm : String) : Failure := .classified .vmNotFound false s!"VM '{vm}' not found"

def diskNotFound (disk : String) (canRetry : Bool) : Failure :=
  .classified .diskNotFound canRetry s!"Disk '{disk}' not found"

def diskNotAttached (disk vm : String) (canRetry : Bool) : Failure :=
  .classified .diskNotAttached canRetry s!"Disk '{disk}' not attached to VM '{vm}'"

def message : Failure → String
  | .classified _ _ message => message
  | .cloud fault => fault.message
  | .argument fault => fault.message
  | .config message => s!"Configuration error: {message}"
  | .io fault => s!"IO error: {fault.message}"
  | .serialization fault => s!"Serialization error: {fault.message}"
  | .metadata message => s!"Metadata error: {message}"
  | .mediaRender message output => s!"Failed to generate ISO for agent settings: {message}\n{output}"
  | .internal message => s!"Internal error: {message}"

/-- Kind and worth of another try. A call's own classification is final. -/
def classify : Failure → FaultKind × Bool
  | .classified kind canRetry _ => (kind, canRetry)
  | .cloud (.localFile _) => (.cpiError, false)
  | .cloud fault => (.cloudError, fault.isTransient)
  | _ => (.cpiError, false)

end Failure
end CloudProvider
