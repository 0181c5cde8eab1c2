import CloudProvider.CommandLine
import CloudProvider.ControlPlane.Client
import CloudProvider.Envelope
import CloudProvider.Settings.Parse

/-!
From what a process is given to one line of output. The request is read first, then the command line,
then the settings that it names, and a client is made; only then is the call made. A stage that fails is
answered like a call that fails, with what was being done and why it failed, and no later stage is begun.

What arguments and paths are is the system's affair, and libraries read the command line and carry
requests. So the stages are given these as their `Surroundings`.
-/

namespace CloudProvider

namespace Startup

/-- What a process finds around it. -/
structure Surroundings (Argument Path : Type) where
  /-- The text of an argument, if it is one. -/
  text? : Argument → Option String
  ofText : String → Argument
  /-- What the arguments say, of which the first is not the program's name; or what is wrong with them. -/
  commandLine : List Argument → Except String Path
  /-- A path as messages show it. -/
  shown : Path → String
  /-- What requests are carried by can be made ready, given whether to ignore certificates. -/
  carrier : (ignoreCertificate : Bool) → Except String Unit
  /-- The variables of the environment. -/
  valueOf : String → Option String

namespace Surroundings
variable {Argument Path : Type}

def normalize (around : Surroundings Argument Path) (argument : Argument) : Argument :=
  match around.text? argument with
  | some text => around.ofText (CommandLine.normalize text)
  | none => argument

/-- The path of the settings. -/
def path (around : Surroundings Argument Path) (arguments : List Argument) : Except String Path :=
  around.commandLine (arguments.map around.normalize)

/-- Arguments and paths are texts, and requests can be carried. -/
def ofTexts (valueOf : String → Option String) : Surroundings String String where
  text? := some
  ofText := id
  commandLine arguments := (CommandLine.parse arguments).mapError CommandLine.Fault.message
  shown := id
  carrier _ := .ok ()
  valueOf := valueOf

end Surroundings

inductive Fault where
  | input (fault : Text.Utf8.Fault)
  | request (fault : Json.Fault)
  | commandLine (message : String)
  | settings (path : String) (failure : Failure)
  | client (fault : CloudFault)

/-- A failure and what is behind it, in messages. -/
def trail : Failure → List String
  | .io fault => [(Failure.io fault).message, fault.message]
  | .serialization fault => [(Failure.serialization fault).message, fault.message]
  | failure => [failure.message]

namespace Fault

/-- What was being done. -/
def context : Fault → String
  | .input _ => "Error reading from stdin"
  | .request _ => "Error deserializing JSON request from bosh"
  | .commandLine _ => "Error parsing command line arguments"
  | .settings path _ => s!"Unable to load photon config from path '{path}'"
  | .client _ => "Unable to create photon client"

/-- Why it failed. -/
def causes : Fault → List String
  | .input fault => [fault.message]
  | .request fault => [fault.message]
  | .commandLine message => [message]
  | .settings _ failure => trail failure
  | .client fault => [fault.message]

end Fault

/-- The failure that a chain of messages tells of, the outermost first. -/
def failureOf (chain : List String) : Failure := .cpi (": ".intercalate (chain.drop 1)) (chain.headD "")

def Fault.failure (f : Fault) : Failure := failureOf (f.context :: f.causes)

section
variable {Argument Path : Type}

/-- The request and the path of the settings. -/
def read (around : Surroundings Argument Path) (input : Text.Bytes) (arguments : List Argument) :
    Except Fault (Request × Path) :=
  match Text.Utf8.decode input with
  | .error fault => .error (.input fault)
  | .ok text =>
    match Request.decoder.ofText text with
    | .error fault => .error (.request fault)
    | .ok request =>
      match around.path arguments with
      | .error message => .error (.commandLine message)
      | .ok path => .ok (request, path)

/-- The text of a file. -/
def textOf (content : Except FileFault Text.Bytes) : Except Failure String :=
  match content with
  | .error fault => .error (.io fault)
  | .ok bytes => (Text.Utf8.decode bytes).mapError fun _ => .io .notText

/-- Settings from the content of a file, if the given number of steps suffices. -/
def loadSettings (valueOf : String → Option String) (patience : Nat)
    (content : Except FileFault Text.Bytes) : Option (Except Failure Settings) :=
  match textOf content with
  | .error failure => some (.error failure)
  | .ok text => Settings.parse valueOf patience text

/-- All that a call needs. -/
structure Prepared where
  request : Request
  settings : Settings
  client : Client

/-- Goes through the stages that follow the reading of the settings' file. -/
def equip (around : Surroundings Argument Path) (patience : Nat) (request : Request) (path : Path)
    (content : Except FileFault Text.Bytes) : Option (Except Fault Prepared) :=
  match loadSettings around.valueOf patience content with
  | none => none
  | some (.error failure) => some (.error (.settings (around.shown path) failure))
  | some (.ok settings) =>
    match Client.connect around.carrier settings.controlPlane with
    | .error fault => some (.error (.client fault))
    | .ok client => some (.ok ⟨request, settings, client⟩)

variable {m : Type → Type} [Monad m]

/-- Goes through the stages before the call. -/
def prepare (around : Surroundings Argument Path) (readFile : Path → m (Except FileFault Text.Bytes))
    (patience : Nat) (input : Text.Bytes) (arguments : List Argument) :
    OptionT m (Except Fault Prepared) := do
  match read around input arguments with
  | .error fault => return .error fault
  | .ok (request, path) => OptionT.mk do return equip around patience request path (← readFile path)

/-- Answers one call, which is made once all is prepared. -/
def answerIn (around : Surroundings Argument Path) (readFile : Path → m (Except FileFault Text.Bytes))
    (patience : Nat) (input : Text.Bytes) (arguments : List Argument)
    (call : Prepared → OptionT m Response) : OptionT m Response := do
  match ← prepare around readFile patience input arguments with
  | .error fault => return .ofFailure fault.failure ""
  | .ok prepared => call prepared

/-- Answers one call where arguments and paths are texts. -/
def answer (readFile : String → m (Except FileFault Text.Bytes)) (valueOf : String → Option String)
    (patience : Nat) (input : Text.Bytes) (arguments : List String)
    (call : Prepared → OptionT m Response) : OptionT m Response :=
  answerIn (.ofTexts valueOf) readFile patience input arguments call

end
end Startup
end CloudProvider
