import CloudProvider.Agent.Environment

/-!
The settings of the provider: how the control plane is reached, and what the agents in the machines
are told. Their document has a section for each.
-/

namespace CloudProvider
open Json (Decoder Record Field)

/-- How the control plane is reached. -/
structure ControlPlaneSettings where
  target : String
  projectId : String
  ignoreCertificate : Bool
  username : Option String
  password : Option String
  token : Option String
  taskPollIntervalMs : Option UInt64
  taskTimeoutSecs : Option UInt64
  deriving DecidableEq

namespace ControlPlaneSettings

def decoder : Decoder ControlPlaneSettings := Record.decoder "PhotonConfig" <|
  Record.pure ControlPlaneSettings.mk
    |>.field (.required "target" .string)
    |>.field (.required "project" .string)
    |>.field (.defaulted "ignore_cert" false .bool)
    |>.field (.defaulted "user" none (.nullable .string))
    |>.field (.defaulted "password" none (.nullable .string))
    |>.field (.defaulted "token" none (.nullable .string))
    |>.field (.defaulted "task_poll_interval_ms" none (.nullable .natural))
    |>.field (.defaulted "task_timeout_secs" none (.nullable .natural))

def toJson (s : ControlPlaneSettings) : Json :=
  .obj [("target", .str s.target), ("project", .str s.projectId),
    ("ignore_cert", .bool s.ignoreCertificate), ("user", .nullable .str s.username),
    ("password", .nullable .str s.password), ("token", .nullable .str s.token),
    ("task_poll_interval_ms", .nullable .natural s.taskPollIntervalMs),
    ("task_timeout_secs", .nullable .natural s.taskTimeoutSecs)]

def isFilled (value : Option String) : Bool := value.any (· ≠ "")

/-- A token, or a name with a password; an empty text is as good as none. -/
def hasCredentials (s : ControlPlaneSettings) : Bool :=
  isFilled s.token || isFilled s.username && isFilled s.password

def pollIntervalMs (s : ControlPlaneSettings) : Nat := (s.taskPollIntervalMs.getD 500).toNat

def timeoutSecs (s : ControlPlaneSettings) : Nat := (s.taskTimeoutSecs.getD 1800).toNat

end ControlPlaneSettings

/-- What every agent is told. -/
structure AgentSettings where
  mbus : String
  ntp : List String
  blobstore : Agent.Blobstore
  deriving DecidableEq

namespace AgentSettings

def decoder : Decoder AgentSettings := Record.decoder "AgentConfig" <|
  Record.pure AgentSettings.mk
    |>.field (.required "mbus" .string)
    |>.field (.tolerant "ntp" [] (.list .string))
    |>.field (.tolerant "blobstore" .none Agent.Blobstore.decoder)

def toJson (s : AgentSettings) : Json :=
  .obj [("mbus", .str s.mbus), ("ntp", .arr (s.ntp.map .str)), ("blobstore", s.blobstore.toJson)]

end AgentSettings

structure Settings where
  controlPlane : ControlPlaneSettings
  agent : AgentSettings
  deriving DecidableEq

namespace Settings

def decoder : Decoder Settings := Record.decoder "Config" <|
  Record.pure Settings.mk
    |>.field (.required "photon" ControlPlaneSettings.decoder)
    |>.field (.required "agent" AgentSettings.decoder)

def toJson (s : Settings) : Json :=
  .obj [("photon", s.controlPlane.toJson), ("agent", s.agent.toJson)]

end Settings

namespace Agent.Environment

/-- The environment of a new machine, which has only the disk that goes with it. -/
def forNewMachine (agentId : String) (vm : Machine) (ephemeralId : String)
    (networks env : Json.Members) (settings : AgentSettings) : Environment where
  agentId := agentId
  vm := vm
  mbus := settings.mbus
  ntp := settings.ntp
  networks := networks
  env := env
  disks := ephemeralDisk ephemeralId
  blobstore := settings.blobstore

end Agent.Environment
end CloudProvider
