import CloudProvider.Failure
import CloudProvider.Json.Record
import CloudProvider.Json.Printer

/-!
The environment of the agent inside a machine, and its document. The disks stand in an open object, of
which two members are understood: the disk that goes with the machine, and the persistent disks by
their ids. All else in it is kept as it is.
-/

namespace CloudProvider.Agent
open Json (Decoder Record Field)

/-- The machine that an agent runs in. -/
structure Machine where
  name : String
  id : String
  deriving DecidableEq

def Machine.decoder : Decoder Machine := Record.decoder "VmSpec" <|
  Record.pure Machine.mk
    |>.field (.required "name" .string)
    |>.field (.required "id" .string)

def Machine.toJson (m : Machine) : Json := .obj [("name", .str m.name), ("id", .str m.id)]

/-- Where agents keep compiled packages and logs. -/
structure Blobstore where
  provider : String
  options : Json.Members
  deriving DecidableEq

def Blobstore.none : Blobstore := ⟨"", ∅⟩

def Blobstore.decoder : Decoder Blobstore := Record.decoder "BlobstoreSpec" <|
  Record.pure Blobstore.mk
    |>.field (.tolerant "provider" "" .string)
    |>.field (.tolerant "options" ∅ (.map .json))

def Blobstore.toJson (b : Blobstore) : Json :=
  .obj [("provider", .str b.provider), ("options", .ofMembers b.options)]

structure Environment where
  agentId : String
  vm : Machine
  mbus : String
  ntp : List String
  networks : Json.Members
  env : Json.Members
  disks : Json.Members
  blobstore : Blobstore
  deriving DecidableEq

namespace Environment

def decoder : Decoder Environment := Record.decoder "AgentEnv" <|
  Record.pure Environment.mk
    |>.field (.required "agent_id" .string)
    |>.field (.required "vm" Machine.decoder)
    |>.field (.required "mbus" .string)
    |>.field (.tolerant "ntp" [] (.list .string))
    |>.field (.tolerant "networks" ∅ (.map .json))
    |>.field (.tolerant "env" ∅ (.map .json))
    |>.field (.tolerant "disks" ∅ (.map .json))
    |>.field (.tolerant "blobstore" .none Blobstore.decoder)

def toJson (e : Environment) : Json :=
  .obj [("agent_id", .str e.agentId), ("vm", e.vm.toJson), ("mbus", .str e.mbus),
    ("ntp", .arr (e.ntp.map .str)), ("networks", .ofMembers e.networks), ("env", .ofMembers e.env),
    ("disks", .ofMembers e.disks), ("blobstore", e.blobstore.toJson)]

/-- The document that the agent reads. -/
def document (e : Environment) : String := e.toJson.text

def persistentKey : String := "persistent"

/-- The disk that goes with the machine appears in it under this path. -/
def ephemeralPath : String := "/dev/sdb"

def ephemeralDisk (id : String) : Json.Members :=
  .singleton "ephemeral" (.obj [("id", .str id), ("path", .str ephemeralPath)])

/-- The agent finds the device of a persistent disk itself. -/
def persistentEntry (id : String) : Json := .obj [("id", .str id), ("path", .str "")]

def unexpectedPersistent : Failure :=
  .metadata "Unexpected type found in VM metadata for persistent disks"

/-- Records a disk. An absent or null table is started; what is neither a table nor null is left. -/
def insertPersistent (e : Environment) (id : String) : Except Failure Environment :=
  match (e.disks.find? persistentKey).getD .null with
  | .null => .ok { e with
      disks := e.disks.insert persistentKey (.obj (Entries.insert id (persistentEntry id) [])) }
  | .obj entries => .ok { e with
      disks := e.disks.insert persistentKey (.obj (Entries.insert id (persistentEntry id) entries)) }
  | _ => .error unexpectedPersistent

/-- Strikes a disk out and tells whether it was recorded. -/
def removePersistent (e : Environment) (id : String) : Except Failure (Bool × Environment) :=
  match e.disks.find? persistentKey with
  | none | some .null => .ok (false, e)
  | some (.obj entries) =>
    .ok ((Entries.find? id entries).isSome, { e with
      disks := e.disks.insert persistentKey (.obj (Entries.erase id entries)) })
  | some _ => .error unexpectedPersistent

def persistentIds (e : Environment) : List String :=
  match e.disks.find? persistentKey with
  | some (.obj entries) => entries.map (·.1)
  | _ => []

end Environment
end CloudProvider.Agent
