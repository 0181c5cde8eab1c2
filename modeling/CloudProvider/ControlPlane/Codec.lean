import CloudProvider.ControlPlane.Resource
import CloudProvider.Json.Record
import CloudProvider.Json.Printer

/-!
The documents of the control plane's resources. Members of an attached disk that are empty and that
the control plane chooses itself are not written.
-/

namespace CloudProvider
open Json (Decoder Record Field)

def TaskState.decoder : Decoder TaskState := .variant TaskState.variants

def TaskState.toJson (s : TaskState) : Json := .str s.name

def Entity.decoder : Decoder Entity := Record.decoder "Entity" <|
  Record.pure Entity.mk
    |>.field (.required "id" .string)
    |>.field (.defaulted "kind" "" .string)

def Entity.toJson (e : Entity) : Json := .obj [("id", .str e.id), ("kind", .str e.kind)]

def ErrorDetail.decoder : Decoder ErrorDetail := Record.decoder "ApiErrorDetail" <|
  Record.pure ErrorDetail.mk
    |>.field (.defaulted "code" "" .string)
    |>.field (.defaulted "message" "" .string)

def ErrorDetail.toJson (e : ErrorDetail) : Json :=
  .obj [("code", .str e.code), ("message", .str e.message)]

def TaskStep.decoder : Decoder TaskStep := Record.decoder "TaskStep" <|
  Record.pure TaskStep.mk
    |>.field (.defaulted "operation" "" .string)
    |>.field (.defaulted "errors" [] (.list ErrorDetail.decoder))

def TaskStep.toJson (s : TaskStep) : Json :=
  .obj [("operation", .str s.operation), ("errors", .arr (s.errors.map ErrorDetail.toJson))]

def Task.decoder : Decoder Task := Record.decoder "Task" <|
  Record.pure Task.mk
    |>.field (.required "id" .string)
    |>.field (.required "state" TaskState.decoder)
    |>.field (.defaulted "operation" "" .string)
    |>.field (.defaulted "entity" ⟨"", ""⟩ Entity.decoder)
    |>.field (.defaulted "steps" [] (.list TaskStep.decoder))

def Task.toJson (t : Task) : Json :=
  .obj [("id", .str t.id), ("state", t.state.toJson), ("operation", .str t.operation),
    ("entity", t.entity.toJson), ("steps", .arr (t.steps.map TaskStep.toJson))]

def AttachedDisk.decoder : Decoder AttachedDisk := Record.decoder "AttachedDisk" <|
  Record.pure AttachedDisk.mk
    |>.field (.defaulted "id" "" .string)
    |>.field (.required "name" .string)
    |>.field (.required "kind" .string)
    |>.field (.required "flavor" .string)
    |>.field (.required "capacityGb" .natural)
    |>.field (.required "bootDisk" .bool)
    |>.field (.defaulted "state" "" .string)

/-- A text member that is left out when it is empty. -/
def Json.unlessEmpty (name value : String) : List (String × Json) :=
  if value = "" then [] else [(name, .str value)]

def AttachedDisk.toJson (d : AttachedDisk) : Json :=
  .obj (Json.unlessEmpty "id" d.id ++
    [("name", .str d.name), ("kind", .str d.kind), ("flavor", .str d.flavor),
      ("capacityGb", .natural d.capacityGb), ("bootDisk", .bool d.bootDisk)] ++
    Json.unlessEmpty "state" d.state)

def VmCreateSpec.decoder : Decoder VmCreateSpec := Record.decoder "VmCreateSpec" <|
  Record.pure VmCreateSpec.mk
    |>.field (.required "name" .string)
    |>.field (.required "flavor" .string)
    |>.field (.required "sourceImageId" .string)
    |>.field (.required "attachedDisks" (.list AttachedDisk.decoder))

def VmCreateSpec.toJson (s : VmCreateSpec) : Json :=
  .obj [("name", .str s.name), ("flavor", .str s.flavor), ("sourceImageId", .str s.sourceImageId),
    ("attachedDisks", .arr (s.attachedDisks.map AttachedDisk.toJson))]

def Vm.decoder : Decoder Vm := Record.decoder "Vm" <|
  Record.pure Vm.mk
    |>.field (.required "id" .string)
    |>.field (.defaulted "name" "" .string)
    |>.field (.defaulted "state" "" .string)
    |>.field (.defaulted "attachedDisks" [] (.list AttachedDisk.decoder))
    |>.field (.defaulted "metadata" ∅ (.map .string))

def Vm.toJson (v : Vm) : Json :=
  .obj [("id", .str v.id), ("name", .str v.name), ("state", .str v.state),
    ("attachedDisks", .arr (v.attachedDisks.map AttachedDisk.toJson)),
    ("metadata", .ofMap .str v.metadata)]

def DiskCreateSpec.decoder : Decoder DiskCreateSpec := Record.decoder "DiskCreateSpec" <|
  Record.pure DiskCreateSpec.mk
    |>.field (.required "name" .string)
    |>.field (.required "kind" .string)
    |>.field (.required "flavor" .string)
    |>.field (.required "capacityGb" .natural)

def DiskCreateSpec.toJson (s : DiskCreateSpec) : Json :=
  .obj [("name", .str s.name), ("kind", .str s.kind), ("flavor", .str s.flavor),
    ("capacityGb", .natural s.capacityGb)]

def PersistentDisk.decoder : Decoder PersistentDisk := Record.decoder "PersistentDisk" <|
  Record.pure PersistentDisk.mk
    |>.field (.required "id" .string)
    |>.field (.defaulted "name" "" .string)
    |>.field (.defaulted "flavor" "" .string)
    |>.field (.defaulted "capacityGb" 0 .natural)
    |>.field (.defaulted "vms" [] (.list .string))

def PersistentDisk.toJson (d : PersistentDisk) : Json :=
  .obj [("id", .str d.id), ("name", .str d.name), ("flavor", .str d.flavor),
    ("capacityGb", .natural d.capacityGb), ("vms", .arr (d.vms.map .str))]

def VmMetadata.decoder : Decoder VmMetadata := Record.decoder "VmMetadata" <|
  Record.pure VmMetadata.mk |>.field (.required "metadata" (.map .string))

def VmMetadata.toJson (m : VmMetadata) : Json := .obj [("metadata", .ofMap .str m.metadata)]

def DiskPage.decoder : Decoder DiskPage := Record.decoder "DiskPage" <|
  Record.pure DiskPage.mk
    |>.field (.defaulted "items" [] (.list PersistentDisk.decoder))
    |>.field (.defaulted "nextPageLink" none (.nullable .string))

end CloudProvider
