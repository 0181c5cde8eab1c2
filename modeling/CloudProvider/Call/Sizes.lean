import CloudProvider.Call.Arguments
import CloudProvider.Json.Printer

/-!
Sizes of disks. The director gives the size of a persistent disk in MiB, and it is rounded up to whole
GiB of a thousand MiB; the size of a machine's own disk is given in whole GiB.
-/

namespace CloudProvider

/-- A size in MiB as GiB, rounded up; there must be one at least. -/
def sizeInGb (sizeMb : Float) : Except ArgumentFault UInt64 :=
  match Decimal.ceil? (sizeMb / 1000) with
  | some gb => .ok (Decimal.clamp gb)
  | none => .error (.wrongValue "size" (String.ofList (Decimal.plain.write sizeMb) ++
      " (must provide a size in MiB that rounds up to at least 1 GiB)"))

/-- What a machine is made of, from the cloud properties of a call. -/
structure CloudProperties where
  vmFlavor : String
  diskFlavor : String
  attachedDiskSizeGb : UInt64
  deriving DecidableEq

namespace CloudProperties

def sizeKey : String := "vm_attached_disk_size_gb"

def defaultSizeGb : UInt64 := 16

/-- A positive whole number, however it is written. -/
def parseSize (value : Json) : Except ArgumentFault UInt64 :=
  let name := s!"cloud_properties.{sizeKey}"
  let size? : Option UInt64 := match value with
    | .num (.natural n) => if 0 < n then some n else none
    | .num (.real x) => (Decimal.positiveWhole? x).map Decimal.clamp
    | _ => none
  match value, size? with
  | .num _, some size => .ok size
  | .num _, none => .error (.wrongValue name value.text)
  | _, _ => .error (.ofKind name "number" value)

def ofFields (properties : Entries Json) : Except ArgumentFault CloudProperties := do
  let vmFlavor ← Arguments.property properties "vm_flavor"
  let diskFlavor ← Arguments.property properties "disk_flavor"
  let size ← match properties.find? sizeKey with
    | none => .ok defaultSizeGb
    | some value => parseSize value
  return ⟨vmFlavor, diskFlavor, size⟩

/-- How the log shows them. -/
def shown (p : CloudProperties) : String :=
  "CloudProperties \x7b vm_flavor: " ++ Text.quoted p.vmFlavor ++ ", disk_flavor: " ++
    Text.quoted p.diskFlavor ++ ", attached_disk_size_gb: " ++ toString p.attachedDiskSizeGb ++ " \x7d"

end CloudProperties
end CloudProvider
