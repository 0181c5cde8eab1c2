import CloudProvider.ControlPlane.Resource
import CloudProvider.Failure
import CloudProvider.Text.Utf8

/-!
The operations of the control plane. Those that change something are answered with the task that has
done it; the others with what was asked for.
-/

namespace CloudProvider

/-- A file that has been opened: its content, or why it cannot be read. -/
structure OpenFile where
  content : Except FileFault Text.Bytes

inductive Operation where
  | createVm (project : String) (spec : VmCreateSpec)
  | getVm (vm : String)
  | deleteVm (vm : String)
  | startVm (vm : String)
  | stopVm (vm : String)
  | restartVm (vm : String)
  | attachDisk (vm disk : String)
  | detachDisk (vm disk : String)
  | attachIso (vm path : String)
  | detachIso (vm : String)
  | setMetadata (vm : String) (metadata : VmMetadata)
  | createDisk (project : String) (spec : DiskCreateSpec)
  | getDisk (disk : String)
  | deleteDisk (disk : String)
  | listDisks (project : String)
  | createImage (name : String) (file : OpenFile)
  | deleteImage (image : String)

namespace Operation

@[reducible] def Reply : Operation → Type
  | .getVm _ => Vm
  | .getDisk _ => PersistentDisk
  | .listDisks _ => List PersistentDisk
  | _ => Task

@[reducible] def Answer (op : Operation) : Type := Except CloudFault op.Reply

def name : Operation → String
  | .createVm .. => "create_vm"
  | .getVm _ => "get_vm"
  | .deleteVm _ => "delete_vm"
  | .startVm _ => "start_vm"
  | .stopVm _ => "stop_vm"
  | .restartVm _ => "restart_vm"
  | .attachDisk .. => "attach_disk"
  | .detachDisk .. => "detach_disk"
  | .attachIso .. => "attach_iso"
  | .detachIso _ => "detach_iso"
  | .setMetadata .. => "set_metadata"
  | .createDisk .. => "create_disk"
  | .getDisk _ => "get_disk"
  | .deleteDisk _ => "delete_disk"
  | .listDisks _ => "list_disks"
  | .createImage .. => "create_image"
  | .deleteImage _ => "delete_image"

end Operation
end CloudProvider
