import CloudProvider.Call.Arguments
import CloudProvider.Call.Scratch
import CloudProvider.Gzip.Member
import CloudProvider.PathName
import CloudProvider.Settings.Basic

/-!
Calls about stemcells, the images that machines are made from. They arrive compressed, and the control
plane takes them as they are inside.
-/

namespace CloudProvider.Stemcells

structure Image where
  path : String
  name : String
  deriving DecidableEq

def Image.parse (args : List Json) : Except ArgumentFault Image := do
  Arguments.expect args 1
  let path ← Arguments.string args 0 "image_path"
  match PathName.baseName? path with
  | some name => return ⟨path, name⟩
  | none => .error (.wrongValue "image_path" path)

/-- Reads a whole file. -/
def readFile (path : String) : Activity (Except FileFault Text.Bytes) := do
  match ← Activity.openFile path with
  | .error fault => return .error fault
  | .ok file => return file.content

/-- Decompresses a file into another and tells how many bytes that makes; a failure is told by its
message. -/
def gunzip (source target : String) : Activity (Except String Nat) := do
  match ← readFile source with
  | .error fault => return .error fault.message
  | .ok bytes =>
    match Gzip.decode bytes with
    | .error fault => return .error fault.message
    | .ok content =>
      match ← Activity.writeFile target content with
      | .error fault => return .error fault.message
      | .ok () => return .ok content.length

def decompress (source : String) : Call String :=
  Scratch.makingFile "stemcell-image" ".img" fun target => do
    match ← ExceptT.lift (gunzip source target) with
    | .error message => Call.fail (.cpi message s!"Unable to decompress stemcell image '{source}'")
    | .ok size => Call.info s!"Decompressed stemcell image to {size} bytes"

def create (_ : Settings) (args : List Json) : Call Json := do
  let image ← Call.argument (Image.parse args)
  Call.info s!"CreateStemcell with image_path: '{image.path}'"
  Call.info "Reading stemcell from disk"
  let raw ← decompress image.path
  Call.thenAlways (Scratch.dropFile raw) do
    let file ← Call.openFile raw
    Call.info "Beginning stemcell upload"
    let task ← Call.remote (.createImage image.name file)
    return .str task.entity.id

def delete (_ : Settings) (args : List Json) : Call Json := do
  let id ← Call.argument do
    Arguments.expect args 1
    Arguments.string args 0 "stemcell_cid"
  Call.info s!"DeleteStemcell with stemcell_cid: '{id}'"
  let _ ← Call.remote (.deleteImage id)
  return .null

end CloudProvider.Stemcells
