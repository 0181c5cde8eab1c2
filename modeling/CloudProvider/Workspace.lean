import CloudProvider.ControlPlane.Operation
import CloudProvider.PathName

/-!
Files and directories in memory, as a process sees them that has a working directory and a place for
temporary files. Every step of a path leads from a directory; a new file or directory needs one to be in.
-/

namespace CloudProvider

/-- What has a name in a directory. -/
inductive Workspace.Entry where
  | directory
  | file (content : Text.Bytes)
  deriving DecidableEq

structure Workspace where
  /-- All but the root, by their full paths. -/
  entries : SortedMap Workspace.Entry
  /-- The steps to the working directory. -/
  here : List String
  /-- How many temporary names have been given out. -/
  issued : Nat
  deriving DecidableEq

namespace Workspace

def home : List String := ["work"]

def temporary : String := "/tmp"

def empty : Workspace where
  entries := .ofList [("work", .directory), ("tmp", .directory)]
  here := home
  issued := 0

/-- The name of an entry in the table. -/
def key (place : List String) : String := "/".intercalate place

def entry? (w : Workspace) (place : List String) : Option Entry :=
  if place = [] then some .directory else w.entries.find? (key place)

def put (w : Workspace) (place : List String) (e : Entry) : Workspace :=
  { w with entries := w.entries.insert (key place) e }

/-- The place must be a directory. -/
def enter (w : Workspace) (place : List String) : Except FileFault Unit :=
  match w.entry? place with
  | some .directory => .ok ()
  | some (.file _) => .error .notDirectory
  | none => .error .absent

def maxNameLength : Nat := 255

/-- Follows steps. Where they end there may be nothing. -/
def follow (w : Workspace) (place : List String) : List String → Except FileFault (List String)
  | [] => .ok place
  | step :: steps => do
    w.enter place
    if !PathName.isStep step then follow w place steps
    else if step = ".." then follow w place.dropLast steps
    else if maxNameLength < step.utf8ByteSize then .error .nameTooLong
    else follow w (place ++ [step]) steps

def maxPathLength : Nat := 4095

/-- Where a path leads. -/
def resolve (w : Workspace) (path : String) : Except FileFault (List String) :=
  if path = "" then .error .absent
  else if '\x00' ∈ path.toList then .error .nulInName
  else if maxPathLength < path.utf8ByteSize then .error .nameTooLong
  else w.follow (if path.toList.head? = some '/' then [] else w.here) (PathName.components path)

def exists? (w : Workspace) (path : String) : Bool :=
  match w.resolve path with
  | .ok place => (w.entry? place).isSome
  | .error _ => false

/-- Opens a file for reading. A directory can be opened, but not read. -/
def openFile (w : Workspace) (path : String) : Except FileFault OpenFile := do
  match w.entry? (← w.resolve path) with
  | some (.file content) => .ok ⟨.ok content⟩
  | some .directory => .ok ⟨.error .isDirectory⟩
  | none => .error .absent

def read (w : Workspace) (path : String) : Except FileFault Text.Bytes := do
  (← w.openFile path).content

def writeFile (w : Workspace) (path : String) (content : Text.Bytes) : Except FileFault Workspace := do
  let place ← w.resolve path
  match w.entry? place with
  | some .directory => .error .isDirectory
  | _ => .ok (w.put place (.file content))

/-- Makes the directories on the way. -/
def makeParents (w : Workspace) (place : List String) : (steps : List String) → Workspace
  | [] | [_] => w
  | step :: steps =>
    if !PathName.isStep step then makeParents w place steps
    else makeParents (if (w.entry? (place ++ [step])).isSome then w else w.put (place ++ [step]) .directory)
      (place ++ [step]) steps

/-- Lays a file out, with the directories on the way. -/
def layOut (w : Workspace) (path : String) (content : Text.Bytes) : Except FileFault Workspace :=
  let start := if path.toList.head? = some '/' then [] else w.here
  (w.makeParents start (PathName.components path)).writeFile path content

def isUnder (place : List String) (name : String) : Bool := (key place ++ "/").isPrefixOf name

def removeFile (w : Workspace) (path : String) : Except FileFault Workspace := do
  let place ← w.resolve path
  match w.entry? place with
  | some (.file _) => .ok { w with entries := w.entries.erase (key place) }
  | some .directory => .error .isDirectory
  | none => .error .absent

/-- Removes a directory with all that is in it. -/
def removeDirectory (w : Workspace) (path : String) : Except FileFault Workspace := do
  let place ← w.resolve path
  match w.entry? place with
  | some .directory =>
    let gone := w.entries.keys.filter fun k => k = key place || isUnder place k
    .ok { w with entries := gone.foldl SortedMap.erase w.entries }
  | some (.file _) => .error .notDirectory
  | none => .error .absent

/-- The names in a directory, ascending. -/
def names (w : Workspace) (path : String) : List String :=
  match w.resolve path with
  | .error _ => []
  | .ok place => w.entries.keys.filterMap fun k =>
    if isUnder place k then
      let rest := String.ofList (k.toList.drop ((key place).length + 1))
      if '/' ∈ rest.toList then none else some rest
    else none

/-- Six letters and digits that tell temporary names apart. -/
def mark (n : Nat) : String := .ofList ((Nat.toDigits 10 (1000000 + n)).drop 1)

/-- A path for a temporary file or directory. -/
def temporaryPath (w : Workspace) (stem suffix : String) : String :=
  PathName.join temporary (stem ++ mark w.issued ++ suffix)

/-- Makes a temporary file or directory under a new name. -/
def makeTemporary (w : Workspace) (stem suffix : String) (e : Entry) :
    Except FileFault (String × Workspace) := do
  let path := w.temporaryPath stem suffix
  let place ← w.resolve path
  .ok (path, { w.put place e with issued := w.issued + 1 })

end Workspace
end CloudProvider
