import CloudProvider.Process
import CloudProvider.Tool.Capture
import Std.Time.DateTime.Timestamp

/-!
The program: one request on standard input, one response on standard output. Files are those of the
system. There is neither a network nor a way to run programs, so nobody replies to the client and the
image tool is not found.
-/

namespace CloudProvider.Main

/-- How often one operation asks again, and one text is expanded, before the process is given up. -/
def patience : Nat := 1000000000

def fileFault : IO.Error → FileFault
  | .noFileOrDirectory .. => .absent
  | .permissionDenied .. => .denied
  | .inappropriateType _ 20 _ => .notDirectory
  | .inappropriateType _ 21 _ => .isDirectory
  | e => .other (toString e)

def attempt {α : Type} (action : IO α) : BaseIO (Except FileFault α) := do
  return (← action.toBaseIO).mapError fileFault

def readFile (path : String) : BaseIO (Except FileFault Text.Bytes) :=
  attempt do return (← IO.FS.readBinFile path).toList

/-- A directory can be opened, but not read. -/
def openFile (path : String) : BaseIO (Except FileFault OpenFile) := do
  match ← readFile path with
  | .error .isDirectory => return .ok ⟨.error .isDirectory⟩
  | .error fault => return .error fault
  | .ok bytes => return .ok ⟨.ok bytes⟩

def writeFile (path : String) (content : Text.Bytes) : BaseIO (Except FileFault Unit) :=
  attempt (IO.FS.writeBinFile path ⟨content.toArray⟩)

def letters : List Char := "abcdefghijklmnopqrstuvwxyzABCDEFGHIJKLMNOPQRSTUVWXYZ0123456789".toList

def letter : BaseIO Char := do return letters.getD (← IO.rand 0 61) 'a'

/-- A new name in the directory for temporary files. -/
def temporaryPath (stem suffix : String) : BaseIO String := do
  let directory := (← IO.getEnv "TMPDIR").getD "/tmp"
  let mark ← (List.replicate 6 ()).mapM fun _ => letter
  return PathName.join directory (stem ++ String.ofList mark ++ suffix)

def makeTemporary (stem suffix : String) (make : String → IO Unit) :
    BaseIO (Except FileFault String) := do
  let path ← temporaryPath stem suffix
  return (← attempt (make path)).map fun _ => path

def effect : (e : Effect) → BaseIO e.Reply
  | .remote _ => pure (.error (.transport "no network"))
  | .runTool program _ => pure (Tool.Run.outcome program (.notStarted .absent))
  | .openFile path => openFile path
  | .writeFile path content => writeFile path content
  | .createDirectory stem => makeTemporary stem "" fun path => IO.FS.createDir path
  | .createFile stem suffix => makeTemporary stem suffix fun path => IO.FS.writeBinFile path ⟨#[]⟩
  | .removeDirectory path => attempt (IO.FS.removeDirAll path)
  | .removeFile path => attempt (IO.FS.removeFile path)

def wire : (op : Wire) → BaseIO op.Reply
  | .exchange _ => pure none
  | .openFile path => openFile path
  | .pause milliseconds => IO.sleep milliseconds.toUInt32
  | .clock => IO.monoNanosNow

def system : Program.Host (Process.Op String) Process.Op.Reply IO where
  answer
    | .readSettings path => readFile path
    | .wire op => wire op
    | .effect e => effect e
    | .time => do
      let now ← Std.Time.Timestamp.now.toBaseIO
      return (now.toOption.map (·.toSecondsSinceUnixEpoch.val.toNat)).getD 0
    | .write text => IO.print text
  note _ := pure ()

/-- The environment of the process, from their `NAME=value` list. -/
def environmentVariables : BaseIO (String → Option String) := do
  let bytes := (← readFile "/proc/self/environ").toOption.getD []
  let settings := ((Text.Utf8.decodeLossy bytes).splitToList (· = '\x00')).map fun setting =>
    let cs := setting.toList
    (String.ofList (cs.takeWhile (· ≠ '=')), String.ofList ((cs.dropWhile (· ≠ '=')).drop 1))
  return fun name => if name = "" then none else settings.lookup name

partial def readAll (stream : IO.FS.Stream) (before : ByteArray) : IO ByteArray := do
  let bytes ← stream.read 65536
  if bytes.isEmpty then return before else readAll stream (before ++ bytes)

end CloudProvider.Main

open CloudProvider in
def main (arguments : List String) : IO Unit := do
  let input ← Main.readAll (← IO.getStdin) .empty
  let around := Startup.Surroundings.ofTexts (← Main.environmentVariables)
  match ← (Process.run around Main.patience input.toList arguments).run.run Main.system with
  | some () => pure ()
  | none => throw (IO.userError "no answer")
