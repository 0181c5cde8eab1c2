import CloudProvider.Effect

/-!
What is kept of the output of a tool. A stream arrives in pieces and is read to its end, but only so many
bytes of it are kept; how it is cut into pieces makes no difference.
-/

namespace CloudProvider.Tool
open Text (Bytes)

/-- What is kept of a stream, and whether there was more. -/
structure Captured where
  bytes : Array UInt8
  truncated : Bool
  deriving DecidableEq

namespace Captured

def nothing : Captured := ⟨#[], false⟩

def add (limit : Nat) (c : Captured) (piece : Bytes) : Captured :=
  let room := limit - c.bytes.size
  ⟨c.bytes.appendList (piece.take room), c.truncated || decide (room < piece.length)⟩

/-- Reads a stream to its end, which is the first empty piece of its source, and gives what is kept together with
the pieces that the source still holds. -/
def drain (limit : Nat) (c : Captured) : (source : List Bytes) → Captured × List Bytes
  | [] => (c, [])
  | [] :: source => (c, source)
  | piece :: source => drain limit (c.add limit piece) source

def read (limit : Nat) (pieces : List Bytes) : Captured := (nothing.drain limit pieces).1

def text (c : Captured) : String := Text.Utf8.decodeLossy c.bytes.toList

end Captured

/-- The pieces in which a stream is read. -/
def pieceSize : Nat := 8192

def pieces (bytes : Bytes) : List Bytes :=
  match bytes with
  | [] => []
  | b :: bs => (b :: bs.take (pieceSize - 1)) :: pieces (bs.drop (pieceSize - 1))
termination_by bytes.length

def maxOutput : Nat := 1048576

/-- How the run of a program ends. -/
inductive Run where
  | notStarted (fault : FileFault)
  | finished (success : Bool) (output errors : List Bytes)

/-- Both streams in one text, of each no more than its limit. -/
def combined (output errors : Captured) : String :=
  output.text ++ errors.text ++
    if output.truncated || errors.truncated then "\n[output truncated]" else ""

def Run.outcome (program : String) : Run → Except Failure ToolOutcome
  | .notStarted fault => .error (.internal s!"Failed to execute {program}: {fault.message}")
  | .finished success output errors =>
    .ok ⟨success, combined (.read maxOutput output) (.read maxOutput errors)⟩

end CloudProvider.Tool
