import CloudProvider.Json.Fault

/-!
The shape of a text, before anything is asked of it. A text that is faulty has a shape up to its first
fault: what was read stays, and the fault stands where it was met. So whoever takes a document apart
in its order meets faults of the text and of the content in the order in which they stand.

A value that is passed over is held to the bare grammar. What is a fault only for a reader, such as a
number out of range, is kept in its place and told to readers alone.
-/

namespace CloudProvider.Json

/-- Why a text goes no further: what a reader of the value is told, what one who passes over it is
told, and what one is told who wanted the array or object to end here. -/
structure Stop where
  reading : Fault
  skipping : Fault
  closing : Fault
  deriving DecidableEq

def Stop.always (f : Fault) : Stop := ⟨f, f, f⟩

/-- How the list of members of an array or object comes to its end. -/
inductive Ending where
  | closed
  | stopped (stop : Stop)
  deriving DecidableEq

inductive Tree where
  | null
  | bool (b : Bool)
  | num (n : Except Fault Number)
  | str (s : Except Fault String)
  | arr (items : List Tree) (ending : Ending)
  /-- A value that stands in the place of the first name is kept beside the members. -/
  | obj (misplaced : Option Tree) (fields : List (Except Fault String × Tree)) (ending : Ending)
  /-- A literal or a numeral that is none. -/
  | malformed (stop : Stop)
  /-- No value at all, or a text without its closing quote. -/
  | broken (stop : Stop)

namespace Tree

mutual
def ofJson : Json → Tree
  | .null => .null
  | .bool b => .bool b
  | .num n => .num (.ok n)
  | .str s => .str (.ok s)
  | .arr items => .arr (ofItems items) .closed
  | .obj fields => .obj none (ofFields fields) .closed
termination_by structural j => j

def ofItems : List Json → List Tree
  | [] => []
  | j :: js => ofJson j :: ofItems js
termination_by structural js => js

def ofFields : List (String × Json) → List (Except Fault String × Tree)
  | [] => []
  | (k, j) :: fields => (.ok k, ofJson j) :: ofFields fields
termination_by structural fields => fields
end

def Ending.skipped : Ending → Except Fault Unit
  | .closed => .ok ()
  | .stopped stop => .error stop.skipping

mutual
/-- Passes over a value. -/
def skip : Tree → Except Fault Unit
  | .arr items ending => do skipItems items; Ending.skipped ending
  | .obj _ fields ending => do skipFields fields; Ending.skipped ending
  | .malformed stop | .broken stop => .error stop.skipping
  | _ => .ok ()
termination_by structural t => t

def skipItems : List Tree → Except Fault Unit
  | [] => .ok ()
  | t :: ts => do skip t; skipItems ts
termination_by structural ts => ts

def skipFields : List (Except Fault String × Tree) → Except Fault Unit
  | [] => .ok ()
  | (_, t) :: fields => do skip t; skipFields fields
termination_by structural fields => fields
end

/-- What stands here, for a reader who wants something else. The content of arrays and objects does
not matter for that. -/
def found : Tree → Except Fault Found
  | .null => .ok .null
  | .bool b => .ok (.bool b)
  | .num n => n.map .num
  | .str s => s.map .str
  | .arr .. => .ok .list
  | .obj .. => .ok .object
  | .malformed stop | .broken stop => .error stop.reading

end Tree
end CloudProvider.Json
