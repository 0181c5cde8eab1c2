import CloudProvider.Failure

/-!
Positional arguments of calls. A call names how many it needs; a value in a position is then taken as
what it has to be, and a position beyond the list counts as null.
-/

namespace CloudProvider.Arguments

/-- At least `expected` values are given. -/
def expect (values : List Json) (expected : Nat) : Except ArgumentFault Unit :=
  if values.length < expected then .error (.missing expected values.length) else .ok ()

def position (values : List Json) (index : Nat) : Json := values.getD index .null

def string (values : List Json) (index : Nat) (name : String) : Except ArgumentFault String :=
  let value := position values index
  match value.asString? with
  | some s => .ok s
  | none => .error (.ofKind name "string" value)

def object (values : List Json) (index : Nat) (name : String) : Except ArgumentFault (Entries Json) :=
  let value := position values index
  match value.asFields? with
  | some fields => .ok fields
  | none => .error (.ofKind name "object" value)

def number (values : List Json) (index : Nat) (name : String) : Except ArgumentFault Float :=
  let value := position values index
  match value.asNumber? with
  | some n => .ok n.toFloat
  | none => .error (.ofKind name "number" value)

/-- A text among the cloud properties. -/
def property (properties : Entries Json) (key : String) : Except ArgumentFault String :=
  let value := (properties.find? key).getD .null
  match value.asString? with
  | some s => .ok s
  | none => .error (.ofKind s!"cloud_properties.{key}" "string" value)

/-- The only argument of a call about one machine. -/
def vmId (values : List Json) : Except ArgumentFault String := do
  expect values 1
  string values 0 "vm_cid"

end CloudProvider.Arguments
