import CloudProvider.Json.Decode

/-!
Records: objects with a fixed set of members. Members may stand in any order, and those that are not
declared are passed over; what is wrong with a member is told where it stands, and a missing member is
told behind the last one, in the order of declaration. A record may also be written as an array of its
members in the order of declaration, where members with a default may be left out at the end.
-/

namespace CloudProvider.Json

/-- A declared member. -/
structure Field (α : Type) where
  name : String
  decoder : Decoder α
  /-- Stands for a member that an object leaves out. -/
  inObject : Option α
  /-- Stands for a member that an array leaves out. -/
  inArray : Option α

namespace Field
variable {α : Type}

def required (name : String) (d : Decoder α) : Field α := ⟨name, d, none, none⟩

def defaulted (name : String) (default : α) (d : Decoder α) : Field α :=
  ⟨name, d, some default, some default⟩

/-- A member that may be left out of an object only. -/
def nullable (name : String) (d : Decoder α) : Field (Option α) :=
  ⟨name, d.nullable, some none, none⟩

/-- A member for which null, too, reads as the default. -/
def tolerant (name : String) (default : α) (d : Decoder α) : Field α :=
  defaulted name default (d.orDefault default)

end Field

/-- What members are taken from. -/
inductive Source where
  | named (fields : Entries Tree)
  | ordered (items : List Tree) (ending : Ending)

/-- A record under decoding. -/
structure Record (α : Type) where
  names : List String
  /-- Reads a member by name for the sake of its faults. -/
  check : String → Place → Tree → Except Fault Unit
  /-- Takes the members, the first of them at a given position; `expected` tells what is decoded. -/
  build : (expected : String) → (position : Nat) → Place → Source → Except Fault α

namespace Record
variable {α β : Type}

def pure (x : α) : Record α := ⟨[], fun _ _ _ => .ok (), fun _ _ _ _ => .ok x⟩

def takeField (f : Field α) (expected : String) (position : Nat) (p : Place) :
    Source → Except Fault α
  | .named fields =>
    match fields.find? f.name, f.inObject with
    | some t, _ => f.decoder p t
    | none, some x => .ok x
    | none, none => .error (.missingField f.name)
  | .ordered items ending =>
    match items[position]?, ending, f.inArray with
    | some t, _, _ => f.decoder p t
    | none, .stopped stop, _ => .error stop.reading
    | none, .closed, some x => .ok x
    | none, .closed, none => .error (.wrongLength position expected)

/-- The fields so far and one more. -/
def field (r : Record (α → β)) (f : Field α) : Record β where
  names := r.names ++ [f.name]
  check name p t := if name = f.name then (f.decoder p t).map fun _ => () else r.check name p t
  build expected position p source := do
    let g ← r.build expected position p source
    let x ← takeField f expected (position + r.names.length) p source
    .ok (g x)

/-- Goes through the members of an object in their order: a declared one is read and must not come
twice, any other is passed over. -/
def collect (r : Record α) (p : Place) (seen : Entries Tree) :
    List (Except Fault String × Tree) → Except Fault (Entries Tree)
  | [] => .ok seen
  | (k, t) :: fields => do
    let k ← k
    if k ∈ r.names then
      if (seen.find? k).isSome then .error (.duplicateField k)
      else
        r.check k p t
        collect r p (seen ++ [(k, t)]) fields
    else
      t.skip
      collect r p seen fields

def plural (n : Nat) : String := if n = 1 then "element" else "elements"

/-- Decodes a record called `title`. -/
def decoder (title : String) (r : Record α) : Decoder α
  | p, .obj _ fields ending => do
    let p ← p.enter
    let seen ← r.collect p [] fields
    ending.read
    r.build s!"struct {title}" 0 p (.named seen)
  | p, .arr items ending => do
    let p' ← p.enter
    let count := r.names.length
    let x ← r.build s!"struct {title} with {count} {plural count}" 0 p' (.ordered items ending)
    if count < items.length then .error (p.surplus items.length)
    else match ending with
      | .closed => .ok x
      | .stopped stop => .error stop.closing
  | _, t => Decoder.mismatch s!"struct {title}" t

end Record
end CloudProvider.Json
