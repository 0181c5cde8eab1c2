import CloudProvider.Json.Reader

/-!
Taking shapes apart into values. A decoder is told how deep it may still go and gives the first fault
in the order of the document. Texts may nest 127 levels.
-/

namespace CloudProvider.Json

/-- Where a decoder stands: the levels that may still be entered, and what is said about items that
nobody asked for. -/
structure Place where
  levels : Nat
  surplus : (length : Nat) → Fault

/-- At the start of a text. Items that nobody asked for are like characters behind the end. -/
def Place.ofText : Place := ⟨127, fun _ => .trailingCharacters⟩

/-- At a value in memory, whose nesting has been paid for. -/
def Place.ofValue : Place := ⟨128, fun length => .wrongLength length "fewer elements in array"⟩

/-- Inside an array or object. -/
def Place.enter (p : Place) : Except Fault Place :=
  match p.levels with
  | 0 => .error .nestingTooDeep
  | n + 1 => .ok { p with levels := n }

abbrev Decoder (α : Type) := Place → Tree → Except Fault α

def Ending.read : Ending → Except Fault Unit
  | .closed => .ok ()
  | .stopped stop => .error stop.reading

namespace Decoder
variable {α β : Type}

/-- Something else than `expected` stands here. -/
def mismatch (expected : String) (t : Tree) : Except Fault α := do
  let found ← t.found
  .error (.wrongKind found expected)

def skip : Decoder Unit := fun _ t => t.skip

def string : Decoder String
  | _, .str s => s
  | _, t => mismatch "a string" t

def bool : Decoder Bool
  | _, .bool b => .ok b
  | _, t => mismatch "a boolean" t

def natural : Decoder UInt64
  | _, .num (.ok (.natural n)) => .ok n
  | _, .num (.ok (.negative m)) => .error (.wrongValue (.num (.negative m)) "u64")
  | _, t => mismatch "u64" t

/-- Null and nothing else. -/
def unit : Decoder Unit
  | _, .null => .ok ()
  | _, t => mismatch "unit" t

def nullable (d : Decoder α) : Decoder (Option α)
  | _, .null => .ok none
  | p, t => (d p t).map some

/-- Null reads as the default. -/
def orDefault (default : α) (d : Decoder α) : Decoder α := fun p t =>
  (nullable d p t).map (·.getD default)

def items (d : Decoder α) (p : Place) : List Tree → Except Fault (List α)
  | [] => .ok []
  | t :: ts => do
    let x ← d p t
    let xs ← items d p ts
    .ok (x :: xs)

def list (d : Decoder α) : Decoder (List α)
  | p, .arr ts ending => do
    let p ← p.enter
    let xs ← items d p ts
    ending.read
    .ok xs
  | _, t => mismatch "a sequence" t

def members (d : Decoder α) (p : Place) :
    List (Except Fault String × Tree) → Except Fault (List (String × α))
  | [] => .ok []
  | (k, t) :: fields => do
    let k ← k
    let x ← d p t
    let rest ← members d p fields
    .ok ((k, x) :: rest)

/-- Of members with one name the last is kept. -/
def map (d : Decoder α) : Decoder (SortedMap α)
  | p, .obj _ fields ending => do
    let p ← p.enter
    let entries ← members d p fields
    ending.read
    .ok (.ofList entries)
  | _, t => mismatch "a map" t

mutual
def json (p : Place) : Tree → Except Fault Json
  | .null => .ok .null
  | .bool b => .ok (.bool b)
  | .num n => n.map .num
  | .str s => s.map .str
  | .arr ts ending => do
    let p ← p.enter
    let js ← jsonItems p ts
    ending.read
    .ok (.arr js)
  | .obj _ fields ending => do
    let p ← p.enter
    let entries ← jsonFields p fields
    ending.read
    .ok (.obj (Entries.ofList entries))
  | .malformed stop | .broken stop => .error stop.reading
termination_by structural t => t

def jsonItems (p : Place) : List Tree → Except Fault (List Json)
  | [] => .ok []
  | t :: ts => do
    let j ← json p t
    let js ← jsonItems p ts
    .ok (j :: js)
termination_by structural ts => ts

def jsonFields (p : Place) : List (Except Fault String × Tree) → Except Fault (List (String × Json))
  | [] => .ok []
  | (k, t) :: fields => do
    let k ← k
    let j ← json p t
    let rest ← jsonFields p fields
    .ok ((k, j) :: rest)
termination_by structural fields => fields
end

/-- One of the named variants. -/
def variantNamed (variants : List (String × α)) (name : String) : Except Fault α :=
  match variants.lookup name with
  | some x => .ok x
  | none => .error (.unknownVariant name (variants.map (·.1)))

/-- A variant is its name, or an object whose only member has that name and the value null. -/
def variant (variants : List (String × α)) : Decoder α
  | _, .str s => do variantNamed variants (← s)
  | p, .obj misplaced fields ending => do
    let p ← p.enter
    match fields with
    | (k, t) :: more =>
      let x ← variantNamed variants (← k)
      unit p t
      match more, ending with
      | [], .closed => .ok x
      | [], .stopped stop => .error stop.closing
      | _ :: _, _ => .error .expectedValue
    | [] =>
      match misplaced, ending with
      | some t, _ => mismatch "variant identifier" t
      | none, .stopped stop => .error stop.reading
      | none, .closed => .error .expectedValue
  | _, .broken stop => .error stop.reading
  | _, _ => .error .expectedValue

/-- A variant given as a value. -/
def variantOfValue (variants : List (String × α)) : Json → Except Fault α
  | .str s => variantNamed variants s
  | .obj [(k, j)] => do
    let x ← variantNamed variants k
    unit .ofValue (.ofJson j)
    .ok x
  | .obj _ => .error (.wrongValue .object "map with a single key")
  | j => .error (.wrongKind (.ofJson j) "string or map")

/-- Reads a whole text. -/
def ofText (d : Decoder α) (s : String) : Except Fault α := do
  let document := Document.read s
  let x ← d .ofText document.tree
  if document.trailing then .error .trailingCharacters else .ok x

def ofJson (d : Decoder α) (j : Json) : Except Fault α := d .ofValue (.ofJson j)

end Decoder

/-- Reads a text as any value. -/
def parse (s : String) : Except Fault Json := Decoder.ofText Decoder.json s

end CloudProvider.Json
