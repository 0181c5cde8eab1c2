import CloudProvider.SortedMap
import CloudProvider.Decimal.Shortest

/-!
Values of JSON documents. A number is whole and fits 64 bits, with or without sign, or it is a finite
binary64 number; the three never overlap, so `1` and `1.0` are different values. The members of an
object stand in the order in which they are written; a value that was read has them by ascending name.
-/

namespace CloudProvider

inductive Number where
  | natural (n : UInt64)
  /-- Stands for `-1 - below`. -/
  | negative (below : Fin 0x8000000000000000)
  | real (x : Float)
  deriving DecidableEq

namespace Number

def IsInteger : Number → Prop
  | .real _ => False
  | _ => True

def toFloat : Number → Float
  | .natural n => n.toFloat
  | .negative below => -(UInt64.ofNat (below.val + 1)).toFloat
  | .real x => x

def chars : Number → List Char
  | .natural n => Nat.toDigits 10 n.toNat
  | .negative below => '-' :: Nat.toDigits 10 (below.val + 1)
  | .real x => Decimal.document.write x

end Number

inductive Json where
  | null
  | bool (b : Bool)
  | num (n : Number)
  | str (s : String)
  | arr (items : List Json)
  | obj (fields : List (String × Json))
  deriving Inhabited

namespace Json

/-- The name of the kind of a value, for messages. -/
def kind : Json → String
  | .null => "null"
  | .bool _ => "bool"
  | .num _ => "number"
  | .str _ => "string"
  | .arr _ => "array"
  | .obj _ => "object"

def asString? : Json → Option String
  | .str s => some s
  | _ => none

def asNumber? : Json → Option Number
  | .num n => some n
  | _ => none

def asFields? : Json → Option (Entries Json)
  | .obj fields => some fields
  | _ => none

def natural (n : UInt64) : Json := .num (.natural n)

/-- An absent value is written as null. -/
def nullable {α : Type} (toJson : α → Json) : Option α → Json
  | none => .null
  | some x => toJson x

def ofMap {α : Type} (toJson : α → Json) (m : SortedMap α) : Json :=
  .obj (m.entries.map fun e => (e.1, toJson e.2))

/-- Members of a document, by name. -/
abbrev Members := SortedMap Json

def ofMembers (m : Members) : Json := .obj m.entries

mutual
/-- Every object has its members by strictly ascending name. -/
def Canonical : Json → Prop
  | .arr items => CanonicalItems items
  | .obj fields => Entries.Ascending fields ∧ CanonicalFields fields
  | _ => True
termination_by structural j => j

def CanonicalItems : List Json → Prop
  | [] => True
  | j :: js => j.Canonical ∧ CanonicalItems js
termination_by structural js => js

def CanonicalFields : List (String × Json) → Prop
  | [] => True
  | (_, j) :: fields => j.Canonical ∧ CanonicalFields fields
termination_by structural fields => fields
end

mutual
/-- No number has a fraction or an exponent or exceeds 64 bits. -/
def IntegersOnly : Json → Prop
  | .num n => n.IsInteger
  | .arr items => IntegersOnlyItems items
  | .obj fields => IntegersOnlyFields fields
  | _ => True
termination_by structural j => j

def IntegersOnlyItems : List Json → Prop
  | [] => True
  | j :: js => j.IntegersOnly ∧ IntegersOnlyItems js
termination_by structural js => js

def IntegersOnlyFields : List (String × Json) → Prop
  | [] => True
  | (_, j) :: fields => j.IntegersOnly ∧ IntegersOnlyFields fields
termination_by structural fields => fields
end

mutual
/-- How many arrays and objects stand inside one another. -/
def depth : Json → Nat
  | .arr items => depthItems items + 1
  | .obj fields => depthFields fields + 1
  | _ => 0
termination_by structural j => j

def depthItems : List Json → Nat
  | [] => 0
  | j :: js => max j.depth (depthItems js)
termination_by structural js => js

def depthFields : List (String × Json) → Nat
  | [] => 0
  | (_, j) :: fields => max j.depth (depthFields fields)
termination_by structural fields => fields
end

private def inferDecidable {α : Type} [DecidableEq α] (a b : α) : Decidable (a = b) := inferInstance

mutual
def decEq : (a b : Json) → Decidable (a = b)
  | .null, .null => isTrue rfl
  | .bool a, .bool b =>
    match inferDecidable a b with
    | isTrue h => isTrue (h ▸ rfl)
    | isFalse h => isFalse fun e => h (by injection e)
  | .num a, .num b =>
    match inferDecidable a b with
    | isTrue h => isTrue (h ▸ rfl)
    | isFalse h => isFalse fun e => h (by injection e)
  | .str a, .str b =>
    match inferDecidable a b with
    | isTrue h => isTrue (h ▸ rfl)
    | isFalse h => isFalse fun e => h (by injection e)
  | .arr a, .arr b =>
    match decEqItems a b with
    | isTrue h => isTrue (h ▸ rfl)
    | isFalse h => isFalse fun e => h (by injection e)
  | .obj a, .obj b =>
    match decEqFields a b with
    | isTrue h => isTrue (h ▸ rfl)
    | isFalse h => isFalse fun e => h (by injection e)
  | .null, .bool _ | .null, .num _ | .null, .str _ | .null, .arr _ | .null, .obj _
  | .bool _, .null | .bool _, .num _ | .bool _, .str _ | .bool _, .arr _ | .bool _, .obj _
  | .num _, .null | .num _, .bool _ | .num _, .str _ | .num _, .arr _ | .num _, .obj _
  | .str _, .null | .str _, .bool _ | .str _, .num _ | .str _, .arr _ | .str _, .obj _
  | .arr _, .null | .arr _, .bool _ | .arr _, .num _ | .arr _, .str _ | .arr _, .obj _
  | .obj _, .null | .obj _, .bool _ | .obj _, .num _ | .obj _, .str _ | .obj _, .arr _ =>
    isFalse nofun
termination_by structural a => a

def decEqItems : (a b : List Json) → Decidable (a = b)
  | [], [] => isTrue rfl
  | x :: xs, y :: ys =>
    match x.decEq y, decEqItems xs ys with
    | isTrue h, isTrue h' => isTrue (h ▸ h' ▸ rfl)
    | isFalse h, _ => isFalse fun e => h (by injection e)
    | _, isFalse h => isFalse fun e => h (by injection e)
  | [], _ :: _ | _ :: _, [] => isFalse nofun
termination_by structural a => a

def decEqFields : (a b : List (String × Json)) → Decidable (a = b)
  | [], [] => isTrue rfl
  | (k, x) :: xs, (l, y) :: ys =>
    match inferDecidable k l, x.decEq y, decEqFields xs ys with
    | isTrue h, isTrue h', isTrue h'' => isTrue (h ▸ h' ▸ h'' ▸ rfl)
    | isFalse h, _, _ => isFalse fun e => h (by injection e with e; injection e)
    | _, isFalse h, _ => isFalse fun e => h (by injection e with e; injection e)
    | _, _, isFalse h => isFalse fun e => h (by injection e)
  | [], _ :: _ | _ :: _, [] => isFalse nofun
termination_by structural a => a
end

instance : DecidableEq Json := decEq

end Json
end CloudProvider
