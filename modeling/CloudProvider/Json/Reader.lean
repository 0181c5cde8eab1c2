import CloudProvider.Json.Tree
import CloudProvider.Json.Numeral

/-!
From text to shape. Blanks are space, tab, line feed and carriage return. The functions below return
what they read together with what is left, or with the reason why the text goes no further; each call
is given more fuel than it has characters.
-/

namespace CloudProvider.Json

def isBlank (c : Char) : Bool := c = ' ' || c = '\n' || c = '\t' || c = '\r'

/-- What is left of the text after a piece of it, unless the text stops in that piece. -/
abbrev Rest := Except Stop (List Char)

/-- A literal goes on with `word`. -/
def readLiteral (t : Tree) : (word : List Char) → List Char → Tree × Rest
  | [], cs => (t, .ok cs)
  | _ :: _, [] => let stop := Stop.always .endInValue; (.malformed stop, .error stop)
  | w :: ws, c :: cs =>
    if w = c then readLiteral t ws cs
    else let stop := Stop.always .expectedLiteral; (.malformed stop, .error stop)

/-- Readers tell a numeral that the end of the text cuts off from one that is malformed. -/
def Numeral.Stop.stop : Numeral.Stop → Json.Stop
  | .atEnd => ⟨.endInValue, .invalidNumber, .endInValue⟩
  | .before => .always .invalidNumber

def readNumber (negative : Bool) (cs : List Char) : Tree × Rest :=
  match Numeral.scan negative cs with
  | .error stop => (.malformed stop.stop, .error stop.stop)
  | .ok (n, rest) => (.num n.value, .ok rest)

def hexValue? (c : Char) : Option Nat :=
  if '0' ≤ c ∧ c ≤ '9' then some (c.toNat - 48)
  else if 'a' ≤ c ∧ c ≤ 'f' then some (c.toNat - 87)
  else if 'A' ≤ c ∧ c ≤ 'F' then some (c.toNat - 55)
  else none

/-- Four hexadecimal digits. Where the text has fewer than four bytes left, it has ended. -/
def readHex : List Char → Except Fault (Nat × List Char)
  | a :: b :: c :: d :: rest =>
    match hexValue? a, hexValue? b, hexValue? c, hexValue? d with
    | some a, some b, some c, some d => .ok (((a * 16 + b) * 16 + c) * 16 + d, rest)
    | _, _, _, _ => .error .invalidEscape
  | cs => if cs.foldl (fun size c => size + c.utf8Size) 0 < 4 then .error .endInText else .error .invalidEscape

def isLeadingSurrogate (n : Nat) : Bool := 0xD800 ≤ n && n ≤ 0xDBFF
def isTrailingSurrogate (n : Nat) : Bool := 0xDC00 ≤ n && n ≤ 0xDFFF

/-- After a leading surrogate its other half must follow, itself escaped. -/
def readTrailing (lead : Nat) : List Char → Except Fault (Char × List Char)
  | [] | ['\\'] => .error .endInText
  | '\\' :: 'u' :: cs => do
    let (n, rest) ← readHex cs
    if isTrailingSurrogate n then
      .ok (Char.ofNat ((lead - 0xD800) * 0x400 + (n - 0xDC00) + 0x10000), rest)
    else .error .loneSurrogate
  | _ => .error .endOfEscape

def namedEscape? (c : Char) : Option Char :=
  if c = '"' ∨ c = '\\' ∨ c = '/' then some c
  else if c = 'b' then some '\x08'
  else if c = 'f' then some '\x0c'
  else if c = 'n' then some '\n'
  else if c = 'r' then some '\r'
  else if c = 't' then some '\t'
  else none

/-- A text as it is read: its characters so far, reversed, and the first fault that only a reader is
told. -/
structure Spelled where
  done : List Char
  flaw : Option Fault

namespace Spelled

def push (s : Spelled) (c : Char) : Spelled := { s with done := c :: s.done }

def spoil (s : Spelled) (f : Fault) : Spelled := { s with flaw := s.flaw.or (some f) }

def stop (s : Spelled) (f : Fault) : Stop := ⟨s.flaw.getD f, f, s.flaw.getD f⟩

def text (s : Spelled) : Except Fault String :=
  match s.flaw with
  | some f => .error f
  | none => .ok (.ofList s.done.reverse)

/-- Goes on behind the four digits of an escape with value `n`. -/
def escaped (s : Spelled) (n : Nat) (rest : List Char) : Spelled × List Char :=
  if isTrailingSurrogate n then (s.spoil .loneSurrogate, rest)
  else if isLeadingSurrogate n then
    match readTrailing n rest with
    | .ok (c, rest) => (s.push c, rest)
    | .error f => (s.spoil f, rest)
  else (s.push (Char.ofNat n), rest)

/-- One escape, from behind the backslash. -/
def readEscape (s : Spelled) : List Char → Except Fault (Spelled × List Char)
  | [] => .error .endInText
  | 'u' :: cs => do let (n, rest) ← readHex cs; .ok (s.escaped n rest)
  | c :: cs => match namedEscape? c with
    | some e => .ok (s.push e, cs)
    | none => .error .invalidEscape

end Spelled

/-- Reads to the closing quote. -/
def readText : (fuel : Nat) → Spelled → List Char → Except Fault String × Rest
  | 0, s, _ => (s.text, .error (s.stop .endInText))
  | fuel + 1, s, cs =>
    match cs with
    | [] => (s.text, .error (s.stop .endInText))
    | '"' :: rest => (s.text, .ok rest)
    | '\\' :: rest =>
      match s.readEscape rest with
      | .ok (s, rest) => readText fuel s rest
      | .error f => (s.text, .error (s.stop f))
    | c :: rest =>
      if c.toNat < 0x20 then (s.text, .error (s.stop .controlCharacter))
      else readText fuel (s.push c) rest

/-- What follows an item: its list ends, goes on, or stops. -/
inductive After where
  | closed (rest : List Char)
  | more (rest : List Char)
  | stopped (stop : Stop)

def Ending.of : Rest → Ending
  | .ok _ => .closed
  | .error stop => .stopped stop

/-- After an item. A comma must not stand before the bracket. -/
def afterItem (cs : List Char) : After :=
  match cs.dropWhile isBlank with
  | [] => .stopped (.always .endInList)
  | ']' :: rest => .closed rest
  | ',' :: rest =>
    match rest.dropWhile isBlank with
    | [] => .stopped ⟨.endInValue, .endInValue, .trailingCharacters⟩
    | ']' :: _ => .stopped ⟨.trailingComma, .expectedValue, .trailingComma⟩
    | rest => .more rest
  | _ => .stopped ⟨.expectedListSeparator, .expectedListSeparator, .trailingCharacters⟩

/-- After a member. A comma must not stand before the brace. -/
def afterField (cs : List Char) : After :=
  match cs.dropWhile isBlank with
  | [] => .stopped (.always .endInObject)
  | '\x7d' :: rest => .closed rest
  | ',' :: rest =>
    match rest.dropWhile isBlank with
    | [] => .stopped ⟨.endInValue, .endInObject, .expectedValue⟩
    | '"' :: rest => .more rest
    | '\x7d' :: _ => .stopped ⟨.trailingComma, .keyNotText, .expectedValue⟩
    | _ => .stopped ⟨.keyNotText, .keyNotText, .expectedValue⟩
  | _ => .stopped ⟨.expectedObjectSeparator, .expectedObjectSeparator, .expectedValue⟩

/-- The colon between a name and its value. -/
def readColon (cs : List Char) : Rest :=
  match cs.dropWhile isBlank with
  | ':' :: rest => .ok rest
  | [] => .error (.always .endInObject)
  | _ => .error (.always .expectedColon)

mutual
/-- Blanks may stand in front. -/
def readTree : (fuel : Nat) → List Char → Tree × Rest
  | 0, _ => let stop := Stop.always .endInValue; (.broken stop, .error stop)
  | fuel + 1, cs =>
    match cs.dropWhile isBlank with
    | [] => let stop := Stop.always .endInValue; (.broken stop, .error stop)
    | 'n' :: rest => readLiteral .null ['u', 'l', 'l'] rest
    | 't' :: rest => readLiteral (.bool true) ['r', 'u', 'e'] rest
    | 'f' :: rest => readLiteral (.bool false) ['a', 'l', 's', 'e'] rest
    | '"' :: rest =>
      match readText fuel ⟨[], none⟩ rest with
      | (s, .ok rest) => (.str s, .ok rest)
      | (_, .error stop) => (.broken stop, .error stop)
    | '[' :: rest =>
      match rest.dropWhile isBlank with
      | [] => let stop := Stop.always .endInList; (.arr [] (.stopped stop), .error stop)
      | ']' :: rest => (.arr [] .closed, .ok rest)
      | rest => let (items, rest) := readItems fuel rest; (.arr items (.of rest), rest)
    | '\x7b' :: rest =>
      match rest.dropWhile isBlank with
      | [] => let stop := Stop.always .endInObject; (.obj none [] (.stopped stop), .error stop)
      | '\x7d' :: rest => (.obj none [] .closed, .ok rest)
      | '"' :: rest => let (fields, rest) := readFields fuel rest; (.obj none fields (.of rest), rest)
      | rest =>
        let stop := Stop.mk .keyNotText .keyNotText .expectedValue
        (.obj (some (readTree fuel rest).1) [] (.stopped stop), .error stop)
    | '-' :: rest => readNumber true rest
    | c :: rest =>
      if (Numeral.digit? c).isSome then readNumber false (c :: rest)
      else let stop := Stop.always .expectedValue; (.broken stop, .error stop)

/-- The items from here to the closing bracket. -/
def readItems : (fuel : Nat) → List Char → List Tree × Rest
  | 0, _ => ([], .error (.always .endInList))
  | fuel + 1, cs =>
    match readTree fuel cs with
    | (t, .error stop) => ([t], .error stop)
    | (t, .ok rest) =>
      match afterItem rest with
      | .closed rest => ([t], .ok rest)
      | .stopped stop => ([t], .error stop)
      | .more rest => let (ts, rest) := readItems fuel rest; (t :: ts, rest)

/-- The members from behind the opening quote of a name to the closing brace. -/
def readFields : (fuel : Nat) → List Char → List (Except Fault String × Tree) × Rest
  | 0, _ => ([], .error (.always .endInObject))
  | fuel + 1, cs =>
    match readText fuel ⟨[], none⟩ cs with
    | (_, .error stop) => ([], .error { stop with closing := .expectedValue })
    | (k, .ok rest) =>
      match readColon rest with
      | .error stop => ([(k, .broken stop)], .error stop)
      | .ok rest =>
        match readTree fuel rest with
        | (t, .error stop) => ([(k, t)], .error stop)
        | (t, .ok rest) =>
          match afterField rest with
          | .closed rest => ([(k, t)], .ok rest)
          | .stopped stop => ([(k, t)], .error stop)
          | .more rest => let (fields, rest) := readFields fuel rest; ((k, t) :: fields, rest)
end

/-- A whole text: one value, and whether anything but blanks follows it. -/
structure Document where
  tree : Tree
  trailing : Bool

def Document.read (s : String) : Document :=
  let cs := s.toList
  let (tree, rest) := readTree (2 * cs.length + 2) cs
  ⟨tree, match rest with
    | .ok rest => !rest.all isBlank
    | .error _ => false⟩

end CloudProvider.Json
