import CloudProvider.Url.Host

/-!
Reading addresses, alone or as references that a base completes. Blanks and controls around the text
and tabs and line ends within it do not count. A path is read segment by segment, and its steps up and
its empty steps are taken while it is read; in addresses of special schemes a backslash divides like a
slash.
-/

namespace CloudProvider.Url

namespace Parser

def isEdge (c : Char) : Bool := c.toNat ≤ 0x20

/-- What counts of a text. -/
def relevant (s : String) : List Char :=
  let cs := (s.toList.dropWhile isEdge).reverse.dropWhile isEdge
  cs.reverse.filter fun c => c ≠ '\t' ∧ c ≠ '\n' ∧ c ≠ '\r'

/-- The scheme, lowered, and what follows its colon. -/
def scheme? (cs : List Char) : Option (String × List Char) :=
  match cs with
  | c :: _ =>
    if c.isAlpha then
      let isPart := fun c : Char => c.isAlphanum || c = '+' || c = '-' || c = '.'
      match cs.dropWhile isPart with
      | ':' :: rest => some (.ofList ((cs.takeWhile isPart).map Char.toLower), rest)
      | _ => none
    else none
  | [] => none

def isSlash (kind : SchemeKind) (c : Char) : Bool := c = '/' || kind.isSpecial && c = '\\'

def isTail (c : Char) : Bool := c = '?' || c = '#'

/-- A letter and a colon or bar, which file paths use for a volume. -/
def isVolume (cs : List Char) : Bool :=
  match cs with
  | [c, d] => c.isAlpha && (d = ':' || d = '|')
  | _ => false

def startsWithVolume (cs : List Char) : Bool :=
  isVolume (cs.take 2) && match cs.drop 2 with
    | [] => true
    | c :: _ => c = '/' || c = '\\' || isTail c

/-- The spellings of a step up, with each dot as it is or encoded. -/
def isUp (segment : List Char) : Bool :=
  let s := String.ofList (segment.map Char.toLower)
  s = ".." || s = ".%2e" || s = "%2e." || s = "%2e%2e"

def isHere (segment : List Char) : Bool :=
  let s := String.ofList (segment.map Char.toLower)
  s = "." || s = "%2e"

/-- A path under construction is its segments, last first. -/
abbrev Segments := List (List Char)

/-- Takes the last segment away. The volume of a file path stays. -/
def shorten (kind : SchemeKind) (done : Segments) : Segments :=
  match done with
  | [s] => if kind = .file ∧ isVolume s then [s] else []
  | _ => done.tail

/-- The path after one more segment, which another may follow. -/
def push (kind : SchemeKind) (done : Segments) (segment : List Char) (last : Bool) : Segments :=
  if isUp segment then let done := shorten kind done; if last then [] :: done else done
  else if isHere segment then if last then [] :: done else done
  else match segment with
    | [c, _] => if kind = .file ∧ done.isEmpty ∧ isVolume segment then [[c, ':']] else segment :: done
    | _ => segment :: done

/-- Reads segments up to the end of the path; `current` is the one under way, reversed. -/
def pathFrom (kind : SchemeKind) (done : Segments) (current : List Char) :
    List Char → Segments × List Char
  | [] => (push kind done current.reverse true, [])
  | c :: cs =>
    if isSlash kind c then pathFrom kind (push kind done current.reverse false) [] cs
    else if isTail c then (push kind done current.reverse true, c :: cs)
    else pathFrom kind done ((percentEncodeChar EncodeSet.path c).reverse ++ current) cs

/-- File paths do not begin with empty segments. -/
def withoutEmptyFront (kind : SchemeKind) : Segments → Segments
  | [] :: s :: rest => if kind = .file then withoutEmptyFront kind (s :: rest) else [] :: s :: rest
  | segments => segments

def readPath (kind : SchemeKind) (done : Segments) (cs : List Char) : Path × List Char :=
  let (done, rest) := pathFrom kind done [] cs
  (.segments ((withoutEmptyFront kind done.reverse).map .ofList), rest)

/-- Query and fragment, which end an address. -/
def readTail (kind : SchemeKind) (cs : List Char) : Option String × Option String :=
  let fragment? : List Char → Option String
    | '#' :: f => some (.ofList (percentEncode EncodeSet.fragment f))
    | _ => none
  match cs with
  | '?' :: rest =>
    let set := if kind.isSpecial then EncodeSet.specialQuery else EncodeSet.query
    (some (.ofList (percentEncode set (rest.takeWhile (· ≠ '#')))), fragment? (rest.dropWhile (· ≠ '#')))
  | cs => (none, fragment? cs)

/-- Puts a path and what follows it in the place of those of `u`. -/
def finish (u : Url) (path : Path × List Char) : Url :=
  let (query, fragment) := readTail u.kind path.2
  { u with path := path.1, query := query, fragment := fragment }

/-- The path behind an authority. -/
def readPathStart (kind : SchemeKind) (cs : List Char) : Path × List Char :=
  match cs with
  | [] => if kind.isSpecial then (.segments [""], []) else (.segments [], [])
  | c :: rest =>
    if isSlash kind c then readPath kind [] rest
    else if isTail c ∧ ¬ kind.isSpecial then (.segments [], cs)
    else readPath kind [] cs

/-- Where a name and password end: at the last at-sign of the authority. -/
def splitUserinfo (kind : SchemeKind) (cs : List Char) : Option (List Char × List Char) :=
  let authority := cs.takeWhile fun c => !(isSlash kind c || isTail c)
  if '@' ∈ authority then
    let host := (authority.reverse.takeWhile (· ≠ '@')).reverse
    let front := authority.length - host.length - 1
    some (cs.take front, cs.drop (front + 1))
  else none

/-- An empty password is as good as none. -/
def readUserinfo (cs : List Char) : String × Option String :=
  let encode := fun cs => String.ofList (percentEncode EncodeSet.userinfo cs)
  match cs.dropWhile (· ≠ ':') with
  | _ :: password@(_ :: _) => (encode (cs.takeWhile (· ≠ ':')), some (encode password))
  | _ => (encode (cs.takeWhile (· ≠ ':')), none)

/-- The text of a host, which may hold colons in brackets. -/
def hostText (kind : SchemeKind) (bracketed : Bool) (done : List Char) : List Char → List Char × List Char
  | [] => (done.reverse, [])
  | c :: cs =>
    if isSlash kind c || isTail c || (c = ':' && !bracketed) then (done.reverse, c :: cs)
    else hostText kind (if c = '[' then true else if c = ']' then false else bracketed) (c :: done) cs

/-- A port that the scheme implies is not kept. -/
def readPort (scheme : String) (cs : List Char) : Except Fault (Option Nat × List Char) :=
  let digits := cs.takeWhile Char.isDigit
  let rest := cs.dropWhile Char.isDigit
  let port := digits.foldl (fun n d => n * 10 + (d.toNat - 48)) 0
  let ended : Bool := match rest with
    | [] => true
    | c :: _ => c = '/' || c = '\\' || isTail c
  if 65535 < port ∨ ¬ ended then .error .invalidPort
  else if digits.isEmpty ∨ defaultPort? scheme = some port then .ok (none, rest)
  else .ok (some port, rest)

/-- An at-sign with nothing before it asks for a host all the same. -/
def asksForHost (userinfo : Option (List Char × List Char)) : Bool :=
  match userinfo with
  | some ([], c :: _) => c = '/' || isTail c
  | _ => false

/-- From behind the two slashes. -/
def readAuthority (scheme : String) (cs : List Char) : Except Fault Url := do
  let kind := SchemeKind.of scheme
  let split := splitUserinfo kind cs
  let (userinfo, cs) := split.getD ([], cs)
  let (username, password) := readUserinfo userinfo
  let (name, rest) := hostText kind false [] cs
  if name.isEmpty ∧ (kind.isSpecial ∨ rest.head? = some ':' ∨ username ≠ "" ∨ password.isSome ∨
      asksForHost split) then
    .error .emptyHost
  let host ← if kind.isSpecial then Host.readSpecial name else Host.readOther name
  let (port, rest) ← match rest with
    | ':' :: rest => readPort scheme rest
    | rest => .ok (none, rest)
  .ok (finish ⟨scheme, username, password, some host, port, .segments [], none, none⟩
    (readPathStart kind rest))

def fileWith (host : Option Host) : Url := ⟨"file", "", none, host, none, .segments [], none, none⟩

/-- A file address without a host of its own. -/
def localFile : Url := fileWith (some (.domain ""))

/-- A path that begins with a volume belongs to no host. -/
def withoutHostOfVolume (u : Url) : Url :=
  match u.path with
  | .segments (s :: _) => if isVolume s.toList then { u with host := some (.domain "") } else u
  | _ => u

/-- A file address from behind the two slashes. -/
def readFileAuthority (cs : List Char) : Except Fault Url := do
  let isEnd := fun c => isSlash .file c || isTail c
  let name := cs.takeWhile (!isEnd ·)
  let rest := cs.dropWhile (!isEnd ·)
  if isVolume name then .ok (finish localFile (readPathStart .file cs))
  else if name.isEmpty then .ok (finish localFile (readPathStart .file rest))
  else
    let host ← Host.readSpecial name
    if host = .domain "localhost" then .ok (finish localFile (readPathStart .file rest))
    else .ok (withoutHostOfVolume (finish (fileWith (some host)) (readPathStart .file rest)))

/-- The segments of a path, last first. -/
def segmentsOf : Path → Segments
  | .whole text => [text.toList]
  | .segments list => (list.map String.toList).reverse

/-- Where an absolute path begins: under the volume of the base, if that has one. -/
def root (base : Url) : Segments :=
  match base.path with
  | .segments (s :: _) => if base.kind = .file ∧ isVolume s.toList then [s.toList] else []
  | _ => []

/-- A reference without a scheme on a base that has segments. -/
def readRelative (base : Url) (cs : List Char) : Except Fault Url :=
  let kind := base.kind
  match cs with
  | [] => .ok { base with fragment := none }
  | '?' :: _ => .ok (finish base (base.path, cs))
  | '#' :: _ => .ok { base with fragment := (readTail kind cs).2 }
  | c :: rest =>
    if c = '/' ∨ c = '\\' then
      match rest with
      | '/' :: after =>
        if kind = .file then readFileAuthority after
        else if c = '/' then readAuthority base.scheme after
        else readAuthority base.scheme (after.dropWhile (isSlash .web))
      | '\\' :: after =>
        if kind = .file then readFileAuthority after
        else readAuthority base.scheme (after.dropWhile (isSlash .web))
      | rest =>
        if kind = .file ∧ startsWithVolume rest then .ok (finish localFile (readPath kind [] rest))
        else .ok (finish base (readPath kind (root base) rest))
    else if kind = .file ∧ startsWithVolume cs then .ok (finish localFile (readPath kind [] cs))
    else .ok (finish base (readPath kind (shorten kind (segmentsOf base.path)) cs))

/-- What follows the scheme. -/
def readWithScheme (base : Option Url) (scheme : String) (cs : List Char) : Except Fault Url :=
  match SchemeKind.of scheme with
  | .file =>
    match base.filter (·.scheme = "file") with
    | some base => readRelative base cs
    | none =>
      match cs with
      | c :: d :: rest =>
        if isSlash .file c ∧ isSlash .file d then readFileAuthority rest
        else .ok (finish localFile (readPathStart .file cs))
      | _ => .ok (finish localFile (readPathStart .file cs))
  | .web =>
    let slashes := cs.takeWhile (isSlash .web)
    match base.filter (·.scheme = scheme) with
    | some base =>
      if slashes.length < 2 then readRelative base cs
      else readAuthority scheme (cs.dropWhile (isSlash .web))
    | none => readAuthority scheme (cs.dropWhile (isSlash .web))
  | .other =>
    let bare : Url := ⟨scheme, "", none, none, none, .segments [], none, none⟩
    match cs with
    | '/' :: '/' :: rest => readAuthority scheme rest
    | '/' :: rest => .ok (finish bare (readPath .other [] rest))
    | cs =>
      let text := cs.takeWhile (!isTail ·)
      .ok (finish bare (.whole (.ofList (percentEncode EncodeSet.control text)), cs.dropWhile (!isTail ·)))

end Parser

open CloudProvider.Url.Parser in
/-- Reads an address, which a base completes if it has no scheme. -/
def parseWith (base : Option Url) (s : String) : Except Fault Url :=
  let cs := relevant s
  match scheme? cs with
  | some (scheme, rest) => readWithScheme base scheme rest
  | none =>
    match base with
    | none => .error .relativeWithoutBase
    | some base =>
      match cs, base.path with
      | '#' :: _, _ => .ok { base with fragment := (readTail base.kind cs).2 }
      | _, .whole _ => .error .relativeToWhole
      | _, .segments _ => readRelative base cs

def parse (s : String) : Except Fault Url := parseWith none s

/-- Completes a reference. -/
def join (base : Url) (reference : String) : Except Fault Url := parseWith (some base) reference

/-- The path with a slash at its end, so that references add to it. -/
def withTrailingSlash (u : Url) : Url :=
  match u.path with
  | .whole text =>
    if text.toList.getLast? = some '/' then u
    else { u with path := .whole (if text = "" then "%2F" else text ++ "/") }
  | .segments list =>
    if list.getLast? = some "" then u else { u with path := .segments (list ++ [""]) }

end Url
end CloudProvider
