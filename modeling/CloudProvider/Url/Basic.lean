import CloudProvider.Url.Percent

/-!
Addresses of resources, in parts, and their text. The schemes of the web are special: they always have
a host, and their paths begin with a slash.
-/

namespace CloudProvider

namespace Url

inductive Host where
  | domain (name : String)
  | ipv4 (address : UInt32)
  /-- Eight pieces of sixteen bits. -/
  | ipv6 (pieces : List UInt16)
  deriving DecidableEq, Repr

inductive Path where
  /-- A text that is not divided. -/
  | whole (text : String)
  | segments (list : List String)
  deriving DecidableEq, Repr

end Url

structure Url where
  scheme : String
  username : String
  password : Option String
  host : Option Url.Host
  port : Option Nat
  path : Url.Path
  query : Option String
  fragment : Option String
  deriving DecidableEq, Repr

namespace Url

inductive SchemeKind where
  | file
  | web
  | other
  deriving DecidableEq, Repr

def SchemeKind.of (scheme : String) : SchemeKind :=
  if scheme = "file" then .file
  else if scheme ∈ ["http", "https", "ws", "wss", "ftp"] then .web
  else .other

def SchemeKind.isSpecial (k : SchemeKind) : Bool := k != .other

def kind (u : Url) : SchemeKind := .of u.scheme

def defaultPort? (scheme : String) : Option Nat :=
  if scheme = "http" ∨ scheme = "ws" then some 80
  else if scheme = "https" ∨ scheme = "wss" then some 443
  else if scheme = "ftp" then some 21
  else none

namespace Host

def octet (address : UInt32) (i : Nat) : Nat := address.toNat / Nat.pow 256 (3 - i) % 256

/-- A run of zero pieces: where it begins and its length. -/
structure ZeroRun where
  start : Nat
  length : Nat

/-- Goes through the pieces from `index` on; `current` is the run that is still growing. -/
def longestZeroRun (index : Nat) (current best : ZeroRun) : List UInt16 → ZeroRun
  | [] => best
  | p :: ps =>
    if p = 0 then
      let current := ⟨if current.length = 0 then index else current.start, current.length + 1⟩
      longestZeroRun (index + 1) current (if best.length < current.length then current else best) ps
    else longestZeroRun (index + 1) ⟨0, 0⟩ best ps

def hexPieces (ps : List UInt16) : String :=
  ":".intercalate (ps.map fun p => .ofList (Nat.toDigits 16 p.toNat))

/-- Of the longest runs of zeros the first is left out, unless it is a single piece. -/
def ipv6Text (pieces : List UInt16) : String :=
  let run := longestZeroRun 0 ⟨0, 0⟩ ⟨0, 0⟩ pieces
  if run.length < 2 then hexPieces pieces
  else hexPieces (pieces.take run.start) ++ "::" ++ hexPieces (pieces.drop (run.start + run.length))

def text : Host → String
  | .domain name => name
  | .ipv4 address => ".".intercalate ((List.range 4).map fun i => toString (octet address i))
  | .ipv6 pieces => "[" ++ ipv6Text pieces ++ "]"

end Host

def Path.text : Path → String
  | .whole text => text
  | .segments list => String.join (list.map ("/" ++ ·))

def hasCredentials (u : Url) : Bool := u.username ≠ "" || u.password.isSome

def userinfoText (u : Url) : String :=
  if u.hasCredentials then
    u.username ++ (match u.password with | some p => ":" ++ p | none => "") ++ "@"
  else ""

def authorityText (u : Url) : String :=
  match u.host with
  | none => ""
  | some host => "//" ++ u.userinfoText ++ host.text ++
      (match u.port with | some port => ":" ++ toString port | none => "")

/-- Without a host, a path that begins with two slashes would read as one. -/
def pathGuard (u : Url) : String :=
  match u.host, u.path with
  | none, .segments ("" :: _ :: _) => "/."
  | _, _ => ""

def text (u : Url) : String :=
  u.scheme ++ ":" ++ u.authorityText ++ u.pathGuard ++ u.path.text ++
    (match u.query with | some q => "?" ++ q | none => "") ++
    (match u.fragment with | some f => "#" ++ f | none => "")

/-- Name and password do not travel in the address of a request. -/
def withoutCredentials (u : Url) : Url := { u with username := "", password := none }

/-- Scheme, host and port. -/
def origin (u : Url) : String × Option Host × Option Nat := (u.scheme, u.host, u.port)

inductive Fault where
  | emptyHost
  | invalidDomain
  | invalidPort
  | invalidIpv4
  | invalidIpv6
  | invalidHostCharacter
  | relativeWithoutBase
  | relativeToWhole
  deriving DecidableEq, Repr

def Fault.message : Fault → String
  | .emptyHost => "empty host"
  | .invalidDomain => "invalid international domain name"
  | .invalidPort => "invalid port number"
  | .invalidIpv4 => "invalid IPv4 address"
  | .invalidIpv6 => "invalid IPv6 address"
  | .invalidHostCharacter => "invalid domain character"
  | .relativeWithoutBase => "relative URL without a base"
  | .relativeToWhole => "relative URL with a cannot-be-a-base base"

end Url
end CloudProvider
