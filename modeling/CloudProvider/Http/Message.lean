import CloudProvider.Failure
import CloudProvider.Text.Base64
import CloudProvider.Text.Utf8
import CloudProvider.Url.Basic

/-!
Requests over HTTP, and replies. A request that does not make sense is not sent: its address must be one
of the web that can be written in a request line, and its headers must be printable.
-/

namespace CloudProvider.Http

inductive Method where
  | get
  | post
  | delete
  deriving DecidableEq, Repr

def Method.name : Method → String
  | .get => "GET"
  | .post => "POST"
  | .delete => "DELETE"

/-- What a request carries. -/
inductive Body where
  | nothing
  | json (text : String)
  /-- A form whose only part is a file. -/
  | upload (fileName : String) (content : Except FileFault Text.Bytes)

structure Request where
  method : Method
  url : Url
  /-- The values of the authorization headers. -/
  authorization : List String
  body : Body

structure Reply where
  status : Nat
  /-- Nothing, if the reply breaks off. -/
  body : Option Text.Bytes
  deriving DecidableEq

/-- The request went well. -/
def Reply.isSuccess (r : Reply) : Bool := 200 ≤ r.status && r.status < 300

def userAgent : String := "photon-cpi/0.2.0"

def contentType : Body → Option String
  | .nothing => none
  | .json _ => some "application/json"
  | .upload .. => some "multipart/form-data"

def Request.headers (r : Request) : List (String × String) :=
  r.authorization.map (("authorization", ·)) ++ [("user-agent", userAgent)] ++
    (contentType r.body).toList.map (("content-type", ·))

/-- Name and password as a header value. -/
def basicAuthorization (username password : String) : String :=
  "Basic " ++ Text.Base64.encode (Text.Utf8.encode s!"{username}:{password}")

def bearerAuthorization (token : String) : String := "Bearer " ++ token

/-- A header value holds no control character but the tab. -/
def isHeaderValue (value : String) : Bool :=
  value.toList.all fun c => c = '\t' || 0x20 ≤ c.toNat && c.toNat ≠ 0x7F

/-- Why there is no reply to read. -/
inductive Fault where
  | unprintableHeader
  | unsendable (url : Url)
  /-- The other side is out of reach, or hangs up. -/
  | refused (url : Url)
  | brokenOff

def Fault.message : Fault → String
  | .unprintableHeader => "builder error"
  | .unsendable url => s!"builder error for url ({url.text})"
  | .refused url => s!"error sending request for url ({url.text})"
  | .brokenOff => "error decoding response body"

/-- Characters that an address keeps in its host and a request line does not hold. -/
def isOutOfLine (c : Char) : Bool := c ∈ ['"', '\x60', '\x7b', '\x7d']

/-- An address that a request line can hold. -/
def isSendable (url : Url) : Bool :=
  (url.scheme = "http" || url.scheme = "https") &&
    match url.host with
    | none => false
    | some host => !host.text.toList.any isOutOfLine && url.text.utf8ByteSize ≤ 65534

/-- What stands against sending a request. -/
def Request.flaw? (r : Request) : Option Fault :=
  if r.url.host.isNone then some (.unsendable r.url)
  else if !r.authorization.all isHeaderValue then some .unprintableHeader
  else if !isSendable r.url then some (.unsendable r.url)
  else none

end CloudProvider.Http
