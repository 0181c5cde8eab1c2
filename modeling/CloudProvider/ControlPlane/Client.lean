import CloudProvider.ControlPlane.Codec
import CloudProvider.ControlPlane.Operation
import CloudProvider.Http.Message
import CloudProvider.Http.StatusText
import CloudProvider.PathName
import CloudProvider.Program
import CloudProvider.Settings.Basic
import CloudProvider.Url.Parser

/-!
The control plane over HTTP. A request that changes something is answered with a task, which is asked
for again until it has ended, or has taken too long; a few failures to reach the control plane in a row
do not end the waiting. A listing comes in pages, each of which may name the next. How often an operation
may ask again is bounded by its patience, and where that does not suffice it has no result.
-/

namespace CloudProvider
open Json (Decoder)

/-- What the client asks of the world. -/
inductive Wire where
  /-- A reply, if there is one. -/
  | exchange (request : Http.Request)
  | openFile (path : String)
  | pause (milliseconds : Nat)
  /-- A clock that runs steadily, in nanoseconds. -/
  | clock

@[reducible] def Wire.Reply : Wire → Type
  | .exchange _ => Option Http.Reply
  | .openFile _ => Except FileFault OpenFile
  | .pause _ => Unit
  | .clock => Nat

/-- What the client does for one operation; it may be given up without a result. -/
abbrev Conversation := ExceptT CloudFault (OptionT (Program Wire Wire.Reply))

namespace Conversation
variable {α : Type}

def ask (op : Wire) : Conversation (Wire.Reply op) :=
  ExceptT.lift (OptionT.lift (Program.ask op))

def report (e : Event) : Conversation Unit := ExceptT.lift (OptionT.lift (Program.log e))

def fail (fault : CloudFault) : Conversation α := ExceptT.mk (pure (.error fault))

def giveUp : Conversation α := ExceptT.mk OptionT.fail

/-- What comes of a conversation, which may then go on. -/
def outcome (c : Conversation α) : Conversation (Except CloudFault α) := ExceptT.lift c.run

end Conversation

inductive Credentials where
  | anonymous
  | bearer (token : String)
  | basic (username password : String)
  deriving DecidableEq

namespace Credentials

/-- A token comes first; a name needs a password, which may be empty. -/
def ofSettings (s : ControlPlaneSettings) : Credentials :=
  match s.token.filter (· ≠ ""), s.username.filter (· ≠ ""), s.password with
  | some token, _, _ => .bearer token
  | none, some username, some password => .basic username password
  | none, _, _ => .anonymous

def authorization : Credentials → List String
  | .anonymous => []
  | .bearer token => [Http.bearerAuthorization token]
  | .basic username password => [Http.basicAuthorization username password]

end Credentials

/-- Takes name and password out of an address, if they are texts, and makes a header value of them. -/
def Url.takeCredentials (u : Url) : List String × Url :=
  let decoded (s : String) := Text.Utf8.decode (percentDecode (Text.Utf8.encode s))
  match decoded u.username with
  | .error _ => ([], u)
  | .ok username =>
    let password := u.password.bind fun p => (decoded p).toOption
    if username = "" ∧ password.isNone then ([], u)
    else ([Http.basicAuthorization username (password.getD "")], u.withoutCredentials)

structure Client where
  endpoint : Url
  credentials : Credentials
  pollIntervalMs : Nat
  timeoutSecs : Nat
  deriving DecidableEq

namespace Client

def new (s : ControlPlaneSettings) : Except CloudFault Client :=
  match Url.parse s.target with
  | .error fault => .error (.transport s!"invalid target '{s.target}': {fault.message}")
  | .ok url => .ok ⟨url.withTrailingSlash, .ofSettings s, s.pollIntervalMs, s.timeoutSecs⟩

/-- A client that can send requests, which `carrier` has to be made ready for. -/
def connect (carrier : (ignoreCertificate : Bool) → Except String Unit) (s : ControlPlaneSettings) :
    Except CloudFault Client := do
  let client ← new s
  (carrier s.ignoreCertificate).mapError .transport
  return client

/-- A path without the slashes at its front leads on from the endpoint. -/
def url (c : Client) (path : String) : Except CloudFault Url :=
  match c.endpoint.join (.ofList (path.toList.dropWhile (· = '/'))) with
  | .ok url => .ok url
  | .error fault => .error (.transport s!"invalid request path '{path}': {fault.message}")

def request (c : Client) (method : Http.Method) (url : Url) (body : Http.Body) : Http.Request :=
  let (authorization, url) := url.takeCredentials
  ⟨method, url, authorization ++ c.credentials.authorization, body⟩

/-- A rejected request, told by the reply's own words or by the standard ones. -/
def rejection (status : Nat) (body : String) : CloudFault :=
  match ErrorDetail.decoder.ofText body with
  | .ok detail => .api status detail.code detail.message
  | .error _ => .api status (Http.statusText status) body

/-- What a reply says. -/
def readReply {α : Type} (d : Decoder α) (reply : Http.Reply) : Except CloudFault α :=
  match reply.body with
  | none => .error (.transport Http.Fault.brokenOff.message)
  | some bytes =>
    let body := Text.Utf8.decodeLossy bytes
    if reply.isSuccess then
      match d.ofText body with
      | .ok x => .ok x
      | .error fault => .error (.transport s!"unexpected response body: {fault.message}")
    else .error (rejection reply.status body)

def send {α : Type} (d : Decoder α) (request : Http.Request) : Conversation α := do
  match request.flaw? with
  | some flaw => Conversation.fail (.transport flaw.message)
  | none =>
    match ← Conversation.ask (Wire.exchange request) with
    | none => Conversation.fail (.transport (Http.Fault.refused request.url).message)
    | some reply =>
      match readReply d reply with
      | .ok x => return x
      | .error fault => Conversation.fail fault

/-- A request to a path. -/
def sendTo {α : Type} (c : Client) (d : Decoder α) (method : Http.Method) (path : String)
    (body : Http.Body) : Conversation α := do
  match c.url path with
  | .error fault => Conversation.fail fault
  | .ok url => send d (c.request method url body)

def fetch {α : Type} (c : Client) (d : Decoder α) (path : String) : Conversation α :=
  c.sendTo d .get path .nothing

/-- How many polls in a row may fail to reach the control plane. -/
def maxPollFailures : Nat := 3

/-- Waits for a task to end, after a number of failed polls. -/
def wait (c : Client) (started : Nat) : (patience : Nat) → (failures : Nat) → Task → Conversation Task
  | patience, failures, task =>
    match task.state with
    | .completed => return task
    | .failed => Conversation.fail (.task task.id task.operation task.errorSummary)
    | .queued | .started => do
      let now ← Conversation.ask Wire.clock
      if c.timeoutSecs * 1000000000 ≤ now - started then
        Conversation.fail (.taskTimeout task.id c.timeoutSecs)
      else
        Conversation.ask (Wire.pause c.pollIntervalMs)
        match patience with
        | 0 => Conversation.giveUp
        | patience + 1 =>
          match ← Conversation.outcome (c.fetch Task.decoder s!"tasks/{task.id}") with
          | .ok polled => wait c started patience 0 polled
          | .error (.transport message) =>
            if failures < maxPollFailures then
              Conversation.report <| .warn "task poll failed, retrying" [("task_id", task.id),
                ("attempt", toString (failures + 1)), ("error", message)]
              wait c started patience (failures + 1) task
            else Conversation.fail (.transport message)
          | .error fault => Conversation.fail fault

/-- A request that starts a task, to its end. -/
def submit (c : Client) (patience : Nat) (method : Http.Method) (path : String) (body : Http.Body) :
    Conversation Task := do
  let task ← c.sendTo Task.decoder method path body
  Conversation.report
    ⟨.debug, "submitted task", [("task_id", task.id), ("operation", task.operation)]⟩
  let started ← Conversation.ask Wire.clock
  c.wait started patience 0 task

/-- The disks of a page and of all that follow it. -/
def listPages (c : Client) : (patience : Nat) → (path : String) → Conversation (List PersistentDisk)
  | patience, path => do
    let page ← c.fetch DiskPage.decoder path
    match page.nextPageLink.filter (· ≠ "") with
    | none => return page.items
    | some link =>
      match patience with
      | 0 => Conversation.giveUp
      | patience + 1 => return page.items ++ (← listPages c patience link)

/-- Reads an image that is to be attached. -/
def readImage (path : String) : Conversation Text.Bytes := do
  match (← Conversation.ask (Wire.openFile path)) >>= OpenFile.content with
  | .ok bytes => return bytes
  | .error fault => Conversation.fail (.localFile s!"{path}: {fault.message}")

/-- The last component of a path; one that has none stands for a fixed name. -/
def uploadName (path : String) : String := (PathName.baseName? path).getD "env.iso"

def diskBody (disk : String) : Http.Body := .json (Json.obj [("diskId", .str disk)]).text

/-- Performs an operation. -/
def perform (c : Client) (patience : Nat) : (op : Operation) → Conversation op.Reply
  | .createVm project spec =>
    c.submit patience .post s!"projects/{project}/vms" (.json spec.toJson.text)
  | .getVm vm => c.fetch Vm.decoder s!"vms/{vm}"
  | .deleteVm vm => c.submit patience .delete s!"vms/{vm}" .nothing
  | .startVm vm => c.submit patience .post s!"vms/{vm}/start" .nothing
  | .stopVm vm => c.submit patience .post s!"vms/{vm}/stop" .nothing
  | .restartVm vm => c.submit patience .post s!"vms/{vm}/restart" .nothing
  | .attachDisk vm disk => c.submit patience .post s!"vms/{vm}/attach_disk" (diskBody disk)
  | .detachDisk vm disk => c.submit patience .post s!"vms/{vm}/detach_disk" (diskBody disk)
  | .attachIso vm path => do
    let bytes ← readImage path
    c.submit patience .post s!"vms/{vm}/attach_iso" (.upload (uploadName path) (.ok bytes))
  | .detachIso vm => c.submit patience .post s!"vms/{vm}/detach_iso" .nothing
  | .setMetadata vm metadata =>
    c.submit patience .post s!"vms/{vm}/set_metadata" (.json metadata.toJson.text)
  | .createDisk project spec =>
    c.submit patience .post s!"projects/{project}/disks" (.json spec.toJson.text)
  | .getDisk disk => c.fetch PersistentDisk.decoder s!"disks/{disk}"
  | .deleteDisk disk => c.submit patience .delete s!"disks/{disk}" .nothing
  | .listDisks project => c.listPages patience s!"projects/{project}/disks"
  | .createImage name file => c.submit patience .post "images" (.upload name file.content)
  | .deleteImage image => c.submit patience .delete s!"images/{image}" .nothing

/-- What comes of an operation under a host, unless it is given up. -/
def answer {m : Type → Type} [Monad m] (c : Client) (patience : Nat)
    (host : Program.Host Wire Wire.Reply m) (op : Operation) : m (Option op.Answer) :=
  (c.perform patience op).run.run.run host

end Client
end CloudProvider
