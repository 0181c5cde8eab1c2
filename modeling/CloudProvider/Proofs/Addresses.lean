import CloudProvider.Proofs.Url.Reference
import CloudProvider.Proofs.Waiting

/-! # Where requests go

An operation on a machine, a disk or an image is a request to the address of this resource under the
endpoint, if the id is plain (`requests_stay`). The id is put into the address as it is: an id that steps up
leads to another resource, of another collection even (`deleteDisk_up`).
-/

namespace CloudProvider
open Url (PlainSegment written slashed percentDecode)

/-- A resource, and what is to be done with it if the method does not tell. -/
structure Target where
  collection : String
  id : String
  action : Option String
  deriving DecidableEq

namespace Target

def segments (t : Target) : List String := t.collection :: t.id :: t.action.toList

/-- The path that operations lead on by. -/
def path (t : Target) : String := .ofList (slashed t.segments)

/-- The id makes one segment of an address. Blanks at the end of an address are left out. -/
structure Plain (t : Target) : Prop where
  segment : PlainSegment t.id
  unblanked : t.action = none → ∀ c, t.id.toList.getLast? = some c → 0x20 < c.toNat

end Target

/-- What an operation is about, if it is about a resource. -/
def Operation.target? : Operation → Option Target
  | .getVm vm | .deleteVm vm => some ⟨"vms", vm, none⟩
  | .startVm vm => some ⟨"vms", vm, some "start"⟩
  | .stopVm vm => some ⟨"vms", vm, some "stop"⟩
  | .restartVm vm => some ⟨"vms", vm, some "restart"⟩
  | .attachDisk vm _ => some ⟨"vms", vm, some "attach_disk"⟩
  | .detachDisk vm _ => some ⟨"vms", vm, some "detach_disk"⟩
  | .attachIso vm _ => some ⟨"vms", vm, some "attach_iso"⟩
  | .detachIso vm => some ⟨"vms", vm, some "detach_iso"⟩
  | .setMetadata vm _ => some ⟨"vms", vm, some "set_metadata"⟩
  | .getDisk disk | .deleteDisk disk => some ⟨"disks", disk, none⟩
  | .deleteImage image => some ⟨"images", image, none⟩
  | .createVm .. | .createDisk .. | .listDisks _ | .createImage .. => none

namespace Client
open Conversation (Records Records.mono Transcript)

/-- The address of a target: the endpoint's path, the collection, the id, and the action if there is one. -/
structure Addresses (c : Client) (t : Target) (url : Url) : Prop where
  origin : url.origin = c.endpoint.origin
  path : ∃ front segment, c.endpoint.path = .segments (front ++ [""]) ∧
    url.path = .segments (front ++ t.collection :: segment :: t.action.toList) ∧
    percentDecode (Text.Utf8.encode segment) = Text.Utf8.encode t.id
  query : url.query = none
  fragment : url.fragment = none

/-- No address is that of two targets. -/
theorem Addresses.unique {c : Client} {t t' : Target} {url : Url} (h : c.Addresses t url)
    (h' : c.Addresses t' url) : t = t' := by
  obtain ⟨front, segment, endpoint, path, read⟩ := h.path
  obtain ⟨front', segment', endpoint', path', read'⟩ := h'.path
  have fronts : front = front' := by
    rw [endpoint] at endpoint'
    exact List.append_cancel_right (Url.Path.segments.inj endpoint')
  subst fronts
  rw [path] at path'
  have tails := List.append_cancel_left (Url.Path.segments.inj path')
  obtain ⟨collection, tails⟩ := List.cons.inj tails
  obtain ⟨segments, actions⟩ := List.cons.inj tails
  have id : t.id = t'.id := Url.encode_injective (by rw [← read, ← read', segments])
  have action : t.action = t'.action := by
    have heads := congrArg List.head? actions
    rwa [Option.head?_toList, Option.head?_toList] at heads
  cases t
  cases t'
  cases collection
  cases id
  cases action
  rfl

/-! ## The address of a plain target -/

/-- The names that operations put around ids. -/
def names : List String := ["vms", "disks", "images", "start", "stop", "restart", "attach_disk", "detach_disk",
  "attach_iso", "detach_iso", "set_metadata"]

theorem names_plain : ∀ name ∈ names, PlainSegment name ∧ written name = name := by
  have undivided : ∀ name ∈ names, (name.toList.all fun c => decide (c ∉ ['/', '\\', '?', '#'])) = true := by decide
  have unblanked : ∀ name ∈ names, (name.toList.all fun c => decide (c ∉ ['\t', '\n', '\r'])) = true := by decide
  have unescaped : ∀ name ∈ names, percentDecode (Text.Utf8.encode name) = Text.Utf8.encode name := by decide
  have stays : ∀ name ∈ names, name ≠ "." ∧ name ≠ ".." := by decide
  have same : ∀ name ∈ names, written name = name := by decide
  intro name h
  exact ⟨⟨Url.forall_of_all (undivided name h), Url.forall_of_all (unblanked name h), unescaped name h,
    (stays name h).1, (stays name h).2⟩, same name h⟩

/-- The endpoint is on the web, and its path is that of `front` with a slash at its end. -/
structure Rooted (c : Client) (front : List String) : Prop where
  web : c.endpoint.kind = .web
  path : c.endpoint.path = .segments (front ++ [""])

/-- Every client of a target on the web is rooted. -/
theorem rooted_of_new {s : ControlPlaneSettings} {c : Client} (made : Client.new s = .ok c)
    (web : c.endpoint.scheme = "http" ∨ c.endpoint.scheme = "https") : ∃ front, c.Rooted front := by
  unfold Client.new at made
  split at made
  · cases made
  · rename_i url parsed
    cases made
    have scheme : url.withTrailingSlash.scheme = url.scheme := by
      unfold Url.withTrailingSlash
      split
      · split <;> rfl
      · split <;> rfl
    have kind : url.withTrailingSlash.kind = .web := by
      rw [Url.kind]
      rcases web with h | h
      · rw [h]
        decide
      · rw [h]
        decide
    rw [Url.kind, scheme] at kind
    obtain ⟨list, segments⟩ := Url.parse_segments parsed kind
    obtain ⟨front, path⟩ := Url.withTrailingSlash_segments segments
    exact ⟨front, by rw [Url.kind, scheme]; exact kind, path⟩

section
variable {c : Client} {front : List String} {t : Target}

/-- What does not begin with a slash is kept as it is. -/
theorem dropWhile_of_head? {path : String} (h : path.toList.head? ≠ some '/') :
    path.toList.dropWhile (· = '/') = path.toList := by
  cases hp : path.toList with
  | nil => rfl
  | cons d ds =>
    rw [hp] at h
    refine List.dropWhile_cons_of_neg ?_
    rw [decide_eq_true_eq]
    rintro rfl
    exact h rfl

/-- A path that begins with a letter leads on from the endpoint as it is. -/
theorem url_eq_join {path : String} (h : path.toList.head? ≠ some '/') {url : Url}
    (joined : c.endpoint.join path = .ok url) : c.url path = .ok url := by
  rw [Client.url, dropWhile_of_head? h, String.ofList_toList, joined]

theorem target?_known {op : Operation} (about : op.target? = some t) :
    t.collection ∈ ["vms", "disks", "images"] ∧ ∀ a ∈ t.action, a ∈ names := by
  cases op <;> cases about <;> simp [names]

/-- Collections have names of letters. -/
theorem collection_letters : ∀ name ∈ ["vms", "disks", "images"],
    name ∈ names ∧ name ≠ "" ∧ (∀ c ∈ name.toList, c.isAlpha = true) ∧ '/' ∉ name.toList := by
  have checked : ∀ name ∈ ["vms", "disks", "images"],
      name ∈ names ∧ name ≠ "" ∧ name.toList.all Char.isAlpha = true ∧ '/' ∉ name.toList := by decide
  intro name h
  obtain ⟨known, filled, letters, undivided⟩ := checked name h
  exact ⟨known, filled, List.all_eq_true.1 letters, undivided⟩

theorem names_unblanked : ∀ name ∈ names, ∀ c ∈ name.toList, Url.Parser.isEdge c = false := by
  have checked : ∀ name ∈ names, name.toList.any Url.Parser.isEdge = false := by decide
  intro name h c hc
  exact Bool.eq_false_iff.2 (List.any_eq_false.1 (checked name h) c hc)

theorem isEdge_of_bare (plain : t.Plain) (bare : t.action = none) {c : Char}
    (last : t.id.toList.getLast? = some c) : Url.Parser.isEdge c = false := by
  have seen := plain.unblanked bare c last
  exact decide_eq_false (by omega)

/-- Nothing is left out at the end of the path of a plain target. -/
theorem isEdge_of_getLast? (plain : t.Plain) (known : ∀ a ∈ t.action, a ∈ names) {c : Char}
    (last : (slashed (t.id :: t.action.toList)).getLast? = some c) : Url.Parser.isEdge c = false := by
  cases ha : t.action with
  | none =>
    rw [ha] at last
    have id : t.id.toList.getLast? = some c := by simpa [slashed] using last
    exact isEdge_of_bare plain ha id
  | some a =>
    rw [ha, Option.toList_some, Url.slashed_cons_cons, Url.getLast?_append_cons] at last
    rcases List.mem_cons.1 (List.mem_of_getLast? last) with rfl | hc
    · decide
    · refine names_unblanked a (known a ha) c ?_
      simpa [slashed] using hc

/-- The path of a plain target leads to its address. -/
theorem url_target (rooted : c.Rooted front) {op : Operation} (about : op.target? = some t) (plain : t.Plain) :
    c.url t.path = .ok { c.endpoint with
      path := .segments (front ++ t.collection :: written t.id :: t.action.toList), query := none, fragment := none } := by
  obtain ⟨collection, known⟩ := target?_known about
  obtain ⟨name, nonempty, letters, noSlash⟩ := collection_letters _ collection
  have segments : ∀ s ∈ t.segments, PlainSegment s := by
    intro s hs
    rcases List.mem_cons.1 hs with rfl | hs
    · exact (names_plain _ name).1
    rcases List.mem_cons.1 hs with rfl | hs
    · exact plain.segment
    · exact (names_plain s (known s (Option.mem_toList.1 hs))).1
  have kept : t.segments.map written = t.collection :: written t.id :: t.action.toList := by
    have same : ∀ a ∈ t.action.toList, written a = a := fun a ha =>
      (names_plain a (known a (Option.mem_toList.1 ha))).2
    have actions : t.action.toList.map written = t.action.toList :=
      (List.map_congr_left same).trans (List.map_id' _)
    rw [Target.segments, List.map_cons, List.map_cons, (names_plain _ name).2, actions]
  have chars : t.path.toList = slashed t.segments := String.toList_ofList
  have joined := Url.join_slashed rooted.web rooted.path nonempty letters segments chars
    fun c hc => isEdge_of_getLast? plain known hc
  rw [← Target.segments, kept] at joined
  refine url_eq_join ?_ joined
  obtain ⟨d, ds, hd⟩ := List.exists_cons_of_ne_nil (mt String.toList_eq_nil_iff.1 nonempty)
  rw [chars, Target.segments, Url.slashed_cons_cons, hd]
  rintro ⟨⟩
  exact noSlash (hd ▸ List.mem_cons_self)

theorem addresses_target (rooted : c.Rooted front) {op : Operation} (about : op.target? = some t)
    (plain : t.Plain) : ∃ url, c.url t.path = .ok url ∧ c.Addresses t url :=
  ⟨_, url_target rooted about plain, rfl, ⟨front, written t.id, rooted.path, rfl, plain.segment.decode_written⟩,
    rfl, rfl⟩

end

/-! ## What is sent -/

/-- The requests of a conversation, in their order. -/
def requests (transcript : Transcript) : List Http.Request :=
  transcript.filterMap fun asked => match asked.op with
    | .exchange request => some request
    | _ => none

/-- A request that asks for a task. -/
def IsPoll (c : Client) (request : Http.Request) : Prop :=
  ∃ (task : String) (url : Url), c.url s!"tasks/{task}" = .ok url ∧ request = c.request .get url .nothing

/-- At most one request to a path, and after it nothing but polls. -/
def SendsTo (c : Client) (path : String) (transcript : Transcript) : Prop :=
  ∃ first later, requests transcript = first ++ later ∧ first.length ≤ 1 ∧
    (∀ request ∈ first, ∃ method url body, c.url path = .ok url ∧ request = c.request method url body) ∧
    ∀ request ∈ later, c.IsPoll request

section
variable {c : Client} {path : String}

theorem requests_append (transcript more : Transcript) :
    requests (transcript ++ more) = requests transcript ++ requests more :=
  List.filterMap_append

theorem SendsTo.of_nothing {transcript : Transcript} (h : requests transcript = []) :
    c.SendsTo path transcript :=
  ⟨[], [], h, Nat.zero_le 1, fun _ hr => absurd hr List.not_mem_nil, fun _ hr => absurd hr List.not_mem_nil⟩

theorem SendsTo.after {transcript more : Transcript} (nothing : requests transcript = [])
    (h : c.SendsTo path more) : c.SendsTo path (transcript ++ more) := by
  obtain ⟨first, later, all, rest⟩ := h
  exact ⟨first, later, by rw [requests_append, nothing, List.nil_append, all], rest⟩

theorem Asks.requests_eq {α : Type} {d : Json.Decoder α} {method : Http.Method} {body : Http.Body}
    {transcript : Transcript} {outcome : Except CloudFault α}
    (h : c.Asks d method path body transcript outcome) :
    requests transcript = [] ∨ ∃ url, c.url path = .ok url ∧ requests transcript = [c.request method url body] := by
  cases h with
  | misled | unsent => exact .inl rfl
  | refused url h hf => exact .inr ⟨url, h, rfl⟩
  | answered url h hf reply => exact .inr ⟨url, h, rfl⟩

theorem Asks.sendsTo {α : Type} {d : Json.Decoder α} {method : Http.Method} {body : Http.Body}
    {transcript more : Transcript} {outcome : Except CloudFault α}
    (h : c.Asks d method path body transcript outcome) (polls : ∀ request ∈ requests more, c.IsPoll request) :
    c.SendsTo path (transcript ++ more) := by
  refine ⟨requests transcript, requests more, requests_append .., ?_, ?_, polls⟩
  · rcases h.requests_eq with none | ⟨url, -, one⟩
    · rw [none]
      exact Nat.zero_le 1
    · rw [one]
      exact Nat.le_refl 1
  · intro request hr
    rcases h.requests_eq with none | ⟨url, leads, one⟩
    · rw [none] at hr
      cases hr
    · rw [one] at hr
      exact ⟨method, url, body, leads, List.mem_singleton.1 hr⟩

theorem Asks.sendsTo_alone {α : Type} {d : Json.Decoder α} {method : Http.Method} {body : Http.Body}
    {transcript : Transcript} {outcome : Except CloudFault α}
    (h : c.Asks d method path body transcript outcome) : c.SendsTo path transcript := by
  have none : ∀ request ∈ requests [], c.IsPoll request := fun _ hr => absurd hr List.not_mem_nil
  have sent := h.sendsTo none
  rwa [List.append_nil] at sent

theorem OnWire.polls {started : Nat} {task : Task} {turns : List Turn} {transcript : Transcript}
    (on : c.OnWire started task turns transcript) : ∀ request ∈ requests transcript, c.IsPoll request := by
  induction on with
  | nothing | late | abandoned => exact fun _ h => nomatch h
  | polled task now h asked on ih =>
    intro request hr
    change request ∈ requests (_ ++ _) at hr
    rw [requests_append] at hr
    rcases List.mem_append.1 hr with hr | hr
    · rcases asked.requests_eq with none | ⟨url, leads, one⟩
      · rw [none] at hr
        cases hr
      · rw [one] at hr
        exact ⟨task.id, url, leads, List.mem_singleton.1 hr⟩
    · exact ih request hr

theorem submit_sendsTo (c : Client) (patience : Nat) (method : Http.Method) (path : String) (body : Http.Body) :
    Records (c.submit patience method path body) fun _ transcript => c.SendsTo path transcript := by
  rw [submit, Conversation.records_bind]
  refine Records.mono (c.sendTo_records Task.decoder method path body) ?_
  rintro r transcript ⟨outcome, rfl, asked⟩
  cases outcome with
  | error fault => exact asked.sendsTo_alone
  | ok task =>
    dsimp only
    rw [Conversation.records_bind, Conversation.records_report]
    dsimp only
    rw [Conversation.records_bind, Conversation.records_ask]
    intro started
    refine Records.mono (c.wait_records started patience 0 task) ?_
    rintro r more ⟨turns, on, -⟩
    exact asked.sendsTo on.polls

theorem fetch_sendsTo {α : Type} (c : Client) (d : Json.Decoder α) (path : String) :
    Records (c.fetch d path) fun _ transcript => c.SendsTo path transcript := by
  refine Records.mono (c.fetch_records d path) ?_
  rintro r transcript ⟨outcome, rfl, asked⟩
  exact asked.sendsTo_alone

theorem path_bare (collection id : String) :
    Target.path ⟨collection, id, none⟩ = collection ++ "/" ++ id := by
  apply String.toList_inj.1
  simp [Target.path, Target.segments, slashed]

theorem path_action (collection id action : String) :
    Target.path ⟨collection, id, some action⟩ = collection ++ "/" ++ id ++ ("/" ++ action) := by
  apply String.toList_inj.1
  simp [Target.path, Target.segments, slashed]

theorem readImage_sends_nothing (path : String) :
    Records (readImage path) fun _ transcript => requests transcript = [] := by
  rw [readImage, Conversation.records_bind, Conversation.records_ask]
  intro content
  dsimp only
  split
  · exact Conversation.records_pure.2 rfl
  · exact Conversation.records_fail.2 rfl

/-- An operation on a resource is a single request to the path of this resource, or a request there and the wait
for a task; what goes before it is not sent. -/
theorem perform_records {op : Operation} {t : Target} (about : op.target? = some t) {patience : Nat}
    {Q : Transcript → Prop} (nothing : ∀ {sent}, requests sent = [] → Q sent)
    (after : ∀ {sent more}, requests sent = [] → Q more → Q (sent ++ more))
    (fetched : ∀ {α : Type} (d : Json.Decoder α), Records (c.fetch d t.path) fun _ sent => Q sent)
    (submitted : ∀ method body, Records (c.submit patience method t.path body) fun _ sent => Q sent) :
    Records (c.perform patience op) fun _ sent => Q sent := by
  cases op with
  | createVm | createDisk | listDisks | createImage => cases about
  | getVm | getDisk =>
    cases about
    rw [path_bare] at fetched
    exact fetched _
  | deleteVm | deleteDisk | deleteImage =>
    cases about
    rw [path_bare] at submitted
    exact submitted _ _
  | startVm | stopVm | restartVm | attachDisk | detachDisk | detachIso | setMetadata =>
    cases about
    rw [path_action] at submitted
    exact submitted _ _
  | attachIso vm path =>
    cases about
    rw [path_action] at submitted
    rw [perform, Conversation.records_bind]
    refine Records.mono (readImage_sends_nothing path) ?_
    intro r sent unsent
    split
    · exact Records.mono (submitted _ _) fun _ more => after unsent
    · exact nothing unsent
    · exact nothing unsent

/-- An operation on a resource sends its request to the path of this resource. -/
theorem perform_sendsTo {op : Operation} {t : Target} (about : op.target? = some t) (patience : Nat) :
    Records (c.perform patience op) fun _ transcript => c.SendsTo t.path transcript :=
  perform_records about .of_nothing .after (fun d => fetch_sendsTo c d t.path)
    fun method body => submit_sendsTo c patience method t.path body

end

/-! ## Plain ids stay, others need not -/

section
variable {c : Client} {t : Target}

/-- A request takes name and password out of an address, and nothing else. -/
theorem Addresses.request {url : Url} (h : c.Addresses t url) (method : Http.Method) (body : Http.Body) :
    c.Addresses t (c.request method url body).url := by
  have taken : (c.request method url body).url = url ∨
      (c.request method url body).url = url.withoutCredentials := by
    rw [Client.request]
    unfold Url.takeCredentials
    dsimp only
    split
    · exact .inl rfl
    · split
      · exact .inl rfl
      · exact .inr rfl
  rcases taken with same | without
  · rwa [same]
  · rw [without]
    exact ⟨h.origin, h.path, h.query, h.fragment⟩

/-- Whatever is replied, an operation on a resource with a plain id sends at most one request that is no poll,
and this one goes to the address of the resource, which is that of no other resource or action. -/
theorem requests_stay {s : ControlPlaneSettings} (made : Client.new s = .ok c)
    (web : c.endpoint.scheme = "http" ∨ c.endpoint.scheme = "https") {op : Operation}
    (about : op.target? = some t) (plain : t.Plain) (patience : Nat) {σ : Type}
    (answer : (op : Wire) → σ → op.Reply × σ) (w : σ) :
    let ran := (c.perform patience op).run.run.recorded answer w
    (∃ url, c.url t.path = .ok url ∧ c.Addresses t url) ∧
      ∃ first later, requests ran.2 = first ++ later ∧ first.length ≤ 1 ∧
        (∀ request ∈ first, c.Addresses t request.url ∧ ∀ t', c.Addresses t' request.url → t' = t) ∧
        ∀ request ∈ later, c.IsPoll request := by
  obtain ⟨front, rooted⟩ := rooted_of_new made web
  obtain ⟨url, leads, addresses⟩ := addresses_target rooted about plain
  refine ⟨⟨url, leads, addresses⟩, ?_⟩
  obtain ⟨first, later, all, one, sent, polls⟩ := (perform_sendsTo about patience).recorded answer w
  refine ⟨first, later, all, one, ?_, polls⟩
  intro request hr
  obtain ⟨method, url', body, leads', rfl⟩ := sent request hr
  cases leads.symm.trans leads'
  have there := addresses.request method body
  exact ⟨there, fun t' there' => there'.unique there⟩

/-- An id with a space, a percent sign and a letter beyond ASCII, under an endpoint with a name and a path. -/
theorem requests_stay_encoded :
    let s : ControlPlaneSettings := ⟨"http://user@none/api", "p", false, none, none, none, none, none⟩
    let t : Target := ⟨"disks", "d 1%\u00e9", none⟩
    let silent : (op : Wire) → Unit → op.Reply × Unit := fun
      | .exchange _, s => (none, s)
      | .openFile _, s => (.error .absent, s)
      | .pause _, s => ((), s)
      | .clock, s => (0, s)
    ∃ c, Client.new s = .ok c ∧ t.Plain ∧ (∃ url, c.url t.path = .ok url ∧ c.Addresses t url) ∧
      ∃ first later,
        requests ((c.perform 0 (.deleteDisk t.id)).run.run.recorded silent ()).2 = first ++ later ∧
          ∀ request ∈ first, c.Addresses t request.url := by
  intro s t silent
  have made : Client.new s = .ok ⟨⟨"http", "user", none, some (.domain "none"), none, .segments ["api", ""], none,
      none⟩, .anonymous, 500, 1800⟩ := Json.ok_of_toOption (by decide +kernel)
  have plain : t.Plain := by
    refine ⟨⟨Url.forall_of_all (by decide), Url.forall_of_all (by decide), by decide, by decide, by decide⟩, ?_⟩
    intro _ c last
    have accented : t.id.toList.getLast? = some '\u00e9' := by decide
    cases accented.symm.trans last
    decide
  have about : (Operation.deleteDisk t.id).target? = some t := rfl
  obtain ⟨leads, first, later, all, -, sent, -⟩ := requests_stay made (.inl rfl) about plain 0 silent ()
  exact ⟨_, made, plain, leads, first, later, all, fun request hr => (sent request hr).1⟩

/-- An id that steps up to the machines makes the address of a disk that of a machine. -/
theorem url_up {front : List String} (rooted : c.Rooted front) {vm : String}
    (plain : Target.Plain ⟨"vms", vm, none⟩) : c.url ("disks/../vms/" ++ vm) = c.url ("vms/" ++ vm) := by
  let bare := "vms".toList ++ '/' :: vm.toList
  have straight : ("vms/" ++ vm).toList = bare := String.toList_append
  have detour : ("disks/../vms/" ++ vm).toList = "disks".toList ++ '/' :: (['.', '.'] ++ '/' :: bare) :=
    String.toList_append
  have unblanked : ∀ d ∈ ['.', '.'] ++ '/' :: bare, d ∉ ['\t', '\n', '\r'] := by
    have front : ∀ d ∈ "../vms/".toList, d ∉ ['\t', '\n', '\r'] := Url.forall_of_all (by decide)
    intro d hd
    have split : d ∈ "../vms/".toList ∨ d ∈ vm.toList := List.mem_append.1 hd
    exact split.elim (front d) (plain.segment.unblanked d)
  have edge : ∀ d, (['.', '.'] ++ '/' :: bare).getLast? = some d → Url.Parser.isEdge d = false := by
    intro d hd
    change ("../vms".toList ++ '/' :: vm.toList).getLast? = some d at hd
    rw [Url.getLast?_append_cons, List.getLast?_cons] at hd
    cases last : vm.toList.getLast? with
    | none =>
      rw [last] at hd
      cases hd
      decide
    | some e =>
      rw [last] at hd
      cases hd
      exact isEdge_of_bare plain rfl last
  have short := Url.join_lettered rooted.web rooted.path (c := 'v') (Url.forall_of_all (by decide))
    plain.segment.unblanked straight fun d hd => isEdge_of_bare plain rfl hd
  have long := Url.join_lettered rooted.web rooted.path (c := 'd') (Url.forall_of_all (by decide)) unblanked
    detour edge
  have disks := (names_plain "disks" (by decide)).1
  rw [detour, Url.readPath_up disks, ← straight] at long
  have starts : ("vms/" ++ vm).toList.head? ≠ some '/' := by
    rw [straight]
    exact fun h => absurd (Option.some.inj h) (by decide)
  have starts' : ("disks/../vms/" ++ vm).toList.head? ≠ some '/' := by
    rw [detour]
    exact fun h => absurd (Option.some.inj h) (by decide)
  rw [url_eq_join starts' long, url_eq_join starts short]

/-- To delete a disk whose id steps up to the machines is to delete a machine. -/
theorem deleteDisk_up {front : List String} (rooted : c.Rooted front) {vm : String}
    (plain : Target.Plain ⟨"vms", vm, none⟩) (patience : Nat) :
    c.perform patience (.deleteDisk ("../vms/" ++ vm)) = c.perform patience (.deleteVm vm) := by
  let detour := "../vms/" ++ vm
  have written : s!"disks/{detour}" = "disks/../vms/" ++ vm := (String.append_assoc ..).symm
  have up : c.url s!"disks/{detour}" = c.url s!"vms/{vm}" := by
    rw [written]
    exact url_up rooted plain
  have leads : ∃ url, c.url s!"vms/{vm}" = .ok url := by
    have about : (Operation.deleteVm vm).target? = some ⟨"vms", vm, none⟩ := rfl
    have there := addresses_target rooted about plain
    rw [path_bare] at there
    obtain ⟨url, leads, -⟩ := there
    exact ⟨url, leads⟩
  obtain ⟨url, leads⟩ := leads
  rw [perform, perform, submit, submit, sendTo, sendTo, up, leads]

end

/-- Not every request stays with its resource: an id may step up. -/
theorem requests_stray : ¬∀ (s : ControlPlaneSettings) (c : Client) (op : Operation) (t : Target) (url : Url),
    Client.new s = .ok c → c.endpoint.scheme = "http" → op.target? = some t → c.url t.path = .ok url →
      c.Addresses t url := by
  intro stay
  let s : ControlPlaneSettings := ⟨"http://none:123", "p", false, none, none, none, none, none⟩
  obtain ⟨c, made, web⟩ : ∃ c, Client.new s = .ok c ∧ c.endpoint.scheme = "http" :=
    ⟨⟨⟨"http", "", none, some (.domain "none"), some 123, .segments [""], none, none⟩, .anonymous, 500, 1800⟩,
      Json.ok_of_toOption (by decide +kernel), rfl⟩
  obtain ⟨front, rooted⟩ := rooted_of_new made (.inl web)
  have plain : Target.Plain ⟨"vms", "vm-1", none⟩ := by
    refine ⟨⟨Url.forall_of_all (by decide), Url.forall_of_all (by decide), by decide, by decide, by decide⟩, ?_⟩
    intro _ c last
    have digit : "vm-1".toList.getLast? = some '1' := by decide
    cases digit.symm.trans last
    decide
  have about : (Operation.deleteVm "vm-1").target? = some ⟨"vms", "vm-1", none⟩ := rfl
  obtain ⟨url, leads, there⟩ := addresses_target rooted about plain
  have up : c.url (Target.path ⟨"disks", "../vms/vm-1", none⟩) = .ok url := by
    rw [path_bare] at leads ⊢
    exact (url_up rooted plain).trans leads
  have disk := stay s c (.deleteDisk "../vms/vm-1") ⟨"disks", "../vms/vm-1", none⟩ url made web rfl up
  exact absurd (disk.unique there) (by decide)

end Client
end CloudProvider
