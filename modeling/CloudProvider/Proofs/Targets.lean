import CloudProvider.Proofs.Addresses
import CloudProvider.Proofs.Documents
import CloudProvider.Proofs.Results
import CloudProvider.Proofs.Url.Slash

/-! # What targets are good for

Settings that make sense name a target that is an address, and so there is a client. Whether its requests lead
anywhere depends on the target: if its path is divided into segments every request of plain ids goes under it,
with or without a slash at its end; if it is not, no request goes anywhere.
-/

namespace CloudProvider
open Url (IsName slashed)

/-- An id of letters, digits and hyphens. -/
def IsId (id : String) : Prop := ∀ c ∈ id.toList, c.isAlphanum = true ∨ c = '-'

theorem IsId.isName {id : String} (h : IsId id) : IsName id := by
  intro c hc
  rcases h c hc with digit | hyphen
  · simp [Url.isNameChar, digit]
  · simp [Url.isNameChar, hyphen]

namespace Operation

/-- The path by which the first request of an operation goes, in segments. -/
def segments : Operation → List String
  | .createVm project _ => ["projects", project, "vms"]
  | .createDisk project _ | .listDisks project => ["projects", project, "disks"]
  | .createImage .. => ["images"]
  | op => (op.target?.map Target.segments).getD []

/-- The ids in it. -/
def ids : Operation → List String
  | .createVm project _ | .createDisk project _ | .listDisks project => [project]
  | op => (op.target?.map Target.id).toList

def path (op : Operation) : String := .ofList (slashed op.segments)

end Operation

theorem Operation.path_eq {op : Operation} {t : Target} (about : op.target? = some t) : op.path = t.path := by
  cases op <;> cases about <;> rfl

/-- The paths that requests go by, if ids are plain. -/
inductive RequestPath : String → Prop
  | operation (op : Operation) (ids : ∀ id ∈ op.ids, IsId id) : RequestPath op.path
  | task (id : String) (h : IsId id) : RequestPath s!"tasks/{id}"

/-- The names that requests put around ids. -/
def pathNames : List String := "projects" :: "tasks" :: Client.names

theorem pathNames_filled : ∀ name ∈ pathNames, name ≠ "" ∧ IsName name := by
  have checked : ∀ name ∈ pathNames,
      name ≠ "" ∧ (name.toList.all fun c => decide (Url.isNameChar c = true)) = true := by decide
  exact fun name hn => (checked name hn).imp_right Url.forall_of_all

/-- A path begins with one of the names, and what else is in it is one of them or an id. -/
theorem Operation.segments_eq (op : Operation) : ∃ first rest, op.segments = first :: rest ∧ first ∈ pathNames ∧
    ∀ s ∈ rest, s ∈ pathNames ∨ s ∈ op.ids := by
  cases op <;> refine ⟨_, _, rfl, ?_, ?_⟩ <;>
    simp [pathNames, Client.names, Operation.ids, Operation.target?]

/-- They are paths of names, of which the first is not empty. -/
theorem RequestPath.names {path : String} (h : RequestPath path) : ∃ first segments,
    path.toList = slashed (first :: segments) ∧ first ≠ "" ∧ ∀ s ∈ first :: segments, IsName s := by
  cases h with
  | operation op ids =>
    obtain ⟨first, rest, segments, known, others⟩ := op.segments_eq
    obtain ⟨filled, name⟩ := pathNames_filled first known
    refine ⟨first, rest, ?_, filled, List.forall_mem_cons.2 ⟨name, fun s hs => ?_⟩⟩
    · rw [Operation.path, String.toList_ofList, segments]
    · exact (others s hs).elim (fun known => (pathNames_filled s known).2) fun id => (ids s id).isName
  | task id h =>
    have tasks := pathNames_filled "tasks" (by decide)
    refine ⟨"tasks", [id], ?_, tasks.1, by simpa using ⟨tasks.2, h.isName⟩⟩
    have written : s!"tasks/{id}".toList = "tasks".toList ++ '/' :: id.toList := String.toList_append
    rw [written, Url.slashed_cons_cons]
    simp [slashed]

namespace Client
open Conversation (Records Transcript)
variable {c : Client}

/-! ## Where the first request goes -/

/-- The first request goes to the path, if there is one. -/
def GoesTo (c : Client) (path : String) (sent : Transcript) : Prop :=
  ∀ request, (requests sent).head? = some request →
    ∃ method url body, c.url path = .ok url ∧ request = c.request method url body

section
variable {α : Type} {d : Json.Decoder α} {path : String} {method : Http.Method} {body : Http.Body} {sent : Transcript}

theorem GoesTo.of_nothing (nothing : requests sent = []) : c.GoesTo path sent := by
  intro request first
  rw [nothing] at first
  cases first

theorem Asks.goesTo {outcome : Except CloudFault α} (h : c.Asks d method path body sent outcome) :
    c.GoesTo path sent := by
  rcases h.requests_eq with none | ⟨url, leads, one⟩
  · exact .of_nothing none
  · intro request first
    rw [one] at first
    cases first
    exact ⟨method, url, body, leads, rfl⟩

/-- What comes after a reply that could be read does not change it. -/
theorem Asks.goesTo_append {x : α} (h : c.Asks d method path body sent (.ok x)) (more : Transcript) :
    c.GoesTo path (sent ++ more) := by
  generalize hr : Except.ok x = outcome at h
  cases h with
  | misled | unsent | refused => cases hr
  | answered url leads unflawed reply =>
    intro request first
    cases first
    exact ⟨method, url, body, leads, rfl⟩

theorem GoesTo.after {more : Transcript} (nothing : requests sent = []) (h : c.GoesTo path more) :
    c.GoesTo path (sent ++ more) := by
  intro request first
  rw [requests_append, nothing] at first
  exact h request first

theorem records_of_forall (p : Conversation α) {Q : Option (Except CloudFault α) → Transcript → Prop}
    (h : ∀ r sent, Q r sent) : Records p Q := by
  unfold Conversation.Records
  exact Program.Ends.of_forall h _ _

/-- What goes on from the reply to a request does not matter to where the request went. -/
theorem goesTo_bind {β : Type} {p : Conversation α} {f : α → Conversation β}
    (h : Records p fun r sent => ∃ outcome, r = some outcome ∧ c.Asks d method path body sent outcome) :
    Records (p >>= f) fun _ sent => c.GoesTo path sent := by
  rw [Conversation.records_bind]
  refine Records.mono h ?_
  rintro r sent ⟨outcome, rfl, asks⟩
  cases outcome with
  | error fault => exact asks.goesTo
  | ok x => exact records_of_forall _ fun _ more => asks.goesTo_append more

theorem fetch_goesTo (c : Client) (d : Json.Decoder α) (path : String) :
    Records (c.fetch d path) fun _ sent => c.GoesTo path sent := by
  refine Records.mono (c.fetch_records d path) ?_
  rintro r sent ⟨outcome, rfl, asks⟩
  exact asks.goesTo

theorem submit_goesTo (c : Client) (patience : Nat) (method : Http.Method) (path : String) (body : Http.Body) :
    Records (c.submit patience method path body) fun _ sent => c.GoesTo path sent := by
  rw [submit]
  exact goesTo_bind (c.sendTo_records Task.decoder method path body)

/-- A listing begins with a page. -/
theorem listPages_bind (c : Client) (patience : Nat) (path : String) :
    ∃ f, c.listPages patience path = c.fetch DiskPage.decoder path >>= f := by
  -- Its equations take long to derive, as the recursion is beneath a bind.
  delta listPages
  cases patience with
  | zero => exact ⟨_, rfl⟩
  | succ patience => exact ⟨_, rfl⟩

theorem listPages_goesTo (c : Client) (patience : Nat) (path : String) :
    Records (c.listPages patience path) fun _ sent => c.GoesTo path sent := by
  obtain ⟨f, begun⟩ := c.listPages_bind patience path
  rw [begun]
  exact goesTo_bind (c.fetch_records DiskPage.decoder path)

theorem path_project (project kind : String) :
    String.ofList (slashed ["projects", project, kind]) = "projects/" ++ project ++ ("/" ++ kind) := by
  apply String.toList_inj.1
  simp [slashed]

/-- The first request of an operation goes by its path. -/
theorem perform_goesTo (op : Operation) (patience : Nat) :
    Records (c.perform patience op) fun _ sent => c.GoesTo op.path sent := by
  cases about : op.target? with
  | some t =>
    rw [Operation.path_eq about]
    exact perform_records about .of_nothing .after (fun d => fetch_goesTo c d t.path)
      fun method body => submit_goesTo c patience method t.path body
  | none =>
    cases op with
    | createVm project spec | createDisk project spec =>
      rw [Operation.path, Operation.segments, path_project]
      exact submit_goesTo c patience _ _ _
    | listDisks project =>
      rw [Operation.path, Operation.segments, path_project]
      exact listPages_goesTo c patience _
    | createImage name file => exact submit_goesTo c patience _ _ _
    | _ => cases about

end

/-! ## Targets that lead on, and others -/

theorem new_ok {s : ControlPlaneSettings} (made : Client.new s = .ok c) :
    ∃ url, Url.parse s.target = .ok url ∧ c.endpoint = url.withTrailingSlash := by
  unfold Client.new at made
  split at made
  · cases made
  · rename_i url parsed
    cases made
    exact ⟨url, parsed, rfl⟩

section
variable {path : String} (requested : RequestPath path)
include requested

theorem url_eq : c.url path = match c.endpoint.join path with
    | .ok url => .ok url
    | .error fault => .error (.transport s!"invalid request path '{path}': {fault.message}") := by
  obtain ⟨first, segments, hp, filled, names⟩ := requested.names
  obtain ⟨d, ds, hd, name⟩ := Url.reference_cons filled names hp
  have kept : path.toList.dropWhile (· = '/') = path.toList := by
    refine dropWhile_of_head? fun slash => ?_
    rw [hd] at slash
    cases slash
    exact absurd name (by decide)
  cases joined : c.endpoint.join path <;> rw [Client.url, kept, String.ofList_toList, joined]

/-- Under a path that is divided a request goes where its own path leads on. -/
theorem url_grounded {front : List String} (grounded : c.endpoint.Grounded front) :
    ∃ first segments, path.toList = slashed (first :: segments) ∧ first ≠ "" ∧
      c.url path = .ok { c.endpoint.bare with path := .segments (front ++ first :: segments) } := by
  obtain ⟨first, segments, hp, filled, names⟩ := requested.names
  refine ⟨first, segments, hp, filled, ?_⟩
  rw [url_eq requested, Url.join_names filled names hp grounded]

/-- Under a path that is not divided a request goes nowhere. -/
theorem url_whole {text : String} (whole : c.endpoint.path = .whole text) : c.url path =
    .error (.transport s!"invalid request path '{path}': {Url.Fault.relativeToWhole.message}") := by
  obtain ⟨first, segments, hp, filled, names⟩ := requested.names
  obtain ⟨d, ds, hd, name⟩ := Url.reference_cons filled names hp
  have notHash : d ≠ '#' := fun hash => absurd (hash ▸ name) (by decide)
  have colon : ':' ∉ d :: ds := hd ▸ Url.unmarked_reference names hp (by decide) (by decide)
  have relevant := (Url.relevant_reference names hp).trans hd
  rw [url_eq requested, Url.join_whole whole relevant notHash (Url.scheme?_of_not_mem colon)]

end

/-- The second target is the first with a slash at its end, which does not end in one. -/
structure AddsSlash (kind : Url.SchemeKind) (target target' : String) : Prop where
  added : Url.Parser.relevant target' = Url.Parser.relevant target ++ ['/']
  unended : Url.Open kind (Url.Parser.relevant target)

section
variable {s : ControlPlaneSettings} (made : Client.new s = .ok c) {list : List String}
variable (divided : c.endpoint.path = .segments list)
include made divided

/-- The endpoint is the target with a slash at the end of its path. -/
theorem new_divided : ∃ url list, Url.parse s.target = .ok url ∧ url.path = .segments list ∧
    c.endpoint = url.withTrailingSlash ∧ c.endpoint.kind = url.kind := by
  obtain ⟨url, parsed, he⟩ := new_ok made
  cases hp : url.path with
  | whole text =>
    obtain ⟨text', whole⟩ := Url.withTrailingSlash_whole hp
    rw [he, whole] at divided
    cases divided
  | segments list =>
    refine ⟨url, list, parsed, hp, he, ?_⟩
    rw [he, Url.withTrailingSlash_eq hp]
    rfl

theorem new_grounded : ∃ front, c.endpoint.Grounded front := by
  obtain ⟨url, list, parsed, hp, he, -⟩ := new_divided made divided
  rw [he]
  exact Url.parse_grounded parsed hp

/-- Whether there is a slash at the end of the target or not, requests go to the same addresses. -/
theorem url_slash {s' : ControlPlaneSettings} {c' : Client} (made' : Client.new s' = .ok c')
    (slash : AddsSlash c.endpoint.kind s.target s'.target) {path : String} (requested : RequestPath path) :
    c'.url path = c.url path := by
  obtain ⟨url, list, parsed, hp, he, kind⟩ := new_divided made divided
  obtain ⟨url', parsed', he'⟩ := new_ok made'
  obtain ⟨front, grounded⟩ := new_grounded made divided
  have more := Url.parse_slash parsed parsed' slash.added (kind ▸ slash.unended) hp
  have same : c'.endpoint.bare = c.endpoint.bare := by
    rw [he, he']
    exact more.withTrailingSlash
  obtain ⟨first, segments, hs, filled, names⟩ := requested.names
  rw [url_eq requested, url_eq requested, Url.join_names filled names hs grounded,
    Url.join_names filled names hs (grounded.of_bare same), same]

end

end Client

/-! ## Settings that make sense -/

/-- The target of settings that make sense is an address. -/
theorem Settings.target_of_parse {valueOf : String → Option String} {patience : Nat} {text : String}
    {settings : Settings} (accepted : parse valueOf patience text = some (.ok settings)) :
    ∃ url, Url.parse settings.controlPlane.target = .ok url := by
  unfold parse at accepted
  split at accepted
  · cases accepted
  · obtain ⟨expanded, -, valid⟩ := Option.map_eq_some_iff.1 accepted
    unfold validate at valid
    split at valid
    · cases valid
    · rename_i sound
      cases valid
      unfold problem? at sound
      split at sound
      · cases sound
      · exact ⟨_, ‹_›⟩

namespace Client
open Conversation (Records)

/-- Settings that make sense have a client. Where the path of its endpoint is divided, every request of plain
ids has an address: the endpoint without query and fragment, and after it the path of the request; with a slash
at the end of the target it is the same. Where it is not divided, no request has an address. -/
theorem targets_lead_on {valueOf : String → Option String} {patience : Nat} {text : String} {settings : Settings}
    (accepted : Settings.parse valueOf patience text = some (.ok settings)) :
    ∃ c, Client.new settings.controlPlane = .ok c ∧
      (∀ carrier, carrier settings.controlPlane.ignoreCertificate = .ok () →
        Client.connect carrier settings.controlPlane = .ok c) ∧
      (∀ op patience, Records (c.perform patience op) fun _ sent => c.GoesTo op.path sent) ∧
      (∀ list, c.endpoint.path = .segments list → ∀ path, RequestPath path →
        (∃ url, c.url path = .ok url ∧ url.text = c.endpoint.bare.text ++ path) ∧
        ∀ target' c', AddsSlash c.endpoint.kind settings.controlPlane.target target' →
          Client.new { settings.controlPlane with target := target' } = .ok c' → c'.url path = c.url path) ∧
      ∀ whole, c.endpoint.path = .whole whole → ∀ path, RequestPath path → c.url path =
        .error (.transport s!"invalid request path '{path}': {Url.Fault.relativeToWhole.message}") := by
  obtain ⟨url, parsed⟩ := Settings.target_of_parse accepted
  obtain ⟨c, made⟩ : ∃ c, Client.new settings.controlPlane = .ok c := ⟨_, by rw [Client.new, parsed]⟩
  refine ⟨c, made, ?_, fun op patience => perform_goesTo op patience, ?_, ?_⟩
  · intro carrier ready
    rw [connect, made]
    simp only [bind, Except.bind, ready, Except.mapError, pure, Except.pure]
  · intro list divided path requested
    constructor
    · obtain ⟨front, grounded⟩ := new_grounded made divided
      obtain ⟨first, segments, hp, filled, leads⟩ := url_grounded requested grounded
      exact ⟨_, leads, Url.text_onward grounded.path filled hp⟩
    · intro target' c' slash made'
      exact url_slash made divided made' slash requested
  · intro whole undivided path requested
    exact url_whole requested undivided

/-- A target with a name and a query, and the same with a slash, which becomes part of the query. -/
theorem targets_lead_on_under_path :
    let settings := Settings.bare "http://user@none/api?x" "p" "m"
    Settings.parse (fun _ => none) 0 settings.toJson.text = some (.ok settings) ∧
      ∃ c url, Client.new settings.controlPlane = .ok c ∧ RequestPath "vms/vm-1" ∧ c.url "vms/vm-1" = .ok url ∧
        url.text = "http://user@none/api/" ++ "vms/vm-1" ∧
        ∀ c', Client.new { settings.controlPlane with target := "http://user@none/api?x" ++ "/" } = .ok c' →
          c'.url "vms/vm-1" = c.url "vms/vm-1" := by
  intro settings
  have accepted := Settings.parse_text (Settings.bare_whole "http://user@none/api?x" "p" "m") (by decide +kernel) rfl
    (by decide +kernel)
  have requested : RequestPath "vms/vm-1" := by
    have ids : ∀ id ∈ (Operation.getVm "vm-1").ids, IsId id := by
      intro id hid
      rw [List.mem_singleton.1 hid]
      exact Url.forall_of_all (by decide)
    exact .operation (.getVm "vm-1") ids
  obtain ⟨c, made, -, -, divided, -⟩ := targets_lead_on accepted
  have endpoint : c = ⟨⟨"http", "user", none, some (.domain "none"), none, .segments ["api", ""], some "x", none⟩,
      .anonymous, 500, 1800⟩ := Except.ok.inj (made.symm.trans (Json.ok_of_toOption (by decide +kernel)))
  subst endpoint
  obtain ⟨⟨url, leads, text⟩, slash⟩ := divided _ rfl _ requested
  have base : Url.text (Url.bare ⟨"http", "user", none, some (.domain "none"), none, .segments ["api", ""], some "x",
      none⟩) = "http://user@none/api/" := by decide
  have added : AddsSlash .web "http://user@none/api?x" ("http://user@none/api?x" ++ "/") := by
    refine ⟨Url.relevant_slash fun c last => ?_, fun c last => ?_⟩
    · cases last
      decide
    · cases last
      decide
  exact ⟨accepted, _, url, made, requested, leads, text.trans (congrArg (· ++ "vms/vm-1") base),
    fun c' made' => slash _ c' added made'⟩

/-- Not all settings that make sense have a client whose requests have addresses. -/
theorem targets_lead_nowhere : ¬∀ (text : String) (settings : Settings),
    Settings.parse (fun _ => none) 0 text = some (.ok settings) → ∀ path, RequestPath path →
      ∃ c url, Client.new settings.controlPlane = .ok c ∧ c.url path = .ok url := by
  intro leads
  have accepted := Settings.parse_text (Settings.bare_whole "localhost:8080" "p" "m") (by decide +kernel) rfl
    (by decide +kernel)
  have requested : RequestPath (Operation.createImage "name" ⟨.ok []⟩).path := .operation _ fun id hid => nomatch hid
  obtain ⟨c, url, made, there⟩ := leads _ _ accepted _ requested
  have endpoint : c = ⟨⟨"localhost", "", none, none, none, .whole "8080/", none, none⟩, .anonymous, 500, 1800⟩ :=
    Except.ok.inj (made.symm.trans (Json.ok_of_toOption (by decide +kernel)))
  subst endpoint
  cases there.symm.trans (url_whole requested rfl)

end Client
end CloudProvider
