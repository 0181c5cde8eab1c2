import CloudProvider.Proofs.Authentication
import CloudProvider.Proofs.Pages
import CloudProvider.Proofs.Targets
import CloudProvider.Proofs.Url.Origin

/-! # Where credentials go

Every request has the credentials of its client with it. It goes to the host of the target, whatever ids are put
into its path and whatever has been replied (`credentials_stay`), unless it follows the link of a page: a link
with a scheme or an authority of its own is followed wherever it leads, and the credentials go there too.
-/

namespace CloudProvider
open Url (slashed)

theorem Url.withTrailingSlash_origin (u : Url) : u.withTrailingSlash.origin = u.origin := by
  unfold Url.withTrailingSlash
  split <;> split <;> rfl

theorem Url.takeCredentials_origin (u : Url) : u.takeCredentials.2.origin = u.origin := by
  unfold Url.takeCredentials
  dsimp only
  split
  · rfl
  · split <;> rfl

namespace Client
open Conversation (Records Transcript)
variable {c : Client} {path : String} {sent : Transcript}

/-! ## Requests that reach the target -/

/-- The request goes to the host of the endpoint. -/
def Reaches (c : Client) (request : Http.Request) : Prop := request.url.origin = c.endpoint.origin

/-- The link does not lead on from the endpoint. -/
def Departs (c : Client) (link : String) : Prop :=
  c.endpoint.Departs (.ofList (link.toList.dropWhile (· = '/')))

theorem request_origin (c : Client) (method : Http.Method) (url : Url) (body : Http.Body) :
    (c.request method url body).url.origin = url.origin :=
  url.takeCredentials_origin

/-- A request that is sent goes by HTTP. -/
theorem scheme_of_unflawed {request : Http.Request} (unflawed : request.flaw? = none) :
    request.url.scheme = "http" ∨ request.url.scheme = "https" := by
  unfold Http.Request.flaw? at unflawed
  split at unflawed
  · cases unflawed
  split at unflawed
  · cases unflawed
  split at unflawed
  · cases unflawed
  · rename_i sendable
    rw [Bool.not_eq_true', Bool.not_eq_false, Http.isSendable, Bool.and_eq_true, Bool.or_eq_true] at sendable
    exact sendable.1.imp of_decide_eq_true of_decide_eq_true

theorem kind_web_of_scheme {u : Url} (h : u.scheme = "http" ∨ u.scheme = "https") : u.kind = .web := by
  rw [Url.kind]
  rcases h with h | h <;> rw [h] <;> decide

/-- What does not depart reaches the target, if it is sent. -/
theorem reaches_of_stays (stays : ¬c.Departs path) {url : Url} (leads : c.url path = .ok url) {method : Http.Method}
    {body : Http.Body} (unflawed : (c.request method url body).flaw? = none) :
    c.Reaches (c.request method url body) := by
  have same := request_origin c method url body
  have joined := join_of_url leads
  have web : c.endpoint.kind = .web := by
    have scheme : (c.request method url body).url.scheme = c.endpoint.scheme :=
      (congrArg Prod.fst same).trans (Url.join_scheme joined stays)
    exact kind_web_of_scheme (scheme ▸ scheme_of_unflawed unflawed)
  exact same.trans (Url.join_stays joined web stays)

/-- The collections that paths begin with. -/
def collections : List String := ["vms", "disks", "images", "projects", "tasks"]

/-- A path that an operation goes by, whatever ids are in it. -/
def Onward (path : String) : Prop :=
  path = "images" ∨ ∃ name ∈ collections, ∃ rest, path.toList = name.toList ++ '/' :: rest

/-- Their names are of letters, and of two at least. -/
theorem collections_lettered : ∀ name ∈ collections, ∃ d e cs, name.toList = d :: e :: cs ∧
    ∀ l ∈ name.toList, l.isAlpha = true := by
  have checked : ∀ name ∈ collections, 2 ≤ name.toList.length ∧ name.toList.all Char.isAlpha = true := by decide
  intro name known
  obtain ⟨long, letters⟩ := checked name known
  match hn : name.toList with
  | [] | [_] => simp [hn] at long
  | d :: e :: cs => exact ⟨d, e, cs, rfl, List.all_eq_true.1 (hn ▸ letters)⟩

theorem Onward.url_origin (onward : Onward path) {url : Url} (leads : c.url path = .ok url) :
    url.origin = c.endpoint.origin := by
  rcases onward with rfl | ⟨name, known, rest, hp⟩
  · have relevant : Url.Parser.relevant (.ofList ("images".toList.dropWhile (· = '/'))) =
        'i' :: 'm' :: ['a', 'g', 'e', 's'] := by decide
    exact Url.join_letters_stays (join_of_url leads) relevant (by decide) (by decide) (by decide)
  · obtain ⟨d, e, cs, hn, letters⟩ := collections_lettered name known
    have filled : name ≠ "" := fun empty => by simp [empty] at hn
    obtain ⟨joined, rest', relevant⟩ := join_named filled letters hp leads
    rw [hn] at letters relevant
    have hd := letters d List.mem_cons_self
    have he := letters e (List.mem_cons_of_mem _ List.mem_cons_self)
    exact Url.join_letters_stays joined relevant hd he (Url.scheme?_eq_none letters rest')

theorem Onward.reaches (onward : Onward path) {url : Url} (leads : c.url path = .ok url) (method : Http.Method)
    (body : Http.Body) : c.Reaches (c.request method url body) :=
  (request_origin c method url body).trans (onward.url_origin leads)

theorem onward_task (id : String) : Onward s!"tasks/{id}" :=
  .inr ⟨"tasks", by decide, id.toList, String.toList_append⟩

theorem onward_path (op : Operation) : Onward op.path := by
  have named (name : String) (known : name ∈ collections) {id : String} {more : List String}
      (segments : op.segments = name :: id :: more) : Onward op.path := by
    refine .inr ⟨name, known, slashed (id :: more), ?_⟩
    rw [Operation.path, segments, String.toList_ofList, Url.slashed_cons_cons]
  cases op with
  | createImage => exact .inl (String.ofList_eq.2 rfl)
  | createVm | createDisk | listDisks => exact named "projects" (by decide) rfl
  | getVm | deleteVm | startVm | stopVm | restartVm | attachDisk | detachDisk | attachIso | detachIso | setMetadata =>
    exact named "vms" (by decide) rfl
  | getDisk | deleteDisk => exact named "disks" (by decide) rfl
  | deleteImage => exact named "images" (by decide) rfl

/-! ## What is sent -/

/-- The request follows the link of the page that has just come, and this departs. -/
def LedAway (c : Client) (before : Transcript) (request : Http.Request) : Prop :=
  ∃ earlier previous reply page link url, before = earlier ++ [⟨.exchange previous, some reply⟩] ∧
    readReply DiskPage.decoder reply = .ok page ∧ page.next? = some link ∧ c.Departs link ∧
    c.url link = .ok url ∧ request = c.request .get url .nothing

/-- Every request has the credentials with it, and reaches the target unless it is led away. -/
def Confined (c : Client) (sent : Transcript) : Prop :=
  ∀ before request reply after, sent = before ++ ⟨.exchange request, reply⟩ :: after →
    c.credentials.authorization <:+ request.authorization ∧ (c.Reaches request ∨ c.LedAway before request)

theorem LedAway.after {before : Transcript} {request : Http.Request} (h : c.LedAway before request)
    (sent : Transcript) : c.LedAway (sent ++ before) request := by
  obtain ⟨earlier, previous, reply, page, link, url, rfl, rest⟩ := h
  exact ⟨sent ++ earlier, previous, reply, page, link, url, (List.append_assoc ..).symm, rest⟩

/-- The last request of one operation leads no other operation away. -/
theorem confined_composes (c : Client) : Process.Composes c.Confined where
  nothing := fun before _ _ _ h => absurd h.symm (List.append_ne_nil_of_right_ne_nil before nofun)
  append := by
    intro sent more confined confined' before request reply after h
    rcases List.append_eq_append_iff.1 h with ⟨before', rfl, rest⟩ | ⟨_ | ⟨asked, after'⟩, rfl, rest⟩
    · exact (confined' before' request reply after rest).imp_right (Or.imp_right (·.after sent))
    · have led (h : c.LedAway [] request) : c.LedAway before request := List.append_nil before ▸ h.after before
      exact (confined' [] request reply after rest.symm).imp_right (Or.imp_right led)
    · obtain ⟨rfl, rfl⟩ := List.cons.inj rest
      exact confined before request reply after' rfl

theorem request_credentials (c : Client) (method : Http.Method) (url : Url) (body : Http.Body) :
    c.credentials.authorization <:+ (c.request method url body).authorization :=
  List.suffix_append ..

theorem mem_requests {request : Http.Request} {reply : Option Http.Reply}
    (asked : ⟨.exchange request, reply⟩ ∈ sent) : request ∈ requests sent :=
  List.mem_filterMap.2 ⟨_, asked, rfl⟩

theorem SendsTo.confined (onward : Onward path) (h : c.SendsTo path sent) : c.Confined sent := by
  rintro before request reply after rfl
  obtain ⟨first, later, all, -, sent, polls⟩ := h
  have asked : request ∈ first ++ later := all ▸ mem_requests (List.mem_append_right before List.mem_cons_self)
  rcases List.mem_append.1 asked with asked | asked
  · obtain ⟨method, url, body, leads, rfl⟩ := sent request asked
    exact ⟨request_credentials .., .inl (onward.reaches leads method body)⟩
  · obtain ⟨task, url, leads, rfl⟩ := polls request asked
    exact ⟨request_credentials .., .inl ((onward_task task).reaches leads .get .nothing)⟩

/-- A single request is the first that is sent. -/
theorem Asks.split {α : Type} {d : Json.Decoder α} {method : Http.Method} {body : Http.Body}
    {outcome : Except CloudFault α} (h : c.Asks d method path body sent outcome) {before after : Transcript}
    {request : Http.Request} {reply : Option Http.Reply} (split : sent = before ++ ⟨.exchange request, reply⟩ :: after) :
    before = [] ∧ ∃ url, c.url path = .ok url ∧ request = c.request method url body ∧ request.flaw? = none := by
  cases h with
  | misled | unsent => exact absurd split.symm (List.append_ne_nil_of_right_ne_nil before nofun)
  | refused url leads unflawed | answered url leads unflawed =>
    cases before with
    | nil =>
      cases split
      exact ⟨rfl, url, leads, rfl, unflawed⟩
    | cons asked before => exact absurd (List.cons.inj split).2.symm (List.append_ne_nil_of_right_ne_nil before nofun)

/-- In a chain of pages every request follows the link of the page that has just come, but for the first. -/
theorem Chain.split {pages : List DiskPage} {ending : Option (Except CloudFault Unit)}
    (h : c.Chain path pages ending sent) {before after : Transcript} {request : Http.Request}
    {reply : Option Http.Reply} (split : sent = before ++ ⟨.exchange request, reply⟩ :: after) :
    ∃ link url, c.url link = .ok url ∧ request = c.request .get url .nothing ∧ request.flaw? = none ∧
      (before = [] ∧ link = path ∨ ∃ earlier previous came page,
        before = earlier ++ [⟨.exchange previous, some came⟩] ∧ readReply DiskPage.decoder came = .ok page ∧
          page.next? = some link) := by
  induction h generalizing before with
  | @broken path _ _ asks | @last path _ _ asks | @unfinished path _ _ _ asks =>
    obtain ⟨rfl, url, leads, rfl, unflawed⟩ := asks.split split
    exact ⟨path, url, leads, rfl, unflawed, .inl ⟨rfl, rfl⟩⟩
  | @more path link sent rest page pages ending asks linked onward ih =>
    obtain ⟨url, came, leads, rfl, reads⟩ := asks.of_ok
    cases before with
    | nil =>
      cases split
      obtain ⟨-, url, leads, same, unflawed⟩ := asks.split (List.nil_append _).symm
      exact ⟨path, url, leads, same, unflawed, .inl ⟨rfl, rfl⟩⟩
    | cons asked before =>
      obtain ⟨rfl, onward⟩ := List.cons.inj split
      obtain ⟨link', url', leads', rfl, unflawed, place⟩ := ih onward
      refine ⟨link', url', leads', rfl, unflawed, .inr ?_⟩
      rcases place with ⟨rfl, rfl⟩ | ⟨earlier, previous, came', page', rfl, reads', linked'⟩
      · exact ⟨[], _, came, page, rfl, reads, linked⟩
      · exact ⟨_ :: earlier, previous, came', page', rfl, reads', linked'⟩

theorem Chain.confined {pages : List DiskPage} {ending : Option (Except CloudFault Unit)}
    (h : c.Chain path pages ending sent) (onward : Onward path) : c.Confined sent := by
  intro before request reply after split
  obtain ⟨link, url, leads, sent, unflawed, place⟩ := h.split split
  refine ⟨sent ▸ request_credentials c .get url .nothing, ?_⟩
  by_cases departs : c.Departs link
  · rcases place with ⟨-, rfl⟩ | ⟨earlier, previous, came, page, follows, reads, linked⟩
    · exact .inl (sent ▸ onward.reaches leads .get .nothing)
    · exact .inr ⟨earlier, previous, came, page, link, url, follows, reads, linked, departs, leads, sent⟩
  · subst sent
    exact .inl (reaches_of_stays departs leads unflawed)

/-- Whatever is replied, an operation is confined. -/
theorem perform_confined (c : Client) (patience : Nat) (op : Operation) :
    Records (c.perform patience op) fun _ sent => c.Confined sent := by
  have submitted (method : Http.Method) (path : String) (onward : Onward path) (body : Http.Body) :
      Records (c.submit patience method path body) fun _ sent => c.Confined sent :=
    (submit_sendsTo c patience method path body).mono fun _ _ sent => sent.confined onward
  have onward := onward_path op
  cases about : op.target? with
  | some t =>
    rw [Operation.path_eq about] at onward
    exact (perform_sendsTo about patience).mono fun _ _ sent => sent.confined onward
  | none =>
    cases op with
    | createVm project spec | createDisk project spec =>
      rw [Operation.path, Operation.segments, path_project] at onward
      exact submitted _ _ onward _
    | listDisks project =>
      rw [Operation.path, Operation.segments, path_project] at onward
      refine (c.listPages_records patience _).mono ?_
      rintro _ sent ⟨pages, ending, chain, -⟩
      exact chain.confined onward
    | createImage name file => exact submitted _ _ onward _
    | _ => cases about

end Client

namespace Process
open Client (requests pageReply)
variable {Path : Type}

theorem call_confined (patience : Nat) (p : Startup.Prepared) :
    Wires (call patience p : Course Path Response) p.client.Confined := by
  have composes := Client.confined_composes p.client
  rw [call_eq]
  -- What the program does is not asked for, so it is kept from being evaluated.
  generalize Dispatch.run .default p.settings p.request.method p.request.arguments = program
  exact (run_wires composes (Client.perform_confined p.client patience) program _).bind composes
    fun _ => composes.nothing

/-- Whatever is replied to a call, its requests have the credentials of the settings with them and go to the
scheme, host and port of the target, but for those by the link of a page that has a scheme or an authority of its
own. -/
theorem credentials_stay {p : Startup.Prepared} (made : Client.new p.settings.controlPlane = .ok p.client)
    (patience : Nat) {σ : Type} (answer : (op : Op Path) → σ → op.Reply × σ) (s : σ) :
    ∃ target, Url.parse p.settings.controlPlane.target = .ok target ∧
      ∀ before request reply after,
        wired ((call patience p).run.recorded answer s).2 = before ++ ⟨.exchange request, reply⟩ :: after →
        (Credentials.ofSettings p.settings.controlPlane).authorization <:+ request.authorization ∧
          (request.url.origin = target.origin ∨ p.client.LedAway before request) := by
  obtain ⟨target, parsed, endpoint⟩ := Client.new_ok made
  have confined := (call_confined patience p).recorded answer s
  have origin : p.client.endpoint.origin = target.origin := by rw [endpoint, Url.withTrailingSlash_origin]
  refine ⟨target, parsed, fun before request reply after sent => ?_⟩
  obtain ⟨authorized, place⟩ := confined before request reply after sent
  rw [Client.new_credentials made] at authorized
  exact ⟨authorized, place.imp_left origin.subst⟩

/-- A system with a control plane, and without files. -/
def servedSystem (serve : Http.Request → Option Http.Reply) : (op : Op String) → Unit → op.Reply × Unit
  | .wire op, s => Client.serving serve op s
  | op, s => loneSystem [] op s

/-- A call for the disks of a machine, with a token. -/
def tokenCall : Startup.Prepared where
  request := ⟨"get_disks", [.str "vm-1"]⟩
  settings := ⟨⟨"http://none:123", "p", false, none, none, some "secret", none, none⟩, ⟨"m", [], .none⟩⟩
  client := { Client.plain with credentials := .bearer "secret" }

theorem tokenCall_made : Client.new tokenCall.settings.controlPlane = .ok tokenCall.client :=
  Json.ok_of_toOption (by decide +kernel)

/-- Two pages, of which the first links to the second, and two requests with the token. -/
theorem credentials_stay_two_pages :
    let serve := fun request : Http.Request =>
      some (pageReply (if request.url.query.isSome then "" else "//projects/p/disks?page=2"))
    let sent := wired ((call 1 tokenCall).run.recorded (servedSystem serve) ()).2
    (requests sent).map (·.url.text) = ["http://none:123/projects/p/disks", "http://none:123/projects/p/disks?page=2"] ∧
      ∃ target, Url.parse tokenCall.settings.controlPlane.target = .ok target ∧
        ∀ before request reply after, sent = before ++ ⟨.exchange request, reply⟩ :: after →
          (Credentials.ofSettings tokenCall.settings.controlPlane).authorization <:+ request.authorization ∧
            (request.url.origin = target.origin ∨ tokenCall.client.LedAway before request) := by
  intro serve sent
  have stays := credentials_stay tokenCall_made 1 (servedSystem serve) ()
  exact ⟨by decide +kernel, stays⟩

/-- Credentials do not always stay with the target: a page may link to another host. -/
theorem credentials_leave : ¬∀ (p : Startup.Prepared) (target : Url) (patience : Nat)
    (serve : Http.Request → Option Http.Reply), Client.new p.settings.controlPlane = .ok p.client →
    Url.parse p.settings.controlPlane.target = .ok target →
      ∀ request ∈ requests (wired ((call patience p).run.recorded (servedSystem serve) ()).2),
        request.authorization ≠ [] → request.url.origin = target.origin := by
  intro stay
  let serve := fun request : Http.Request =>
    some (pageReply (if request.url.host = some (.domain "none") then "http://other/disks" else ""))
  have sent : (requests (wired ((call 1 tokenCall).run.recorded (servedSystem serve) ()).2)).map
      (fun request => (request.authorization, request.url.origin)) =
        [(["Bearer secret"], "http", some (.domain "none"), some 123),
          (["Bearer secret"], "http", some (.domain "other"), none)] := by decide +kernel
  have away : (["Bearer secret"], "http", some (Url.Host.domain "other"), none) ∈
      (requests (wired ((call 1 tokenCall).run.recorded (servedSystem serve) ()).2)).map
        (fun request => (request.authorization, request.url.origin)) := by
    rw [sent]
    exact List.mem_cons_of_mem _ List.mem_cons_self
  obtain ⟨request, asked, same⟩ := List.mem_map.1 away
  obtain ⟨authorized, origin⟩ := Prod.mk.inj same
  have parsed : Url.parse tokenCall.settings.controlPlane.target =
      .ok ⟨"http", "", none, some (.domain "none"), some 123, .segments [""], none, none⟩ :=
    Json.ok_of_toOption (by decide +kernel)
  have stayed := stay tokenCall _ 1 serve tokenCall_made parsed request asked (by rw [authorized]; decide)
  rw [origin] at stayed
  exact absurd stayed (by decide)

end Process
end CloudProvider
