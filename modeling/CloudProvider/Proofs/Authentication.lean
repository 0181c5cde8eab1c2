import CloudProvider.Proofs.Addresses
import CloudProvider.Proofs.Footprint
import CloudProvider.Proofs.Url.Onward
import CloudProvider.Proofs.Wired

/-! # Who authenticates

Whether the provider authenticates is decided twice: when a client chooses its credentials, and when a denied
look-up is read. The two agree but for a name with an empty password, which the client sends and the other does
not count (`ofSettings_ne_anonymous`, `hasCredentials_iff`). Where they agree, a look-up that is denied finds
nothing if and only if its request was authenticated.
-/

namespace CloudProvider
open Conversation (Transcript)

/-! ## The two decisions -/

namespace ControlPlaneSettings
variable {s : ControlPlaneSettings}

theorem isFilled_iff {value : Option String} : isFilled value = true ↔ ∃ text, value = some text ∧ text ≠ "" := by
  cases value <;> simp [isFilled]

theorem filter_filled (value : Option String) :
    value.filter (· ≠ "") = if isFilled value then value else none := by
  cases value with
  | none => rfl
  | some text => simp [Option.filter, isFilled]

theorem hasCredentials_iff :
    s.hasCredentials = true ↔ isFilled s.token = true ∨ isFilled s.username = true ∧ isFilled s.password = true := by
  rw [hasCredentials, Bool.or_eq_true, Bool.and_eq_true]

/-- A client takes any password, if there is a name. -/
theorem ofSettings_ne_anonymous : Credentials.ofSettings s ≠ .anonymous ↔
    isFilled s.token = true ∨ isFilled s.username = true ∧ s.password.isSome = true := by
  rw [Credentials.ofSettings, filter_filled, filter_filled]
  cases token : isFilled s.token with
  | true =>
    obtain ⟨text, given, -⟩ := isFilled_iff.1 token
    simp [given]
  | false =>
    cases username : isFilled s.username with
    | true =>
      obtain ⟨text, given, -⟩ := isFilled_iff.1 username
      cases s.password <;> simp [given]
    | false => simp

/-- A name with an empty password, and no token that would come before it. -/
structure LacksPassword (s : ControlPlaneSettings) : Prop where
  token : isFilled s.token = false
  username : isFilled s.username = true
  password : s.password = some ""

/-- The two decisions agree on all settings but these. -/
theorem agree_iff : (s.hasCredentials = true ↔ Credentials.ofSettings s ≠ .anonymous) ↔ ¬s.LacksPassword := by
  rw [hasCredentials_iff, ofSettings_ne_anonymous]
  constructor
  · rintro agree ⟨token, username, password⟩
    rcases agree.2 (.inr ⟨username, by rw [password]; rfl⟩) with filled | ⟨-, filled⟩
    · exact Bool.false_ne_true (token.symm.trans filled)
    · rw [password] at filled
      exact absurd filled (by decide)
  · intro lacks
    cases token : isFilled s.token with
    | true => exact iff_of_true (.inl rfl) (.inl rfl)
    | false =>
      refine or_congr_right (and_congr_right fun username => ⟨fun filled => ?_, fun given => ?_⟩)
      · obtain ⟨text, hp, -⟩ := isFilled_iff.1 filled
        rw [hp]
        rfl
      · obtain ⟨text, hp⟩ := Option.isSome_iff_exists.1 given
        refine isFilled_iff.2 ⟨text, hp, fun empty => lacks ⟨token, username, ?_⟩⟩
        rw [hp, empty]

end ControlPlaneSettings

theorem Credentials.authorization_ne_nil {c : Credentials} : c.authorization ≠ [] ↔ c ≠ .anonymous := by
  cases c <;> simp [authorization]

/-! ## What a request carries -/

namespace Client
variable {c : Client}

theorem new_credentials {s : ControlPlaneSettings} (made : Client.new s = .ok c) :
    c.credentials = .ofSettings s := by
  unfold Client.new at made
  split at made <;> cases made
  rfl

/-- The authorization headers of requests under the endpoint: that of the target's name and password, if it
has them, and that of the credentials. -/
def authorization (c : Client) : List String := c.endpoint.takeCredentials.1 ++ c.credentials.authorization

theorem takeCredentials_congr {url url' : Url} (username : url.username = url'.username)
    (password : url.password = url'.password) : url.takeCredentials.1 = url'.takeCredentials.1 := by
  unfold Url.takeCredentials
  rw [username, password]
  dsimp only
  split
  · rfl
  · split <;> rfl

theorem join_of_url {path : String} {url : Url} (leads : c.url path = .ok url) :
    c.endpoint.join (.ofList (path.toList.dropWhile (· = '/'))) = .ok url := by
  unfold Client.url at leads
  split at leads <;> cases leads
  assumption

/-- A path that begins with a name of letters is completed as it is, and the name counts. -/
theorem join_named {name path : String} {rest : List Char} (filled : name ≠ "")
    (letters : ∀ d ∈ name.toList, d.isAlpha = true) (hp : path.toList = name.toList ++ '/' :: rest) {url : Url}
    (leads : c.url path = .ok url) : c.endpoint.join path = .ok url ∧
      ∃ rest', Url.Parser.relevant path = name.toList ++ '/' :: rest' := by
  have nonempty : name.toList ≠ [] := mt String.toList_eq_nil_iff.1 filled
  constructor
  · have kept : path.toList.dropWhile (· = '/') = path.toList := by
      obtain ⟨d, ds, hd⟩ := List.exists_cons_of_ne_nil nonempty
      refine dropWhile_of_head? fun slash => ?_
      rw [hp, hd] at slash
      cases slash
      exact absurd (letters '/' (hd ▸ List.mem_cons_self)) (by decide)
    have joined := join_of_url leads
    rwa [kept, String.ofList_toList] at joined
  · have seen : ∀ e ∈ name.toList ++ ['/'], Url.Parser.isEdge e = false := by
      intro e he
      rcases List.mem_append.1 he with he | he
      · exact Url.isAlpha_not_edge (letters e he)
      · rw [List.mem_singleton.1 he]
        decide
    have front : path.toList = (name.toList ++ ['/']) ++ rest := by rw [hp, List.append_assoc]; rfl
    obtain ⟨rest', hr⟩ := Url.relevant_front front (List.append_ne_nil_of_left_ne_nil nonempty _) seen
    exact ⟨rest', by rw [hr, List.append_assoc]; rfl⟩

/-- Look-ups of whatever id carry the same authorization. -/
theorem request_authorization {collection id path : String} (known : collection ∈ ["vms", "disks", "images"])
    (hp : path.toList = collection.toList ++ '/' :: id.toList) {url : Url} (leads : c.url path = .ok url)
    (method : Http.Method) (body : Http.Body) : (c.request method url body).authorization = c.authorization := by
  obtain ⟨-, filled, letters, -⟩ := collection_letters collection known
  obtain ⟨joined, rest, relevant⟩ := join_named filled letters hp leads
  obtain ⟨d, ds, hd⟩ := List.exists_cons_of_ne_nil (mt String.toList_eq_nil_iff.1 filled)
  rw [hd] at letters relevant
  obtain ⟨username, password⟩ := Url.join_keeps_userinfo letters relevant joined
  exact congrArg (· ++ c.credentials.authorization) (takeCredentials_congr username password)

/-! ## Denials -/

/-- The reply denies what was asked for, and can be read. -/
def IsDenial (reply : Http.Reply) : Prop := reply.status = 403 ∧ reply.body.isSome = true

theorem readReply_of_denial {α : Type} (d : Json.Decoder α) {reply : Http.Reply} (denial : IsDenial reply) :
    ∃ code message, readReply d reply = .error (.api 403 code message) := by
  obtain ⟨status, body⟩ := denial
  obtain ⟨bytes, hb⟩ := Option.isSome_iff_exists.1 body
  have unsuccessful : reply.isSuccess = false := by rw [Http.Reply.isSuccess, status]; rfl
  rw [readReply, hb]
  dsimp only
  rw [unsuccessful, if_neg Bool.false_ne_true, status, rejection]
  split <;> exact ⟨_, _, rfl⟩

/-- Of what was sent, if it was denied: there was one request, with the authorization of the client, and the
outcome is in `Q`. -/
def IfDenied {α : Type} (c : Client) (Q : α → Prop) (outcome : α) (sent : Transcript) : Prop :=
  ∀ request reply, ⟨.exchange request, some reply⟩ ∈ sent → IsDenial reply →
    requests sent = [request] ∧ request.authorization = c.authorization ∧ Q outcome

theorem Asks.ifDenied {α : Type} {d : Json.Decoder α} {collection id path : String}
    (known : collection ∈ ["vms", "disks", "images"]) (hp : path.toList = collection.toList ++ '/' :: id.toList)
    {method : Http.Method} {body : Http.Body} {sent : Transcript} {outcome : Except CloudFault α}
    (h : c.Asks d method path body sent outcome) :
    c.IfDenied (fun outcome => ∃ code message, outcome = .error (.api 403 code message)) outcome sent := by
  intro request reply asked denial
  cases h with
  | misled | unsent => cases asked
  | refused url leads => cases List.mem_singleton.1 asked
  | answered url leads unflawed reply' =>
    cases List.mem_singleton.1 asked
    exact ⟨rfl, request_authorization known hp leads method body, readReply_of_denial d denial⟩

/-- What an effect of a look-up comes to. -/
def LookedUp (c : Client) : (e : Effect) → e.Reply → Transcript → Prop
  | .remote _, answer, sent =>
    c.IfDenied (fun answer => ∃ code message, answer = .error (.api 403 code message)) answer sent
  | _, _, sent => sent = []

theorem fetch_lookedUp {α : Type} (d : Json.Decoder α) {collection id path : String}
    (known : collection ∈ ["vms", "disks", "images"]) (hp : path.toList = collection.toList ++ '/' :: id.toList) :
    (c.fetch d path).Records fun r sent => ∃ answer, r = some answer ∧
      c.IfDenied (fun answer => ∃ code message, answer = .error (.api 403 code message)) answer sent := by
  refine (c.fetch_records d path).mono ?_
  rintro r sent ⟨answer, rfl, asks⟩
  exact ⟨answer, rfl, asks.ifDenied known hp⟩

theorem perform_lookedUp {op : Operation} (looks : op.name = "get_vm" ∨ op.name = "get_disk") (patience : Nat) :
    (c.perform patience op).Records fun r sent => ∃ answer, r = some answer ∧ c.LookedUp (.remote op) answer sent := by
  cases op with
  | getVm vm =>
    have hp : s!"vms/{vm}".toList = "vms".toList ++ '/' :: vm.toList := String.toList_append
    exact fetch_lookedUp Vm.decoder (by decide) hp
  | getDisk disk =>
    have hp : s!"disks/{disk}".toList = "disks".toList ++ '/' :: disk.toList := String.toList_append
    exact fetch_lookedUp PersistentDisk.decoder (by decide) hp
  | _ => simp [Operation.name] at looks

end Client

/-! ## Look-ups -/

/-- The methods that look something up. -/
def lookUps : List String := ["has_vm", "has_disk"]

section
variable {c : Client} {settings : Settings} {sent : Transcript}

/-- A look-up that is denied finds nothing if the settings count as authenticating, and fails if not. -/
theorem Call.exists_ends (settings : Settings) (what : String) (op : Operation) :
    Program.Ends (Process.Sends c.LookedUp) (Call.exists settings what op).run
      (c.IfDenied fun r => r = .ok false ↔ settings.controlPlane.hasCredentials = true) [] := by
  rw [Call.ends_run, Call.exists, Call.ends_bind, Call.ends_attempt]
  rintro answer sent ⟨_, rfl, looked⟩
  cases answer with
  | ok x =>
    intro request reply asked denial
    obtain ⟨-, -, code, message, failed⟩ := looked request reply asked denial
    cases failed
  | error fault =>
    -- Which way the failure is read is decided by the settings only where the look-up is denied.
    have denied (r : Except Failure Bool)
        (read : ∀ code message, fault = .api 403 code message →
          (r = .ok false ↔ settings.controlPlane.hasCredentials = true)) :
        c.IfDenied (fun r => r = .ok false ↔ settings.controlPlane.hasCredentials = true) r sent := by
      intro request reply asked denial
      obtain ⟨one, carried, code, message, failed⟩ := looked request reply asked denial
      exact ⟨one, carried, read code message (Except.error.inj failed)⟩
    dsimp only
    split
    · rename_i absent
      rw [Call.ends_bind, Call.ends_info, Call.ends_pure]
      refine denied _ ?_
      rintro code message rfl
      exact iff_of_true rfl absent
    · rename_i present
      rw [Call.fail, Call.ends_ofExcept]
      refine denied _ ?_
      rintro code message rfl
      exact iff_of_false (fun h => nomatch h) present

theorem Client.IfDenied.map {α β : Type} {Q : α → Prop} {R : β → Prop} {outcome : α} {outcome' : β}
    (h : c.IfDenied Q outcome sent) (hQ : Q outcome → R outcome') : c.IfDenied R outcome' sent :=
  fun request reply asked denial => (h request reply asked denial).imp_right (And.imp_right hQ)

/-- The calls are look-ups of the machine or the disk of their argument. -/
theorem Handler.lookUp_ends {method : String} {call : Settings → List Json → Call Json} (h : Handler method call)
    (looks : method ∈ lookUps) (settings : Settings) (args : List Json) :
    Program.Ends (Process.Sends c.LookedUp) (call settings args).run
      (c.IfDenied fun r => r = .ok (.bool false) ↔ settings.controlPlane.hasCredentials = true) [] := by
  have unasked {r : Except Failure Json} : c.IfDenied
      (fun r => r = .ok (.bool false) ↔ settings.controlPlane.hasCredentials = true) r [] :=
    fun _ _ asked => nomatch asked
  have lookedUp (what : String) (op : Operation) :
      Program.Ends (Process.Sends c.LookedUp) (do return Json.bool (← Call.exists settings what op) : Call Json).run
        (c.IfDenied fun r => r = .ok (.bool false) ↔ settings.controlPlane.hasCredentials = true) [] := by
    rw [Call.ends_run, Call.ends_bind]
    refine (Call.exists_ends settings what op).mono fun r sent denied => ?_
    cases r with
    | ok found => exact denied.map fun read => by simpa using read
    | error f => exact denied.map fun read => by simpa using read
  cases h with
  | hasVm =>
    rw [Call.ends_run, Vms.has, Call.ends_bind, Call.ends_argument]
    cases Arguments.vmId args with
    | error fault => exact unasked
    | ok vm =>
      change Call.Ends _ (_ >>= _) _ _ _
      rw [Call.ends_bind, Call.ends_info, ← Call.ends_run]
      exact lookedUp _ _
  | hasDisk =>
    rw [Call.ends_run, Disks.has, Call.ends_bind, Call.ends_argument]
    cases Disks.diskId args with
    | error fault => exact unasked
    | ok disk =>
      change Call.Ends _ (_ >>= _) _ _ _
      rw [Call.ends_bind, Call.ends_info, ← Call.ends_run]
      exact lookedUp _ _
  | _ => simp [lookUps] at looks

end

namespace Process
variable {Path : Type} {c : Client} {patience : Nat} {method : String}

theorem answer_lookedUp (looks : method ∈ lookUps) (e : Effect) (within : e.Within (footprint method))
    (log : CallLog) : Gives ((answer c patience e : Logged (Course Path) e.Reply).run log)
      fun r sent => c.LookedUp e r.1 sent := by
  cases e with
  | remote op =>
    refine answer_gives (Client.perform_lookedUp ?_ patience) log
    simp only [lookUps, List.mem_cons, List.not_mem_nil, or_false] at looks
    rcases looks with rfl | rfl
    · exact .inl (List.mem_singleton.1 within)
    · exact .inr (List.mem_singleton.1 within)
  | runTool | openFile | writeFile | createDirectory | createFile | removeDirectory | removeFile =>
    refine answer_gives_of_isLocal ?_ log
    trivial

/-- However a look-up goes in a process, if it is denied it finds nothing just when the settings count as
authenticating. -/
theorem lookUp_denied {call : Settings → List Json → Call Json} (handler : Handler method call)
    (looks : method ∈ lookUps) (settings : Settings) (args : List Json) (log : CallLog) :
    Gives (((call settings args).run.run (host c patience) : Logged (Course Path) (Except Failure Json)).run log)
      fun r sent =>
        c.IfDenied (fun r => r = .ok (.bool false) ↔ settings.controlPlane.hasCredentials = true) r.1 sent :=
  run_gives (answer_lookedUp looks) (handler.within settings args) (handler.lookUp_ends looks settings args) log

end Process

namespace Client

/-- Settings count as authenticating if and only if the client sends credentials, but where there is a name
with an empty password. Otherwise, and if the target itself holds no name and password, a look-up that is denied
was one request, and it finds nothing if and only if this request was authenticated. -/
theorem authenticates {settings : Settings} {c : Client} (made : Client.new settings.controlPlane = .ok c) :
    ((settings.controlPlane.hasCredentials = true ↔ c.credentials ≠ .anonymous) ↔
      ¬settings.controlPlane.LacksPassword) ∧
    (¬settings.controlPlane.LacksPassword → c.endpoint.takeCredentials.1 = [] →
      ∀ {method : String} {call : Settings → List Json → Call Json}, Handler method call → method ∈ lookUps →
      ∀ {Path : Type} (args : List Json) (patience : Nat) (log : CallLog),
        Process.Gives
          (((call settings args).run.run (Process.host c patience) :
            Logged (Process.Course Path) (Except Failure Json)).run log)
          fun r sent => ∀ request reply, ⟨.exchange request, some reply⟩ ∈ sent → IsDenial reply →
            requests sent = [request] ∧ (r.1 = .ok (.bool false) ↔ request.authorization ≠ [])) := by
  have chosen := new_credentials made
  have agree := ControlPlaneSettings.agree_iff (s := settings.controlPlane)
  rw [← chosen] at agree
  refine ⟨agree, fun whole bare method call handler looks Path args patience log => ?_⟩
  refine (Process.lookUp_denied handler looks settings args log).mono fun r sent denied request reply asked denial => ?_
  obtain ⟨one, carried, read⟩ := denied request reply asked denial
  have authenticated : c.authorization ≠ [] ↔ settings.controlPlane.hasCredentials = true := by
    rw [authorization, bare, List.nil_append, Credentials.authorization_ne_nil]
    exact (agree.2 whole).symm
  exact ⟨one, by rw [read, carried, authenticated]⟩

/-- A name and a password, and an empty token, which is as good as none. -/
theorem authenticates_by_name :
    let settings : Settings :=
      ⟨⟨"http://none:123", "p", false, some "admin", some "secret", some "", none, none⟩, ⟨"m", [], .none⟩⟩
    ∃ c, Client.new settings.controlPlane = .ok c ∧ c.credentials ≠ .anonymous ∧
      c.endpoint.takeCredentials.1 = [] ∧ ¬settings.controlPlane.LacksPassword ∧
      Process.Gives
        (((Vms.has settings [.str "vm-1"]).run.run (Process.host c 0) :
          Logged (Process.Course String) (Except Failure Json)).run .empty)
        fun r sent => ∀ request reply, ⟨.exchange request, some reply⟩ ∈ sent → IsDenial reply →
          requests sent = [request] ∧ (r.1 = .ok (.bool false) ↔ request.authorization ≠ []) := by
  intro settings
  have made : Client.new settings.controlPlane = .ok ⟨⟨"http", "", none, some (.domain "none"), some 123,
      .segments [""], none, none⟩, .basic "admin" "secret", 500, 1800⟩ := Json.ok_of_toOption (by decide +kernel)
  have whole : ¬settings.controlPlane.LacksPassword := fun lacks => absurd lacks.password (by decide)
  obtain ⟨-, denied⟩ := authenticates made
  exact ⟨_, made, by decide, rfl, whole, denied whole rfl .hasVm (by decide) _ _ _⟩

/-- Not all settings count as authenticating by which the client sends credentials. -/
theorem authenticates_without_password : ¬∀ (s : ControlPlaneSettings) (c : Client), Client.new s = .ok c →
    (s.hasCredentials = true ↔ c.credentials ≠ .anonymous) := by
  intro agree
  let s : ControlPlaneSettings := ⟨"http://none:123", "p", false, some "admin", some "", none, none, none⟩
  have made : Client.new s = .ok ⟨⟨"http", "", none, some (.domain "none"), some 123, .segments [""], none, none⟩,
      .basic "admin" "", 500, 1800⟩ := Json.ok_of_toOption (by decide +kernel)
  have counted := (agree s _ made).2 (by decide)
  exact absurd counted (by decide)

end Client
end CloudProvider
