import CloudProvider.Proofs.Destinations
import CloudProvider.Proofs.Listing

/-! # The id of what has been made

A call that makes a machine, a disk or a stemcell returns the id of the entity that a task names: of the only task
that comes completed while the operation lasts (`submit_completes`), and so of the first that comes completed in the
whole call (`created_named`). If the control plane names no entity in it, the id is empty.
-/

namespace CloudProvider
open Conversation (Records Transcript)

/-! ## Tasks that come over the wire -/

/-- The task that a reply holds. -/
def Asked.task? : Asked Wire.Reply → Option Task
  | ⟨.exchange _, some reply⟩ => (Client.readReply Task.decoder reply).toOption
  | _ => none

/-- The completed tasks that have come, in their order. -/
def completedTasks (sent : Transcript) : List Task :=
  (sent.filterMap Asked.task?).filter fun task => task.state = .completed

theorem completedTasks_append (sent more : Transcript) :
    completedTasks (sent ++ more) = completedTasks sent ++ completedTasks more := by
  rw [completedTasks, List.filterMap_append, List.filter_append]
  rfl

/-- The task that a turn has brought. -/
def Turn.received? : Turn → Option Task
  | .polled (.ok task) => some task
  | _ => none

namespace Client
variable {c : Client}

theorem Asks.tasks {method : Http.Method} {path : String} {body : Http.Body} {sent : Transcript}
    {outcome : Except CloudFault Task} (h : c.Asks Task.decoder method path body sent outcome) :
    sent.filterMap Asked.task? = outcome.toOption.toList := by
  cases h with
  | misled | unsent | refused => rfl
  | answered url leads unflawed reply => cases h : readReply Task.decoder reply <;> simp [Asked.task?, h, Except.toOption]

theorem OnWire.tasks {started : Nat} {task : Task} {turns : List Turn} {sent : Transcript}
    (on : c.OnWire started task turns sent) : sent.filterMap Asked.task? = turns.filterMap Turn.received? := by
  induction on with
  | nothing | late | abandoned => rfl
  | @polled task now inTime outcome asks rest turns asked on ih =>
    change (asks ++ rest).filterMap Asked.task? = _
    rw [List.filterMap_append, asked.tasks, ih]
    cases outcome with
    | error fault => rfl
    | ok received => rfl

/-- Of the tasks that a wait has seen only the one that it ends with is completed. -/
theorem Waits.completed_alone {patience failures : Nat} {task t : Task} {turns : List Turn}
    {r : Option (Except CloudFault Task)} (h : c.Waits patience failures task turns r) (hr : r = some (.ok t)) :
    (task :: turns.filterMap Turn.received?).filter (fun task => task.state = .completed) = [t] := by
  have pending {task : Task} (h : task.state.isTerminal = false) (tasks : List Task) :
      (task :: tasks).filter (fun task => task.state = .completed) =
        tasks.filter fun task => task.state = .completed := by
    refine List.filter_cons_of_neg fun completed => ?_
    rw [of_decide_eq_true completed] at h
    cases h
  induction h with
  | completed completed =>
    cases hr
    exact List.filter_cons_of_pos (decide_eq_true completed)
  | failed | late | abandoned | unreachable | refused => cases hr
  | received open' rest ih => exact (pending open' _).trans (ih hr)
  | missed open' few rest ih => exact ih hr

/-- An operation that ends well has seen one completed task, which is what it ends with. -/
theorem submit_completes (c : Client) (patience : Nat) (method : Http.Method) (path : String) (body : Http.Body) :
    Records (c.submit patience method path body) fun r sent =>
      ∀ t, r = some (.ok t) → completedTasks sent = [t] := by
  rw [submit, Conversation.records_bind]
  refine Records.mono (c.sendTo_records Task.decoder method path body) ?_
  rintro r sent ⟨outcome, rfl, asked⟩
  cases outcome with
  | error fault =>
    intro t failed
    cases failed
  | ok task =>
    dsimp only
    rw [Conversation.records_bind, Conversation.records_report]
    dsimp only
    rw [Conversation.records_bind, Conversation.records_ask]
    intro started
    refine Records.mono (c.wait_records started patience 0 task) ?_
    rintro r more ⟨turns, on, waits⟩ t hr
    have seen : (sent ++ ([] ++ ([(⟨.clock, started⟩ : Asked Wire.Reply)] ++ more))).filterMap Asked.task? =
        task :: turns.filterMap Turn.received? := by
      rw [List.nil_append, List.filterMap_append, List.filterMap_append, asked.tasks, on.tasks]
      rfl
    rw [completedTasks, seen]
    exact waits.completed_alone hr

end Client

/-! ## Runs that come to a result -/

namespace Process
variable {Path : Type} {α β : Type}

/-- Whatever is replied, if it comes to a result, `Q` holds of this and of what has gone over the wire. -/
def Delivers (x : Course Path α) (Q : α → Transcript → Prop) : Prop :=
  Comes x fun r sent => ∀ a, r = some a → Q a sent

section
variable {x : Course Path α} {f : α → Course Path β} {Q : α → Transcript → Prop} {R : β → Transcript → Prop}

theorem Delivers.pure {a : α} (h : Q a []) : Delivers (Pure.pure a : Course Path α) Q := by
  refine Comes.pure fun b hb => ?_
  cases hb
  exact h

theorem Gives.delivers (h : Gives x Q) : Delivers x Q := by
  refine h.comes fun a sent hq b hb => ?_
  cases hb
  exact hq

theorem Delivers.bind (hx : Delivers x Q) (hf : ∀ a sent, Q a sent → Delivers (f a) fun b more => R b (sent ++ more)) :
    Delivers (x >>= f) R := by
  refine comes_bind.2 (hx.mono fun r sent hq => ?_)
  cases r with
  | none => exact fun b hb => nomatch hb
  | some a => exact hf a sent (hq a rfl)

end

variable {client : Client} {patience : Nat}

/-- A run that comes to a result delivers what its program ends in, if its effects deliver their answers. -/
theorem run_delivers {Q : (e : Effect) → e.Reply → Transcript → Prop}
    (answers : ∀ e log, Delivers ((answer client patience e : Logged (Course Path) e.Reply).run log)
      fun r sent => Q e r.1 sent)
    {p : Activity α} {R : α → Transcript → Prop} {before : Transcript} (ends : Program.Ends (Sends Q) p R before)
    (log : CallLog) :
    Delivers ((p.run (host client patience) : Logged (Course Path) α).run log)
      fun r sent => R r.1 (before ++ sent) := by
  induction p generalizing before log with
  | pure x => exact .pure ((List.append_nil before).symm ▸ ends)
  | emit e next ih =>
    refine (note_gives e log).delivers.bind ?_
    rintro r sent rfl
    exact ih ends r.2
  | perform e next ih =>
    refine (answers e log).bind fun r sent hq => ?_
    refine (ih r.1 (ends r.1 _ ⟨sent, rfl, hq⟩) r.2).mono fun r' more hr a ha => ?_
    change R a.1 (before ++ (sent ++ more))
    exact List.append_assoc .. ▸ hr a ha

end Process

/-! ## Creations -/

/-- How effects are answered over the wire: while something is made, its task is the one that comes completed, and
what is local sends nothing. -/
def Effect.Made : (e : Effect) → e.Reply → Transcript → Prop
  | .remote (.createVm _ _), r, sent => ∀ task : Task, r = .ok task → completedTasks sent = [task]
  | .remote (.createDisk _ _), r, sent => ∀ task : Task, r = .ok task → completedTasks sent = [task]
  | .remote (.createImage _ _), r, sent => ∀ task : Task, r = .ok task → completedTasks sent = [task]
  | .remote _, _, _ => True
  | _, _, sent => sent = []

namespace Process
variable {Path : Type}

theorem answer_made (client : Client) (patience : Nat) (e : Effect) (log : CallLog) :
    Delivers ((answer client patience e : Logged (Course Path) e.Reply).run log) fun r sent => e.Made r.1 sent := by
  cases e with
  | remote op =>
    have performed : (client.perform patience op).Records
        fun r sent => ∀ a, r = some a → (Effect.remote op).Made a sent := by
      have made {method : Http.Method} {path : String} {body : Http.Body} :
          (client.submit patience method path body).Records
            fun r sent => ∀ a, r = some a → ∀ task : Task, a = .ok task → completedTasks sent = [task] :=
        Records.mono (client.submit_completes patience method path body) fun r sent completes a ha task ok =>
          completes task (ha.trans (congrArg some ok))
      cases op with
      | createVm | createDisk | createImage => exact made
      | _ => exact Client.records_of_forall _ fun _ _ _ _ => trivial
    refine (answer_comes performed log).mono fun r sent made a ha => made a.1 ?_
    rw [ha]
    rfl
  | runTool | openFile | writeFile | createDirectory | createFile | removeDirectory | removeFile =>
    refine (answer_gives_of_isLocal ?_ log).delivers
    trivial

theorem made_quiet : Quiet (Sends Effect.Made) := by
  rintro e before r after isLocal ⟨more, rfl, made⟩
  cases e with
  | remote op => exact absurd isLocal id
  | runTool | openFile | writeFile | createDirectory | createFile | removeDirectory | removeFile =>
    rw [made, List.append_nil]

/-- The result is the id of the entity of the first task that has come completed. -/
def Named (result : Json) (sent : Transcript) : Prop :=
  ∃ task, (completedTasks sent).head? = some task ∧ result = .str task.entity.id

/-- What comes later does not make another task the first. -/
theorem ends_named {call : Call Json} {task : Task} {sent : Transcript}
    (returns : Call.Returns (· = .str task.entity.id) call) (first : (completedTasks sent).head? = some task) :
    Call.Ends (Sends Effect.Made) call Named (fun _ _ => True) sent := by
  have stays : Call.Leaves (Sends Effect.Made) call (fun sent => (completedTasks sent).head? = some task) sent := by
    refine Call.leaves_of_only (Program.only_true _) ?_ first
    rintro e before r after - ⟨more, rfl, -⟩ first
    rw [completedTasks_append, List.head?_append, first]
    rfl
  exact ((returns _ _ sent).and stays).mono (fun result sent h => ⟨task, h.2, h.1⟩) fun _ _ _ => trivial

/-- A call that goes on with the id of what it has made, and returns it. -/
theorem ends_made (op : Operation) {f : op.Reply → Call Json} (entity : op.Reply → Task)
    (made : ∀ r sent, (Effect.remote op).Made (.ok r) sent → completedTasks sent = [entity r])
    (returns : ∀ r, Call.Returns (· = .str (entity r).entity.id) (f r)) :
    Call.Ends (Sends Effect.Made) (Call.remote op >>= f) Named (fun _ _ => True) [] := by
  rw [Call.ends_bind, Call.ends_remote]
  rintro (fault | r) after ⟨sent, rfl, h⟩
  · trivial
  · refine ends_named (returns r) ?_
    rw [made r after h]
    rfl

theorem createDisk_named (settings : Settings) (args : List Json) :
    Call.Ends (Sends Effect.Made) (Disks.create settings args) Named (fun _ _ => True) [] := by
  rw [Disks.create, Call.ends_bind, Call.ends_argument]
  cases Disks.CreateArguments.parse args with
  | error fault => trivial
  | ok a =>
    change Call.Ends _ _ _ _ _
    rw [Call.ends_bind, Call.ends_info]
    exact ends_made (.createDisk _ _) id (fun r sent made => made r rfl) fun task => .pure rfl

theorem createVm_named (settings : Settings) (args : List Json) :
    Call.Ends (Sends Effect.Made) (Vms.create settings args) Named (fun _ _ => True) [] := by
  rw [Vms.create, Call.ends_bind, Call.ends_argument]
  cases Vms.CreateArguments.parse args with
  | error fault => trivial
  | ok a =>
    change Call.Ends _ _ _ _ _
    rw [Call.ends_bind, Call.ends_info]
    refine ends_made (.createVm _ _) id (fun r sent made => made r rfl) fun task => ?_
    iterate 6 refine .bind fun _ => ?_
    exact .pure rfl

theorem createStemcell_named (settings : Settings) (args : List Json) :
    Call.Ends (Sends Effect.Made) (Stemcells.create settings args) Named (fun _ _ => True) [] := by
  rw [Stemcells.create, Call.ends_bind, Call.ends_argument]
  cases Stemcells.Image.parse args with
  | error fault => trivial
  | ok image =>
    change Call.Ends _ _ _ _ _
    rw [Call.ends_bind, Call.ends_info, Call.ends_bind, Call.ends_info, Call.ends_bind]
    refine made_quiet.ends_decompress (fun _ _ => trivial) _ fun raw => ?_
    rw [Call.ends_thenAlways, Call.ends_bind]
    have dropped {R : Transcript → Prop} {sent : Transcript} (h : R sent) :
        Program.Ends (Sends Effect.Made) (Scratch.dropFile raw) (fun _ => R) sent := made_quiet.ends_dropFile raw h
    refine made_quiet.ends_openFile (fun _ _ => dropped trivial) _ fun file => ?_
    rw [Call.ends_bind, Call.ends_info]
    exact (ends_made (.createImage _ _) id (fun r sent made => made r rfl) fun task => .pure rfl).mono
      (fun _ _ named => dropped named) fun _ _ _ => dropped trivial

/-- The calls that make something. -/
def creations : List String := ["create_vm", "create_disk", "create_stemcell"]

theorem creation_named {method : String} (creates : method ∈ creations) {call : Settings → List Json → Call Json}
    (handler : Handler method call) (settings : Settings) (args : List Json) :
    Call.Ends (Sends Effect.Made) (call settings args) Named (fun _ _ => True) [] := by
  simp only [creations, List.mem_cons, List.not_mem_nil, or_false] at creates
  rcases creates with rfl | rfl | rfl
  · exact handler.unique .createVm ▸ createVm_named settings args
  · exact handler.unique .createDisk ▸ createDisk_named settings args
  · exact handler.unique .createStemcell ▸ createStemcell_named settings args

theorem call_named (patience : Nat) {p : Startup.Prepared} (creates : Text.lowerCase p.request.method ∈ creations) :
    Delivers (call patience p : Course Path Response) fun response sent =>
      response.error = none → ∃ result, response.result = some result ∧ Named result sent := by
  rw [call_eq]
  have ends : Program.Ends (Sends Effect.Made)
      (Dispatch.run .default p.settings p.request.method p.request.arguments)
      (fun outcome sent => ∀ result, outcome = .ok result → Named result sent) [] := by
    refine Dispatch.run_ends (fun _ result h => nomatch h) fun call handler => ?_
    refine (creation_named creates handler _ _).mono (fun result sent named _ h => ?_) fun f sent _ _ h => nomatch h
    cases h
    exact named
  refine (run_delivers (answer_made p.client patience) ends CallLog.empty).bind fun r sent named => .pure ?_
  rw [List.append_nil]
  obtain ⟨_ | result, log⟩ := r
  · exact fun succeeds => nomatch succeeds
  · exact fun _ => ⟨result, rfl, named result rfl⟩

/-- However the system behaves, a call that makes something and does not fail returns the id that the first task to
come completed has for its entity. If every completed task names an entity, this is not empty. -/
theorem created_named {p : Startup.Prepared} (creates : Text.lowerCase p.request.method ∈ creations) (patience : Nat)
    {σ : Type} (answer : (op : Op Path) → σ → op.Reply × σ) (s : σ) {response : Response}
    (ended : ((call patience p).run.recorded answer s).1 = some response) (succeeds : response.error = none) :
    let completed := completedTasks (wired ((call patience p).run.recorded answer s).2)
    ∃ task, completed.head? = some task ∧ task.state = .completed ∧ response.result = some (.str task.entity.id) ∧
      ((∀ received ∈ completed, received.entity.id ≠ "") → task.entity.id ≠ "") := by
  intro completed
  have named := Program.Records.recorded (call_named patience creates) answer s response ended
  obtain ⟨_, returned, task, first, rfl⟩ := named succeeds
  have received : task ∈ completed := List.mem_of_head? first
  exact ⟨task, first, of_decide_eq_true (List.mem_filter.1 received).2, returned, fun names => names task received⟩

/-- A call for a disk of one gibibyte. -/
def diskCall : Startup.Prepared where
  request := ⟨"create_disk", [.num (.natural 1000), .obj [("disk_flavor", .str "core-100")], .str "vm-1"]⟩
  settings := ⟨⟨"http://none:123", "p", false, none, none, none, none, none⟩, ⟨"m", [], .none⟩⟩
  client := Client.plain

/-- The reply with a task. -/
def taskReply (state : String) (entity : List (String × Json)) : Http.Reply :=
  ⟨200, some (Text.Utf8.encode (Json.obj ([("id", .str "t-1"), ("state", .str state)] ++ entity)).text)⟩

/-- A disk is asked for, and its id comes with the second reply, when its task is completed. -/
theorem created_named_disk :
    let serve := fun request : Http.Request => some <|
      if request.method = .post then taskReply "QUEUED" []
      else taskReply "COMPLETED" [("entity", .obj [("id", .str "disk-7")])]
    let ran := (call 2 diskCall).run.recorded (servedSystem serve) ()
    ran.1.map (fun response => (response.result, response.error)) = some (some (.str "disk-7"), none) ∧
      ∃ response, ran.1 = some response ∧
        ∃ task, (completedTasks (wired ran.2)).head? = some task ∧ task.state = .completed ∧
          response.result = some (.str task.entity.id) ∧
          ((∀ received ∈ completedTasks (wired ran.2), received.entity.id ≠ "") → task.entity.id ≠ "") := by
  intro serve ran
  have replied : ran.1.map (fun response => (response.result, response.error)) =
      some (some (.str "disk-7"), none) := by decide +kernel
  obtain ⟨response, ended, eq⟩ := Option.map_eq_some_iff.1 replied
  exact ⟨replied, response, ended,
    created_named (p := diskCall) (by decide) 2 (servedSystem serve) () ended (Prod.mk.inj eq).2⟩

/-- What is returned is not always an id: a completed task may name no entity. -/
theorem created_unnamed : ¬∀ (p : Startup.Prepared) (patience : Nat) (serve : Http.Request → Option Http.Reply)
    (response : Response), Text.lowerCase p.request.method ∈ creations →
      ((call patience p).run.recorded (servedSystem serve) ()).1 = some response → response.error = none →
        ∃ id, response.result = some (.str id) ∧ id ≠ "" := by
  intro named
  have replied : ((call 1 diskCall).run.recorded (servedSystem fun _ => some (taskReply "COMPLETED" [])) ()).1.map
      (fun response => (response.result, response.error)) = some (some (.str ""), none) := by decide +kernel
  obtain ⟨response, ended, eq⟩ := Option.map_eq_some_iff.1 replied
  obtain ⟨result, succeeds⟩ := Prod.mk.inj eq
  obtain ⟨id, returned, nonempty⟩ := named diskCall 1 _ response (by decide) ended succeeds
  rw [result] at returned
  cases returned
  exact nonempty rfl

end Process
end CloudProvider
