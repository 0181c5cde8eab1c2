import CloudProvider.ControlPlane.Inventory
import CloudProvider.Proofs.Program
import CloudProvider.Proofs.SortedMap

/-! # Calls in a world

A world answers effects and tells the time, and may be another one afterwards. Whatever a call does in
it can be learnt from the program of the call alone (`respond_ends`): the dispatcher adds events, which
go to the log, and what comes of the call goes into the response.
-/

namespace CloudProvider

/-! ## The table of actions -/

theorem ActionTable.default_keys : default.keys =
    ["attach_disk", "create_disk", "create_stemcell", "create_vm", "delete_disk", "delete_stemcell",
      "delete_vm", "detach_disk", "get_disks", "has_disk", "has_vm", "restart_vm", "set_vm_metadata"] := by
  decide +kernel

/-- The calls behind the default table, by their methods. -/
inductive Handler : String → (Settings → List Json → Call Json) → Prop
  | createStemcell : Handler "create_stemcell" Stemcells.create
  | deleteStemcell : Handler "delete_stemcell" Stemcells.delete
  | createVm : Handler "create_vm" Vms.create
  | deleteVm : Handler "delete_vm" Vms.delete
  | hasVm : Handler "has_vm" Vms.has
  | restartVm : Handler "restart_vm" Vms.restart
  | setVmMetadata : Handler "set_vm_metadata" Vms.setMetadata
  | createDisk : Handler "create_disk" Disks.create
  | deleteDisk : Handler "delete_disk" Disks.delete
  | hasDisk : Handler "has_disk" Disks.has
  | listDisks : Handler "get_disks" Disks.list
  | attachDisk : Handler "attach_disk" Disks.attach
  | detachDisk : Handler "detach_disk" Disks.detach

namespace Handler
variable {method : String} {call call' : Settings → List Json → Call Json}

/-- Every action of the default table is one of the calls. -/
theorem of_find? {action : Action} (h : ActionTable.default.find? method = some action) :
    ∃ call, Handler method call ∧ action = Action.ofCall call := by
  have hm := Entries.mem_ofList (Entries.mem_of_find? h)
  simp only [List.mem_cons, Prod.mk.injEq, List.not_mem_nil, or_false] at hm
  rcases hm with ⟨rfl, rfl⟩ | ⟨rfl, rfl⟩ | ⟨rfl, rfl⟩ | ⟨rfl, rfl⟩ | ⟨rfl, rfl⟩ | ⟨rfl, rfl⟩ |
    ⟨rfl, rfl⟩ | ⟨rfl, rfl⟩ | ⟨rfl, rfl⟩ | ⟨rfl, rfl⟩ | ⟨rfl, rfl⟩ | ⟨rfl, rfl⟩ | ⟨rfl, rfl⟩ <;>
    exact ⟨_, by constructor, rfl⟩

/-- A method has one call. -/
theorem unique (h : Handler method call) (h' : Handler method call') : call = call' := by
  generalize hm : method = method' at h'
  cases h <;> cases h' <;> first | (simp at hm; done) | rfl

theorem find? (h : Handler method call) :
    ActionTable.default.find? method = some (Action.ofCall call) := by
  have known : method ∈ ActionTable.default.keys := by
    rw [ActionTable.default_keys]
    cases h <;> simp
  obtain ⟨action, ha⟩ := SortedMap.mem_keys.1 known
  obtain ⟨call', h', rfl⟩ := of_find? ha
  rw [ha, h.unique h']

/-- The names of methods are in lower case, so a method is found when its name has been lowered. -/
theorem found (h : Handler method call) :
    ActionTable.default.find? (Text.lowerCase method) = some (Action.ofCall call) := by
  have lowered : Text.lowerCase method = method := by cases h <;> decide +kernel
  rw [lowered]
  exact h.find?

end Handler

/-- Settings without what may be left out. -/
def Settings.bare (target project mbus : String) : Settings :=
  ⟨⟨target, project, false, none, none, none, none, none⟩, ⟨mbus, [], .none⟩⟩

/-! ## Dispatch -/

section
variable {σ : Type} {may : (e : Effect) → σ → e.Reply → σ → Prop}
variable {Q : Except Failure Json → σ → Prop}

@[simp] theorem Dispatch.ends_reportAll (es : List Event) {Q : Unit → σ → Prop} :
    Program.Ends may (reportAll es) Q = Q () := by
  induction es with
  | nil => rfl
  | cons e es ih => rw [reportAll, Program.ends_bind, Program.ends_log, ih]

theorem Dispatch.run_ends_of_unknown {table : ActionTable} {settings : Settings} {method : String}
    {args : List Json} (h : table.find? (Text.lowerCase method) = none) :
    Program.Ends may (run table settings method args) Q =
      Q (.error (notSupported table.keys (Text.lowerCase method))) := by
  rw [run, runAction, h]
  simp only [Program.ends_bind, ends_reportAll]
  rfl

theorem Dispatch.run_ends_of_call {table : ActionTable} {settings : Settings} {method : String}
    {args : List Json} {call : Settings → List Json → Call Json}
    (h : table.find? (Text.lowerCase method) = some (Action.ofCall call)) :
    Program.Ends may (run table settings method args) Q =
      Call.Ends may (call settings args) (fun x => Q (.ok x)) (fun f => Q (.error f)) := by
  rw [run, runAction, h, ← Call.ends_run]
  simp only [Action.ofCall, Program.ends_bind, ends_reportAll, Program.ends_pure, Ending.outcome]

/-- What comes of a dispatch, if it comes of every call and of an unknown method. -/
theorem Dispatch.run_ends {settings : Settings} {method : String} {args : List Json} {s : σ}
    (unknown : ActionTable.default.find? (Text.lowerCase method) = none →
      Q (.error (notSupported ActionTable.default.keys (Text.lowerCase method))) s)
    (known : ∀ call, Handler (Text.lowerCase method) call →
      Call.Ends may (call settings args) (fun x => Q (.ok x)) (fun f => Q (.error f)) s) :
    Program.Ends may (run .default settings method args) Q s := by
  cases h : ActionTable.default.find? (Text.lowerCase method) with
  | none => rw [run_ends_of_unknown h]; exact unknown h
  | some action =>
    obtain ⟨call, hc, rfl⟩ := Handler.of_find? h
    rw [run_ends_of_call h]
    exact known call hc

end

/-! ## Worlds -/

/-- Answers to effects and the time, each with the state that it leaves. -/
structure World (σ : Type) where
  answer : (e : Effect) → σ → e.Reply × σ
  clock : σ → String × σ

namespace World
variable {σ τ : Type}

def host (w : World σ) : Program.Host Effect Effect.Reply (Logged (StateM σ)) :=
  loggingHost (fun e => StateT.lift (w.answer e)) w.clock

/-- A state with the log of the provider that works in it. -/
structure At (σ : Type) where
  log : CallLog
  state : σ

/-- Answers one call. -/
def respond (w : World σ) (settings : Settings) (method : String) (args : List Json) (s : At σ) :
    Response × At σ :=
  let r := (CloudProvider.respond w.host .default settings method args).run s.log s.state
  (r.1.1, ⟨r.1.2, r.2⟩)

theorem respond_eq (w : World σ) (settings : Settings) (method : String) (args : List Json) (s : At σ) :
    w.respond settings method args s =
      let ran := ((Dispatch.run .default settings method args).run w.host).run s.log s.state
      (.ofOutcome ran.1.1 ran.1.2.text, ⟨.empty, ran.2⟩) := by
  unfold respond CloudProvider.respond
  -- What the program does is not asked for, so it is kept from being evaluated.
  generalize Dispatch.run .default settings method args = p
  rfl

/-- The response and the state after it, as the program of the call has them. -/
theorem respond_ends (w : World σ) (view : σ → τ) {may : (e : Effect) → τ → e.Reply → τ → Prop}
    (answers : ∀ e s, may e (view s) (w.answer e s).1 (view (w.answer e s).2))
    (clock : ∀ s, view (w.clock s).2 = view s)
    {settings : Settings} {method : String} {args : List Json} {s : At σ}
    {Q : Except Failure Json → τ → Prop}
    (h : Program.Ends may (Dispatch.run .default settings method args) Q (view s.state)) :
    ∃ outcome log, (w.respond settings method args s).1 = .ofOutcome outcome log ∧
      Q outcome (view (w.respond settings method args s).2.state) := by
  rw [respond_eq]
  refine ⟨_, _, rfl, ?_⟩
  exact Program.run_ends (fun e _ s => answers e s) (fun _ _ s => clock s) h

/-- One world shows another: it is the same to the director. -/
theorem respond_view (w : World σ) (w' : World τ) (view : σ → τ)
    (answers : ∀ e s, w'.answer e (view s) = ((w.answer e s).1, view (w.answer e s).2))
    (clock : ∀ s, w'.clock (view s) = ((w.clock s).1, view (w.clock s).2))
    (settings : Settings) (method : String) (args : List Json) (log : CallLog) (s : σ) :
    (w'.respond settings method args ⟨log, view s⟩).1 = (w.respond settings method args ⟨log, s⟩).1 := by
  rw [respond_eq, respond_eq]
  have asked : ∀ (e : Effect) (l : CallLog) (s : σ), (w'.host.answer e).run l (view s) =
      (((w.host.answer e).run l s).1, view ((w.host.answer e).run l s).2) := by
    intro e l s
    show (((w'.answer e (view s)).1, l), (w'.answer e (view s)).2) = _
    rw [answers]; rfl
  have noted : ∀ (e : Event) (l : CallLog) (s : σ), (w'.host.note e).run l (view s) =
      (((w.host.note e).run l s).1, view ((w.host.note e).run l s).2) := by
    intro e l s
    show (((), l.record (w'.clock (view s)).1 e), (w'.clock (view s)).2) = _
    rw [clock]; rfl
  generalize Dispatch.run .default settings method args = p
  dsimp only
  rw [Program.run_view asked noted]

/-- The control plane of a world, kept in memory instead. -/
def withInventory (w : World σ) (fresh : Nat → String) : World (Inventory × σ) where
  answer
    | .remote op, s => ((s.1.perform fresh op).1, (s.1.perform fresh op).2, s.2)
    | e, s => ((w.answer e s.2).1, s.1, (w.answer e s.2).2)
  clock s := ((w.clock s.2).1, s.1, (w.clock s.2).2)

/-- What happens to a control plane in memory. -/
inductive Happening where
  | arm (operation : String) (fault : CloudFault)
  | call (settings : Settings) (method : String) (args : List Json)

def happen (w : World σ) (fresh : Nat → String) (s : At (Inventory × σ)) : Happening → At (Inventory × σ)
  | .arm operation fault => ⟨s.log, s.state.1.arm operation fault, s.state.2⟩
  | .call settings method args => ((w.withInventory fresh).respond settings method args s).2

/-- One thing after another. -/
def run (w : World σ) (fresh : Nat → String) (happenings : List Happening) (s : At (Inventory × σ)) :
    At (Inventory × σ) := happenings.foldl (w.happen fresh) s

end World

/-- Operations are performed in memory, all else is answered within `allowed`. -/
def Inventory.Answers (fresh : Nat → String) (allowed : (e : Effect) → e.Reply → Prop) :
    (e : Effect) → Inventory → e.Reply → Inventory → Prop
  | .remote op, inv, r, inv' => inv.perform fresh op = (r, inv')
  | e, inv, r, inv' => allowed e r ∧ inv' = inv

theorem World.withInventory_ends {σ : Type} (w : World σ) {fresh : Nat → String}
    {allowed : (e : Effect) → e.Reply → Prop} (within : ∀ e s, allowed e (w.answer e s).1)
    {settings : Settings} {method : String} {args : List Json} {s : At (Inventory × σ)}
    {Q : Except Failure Json → Inventory → Prop}
    (h : Program.Ends (Inventory.Answers fresh allowed) (Dispatch.run .default settings method args) Q
      s.state.1) :
    ∃ outcome log, ((w.withInventory fresh).respond settings method args s).1 = .ofOutcome outcome log ∧
      Q outcome ((w.withInventory fresh).respond settings method args s).2.state.1 := by
  refine respond_ends _ Prod.fst (fun e s => ?_) (fun s => rfl) h
  cases e with
  | remote op => rfl
  | runTool | openFile | writeFile | createDirectory | createFile | removeDirectory | removeFile =>
    exact ⟨within _ _, rfl⟩

end CloudProvider
