import CloudProvider.Proofs.Convergence
import CloudProvider.Proofs.Journal
import CloudProvider.Proofs.PersistentDisks

/-! # What attaching and detaching change

A disk is attached or detached, and that is entered into the environment of the machine. A call that succeeds
changes the machines of this disk, the entry of this disk in the environment of this machine, and the image of
this machine (`Revised`). All that an operation leaves beside is that it is written down and takes its fault
(`Ran`). As long as the environment has not been read, no machine is changed.
-/

namespace CloudProvider
open Agent (Environment)

/-! ## Operations that were begun -/

namespace Inventory
variable {fresh : Nat → String} {allowed : (e : Effect) → e.Reply → Prop}
variable {inv inv₁ inv₂ inv' : Inventory} {names names' : List String}

/-- Operations of these names were written down, and each has taken the fault that was armed for it. -/
structure Ran (inv : Inventory) (names : List String) (inv' : Inventory) : Prop where
  journal : inv'.journal = inv.journal ++ names
  faults : ∀ name, inv'.faults.find? name = if name ∈ names then none else inv.faults.find? name
  omitsDiskIds : inv'.omitsDiskIds = inv.omitsDiskIds

theorem Ran.refl (inv : Inventory) : inv.Ran [] inv := ⟨(List.append_nil _).symm, fun _ => rfl, rfl⟩

theorem Ran.trans (h : inv.Ran names inv₁) (h' : inv₁.Ran names' inv₂) : inv.Ran (names ++ names') inv₂ where
  journal := by rw [h'.journal, h.journal, List.append_assoc]
  faults name := by
    rw [h'.faults, h.faults]
    by_cases late : name ∈ names'
    · simp [late]
    · by_cases early : name ∈ names <;> simp [early, late]
  omitsDiskIds := h'.omitsDiskIds.trans h.omitsDiskIds

theorem ran_of_perform {op : Operation} {r : op.Answer} (begins : op.Begins)
    (h : inv.perform fresh op = (r, inv')) : inv.Ran [op.name] inv' where
  journal := (perform_begun h begins).journal
  faults name := by
    rw [(perform_begun h begins).faults, SortedMap.find?_erase]
    simp
  omitsDiskIds := (perform_later h).omitsDiskIds

section
variable {E : Failure → Inventory → Prop}

/-- The rule for an operation that is written down. -/
theorem ends_ran {op : Operation} (begins : op.Begins) {Q : op.Reply → Inventory → Prop}
    (refused : ∀ f inv', inv.Ran [op.name] inv' → inv'.Holds inv.vms inv.disks inv.images →
      (∃ fault, inv.faults.find? op.name = some fault) ∨ inv.Refuses op f → E (.cloud f) inv')
    (performed : ∀ x inv', inv.Ran [op.name] inv' → inv.faults.find? op.name = none →
      inv.Performs fresh op x inv' → Q x inv') :
    Call.Ends (Answers fresh allowed) (Call.remote op) Q E inv := by
  rw [Call.ends_remote]
  intro r inv' h
  have ran := ran_of_perform begins h
  cases armed : inv.faults.find? op.name with
  | some fault =>
    obtain ⟨rfl, holds⟩ := perform_armed h begins armed
    exact refused fault inv' ran holds (.inl ⟨fault, armed⟩)
  | none =>
    rcases perform_unarmed h armed with ⟨f, rfl, holds, refuses⟩ | ⟨x, rfl, performs⟩
    · exact refused f inv' ran holds (.inr refuses)
    · exact performed x inv' ran armed performs

end

/-- A look-up of the machine shows this environment. -/
structure Shows (inv : Inventory) (vm : String) (env : Environment) : Prop where
  unarmed : inv.faults.find? "get_vm" = none
  found : ∃ record, inv.vms.find? vm = some record ∧ record.vm.Reads env

end Inventory

namespace Agent
variable {fresh : Nat → String} {allowed : (e : Effect) → e.Reply → Prop} {inv : Inventory}

/-- What the exchange of both copies writes down. -/
def exchangeNames : List String := ["set_metadata", "detach_iso", "attach_iso"]

theorem ends_detachImage_ran (vm : String) :
    Call.Leaves (Inventory.Answers fresh allowed) (detachImage vm) (fun inv' => inv.Ran ["detach_iso"] inv') inv := by
  rw [Call.Leaves, detachImage, Call.ends_bind, Call.ends_attempt]
  intro r inv' h
  have ran := Inventory.ran_of_perform (by trivial) h
  cases r with
  | ok task => exact ran
  | error fault =>
    dsimp only
    split
    · rw [Call.ends_report]
      exact ran
    · exact ran

theorem ends_exchange_ran (vm : String) (env : Environment) (image : String) :
    Call.Ends (Inventory.Answers fresh allowed) (exchange vm env image) (fun _ inv' => inv.Ran exchangeNames inv')
      (fun _ inv' => ∃ names, names <+: exchangeNames ∧ names ≠ [] ∧ inv.Ran names inv') inv := by
  rw [exchange, store, Call.ends_bind, Call.ends_bind]
  refine Inventory.ends_ran (by trivial) (fun f inv₁ stored _ _ => ?_) fun t inv₁ stored _ _ => ?_
  · exact ⟨["set_metadata"], ⟨_, rfl⟩, List.cons_ne_nil _ _, stored⟩
  rw [Call.ends_pure, Call.ends_bind]
  refine (ends_detachImage_ran vm).mono (fun u inv₂ detached => ?_) fun f inv₂ detached => ?_
  · rw [Call.ends_bind]
    refine Inventory.ends_ran (by trivial) (fun f inv₃ attached _ _ => ?_) fun t inv₃ attached _ _ => ?_
    · exact ⟨exchangeNames, List.prefix_rfl, List.cons_ne_nil _ _, (stored.trans detached).trans attached⟩
    · exact (stored.trans detached).trans attached
  · exact ⟨["set_metadata", "detach_iso"], ⟨_, rfl⟩, List.cons_ne_nil _ _, stored.trans detached⟩

theorem ends_sync_ran (vm : String) (env : Environment) :
    Call.Ends (Inventory.Answers fresh allowed) (sync vm env) (fun _ inv' => inv.Ran exchangeNames inv')
      (fun _ inv' => ∃ names, names <+: exchangeNames ∧ inv.Ran names inv' ∧ (names = [] → inv' = inv)) inv := by
  refine Inventory.Answers.quiet.ends_sync (fun f _ _ => ?_) vm env fun image => ?_
  · exact ⟨[], List.nil_prefix, .refl inv, fun _ => rfl⟩
  · refine (ends_exchange_ran vm env image).mono (fun u inv' ran => ran) ?_
    rintro f inv' ⟨names, reached, some, ran⟩
    exact ⟨names, reached, ran, fun none => absurd none some⟩

end Agent

theorem Inventory.Ran.shows {inv inv' : Inventory} {name vm : String} {env : Environment}
    (ran : inv.Ran [name] inv') (other : name ≠ "get_vm") (same : inv'.vms = inv.vms) :
    inv'.Shows vm env ↔ inv.Shows vm env := by
  have left : inv'.faults.find? "get_vm" = inv.faults.find? "get_vm" := by
    rw [ran.faults, if_neg fun taken => other (List.mem_singleton.1 taken).symm]
  constructor
  · rintro ⟨unarmed, found⟩
    exact ⟨left ▸ unarmed, same ▸ found⟩
  · rintro ⟨unarmed, found⟩
    exact ⟨left ▸ unarmed, same ▸ found⟩

namespace Revision
variable {fresh : Nat → String} {allowed : (e : Effect) → e.Reply → Prop}
variable (rev : Revision) (vm disk : String)

/-! ## Up to the reading of the environment -/

/-- The operations up to the reading of the environment, by name. -/
def readingNames : List String := [(rev.operation vm disk).name, "get_vm"]

/-- Nothing stands against reading the environment once the disk is attached or detached. -/
structure Readable (inv : Inventory) : Prop where
  unarmed : inv.faults.find? (rev.operation vm disk).name = none
  disk : ∃ d, inv.disks.find? disk = some d
  environment : ∃ env, inv.Shows vm env

/-- The call has stopped before it had read the environment. -/
structure Unread (inv inv' : Inventory) : Prop where
  against : ¬rev.Readable vm disk inv
  ran : ∃ names, names <+: rev.readingNames vm disk ∧ inv.Ran names inv'
  vms : inv'.vms = inv.vms

/-- The call has stopped after that. Unless it came to store the new document, no machine has changed. -/
structure Interrupted (inv inv' : Inventory) : Prop where
  readable : rev.Readable vm disk inv
  ran : ∃ names, names <+: Agent.exchangeNames ∧ inv.Ran (rev.readingNames vm disk ++ names) inv' ∧
    (names = [] → inv'.vms = inv.vms)

variable {rev vm disk} {inv inv' : Inventory}

theorem operation_name_ne : (rev.operation vm disk).name ≠ "get_vm" := by
  cases rev <;> simp [operation, Operation.name]

theorem operation_begins : (rev.operation vm disk).Begins := by
  cases rev <;> trivial

theorem Readable.not_refuses (h : rev.Readable vm disk inv) {f : CloudFault} :
    ¬inv.Refuses (rev.operation vm disk) f := by
  obtain ⟨d, hd⟩ := h.disk
  obtain ⟨env, shows⟩ := h.environment
  obtain ⟨record, hv, -⟩ := shows.found
  have refuses : inv.Refuses (rev.operation vm disk) f →
      inv.vms.find? vm = none ∨ inv.disks.find? disk = none := by
    cases rev with
    | attach => exact Or.imp And.left And.left
    | detach => exact Or.imp And.left And.left
  intro refused
  rcases refuses refused with none | none
  · cases hv.symm.trans none
  · cases hd.symm.trans none

theorem ends_operation_ran :
    Call.Ends (Inventory.Answers fresh allowed) (Call.remote (rev.operation vm disk))
      (fun _ inv' => inv.Ran [(rev.operation vm disk).name] inv' ∧ inv'.vms = inv.vms ∧
        inv.faults.find? (rev.operation vm disk).name = none ∧ ∃ d, inv.disks.find? disk = some d)
      (fun _ inv' => rev.Unread vm disk inv inv') inv := by
  refine Inventory.ends_ran operation_begins
    (fun f inv' ran holds why => ⟨fun readable => ?_, ⟨_, ⟨_, rfl⟩, ran⟩, holds.1⟩)
    fun t inv' ran unarmed performs => ?_
  · rcases why with ⟨fault, armed⟩ | refused
    · cases armed.symm.trans readable.unarmed
    · exact readable.not_refuses refused
  · obtain ⟨record, d, -, found, holds⟩ := performs_operation performs
    exact ⟨ran, holds.1, unarmed, d, found⟩

theorem ends_fetch_ran (vm : String) (inv : Inventory) :
    Call.Ends (Inventory.Answers fresh allowed) (Agent.fetch vm)
      (fun env inv' => inv.Ran ["get_vm"] inv' ∧ inv'.vms = inv.vms ∧ inv.Shows vm env)
      (fun _ inv' => inv.Ran ["get_vm"] inv' ∧ inv'.vms = inv.vms ∧ ∀ env, ¬inv.Shows vm env) inv := by
  rw [Agent.fetch, Call.ends_bind]
  refine Inventory.ends_ran (by trivial) (fun f inv' ran holds why => ⟨ran, holds.1, fun env shows => ?_⟩)
    fun v inv' ran unarmed performs => ?_
  · rcases why with ⟨fault, armed⟩ | ⟨none, -⟩
    · cases armed.symm.trans shows.unarmed
    · obtain ⟨record, found, -⟩ := shows.found
      cases found.symm.trans none
  · obtain ⟨record, found, rfl, holds⟩ := performs
    have unread : (∀ env, ¬record.vm.Reads env) → ∀ env, ¬inv.Shows vm env := by
      intro unread env shows
      obtain ⟨record', found', reads⟩ := shows.found
      cases found.symm.trans found'
      exact unread env reads
    cases stored : record.vm.metadata.find? Agent.metadataKey with
    | none =>
      refine ⟨ran, holds.1, unread fun env reads => ?_⟩
      obtain ⟨document, stored', -⟩ := reads
      cases stored.symm.trans stored'
    | some document =>
      dsimp only
      rw [Call.ends_ofExcept]
      cases decoded : Environment.decoder.ofText document with
      | ok env => exact ⟨ran, holds.1, unarmed, record, found, document, stored, decoded⟩
      | error fault =>
        refine ⟨ran, holds.1, unread fun env reads => ?_⟩
        obtain ⟨document', stored', decoded'⟩ := reads
        cases stored.symm.trans stored'
        cases decoded.symm.trans decoded'

/-- What a call writes down that comes to its end. -/
def names (rev : Revision) (vm disk : String) : List String := rev.readingNames vm disk ++ Agent.exchangeNames

theorem steps_ran (rev : Revision) (vm disk : String) (inv : Inventory) :
    Call.Ends (Inventory.Answers fresh allowed) (rev.steps vm disk)
      (fun _ inv' => rev.Readable vm disk inv ∧ inv.Ran (rev.names vm disk) inv')
      (fun _ inv' => rev.Unread vm disk inv inv' ∨ rev.Interrupted vm disk inv inv') inv := by
  rw [steps, Call.ends_bind]
  refine ends_operation_ran.mono ?_ fun f inv₁ unread => .inl unread
  rintro t inv₁ ⟨ran₁, same₁, unarmed, there⟩
  have shown (env : Environment) : inv₁.Shows vm env ↔ inv.Shows vm env := ran₁.shows operation_name_ne same₁
  rw [Call.ends_bind]
  refine (ends_fetch_ran vm inv₁).mono ?_ ?_
  · rintro env inv₂ ⟨ran₂, same₂, shows⟩
    have readable : rev.Readable vm disk inv := ⟨unarmed, there, env, (shown env).1 shows⟩
    have ran := ran₁.trans ran₂
    rw [Call.ends_bind, Call.ends_ofExcept]
    cases applied : (rev.update disk).apply env with
    | error f => exact .inr ⟨readable, [], List.nil_prefix, ran, fun _ => same₂.trans same₁⟩
    | ok env' =>
      refine (Agent.ends_sync_ran vm env').mono (fun u inv₃ ran₃ => ⟨readable, ran.trans ran₃⟩) ?_
      rintro f inv₃ ⟨names, reached, ran₃, untouched⟩
      refine .inr ⟨readable, names, reached, ran.trans ran₃, fun none => ?_⟩
      rw [untouched none]
      exact same₂.trans same₁
  · rintro f inv₂ ⟨ran₂, same₂, hidden⟩
    refine .inl ⟨fun readable => ?_, ⟨_, List.prefix_rfl, ran₁.trans ran₂⟩, same₂.trans same₁⟩
    obtain ⟨env, shows⟩ := readable.environment
    exact hidden env ((shown env).2 shows)

/-! ## What a successful call has changed -/

variable (rev vm disk)

/-- The environment is another one in the entry of one disk. -/
structure Enters (env env' : Environment) : Prop where
  entry : Entries.find? disk env'.persistentEntries =
    match rev with
    | .attach => some (.obj [("id", .str disk), ("path", .str "")])
    | .detach => none
  otherEntries : ∀ id, id ≠ disk → Entries.find? id env'.persistentEntries = Entries.find? id env.persistentEntries
  otherDisks : ∀ key, key ≠ "persistent" → env'.disks.find? key = env.disks.find? key
  rest : { env' with disks := env.disks } = env

/-- The machine is another one in its environment and its image. -/
structure RevisesVm (record record' : VmRecord) : Prop where
  environment : ∃ env env', record.vm.Reads env ∧ record'.vm.Reads env' ∧ rev.Enters disk env env'
  otherMetadata : ∀ key, key ≠ "bosh-cpi" → record'.vm.metadata.find? key = record.vm.metadata.find? key
  rest : { record'.vm with metadata := record.vm.metadata } = record.vm
  image : record'.iso.isSome

/-- The disk has or has not the machine, the machine has another environment and another image, and all else is
as it was. -/
structure Revised (inv inv' : Inventory) : Prop where
  machines : ∃ d, inv.disks.find? disk = some d ∧
    inv'.disks.find? disk = some { d with vms := rev.machines vm d.vms }
  otherDisks : ∀ id, id ≠ disk → inv'.disks.find? id = inv.disks.find? id
  machine : ∃ record record', inv.vms.find? vm = some record ∧ inv'.vms.find? vm = some record' ∧
    rev.RevisesVm disk record record'
  otherVms : ∀ id, id ≠ vm → inv'.vms.find? id = inv.vms.find? id
  images : inv'.images = inv.images

variable {rev vm disk}

theorem enters_of_apply {env env' : Environment} (h : (rev.update disk).apply env = .ok env') :
    rev.Enters disk env env' := by
  have entries := Environment.Update.apply_entries h
  have inPlace : env' = Environment.Update.after [rev.update disk] env := by
    have applied := (rev.update disk).apply_inPlace (Environment.Update.tabular_of_ok h)
    exact Except.ok.inj (h.symm.trans applied)
  obtain ⟨otherDisks, rest⟩ := Environment.Update.after_elsewhere [rev.update disk] env
  rw [← inPlace] at otherDisks rest
  refine ⟨?_, fun id other => ?_, otherDisks, rest⟩
  · rw [entries]
    cases rev with
    | attach => exact Entries.find?_insert_self ..
    | detach => exact Entries.find?_erase_self ..
  · rw [entries]
    cases rev with
    | attach => exact Entries.find?_insert_of_ne other ..
    | detach => exact Entries.find?_erase_of_ne other _

theorem Done.revised (h : rev.Done vm disk inv inv') (whole : inv.WholeNumbers vm) :
    rev.Revised vm disk inv inv' := by
  obtain ⟨record, d, v, path, foundVm, foundDisk, ⟨env, env', reads, applied, rfl⟩, vms, disks, images⟩ := h
  have fits : env'.WellFormed := (reads.wellFormed (whole record env foundVm reads)).apply applied
  have machine : rev.RevisesVm disk record ⟨record.vm.withDocument env'.document, some path⟩ :=
    ⟨⟨env, env', reads, Vm.reads_withDocument _ fits, enters_of_apply applied⟩,
      fun key other => SortedMap.find?_insert_of_ne _ other _, rfl, rfl⟩
  refine ⟨⟨d, foundDisk, ?_⟩, fun id other => ?_, ⟨record, _, foundVm, ?_, machine⟩, fun id other => ?_, images⟩
  · rw [disks, SortedMap.find?_insert_self]
    rfl
  · rw [disks, SortedMap.find?_insert_of_ne _ other]
  · rw [vms, SortedMap.find?_insert_self]
  · rw [vms, SortedMap.find?_insert_of_ne _ other]

end Revision

/-! ## Calls -/

/-- A call that succeeds has changed what it must and no more, has written down five operations and has taken
their faults. What stands against reading the environment makes the call fail, and no machine has changed then;
nor has one as long as the call did not come to store the new document. -/
theorem World.respond_revises {σ : Type} (w : World σ) (fresh : Nat → String) (settings : Settings) (rev : Revision)
    (args : List Json) (s : At (Inventory × σ))
    (whole : ∀ vm disk, Disks.pair args = .ok (vm, disk) → s.state.1.WholeNumbers vm) :
    let r := (w.withInventory fresh).respond settings rev.method args s
    let inv := s.state.1
    let inv' := r.2.state.1
    (∀ fault, Disks.pair args = .error fault → r.1.isSuccess = false ∧ inv' = inv) ∧
    ∀ vm disk, Disks.pair args = .ok (vm, disk) →
      (r.1.isSuccess = true → rev.Revised vm disk inv inv' ∧ inv.Ran (rev.names vm disk) inv') ∧
      (¬rev.Readable vm disk inv → r.1.isSuccess = false ∧ rev.Unread vm disk inv inv') ∧
      (rev.Readable vm disk inv → r.1.isSuccess = false → rev.Interrupted vm disk inv inv') := by
  intro r inv inv'
  have ends {Q : Except Failure Json → Inventory → Prop} (h : Call.Ends
      (Inventory.Answers fresh fun e r => ∃ s, r = (w.answer e s).1) (rev.call settings args)
      (fun x => Q (.ok x)) (fun f => Q (.error f)) inv) :
      ∃ outcome log, r.1 = .ofOutcome outcome log ∧ Q outcome inv' :=
    w.withInventory_ends (fun e s => ⟨s, rfl⟩) ((Dispatch.run_ends_of_call rev.handler.found).symm ▸ h)
  have success (outcome : Except Failure Json) (log : String) :
      (Response.ofOutcome outcome log).isSuccess = outcome.isOk := by cases outcome <;> rfl
  refine ⟨fun fault refused => ?_, fun vm disk given => ?_⟩
  · obtain ⟨outcome, log, response, failed, same⟩ := ends
      (Q := fun outcome t => outcome.isOk = false ∧ t = inv) ((rev.ends_call_of_fault settings refused).symm ▸ ⟨rfl, rfl⟩)
    rw [response, success]
    exact ⟨failed, same⟩
  · have steps := ((Revision.Halfway.refl inv).steps_ends (whole vm disk given) fresh
      fun e r => ∃ s, r = (w.answer e s).1).and (rev.steps_ran vm disk inv)
    obtain ⟨outcome, log, response, ended⟩ := ends
      (Q := fun outcome t => (outcome.isOk = true ∧ rev.Done vm disk inv t ∧ rev.Readable vm disk inv ∧
          inv.Ran (rev.names vm disk) t) ∨
        (outcome.isOk = false ∧ (rev.Unread vm disk inv t ∨ rev.Interrupted vm disk inv t)))
      ((rev.ends_call settings given).symm ▸ steps.mono (fun _ t h => .inl ⟨rfl, h⟩) fun f t h => .inr ⟨rfl, h.2⟩)
    rw [response, success]
    rcases ended with ⟨ok, done, readable, ran⟩ | ⟨failed, stopped⟩
    · refine ⟨fun _ => ⟨done.revised (whole vm disk given), ran⟩, fun against => absurd readable against, fun _ failed => ?_⟩
      cases ok.symm.trans failed
    · refine ⟨fun ok => ?_, fun against => ⟨failed, ?_⟩, fun readable _ => ?_⟩
      · cases ok.symm.trans failed
      · exact stopped.resolve_right fun interrupted => against interrupted.readable
      · exact stopped.resolve_left fun unread => unread.against readable

/-- A disk is attached to a machine that is there, and its agent finds the entry of the disk. Another call finds
that the machine cannot be looked up. -/
theorem World.respond_revises_pair :
    let respond (inv : Inventory) := (calm.withInventory Nat.repr).respond
      (.bare "http://127.0.0.1" "project" "nats") Revision.attach.method [.str "vm-1", .str "disk-1"] ⟨.empty, inv, ()⟩
    let armed := Inventory.pair.arm "get_vm" (.transport "connection reset")
    Revision.attach.Revised "vm-1" "disk-1" Inventory.pair (respond Inventory.pair).2.state.1 ∧
      (∃ record env, (respond Inventory.pair).2.state.1.vms.find? "vm-1" = some record ∧ record.vm.Reads env ∧
        Entries.find? "disk-1" env.persistentEntries = some (.obj [("id", .str "disk-1"), ("path", .str "")])) ∧
      (respond armed).1.isSuccess = false ∧ (respond armed).2.state.1.vms = armed.vms := by
  intro respond armed
  have whole {vm disk : String} (given : Disks.pair [.str "vm-1", .str "disk-1"] = .ok (vm, disk)) :
      Inventory.pair.WholeNumbers vm := by
    cases given
    exact Inventory.pair_wholeNumbers
  obtain ⟨-, revises⟩ := respond_revises calm Nat.repr (.bare "http://127.0.0.1" "project" "nats") .attach
    [.str "vm-1", .str "disk-1"] ⟨.empty, Inventory.pair, ()⟩ fun _ _ given => whole given
  obtain ⟨-, stopped⟩ := respond_revises calm Nat.repr (.bare "http://127.0.0.1" "project" "nats") .attach
    [.str "vm-1", .str "disk-1"] ⟨.empty, armed, ()⟩ fun _ _ given => whole given
  have against : ¬Revision.attach.Readable "vm-1" "disk-1" armed := by
    rintro ⟨-, -, env, unarmed, -⟩
    cases unarmed
  have revised : Revision.attach.Revised "vm-1" "disk-1" Inventory.pair (respond Inventory.pair).2.state.1 :=
    ((revises "vm-1" "disk-1" rfl).1 (by decide +kernel)).1
  obtain ⟨_, record, -, found, ⟨_, env, -, reads, entered⟩, -⟩ := revised.machine
  obtain ⟨failed, unread⟩ := (stopped "vm-1" "disk-1" rfl).2.1 against
  exact ⟨revised, ⟨record, env, found, reads, entered.entry⟩, failed, unread.vms⟩

end CloudProvider
