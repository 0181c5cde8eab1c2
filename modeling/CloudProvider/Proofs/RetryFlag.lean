import CloudProvider.Proofs.Effects

/-! # What the director is told of a failure

A call is watched in a world that may answer anything. The last operation that it asked of the control
plane decides what is said of its failure: whoever reads the response learns from the flag whether that
operation met with something that passes by itself.
-/

namespace CloudProvider

/-! ## The last operation -/

/-- An operation of the control plane and what it was answered. -/
structure Answered where
  op : Operation
  answer : op.Answer

namespace Answered

def fault? (a : Answered) : Option CloudFault :=
  match a.answer with
  | .ok _ => none
  | .error fault => some fault

/-- How the last operation failed, if there was one and it did. -/
def lastFault? (last : Option Answered) : Option CloudFault := last.bind fault?

/-- Any answer is possible, and the last one is remembered. -/
def Watches : (e : Effect) → Option Answered → e.Reply → Option Answered → Prop
  | .remote op, _, r, last => last = some ⟨op, r⟩
  | _, last, _, last' => last' = last

theorem quiet : Quiet Watches := by
  intro e s r s' he h
  cases e with
  | remote op => exact absurd he id
  | runTool | openFile | writeFile | createDirectory | createFile | removeDirectory | removeFile =>
    exact h

end Answered

/-- A world, and the last operation that was asked of it. -/
def World.watched {σ : Type} (w : World σ) : World (Option Answered × σ) where
  answer
    | .remote op, s => ((w.answer (.remote op) s.2).1,
        some ⟨op, (w.answer (.remote op) s.2).1⟩, (w.answer (.remote op) s.2).2)
    | e, s => ((w.answer e s.2).1, s.1, (w.answer e s.2).2)
  clock s := ((w.clock s.2).1, s.1, (w.clock s.2).2)

open Answered (lastFault? Watches)

/-! ## Calls that own up -/

/-- A new machine's look-up shows no disk that goes with it. -/
def LacksDisk (last : Option Answered) (f : Failure) : Prop :=
  ∃ id vm, last = some ⟨.getVm id, .ok vm⟩ ∧ Vms.ephemeralDiskId vm = .error f

/-- The failure of a call is that of its last operation. Where that did not fail, the call itself has
failed. -/
def Owns (f : Failure) (last : Option Answered) : Prop :=
  match lastFault? last with
  | some fault => f = .cloud fault
  | none => f.IsLocal

/-- A call that has a result if its last operation succeeded and otherwise reports it. -/
def Honest {α : Type} (call : Call α) : Prop :=
  ∀ last, lastFault? last = none →
    Call.Ends Watches call (fun _ last => lastFault? last = none) Owns last

namespace Honest
variable {α β : Type}

theorem owns_local {f : Failure} (hf : f.IsLocal) {last : Option Answered}
    (h : lastFault? last = none) : Owns f last := by
  rw [Owns, h]; exact hf

theorem bind {call : Call α} {f : α → Call β} (hc : Honest call) (hf : ∀ x, Honest (f x)) :
    Honest (call >>= f) := by
  intro last hl
  rw [Call.ends_bind]
  exact (hc last hl).mono (fun x last hl => hf x last hl) fun _ _ h => h

theorem pure (x : α) : Honest (Pure.pure x : Call α) := fun _ hl => hl

theorem info (message : String) : Honest (Call.info message) := by
  intro last hl; rw [Call.ends_info]; exact hl

theorem ofExcept {r : Except Failure α} (h : ∀ f, r = .error f → f.IsLocal) :
    Honest (Call.ofExcept r) := by
  intro last hl
  cases r with
  | ok x => exact hl
  | error f => exact owns_local (h f rfl) hl

theorem argument (r : Except ArgumentFault α) : Honest (Call.argument r) := by
  refine ofExcept fun f hf => ?_
  cases r with
  | ok x => cases hf
  | error fault => cases hf; trivial

/-- An operation answers for itself, whatever came before. -/
theorem remote_ends (op : Operation) (last : Option Answered) :
    Call.Ends Watches (Call.remote op) (fun x last => last = some ⟨op, .ok x⟩) Owns last := by
  rw [Call.ends_remote]
  intro r last' h
  obtain rfl : last' = some ⟨op, r⟩ := h
  cases r with
  | ok x => rfl
  | error fault => rfl

theorem remote (op : Operation) : Honest (Call.remote op) := fun last _ =>
  (remote_ends op last).mono (fun x last h => by rw [h]; rfl) fun _ _ h => h

theorem dropping (path : String) {call : Call α} (hc : Honest call) :
    Honest (Call.thenAlways (Scratch.dropFile path) call) := by
  intro last hl
  rw [Call.ends_thenAlways]
  exact (hc last hl).mono (fun x last h => Answered.quiet.ends_dropFile path h)
    fun f last h => Answered.quiet.ends_dropFile path h

/-! ## Environments -/

theorem fetch (vm : String) : Honest (Agent.fetch vm) := by
  refine (remote _).bind fun v => ?_
  cases v.metadata.find? Agent.metadataKey with
  | none => exact fun last hl => owns_local (by trivial) hl
  | some document =>
    refine ofExcept fun f hf => ?_
    cases h : Agent.Environment.decoder.ofText document with
    | ok env => rw [h] at hf; cases hf
    | error fault => rw [h] at hf; cases hf; trivial

/-- A failure to detach may be passed over, but then there is another operation behind it. -/
theorem exchange (vm : String) (env : Agent.Environment) (image : String) :
    Honest (Agent.exchange vm env image) := by
  have attach : ∀ last, Call.Ends Watches (do
      let _ ← Call.remote (.attachIso vm image)) (fun _ last => lastFault? last = none) Owns last := by
    intro last
    rw [Call.ends_bind]
    exact (remote_ends _ last).mono (fun x last h => by rw [h]; rfl) fun _ _ h => h
  refine ((remote _).bind fun _ => pure ()).bind fun _ last hl => ?_
  rw [Agent.detachImage, Call.ends_bind, Call.ends_bind, Call.ends_attempt]
  intro r last' h
  obtain rfl : last' = some ⟨.detachIso vm, r⟩ := h
  cases r with
  | ok t => exact attach _
  | error fault =>
    dsimp only
    split
    · rw [Call.ends_report]; exact attach _
    · exact (rfl : Failure.cloud fault = .cloud fault)

theorem sync (vm : String) (env : Agent.Environment) : Honest (Agent.sync vm env) := fun last hl =>
  Answered.quiet.ends_sync (fun _ hf _ => owns_local hf hl) vm env fun image => exchange vm env image last hl

/-! ## Calls -/

variable (settings : Settings) (args : List Json)

theorem createStemcell : Honest (Stemcells.create settings args) := by
  refine (argument _).bind fun image => (info _).bind fun _ => (info _).bind fun _ => ?_
  have decompress : Honest (Stemcells.decompress image.path) := fun last hl =>
    Answered.quiet.ends_decompress (fun _ hf => owns_local hf hl) image.path fun _ => hl
  refine decompress.bind fun raw => dropping raw ?_
  have openFile : Honest (Call.openFile raw) := fun last hl =>
    Answered.quiet.ends_openFile (fun _ hf => owns_local hf hl) raw fun _ => hl
  exact openFile.bind fun file => (info _).bind fun _ => (remote _).bind fun task => pure _

theorem deleteStemcell : Honest (Stemcells.delete settings args) :=
  (argument _).bind fun _ => (info _).bind fun _ => (remote _).bind fun _ => pure _

theorem createDisk : Honest (Disks.create settings args) :=
  (argument _).bind fun _ => (info _).bind fun _ => (remote _).bind fun _ => pure _

theorem deleteDisk : Honest (Disks.delete settings args) :=
  (argument _).bind fun _ => (info _).bind fun _ => (remote _).bind fun _ => pure _

theorem listDisks : Honest (Disks.list settings args) :=
  (argument _).bind fun _ => (info _).bind fun _ => (remote _).bind fun _ => pure _

theorem insertPersistent (env : Agent.Environment) (disk : String) :
    Honest (Call.ofExcept (env.insertPersistent disk)) := by
  refine ofExcept fun f hf => ?_
  unfold Agent.Environment.insertPersistent at hf
  split at hf <;> cases hf
  trivial

theorem removePersistent (env : Agent.Environment) (disk : String) :
    Honest (Call.ofExcept (env.removePersistent disk)) := by
  refine ofExcept fun f hf => ?_
  unfold Agent.Environment.removePersistent at hf
  split at hf <;> cases hf
  trivial

theorem attachDisk : Honest (Disks.attach settings args) :=
  (argument _).bind fun _ => (info _).bind fun _ => (remote _).bind fun _ => (info _).bind fun _ =>
    (fetch _).bind fun env => (insertPersistent env _).bind fun env => (sync _ env).bind fun _ => pure _

theorem detachDisk : Honest (Disks.detach settings args) := by
  refine (argument _).bind fun a => (info _).bind fun _ => (remote _).bind fun _ =>
    (info _).bind fun _ => (fetch _).bind fun env => (removePersistent env _).bind fun struck => ?_
  have rest : Honest (Agent.sync a.1 struck.2 >>= fun _ => (Pure.pure Json.null : Call Json)) :=
    (sync _ _).bind fun _ => pure _
  dsimp only
  split
  · exact (info _).bind fun _ => rest
  · exact rest

theorem detachAll (vm : String) : ∀ disks, Honest (Vms.detachAll vm disks)
  | [] => pure ()
  | _ :: ds => (info _).bind fun _ => (remote _).bind fun _ => detachAll vm ds

theorem deleteVm : Honest (Vms.delete settings args) :=
  (argument _).bind fun _ => (info _).bind fun _ => (info _).bind fun _ => (remote _).bind fun _ =>
    (detachAll _ _).bind fun _ => (info _).bind fun _ => (remote _).bind fun _ => (info _).bind fun _ =>
    (remote _).bind fun _ => pure _

theorem restartVm : Honest (Vms.restart settings args) :=
  (argument _).bind fun _ => (info _).bind fun _ => (remote _).bind fun _ => pure _

theorem setVmMetadata : Honest (Vms.setMetadata settings args) :=
  (argument _).bind fun _ => (info _).bind fun _ => pure _

/-- The one call with a failure of its own that is told as the control plane's. -/
theorem createVm_ends {last : Option Answered} (hl : lastFault? last = none) :
    Call.Ends Watches (Vms.create settings args) (fun _ last => lastFault? last = none)
      (fun f last => Owns f last ∨ LacksDisk last f) last := by
  rw [Vms.create, Call.ends_bind]
  refine (argument _ last hl).mono (fun a last hl => ?_) fun _ _ => .inl
  rw [Call.ends_bind, Call.ends_info, Call.ends_bind]
  refine (remote _ last hl).mono (fun task last hl => ?_) fun _ _ => .inl
  dsimp only
  rw [Call.ends_bind, Call.ends_info, Call.ends_bind]
  refine (remote_ends _ last).mono (fun vm last h => ?_) fun _ _ => .inl
  rw [Call.ends_bind, Call.ends_ofExcept]
  cases hd : Vms.ephemeralDiskId vm with
  | error f => exact .inr ⟨_, vm, h, hd⟩
  | ok disk =>
    have rest : Honest (do
        Agent.sync task.entity.id (.forNewMachine a.agentId ⟨vm.name, vm.id⟩ disk a.networks a.env
          settings.agent)
        Call.info "Starting VM"
        let _ ← Call.remote (.startVm task.entity.id)
        return .str task.entity.id : Call Json) :=
      (sync _ _).bind fun _ => (info _).bind fun _ => (remote _).bind fun _ => pure _
    exact (rest last (by rw [h]; rfl)).mono (fun _ _ h => h) fun _ _ => .inl

theorem exists_ends (what : String) (lookUp : Operation) (last : Option Answered) :
    Call.Ends Watches (do return .bool (← Call.exists settings what lookUp) : Call Json)
      (fun result last => lastFault? last = none ∨ result = .bool false ∧
        ∃ fault, lastFault? last = some fault ∧ fault.reportsAbsence settings.controlPlane = true)
      Owns last := by
  rw [Call.exists, Call.ends_bind, Call.ends_bind, Call.ends_attempt]
  intro r last' h
  obtain rfl : last' = some ⟨lookUp, r⟩ := h
  cases r with
  | ok x => exact .inl rfl
  | error fault =>
    dsimp only
    split
    · rename_i ha
      rw [Call.ends_bind, Call.ends_info]
      exact .inr ⟨rfl, fault, rfl, ha⟩
    · exact (rfl : Failure.cloud fault = .cloud fault)

end Honest

/-! ## The response -/

/-- A look-up that finds nothing is no failure. -/
def Absent (settings : Settings) (method : String) (fault : CloudFault) : Prop :=
  (method = "has_vm" ∨ method = "has_disk") ∧ fault.reportsAbsence settings.controlPlane = true

/-- What comes of a call, given its last operation. -/
def Verdict (settings : Settings) (method : String) (last : Option Answered) :
    Except Failure Json → Prop
  | .ok _ => ∀ fault, lastFault? last = some fault → Absent settings method fault
  | .error f => Owns f last ∨ method = "create_vm" ∧ LacksDisk last f

theorem Honest.verdict {call : Call Json} (h : Honest call) (settings : Settings) (method : String) :
    Call.Ends Watches call (fun x last => Verdict settings method last (.ok x))
      (fun f last => Verdict settings method last (.error f)) none :=
  (h none rfl).mono (fun _ _ hl fault hf => by rw [hl] at hf; cases hf) fun _ _ => .inl

theorem Honest.exists_verdict {method : String} (hm : method = "has_vm" ∨ method = "has_disk")
    (settings : Settings) (what : String) (lookUp : Operation) {last : Option Answered} :
    Call.Ends Watches (do return .bool (← Call.exists settings what lookUp) : Call Json)
      (fun x last => Verdict settings method last (.ok x))
      (fun f last => Verdict settings method last (.error f)) last := by
  refine (Honest.exists_ends settings what lookUp last).mono (fun x last hx fault hf => ?_)
    fun _ _ => .inl
  rcases hx with hl | ⟨-, fault', hf', ha⟩
  · rw [hl] at hf; cases hf
  · rw [hf'] at hf; cases hf; exact ⟨hm, ha⟩

theorem Handler.verdict {method : String} {call : Settings → List Json → Call Json}
    (h : Handler method call) (settings : Settings) (args : List Json) :
    Call.Ends Watches (call settings args) (fun x last => Verdict settings method last (.ok x))
      (fun f last => Verdict settings method last (.error f)) none := by
  cases h with
  | createStemcell => exact (Honest.createStemcell settings args).verdict ..
  | deleteStemcell => exact (Honest.deleteStemcell settings args).verdict ..
  | createVm =>
    exact (Honest.createVm_ends settings args rfl).mono
      (fun _ _ hl fault hf => by rw [hl] at hf; cases hf) fun _ _ h => h.imp_right fun h => ⟨rfl, h⟩
  | deleteVm => exact (Honest.deleteVm settings args).verdict ..
  | hasVm =>
    rw [Vms.has, Call.ends_bind]
    refine (Honest.argument _ none rfl).mono (fun vm last hl => ?_) fun _ _ => .inl
    rw [Call.ends_bind, Call.ends_info]
    exact Honest.exists_verdict (.inl rfl) settings _ _
  | restartVm => exact (Honest.restartVm settings args).verdict ..
  | setVmMetadata => exact (Honest.setVmMetadata settings args).verdict ..
  | createDisk => exact (Honest.createDisk settings args).verdict ..
  | deleteDisk => exact (Honest.deleteDisk settings args).verdict ..
  | hasDisk =>
    rw [Disks.has, Call.ends_bind]
    refine (Honest.argument _ none rfl).mono (fun vm last hl => ?_) fun _ _ => .inl
    rw [Call.ends_bind, Call.ends_info]
    exact Honest.exists_verdict (.inr rfl) settings _ _
  | listDisks => exact (Honest.listDisks settings args).verdict ..
  | attachDisk => exact (Honest.attachDisk settings args).verdict ..
  | detachDisk => exact (Honest.detachDisk settings args).verdict ..

/-- The control plane has rejected an operation, or its task has failed. -/
def CloudFault.IsRejection : CloudFault → Prop
  | .api .. | .task .. => True
  | _ => False

theorem CloudFault.reportsAbsence_transient {fault : CloudFault} {settings : ControlPlaneSettings}
    (h : fault.reportsAbsence settings = true) : fault.isTransient = false := by
  cases fault with
  | api status code message => rfl
  | task id operation message => rfl
  | taskTimeout id waited => simp [reportsAbsence, isNotFound, isForbidden] at h
  | transport message => simp [reportsAbsence, isNotFound, isForbidden] at h
  | localFile message => rfl

/-- The error of a response, as the last operation explains it. -/
structure Told (settings : Settings) (method : String) (last : Option Answered)
    (error : Option ResponseError) : Prop where
  canRetry : (∃ e, error = some e ∧ e.canRetry = true) ↔
    ∃ fault, lastFault? last = some fault ∧ fault.isTransient = true
  rejected : ∀ fault, lastFault? last = some fault → fault.IsRejection →
    ¬ Absent settings method fault → error = some ⟨.cloudError, fault.message, false⟩
  localFile : ∀ message, lastFault? last = some (.localFile message) →
    error = some ⟨.cpiError, (CloudFault.localFile message).message, false⟩
  /-- Arguments, files, documents and the image tool fail a call that no operation has failed. -/
  failed : lastFault? last = none → ∀ e, error = some e →
    (∃ f : Failure, f.IsLocal ∧ e = ⟨.cpiError, f.message, false⟩) ∨
      method = "create_vm" ∧ ∃ f, LacksDisk last f ∧ e = ⟨.cloudError, f.message, false⟩

theorem LacksDisk.classify {last : Option Answered} {f : Failure} (h : LacksDisk last f) :
    lastFault? last = none ∧ f.classify = (.cloudError, false) := by
  obtain ⟨id, vm, rfl, hf⟩ := h
  refine ⟨rfl, ?_⟩
  unfold Vms.ephemeralDiskId at hf
  split at hf <;> cases hf
  rfl

/-- A failure that is told as such, with the kind and the flag that it is classified with. -/
theorem ofOutcome_error (f : Failure) (log : String) :
    (Response.ofOutcome (.error f) log).error = some ⟨f.classify.1, f.message, f.classify.2⟩ := rfl

/-- A call that owns up to a failed operation is told by that operation's fault. -/
theorem Told.of_fault {settings : Settings} {method : String} {last : Option Answered}
    {fault : CloudFault} (h : lastFault? last = some fault) (log : String) :
    Told settings method last (Response.ofOutcome (.error (.cloud fault)) log).error := by
  have classify : fault.IsRejection → (Failure.cloud fault).classify = (.cloudError, false) := by
    intro hr
    cases fault with
    | api status code message | task id operation message => rfl
    | taskTimeout id waited | transport message | localFile message => exact hr.elim
  rw [ofOutcome_error]
  constructor
  · constructor
    · rintro ⟨e, he, hc⟩
      cases he
      refine ⟨fault, h, ?_⟩
      cases fault with
      | api status code message | task id operation message | localFile message => cases hc
      | taskTimeout id waited | transport message => rfl
    · rintro ⟨fault', hf, ht⟩
      obtain rfl : fault = fault' := Option.some.inj (h.symm.trans hf)
      refine ⟨_, rfl, ?_⟩
      cases fault with
      | api status code message | task id operation message | localFile message => cases ht
      | taskTimeout id waited | transport message => rfl
  · intro fault' hf hr _
    obtain rfl : fault = fault' := Option.some.inj (h.symm.trans hf)
    rw [classify hr]; rfl
  · intro message hf
    obtain rfl : fault = .localFile message := Option.some.inj (h.symm.trans hf)
    rfl
  · intro hn
    rw [h] at hn; cases hn

/-- Where no operation has failed, the flag is down, whatever the failure is. -/
theorem Told.of_none {settings : Settings} {method : String} {last : Option Answered}
    {f : Failure} (h : lastFault? last = none) (hr : f.classify.2 = false) (log : String)
    (failed : (f.IsLocal ∧ f.classify.1 = .cpiError) ∨
      method = "create_vm" ∧ LacksDisk last f ∧ f.classify.1 = .cloudError) :
    Told settings method last (Response.ofOutcome (.error f) log).error := by
  rw [ofOutcome_error, hr]
  constructor
  · constructor
    · rintro ⟨e, he, hc⟩
      cases he; cases hc
    · rintro ⟨fault, hf, -⟩
      rw [h] at hf; cases hf
  · intro fault hf
    rw [h] at hf; cases hf
  · intro message hf
    rw [h] at hf; cases hf
  · rintro - e he
    cases he
    rcases failed with ⟨hl, hk⟩ | ⟨hm, hl, hk⟩
    · exact .inl ⟨f, hl, by rw [hk]⟩
    · exact .inr ⟨hm, f, hl, by rw [hk]⟩

theorem Verdict.told {settings : Settings} {method : String} {last : Option Answered}
    {outcome : Except Failure Json} (h : Verdict settings method last outcome) (log : String) :
    Told settings method last (Response.ofOutcome outcome log).error := by
  cases outcome with
  | ok result =>
    have absent : ∀ fault, lastFault? last = some fault → Absent settings method fault := h
    constructor
    · constructor
      · rintro ⟨e, he, -⟩
        cases he
      · rintro ⟨fault, hf, ht⟩
        rw [CloudFault.reportsAbsence_transient (absent fault hf).2] at ht
        cases ht
    · exact fun fault hf _ ha => absurd (absent fault hf) ha
    · intro message hf
      have := (absent _ hf).2
      simp [CloudFault.reportsAbsence, CloudFault.isNotFound, CloudFault.isForbidden] at this
    · rintro - e he
      cases he
  | error f =>
    rcases h with ho | ⟨hm, hl⟩
    · cases hf : lastFault? last with
      | some fault =>
        rw [Owns, hf] at ho
        rw [ho]
        exact .of_fault hf log
      | none =>
        rw [Owns, hf] at ho
        exact .of_none hf (congrArg Prod.snd ho.classify) log
          (.inl ⟨ho, congrArg Prod.fst ho.classify⟩)
    · exact .of_none hl.classify.1 (congrArg Prod.snd hl.classify.2) log
        (.inr ⟨hm, hl, congrArg Prod.fst hl.classify.2⟩)

/-- The last operation that a call asks of the control plane. -/
def World.lastAnswered {σ : Type} (w : World σ) (settings : Settings) (method : String)
    (args : List Json) (s : At σ) : Option Answered :=
  (w.watched.respond settings method args ⟨s.log, none, s.state⟩).2.state.1

/-- In every world, whatever it answers: the director may try again if and only if the last operation
of the call has met with something that passes, and every other failure is told for what it is. -/
theorem World.respond_told {σ : Type} (w : World σ) (settings : Settings) {method : String}
    (known : (ActionTable.default.find? (Text.lowerCase method)).isSome) (args : List Json) (s : At σ) :
    Told settings (Text.lowerCase method) (w.lastAnswered settings method args s)
      (w.respond settings method args s).1.error := by
  have ends : Program.Ends Watches (Dispatch.run .default settings method args)
      (fun outcome last => Verdict settings (Text.lowerCase method) last outcome) none := by
    refine Dispatch.run_ends (fun hn => ?_) fun call hc => hc.verdict settings args
    rw [hn] at known; cases known
  obtain ⟨outcome, log, hr, hv⟩ := w.watched.respond_ends Prod.fst
    (s := ⟨s.log, none, s.state⟩) (fun e t => by cases e <;> rfl) (fun t => rfl) ends
  have same := respond_view w.watched w Prod.snd
    (fun e t => by cases e <;> rfl) (fun t => rfl) settings method args s.log (none, s.state)
  rw [show (w.respond settings method args s).1 = .ofOutcome outcome log from same.trans hr]
  exact hv.told log

/-- A world in which every task takes too long. -/
def World.stalled : World Unit where
  answer
    | .remote _, s => (.error (.taskTimeout "task-1" 1800), s)
    | .runTool .., s => (.ok ⟨true, ""⟩, s)
    | .openFile _, s | .createDirectory _, s | .createFile .., s | .writeFile .., s
    | .removeDirectory _, s | .removeFile _, s => (.error .denied, s)
  clock s := ("00:00:00", s)

theorem World.respond_told_stalled :
    ∃ e, (stalled.respond (.bare "http://127.0.0.1" "project" "nats://127.0.0.1") "attach_disk"
      [.str "vm-1", .str "disk-1"] ⟨.empty, ()⟩).1.error = some e ∧ e.canRetry = true :=
  (stalled.respond_told (.bare "http://127.0.0.1" "project" "nats://127.0.0.1") (by decide +kernel)
    _ _).canRetry.2 ⟨.taskTimeout "task-1" 1800, rfl, rfl⟩

end CloudProvider
