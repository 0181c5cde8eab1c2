import CloudProvider.Proofs.Media

/-! # Attaching and detaching can be tried again

A disk is attached or detached, and then recorded or struck out. A call may stop anywhere between; from
where it stopped the next call starts (`Halfway`). Every change is made for good, so that a call which
finds it made leaves it alone: however many calls have failed, one that succeeds ends as the first would
have, had nothing stood against it.
-/

namespace CloudProvider
open Agent (Environment)
open Agent.Environment (Update)

/-! ## Two kinds of calls, one shape -/

/-- What is done to a disk on behalf of a machine. -/
inductive Revision where
  | attach
  | detach

namespace Revision

/-- The method of the call. -/
def method : Revision → String
  | .attach => "attach_disk"
  | .detach => "detach_disk"

def call : Revision → Settings → List Json → Call Json
  | .attach => Disks.attach
  | .detach => Disks.detach

theorem handler (rev : Revision) : Handler rev.method rev.call := by
  cases rev with
  | attach => exact .attachDisk
  | detach => exact .detachDisk

def operation (rev : Revision) (vm disk : String) : Operation :=
  match rev with
  | .attach => .attachDisk vm disk
  | .detach => .detachDisk vm disk

/-- What becomes of the machines of the disk. -/
def machines (rev : Revision) (vm : String) (vms : List String) : List String :=
  match rev with
  | .attach => if vm ∈ vms then vms else vms ++ [vm]
  | .detach => vms.filter (· ≠ vm)

def revise (rev : Revision) (vm : String) (d : PersistentDisk) : PersistentDisk :=
  { d with vms := rev.machines vm d.vms }

/-- What becomes of the environment. -/
def update (rev : Revision) (disk : String) : Update :=
  match rev with
  | .attach => .record disk
  | .detach => .strike disk

theorem machines_machines (rev : Revision) (vm : String) (vms : List String) :
    rev.machines vm (rev.machines vm vms) = rev.machines vm vms := by
  cases rev with
  | attach => simp only [machines]; split <;> simp_all
  | detach => simp [machines]

@[simp] theorem revise_revise (rev : Revision) (vm : String) (d : PersistentDisk) :
    rev.revise vm (rev.revise vm d) = rev.revise vm d := by
  simp only [revise, machines_machines]

/-- The steps of the call, without what goes to the log. -/
def steps (rev : Revision) (vm disk : String) : Call Unit := do
  let _ ← Call.remote (rev.operation vm disk)
  let env ← Agent.fetch vm
  let env ← Call.ofExcept ((rev.update disk).apply env)
  Agent.sync vm env

section
variable {σ : Type} {may : (e : Effect) → σ → e.Reply → σ → Prop}

/-- Arguments that are not a machine and a disk are refused. -/
theorem ends_call_of_fault (rev : Revision) (settings : Settings) {args : List Json}
    {fault : ArgumentFault} (pair : Disks.pair args = .error fault) {Q : Json → σ → Prop}
    {E : Failure → σ → Prop} : Call.Ends may (rev.call settings args) Q E = E (.argument fault) := by
  cases rev with
  | attach => rw [call, Disks.attach, Call.ends_bind, Call.ends_argument, pair]; rfl
  | detach => rw [call, Disks.detach, Call.ends_bind, Call.ends_argument, pair]; rfl

/-- What comes of the steps comes of the call. -/
theorem ends_call (rev : Revision) (settings : Settings) {args : List Json} {vm disk : String}
    (pair : Disks.pair args = .ok (vm, disk)) {Q : Json → σ → Prop} {E : Failure → σ → Prop} :
    Call.Ends may (rev.call settings args) Q E =
      Call.Ends may (rev.steps vm disk) (fun _ => Q .null) E := by
  have mapped : (Except.ok (vm, disk)).mapError Failure.argument = .ok (vm, disk) := rfl
  cases rev with
  | attach =>
    rw [call, Disks.attach, Call.ends_bind, Call.ends_argument, pair, mapped]
    simp only [Call.Ending, Call.ends_bind, Call.ends_info, Call.ends_pure, steps,
      operation, update, Update.apply]
  | detach =>
    rw [call, Disks.detach, Call.ends_bind, Call.ends_argument, pair, mapped]
    simp only [Call.Ending, Call.ends_bind, Call.ends_info, steps, operation, update,
      Update.apply, Call.ends_ofExcept]
    congr 1; funext t; congr 1; funext env
    cases env.removePersistent disk with
    | error f => rfl
    | ok struck =>
      obtain ⟨recorded, env⟩ := struck
      cases recorded <;>
        simp only [Except.map, Bool.not_true, Bool.not_false, Bool.false_eq_true, if_true,
          if_false, Call.ends_bind, Call.ends_info, Call.ends_pure]

end

/-! ## Where a call may stop -/

variable (rev : Revision) (vm disk : String)

/-- The machine with the document of its updated environment. -/
def Updated (v v' : Vm) : Prop :=
  ∃ env env', v.Reads env ∧ (rev.update disk).apply env = .ok env' ∧
    v' = v.withDocument env'.document

/-- A call that started from `inv₀` may have stopped here. -/
structure Halfway (inv₀ inv : Inventory) : Prop where
  images : inv.images = inv₀.images
  disks : inv.disks = inv₀.disks ∨ ∃ d, inv₀.disks.find? disk = some d ∧
    inv.disks = inv₀.disks.insert disk (rev.revise vm d)
  vms : inv.vms = inv₀.vms ∨ ∃ record v iso, inv₀.vms.find? vm = some record ∧
    (v = record.vm ∨ rev.Updated disk record.vm v) ∧ inv.vms = inv₀.vms.insert vm ⟨v, iso⟩

/-- A call that started from `inv₀` has come to its end here. -/
def Done (inv₀ inv : Inventory) : Prop :=
  ∃ record d v path, inv₀.vms.find? vm = some record ∧ inv₀.disks.find? disk = some d ∧
    rev.Updated disk record.vm v ∧
    inv.Holds (inv₀.vms.insert vm ⟨v, some path⟩) (inv₀.disks.insert disk (rev.revise vm d)) inv₀.images

/-- The call finds all that it needs. -/
def Ready (inv : Inventory) : Prop :=
  ∃ record d env env', inv.vms.find? vm = some record ∧ inv.disks.find? disk = some d ∧
    record.vm.Reads env ∧ (rev.update disk).apply env = .ok env'

variable {rev vm disk} {inv₀ inv inv' : Inventory}

theorem Halfway.refl (inv : Inventory) : rev.Halfway vm disk inv inv := ⟨rfl, .inl rfl, .inl rfl⟩

theorem Halfway.of_holds (h : rev.Halfway vm disk inv₀ inv)
    (hh : inv'.Holds inv.vms inv.disks inv.images) : rev.Halfway vm disk inv₀ inv' := by
  obtain ⟨hv, hd, hi⟩ := hh
  exact ⟨hi.trans h.images, hd ▸ h.disks, hv ▸ h.vms⟩

/-- What has been updated is not changed by another update. -/
theorem Updated.again {v v' : Vm} {env env' : Environment} (h : v' = v ∨ rev.Updated disk v v')
    (fit : ∀ env, v.Reads env → env.WellFormed) (hr : v'.Reads env)
    (ha : (rev.update disk).apply env = .ok env') :
    rev.Updated disk v (v'.withDocument env'.document) := by
  rcases h with rfl | ⟨env₀, env₁, hr₀, ha₀, rfl⟩
  · exact ⟨env, env', hr, ha, rfl⟩
  · obtain rfl : env = env₁ := hr.unique (v.reads_withDocument ((fit env₀ hr₀).apply ha₀))
    obtain rfl : env' = env := by
      rw [Update.apply_settled ha₀] at ha
      cases ha
      rfl
    exact ⟨env₀, env', hr₀, ha₀, by rw [Vm.withDocument_withDocument]⟩

theorem Updated.unique {v v₁ v₂ : Vm} (h₁ : rev.Updated disk v v₁) (h₂ : rev.Updated disk v v₂) :
    v₁ = v₂ := by
  obtain ⟨env, env', hr, ha, rfl⟩ := h₁
  obtain ⟨env₀, env₀', hr₀, ha₀, rfl⟩ := h₂
  obtain rfl := hr.unique hr₀
  rw [ha] at ha₀
  cases ha₀
  rfl

/-- The machine of a call that has been begun. -/
theorem Halfway.machine (h : rev.Halfway vm disk inv₀ inv) {record : VmRecord}
    (hf : inv.vms.find? vm = some record) : ∃ record₀, inv₀.vms.find? vm = some record₀ ∧
      (record.vm = record₀.vm ∨ rev.Updated disk record₀.vm record.vm) ∧
      ∀ x, inv.vms.insert vm x = inv₀.vms.insert vm x := by
  rcases h.vms with hv | ⟨record₀, v, iso, hf₀, hu, hv⟩
  · exact ⟨record, hv ▸ hf, .inl rfl, fun x => by rw [hv]⟩
  · rw [hv, SortedMap.find?_insert_self] at hf
    cases hf
    exact ⟨record₀, hf₀, hu, fun x => by rw [hv, SortedMap.insert_insert]⟩

/-- A disk that has been revised is not changed by another revision. -/
theorem Halfway.operated (h : rev.Halfway vm disk inv₀ inv)
    (hc : inv.ChangesDisk vm disk (rev.machines vm) inv') : ∃ d, inv₀.disks.find? disk = some d ∧
      inv'.Holds inv.vms (inv₀.disks.insert disk (rev.revise vm d)) inv₀.images := by
  obtain ⟨record, d, -, hd, hv, hd', hi⟩ := hc
  rcases h.disks with hs | ⟨d₀, hd₀, hs⟩
  · rw [hs] at hd hd'
    exact ⟨d, hd, hv, hd', hi.trans h.images⟩
  · rw [hs, SortedMap.find?_insert_self] at hd
    cases hd
    refine ⟨d₀, hd₀, hv, ?_, hi.trans h.images⟩
    rw [hd', hs, SortedMap.insert_insert]
    exact congrArg _ (revise_revise rev vm d₀)

theorem performs_operation {fresh : Nat → String} {t : (rev.operation vm disk).Reply}
    (h : inv.Performs fresh (rev.operation vm disk) t inv') :
    inv.ChangesDisk vm disk (rev.machines vm) inv' := by
  cases rev with
  | attach => exact h
  | detach => exact h

theorem Ready.not_refuses {f : CloudFault} (h : rev.Ready vm disk inv) :
    ¬ inv.Refuses (rev.operation vm disk) f := by
  obtain ⟨record, d, env, env', hv, hd, -⟩ := h
  have refuses : ∀ rev : Revision, inv.Refuses (rev.operation vm disk) f →
      inv.vms.find? vm = none ∨ inv.disks.find? disk = none := by
    intro rev hr
    cases rev with
    | attach => exact hr.imp And.left And.left
    | detach => exact hr.imp And.left And.left
  intro hr
  rcases refuses rev hr with hn | hn
  · rw [hv] at hn; cases hn
  · rw [hd] at hn; cases hn

/-- From wherever a call has stopped, the next one comes to its end or stops where it may, and it does
not stop without a reason. -/
theorem Halfway.steps_ends (h : rev.Halfway vm disk inv₀ inv) (whole : inv₀.WholeNumbers vm)
    (fresh : Nat → String) (allowed : (e : Effect) → e.Reply → Prop) :
    Call.Ends (Inventory.Answers fresh allowed) (rev.steps vm disk) (fun _ => rev.Done vm disk inv₀)
      (fun _ inv' => rev.Halfway vm disk inv₀ inv' ∧
        ¬ (inv.Faultless ∧ Obliging (Inventory.Answers fresh allowed) ∧ rev.Ready vm disk inv)) inv := by
  rw [steps, Call.ends_bind]
  refine Inventory.ends_remote (fun f inv₁ hl hh hr => ⟨h.of_holds hh, ?_⟩) fun t inv₁ hl₁ hp => ?_
  · rintro ⟨clear, -, ready⟩
    exact ready.not_refuses (Inventory.not_refused clear hr)
  obtain ⟨d, hd, hh₁⟩ := h.operated (performs_operation hp)
  have h₁ : rev.Halfway vm disk inv₀ inv₁ := ⟨hh₁.2.2, .inr ⟨d, hd, hh₁.2.1⟩, hh₁.1 ▸ h.vms⟩
  rw [Call.ends_bind]
  refine Inventory.ends_fetch (fun f inv₂ hl₂ hh₂ hn => ⟨h₁.of_holds hh₂, ?_⟩) ?_
  · rintro ⟨clear, -, record, -, env, -, hf, -, hr, -⟩
    exact hn (hl₁.faultless clear) record env (hh₁.1 ▸ hf) hr
  intro record env inv₂ hl₂ hh₂ hf hr
  have h₂ : rev.Halfway vm disk inv₀ inv₂ := h₁.of_holds hh₂
  rw [Call.ends_bind, Call.ends_ofExcept]
  cases ha : (rev.update disk).apply env with
  | error f =>
    refine ⟨h₂, ?_⟩
    rintro ⟨-, -, record', -, env', env'', hf', -, hr', ha'⟩
    rw [← hh₁.1, hf] at hf'
    cases hf'
    obtain rfl := hr.unique hr'
    rw [ha] at ha'
    cases ha'
  | ok env' =>
    have hf₂ : inv₂.vms.find? vm = some record := hh₂.1 ▸ hf
    obtain ⟨record₀, hf₀, hs, hins⟩ := h₂.machine hf₂
    have fit : ∀ env, record₀.vm.Reads env → env.WellFormed := fun env hr =>
      hr.wellFormed (whole record₀ env hf₀ hr)
    have updated := Updated.again hs fit hr ha
    have hd₂ : inv₂.disks = inv₀.disks.insert disk (rev.revise vm d) := hh₂.2.1.trans hh₁.2.1
    refine Inventory.ends_sync hf₂ env' (fun f inv₃ v iso hl₃ hh₃ hv hn => ⟨⟨?_, ?_, ?_⟩, ?_⟩)
      fun inv₃ image hl₃ hh₃ => ?_
    · exact hh₃.2.2.trans h₂.images
    · exact .inr ⟨d, hd, hh₃.2.1.trans hd₂⟩
    · refine .inr ⟨record₀, v, iso, hf₀, ?_, hh₃.1.trans (hins _)⟩
      rcases hv with rfl | rfl
      · exact hs
      · exact .inr updated
    · rintro ⟨clear, works, -⟩
      exact hn ⟨hl₂.faultless (hl₁.faultless clear), works⟩
    · exact ⟨record₀, d, _, image, hf₀, hd, updated, hh₃.1.trans (hins _), hh₃.2.1.trans hd₂,
        hh₃.2.2.trans h₂.images⟩

/-! ## Attempts -/

theorem run_ends {σ : Type} {may : (e : Effect) → σ → e.Reply → σ → Prop} {st : σ} (rev : Revision)
    (settings : Settings) (vm disk : String) {Q : Except Failure Json → σ → Prop}
    (h : Call.Ends may (rev.steps vm disk) (fun _ => Q (.ok .null)) (fun f => Q (.error f)) st) :
    Program.Ends may (Dispatch.run .default settings rev.method [.str vm, .str disk]) Q st := by
  rw [Dispatch.run_ends_of_call rev.handler.found, ends_call rev settings rfl]
  exact h

/-- A call from wherever another has stopped. -/
theorem Halfway.respond {σ : Type} {s : World.At (Inventory × σ)} (h : rev.Halfway vm disk inv₀ s.state.1)
    (whole : inv₀.WholeNumbers vm) (w : World σ) (fresh : Nat → String) (settings : Settings) :
    let r := (w.withInventory fresh).respond settings rev.method [.str vm, .str disk] s
    (r.1.isSuccess = true ∧ rev.Done vm disk inv₀ r.2.state.1) ∨
      (r.1.isSuccess = false ∧ rev.Halfway vm disk inv₀ r.2.state.1 ∧
        ¬ (s.state.1.Faultless ∧ w.Works ∧ rev.Ready vm disk s.state.1)) := by
  have steps := h.steps_ends whole fresh fun e r => ∃ s, r = (w.answer e s).1
  have obliging : w.Works → Obliging (Inventory.Answers fresh fun e r => ∃ s, r = (w.answer e s).1) := by
    refine fun works => Inventory.Answers.obliging fun e r hr => ?_
    obtain ⟨s, rfl⟩ := hr
    exact works e s
  have ends := rev.run_ends settings vm disk (Q := fun outcome inv =>
      (outcome.isOk = true ∧ rev.Done vm disk inv₀ inv) ∨
      (outcome.isOk = false ∧ rev.Halfway vm disk inv₀ inv ∧
        ¬ (s.state.1.Faultless ∧ w.Works ∧ rev.Ready vm disk s.state.1)))
    (steps.mono (fun _ inv hd => .inl ⟨rfl, hd⟩) fun f inv hh => .inr ⟨rfl, hh.1, fun h =>
      hh.2 ⟨h.1, obliging h.2.1, h.2.2⟩⟩)
  obtain ⟨outcome, text, hr, hq⟩ := w.withInventory_ends (fun e s => ⟨s, rfl⟩) ends
  have success : (Response.ofOutcome outcome text).isSuccess = outcome.isOk := by cases outcome <;> rfl
  dsimp only
  rw [hr, success]
  exact hq

end Revision

/-- Calls are made until one succeeds. Before each of them faults may be armed, and each may find another
world around the control plane. -/
inductive Retries {σ : Type} (fresh : Nat → String) (method : String) (args : List Json) :
    World.At (Inventory × σ) → World.At (Inventory × σ) → Prop
  | success {s : World.At (Inventory × σ)} (w : World σ) (settings : Settings)
      (faults : List (String × CloudFault))
      (h : ((w.withInventory fresh).respond settings method args
        (w.run fresh (faults.map fun f => .arm f.1 f.2) s)).1.isSuccess = true) :
      Retries fresh method args s ((w.withInventory fresh).respond settings method args
        (w.run fresh (faults.map fun f => .arm f.1 f.2) s)).2
  | failure {s t : World.At (Inventory × σ)} (w : World σ) (settings : Settings)
      (faults : List (String × CloudFault))
      (h : ((w.withInventory fresh).respond settings method args
        (w.run fresh (faults.map fun f => .arm f.1 f.2) s)).1.isSuccess = false)
      (rest : Retries fresh method args ((w.withInventory fresh).respond settings method args
        (w.run fresh (faults.map fun f => .arm f.1 f.2) s)).2 t) :
      Retries fresh method args s t

namespace Inventory

/-- The same disks, images and machines, but that a machine has an image from another path. -/
def SameButMedia (vm : String) (inv inv' : Inventory) : Prop :=
  inv.disks = inv'.disks ∧ inv.images = inv'.images ∧
    (∀ id, id ≠ vm → inv.vms.find? id = inv'.vms.find? id) ∧
    ∃ v path path', inv.vms.find? vm = some ⟨v, some path⟩ ∧ inv'.vms.find? vm = some ⟨v, some path'⟩

/-- The same control plane with no fault armed. -/
def disarmed (inv : Inventory) : Inventory := { inv with faults := ∅ }

end Inventory

theorem World.run_arm {σ : Type} (w : World σ) (fresh : Nat → String)
    (faults : List (String × CloudFault)) (s : At (Inventory × σ)) :
    (w.run fresh (faults.map fun f => .arm f.1 f.2) s).state.1.Holds s.state.1.vms s.state.1.disks
      s.state.1.images := by
  induction faults generalizing s with
  | nil => exact ⟨rfl, rfl, rfl⟩
  | cons f faults ih => exact ih _

namespace Revision
variable {rev : Revision} {vm disk : String}

theorem Done.same {inv₀ inv inv' : Inventory} (h : rev.Done vm disk inv₀ inv)
    (h' : rev.Done vm disk inv₀ inv') : inv.SameButMedia vm inv' := by
  obtain ⟨record, d, v, path, hf, hd, hu, hv, hds, hi⟩ := h
  obtain ⟨record', d', v', path', hf', hd', hu', hv', hds', hi'⟩ := h'
  rw [hf] at hf'
  cases hf'
  rw [hd] at hd'
  cases hd'
  obtain rfl := hu.unique hu'
  refine ⟨hds.trans hds'.symm, hi.trans hi'.symm, fun id hne => ?_, v, path, path', ?_, ?_⟩
  · rw [hv, hv', SortedMap.find?_insert_of_ne _ hne, SortedMap.find?_insert_of_ne _ hne]
  · rw [hv, SortedMap.find?_insert_self]
  · rw [hv', SortedMap.find?_insert_self]

theorem Done.ready {inv₀ inv : Inventory} (h : rev.Done vm disk inv₀ inv) :
    rev.Ready vm disk inv₀ := by
  obtain ⟨record, d, v, path, hf, hd, ⟨env, env', hr, ha, -⟩, -⟩ := h
  exact ⟨record, d, env, env', hf, hd, hr, ha⟩

theorem Halfway.retried {σ : Type} {fresh : Nat → String} {s t : World.At (Inventory × σ)}
    {inv₀ : Inventory} (whole : inv₀.WholeNumbers vm)
    (h : Retries fresh rev.method [.str vm, .str disk] s t)
    (halfway : rev.Halfway vm disk inv₀ s.state.1) : rev.Done vm disk inv₀ t.state.1 := by
  induction h with
  | success w settings faults h =>
    rcases (halfway.of_holds (w.run_arm fresh faults _)).respond whole w fresh settings with
      ⟨-, hd⟩ | ⟨hf, -⟩
    · exact hd
    · rw [h] at hf; cases hf
  | failure w settings faults h rest ih =>
    rcases (halfway.of_holds (w.run_arm fresh faults _)).respond whole w fresh settings with
      ⟨hs, -⟩ | ⟨-, hh, -⟩
    · rw [h] at hs; cases hs
    · exact ih hh

end Revision

/-- However many calls have failed and wherever they have stopped, the one that succeeds leaves what a
single call leaves that nothing stands against; and there is such a call. -/
theorem Retries.converges {σ τ : Type} {fresh : Nat → String} {rev : Revision} {vm disk : String}
    {s t : World.At (Inventory × σ)} (h : Retries fresh rev.method [.str vm, .str disk] s t)
    (whole : s.state.1.WholeNumbers vm) (w : World τ) (fresh' : Nat → String) (settings : Settings)
    (log : CallLog) (rest : τ) :
    let once := (w.withInventory fresh').respond settings rev.method [.str vm, .str disk]
      ⟨log, s.state.1.disarmed, rest⟩
    (w.Works → once.1.isSuccess = true) ∧
      (once.1.isSuccess = true → t.state.1.SameButMedia vm once.2.state.1) := by
  have start : rev.Halfway vm disk s.state.1 (World.At.mk log (s.state.1.disarmed, rest)).state.1 :=
    (Revision.Halfway.refl s.state.1).of_holds ⟨rfl, rfl, rfl⟩
  have done := (Revision.Halfway.refl s.state.1).retried whole h
  intro once
  rcases start.respond whole w fresh' settings with ⟨hs, hd⟩ | ⟨hf, -, hn⟩
  · exact ⟨fun _ => hs, fun _ => done.same hd⟩
  · refine ⟨fun works => absurd ⟨fun _ => rfl, works, done.ready⟩ hn, fun hs => ?_⟩
    have : once.1.isSuccess = false := hf
    rw [hs] at this
    cases this

/-- An environment without anything that is left open. -/
def Agent.Environment.bare : Environment := ⟨"agent-1", ⟨"vm", "vm-1"⟩, "nats", [], ∅, ∅, ∅, .none⟩

theorem Agent.Environment.bare_wellFormed : Environment.bare.WellFormed :=
  ⟨.empty _, .empty _, .empty _, .empty _⟩

/-- A machine and a disk. -/
def Inventory.pair : Inventory :=
  ((empty false).insertVm "vm-1" |>.insertDisk "disk-1" []).putMetadata "vm-1" Agent.metadataKey
    Environment.bare.document

theorem Inventory.pair_wholeNumbers : Inventory.pair.WholeNumbers "vm-1" := by
  intro record env hf hr
  obtain rfl : record = ⟨Vm.withDocument ⟨"vm-1", "bosh-vm", "STOPPED", [], ∅⟩ Environment.bare.document,
      none⟩ := Option.some.inj (hf.symm.trans rfl)
  obtain rfl := hr.unique (Vm.reads_withDocument _ Agent.Environment.bare_wellFormed)
  exact Agent.Environment.bare_wellFormed.integersOnly

/-- The last operation fails, and then the call is made again. -/
theorem Retries.converges_after_reset : ∃ t : World.At (Inventory × Unit),
    Retries (fun n => s!"task-{n}") Revision.attach.method [.str "vm-1", .str "disk-1"]
      ⟨.empty, Inventory.pair, ()⟩ t ∧
    t.state.1.SameButMedia "vm-1" ((World.calm.withInventory fun n => s!"task-{n}").respond
      (.bare "http://127.0.0.1" "project" "nats") Revision.attach.method [.str "vm-1", .str "disk-1"]
      ⟨.empty, Inventory.pair.disarmed, ()⟩).2.state.1 := by
  have tries : Retries (fun n => s!"task-{n}") Revision.attach.method [.str "vm-1", .str "disk-1"]
      ⟨.empty, Inventory.pair, ()⟩ _ :=
    .failure World.calm (.bare "http://127.0.0.1" "project" "nats")
      [("attach_iso", .transport "connection reset")] (by decide +kernel)
      (.success World.calm (.bare "http://127.0.0.1" "project" "nats") [] (by decide +kernel))
  obtain ⟨succeeds, same⟩ := Retries.converges tries Inventory.pair_wholeNumbers World.calm
    (fun n => s!"task-{n}") (.bare "http://127.0.0.1" "project" "nats") .empty ()
  dsimp only at succeeds same
  exact ⟨_, tries, same (succeeds World.calm_works)⟩

end CloudProvider
