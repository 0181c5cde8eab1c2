import CloudProvider.Proofs.Journal
import CloudProvider.Proofs.RoundTrip

/-! # An image that cannot be taken away

Between storing the new document and attaching the new image the old image has to go. Whether a failure to
take it away stops the exchange is a matter of the failure alone (`sync_detaching`): a task that fails is
passed over, as it is when there is no image to take away, and any other failure leaves the old image where
it is. So a task that fails on an image that is attached is passed over as well (`sync_ignores_failed_task`).
-/

namespace CloudProvider

namespace Inventory
variable {fresh : Nat → String} {allowed : (e : Effect) → e.Reply → Prop} {inv : Inventory}
variable {vm : String} {iso : Option String}
variable {E : Failure → Inventory → Prop} {Q : Unit → Inventory → Prop}

/-- The machine has some record with this image, or with none. -/
def HasIso (inv : Inventory) (vm : String) (iso : Option String) : Prop :=
  ∃ v, inv.vms.find? vm = some ⟨v, iso⟩

theorem HasIso.of_holds {inv' : Inventory} (h : inv.HasIso vm iso)
    (hh : inv'.Holds inv.vms inv.disks inv.images) : inv'.HasIso vm iso := by
  obtain ⟨v, found⟩ := h
  exact ⟨v, hh.1 ▸ found⟩

theorem HasIso.attachedIso? (h : inv.HasIso vm iso) : inv.attachedIso? vm = iso := by
  obtain ⟨v, found⟩ := h
  rw [Inventory.attachedIso?, found]
  rfl

theorem ends_store_begun (has : inv.HasIso vm iso) (unarmed : inv.faults.find? "set_metadata" = none)
    (env : Agent.Environment)
    (stored : ∀ inv', inv.Begun (.setMetadata vm ⟨.singleton Agent.metadataKey env.document⟩) inv' →
      inv'.HasIso vm iso → Q () inv') :
    Call.Ends (Answers fresh allowed) (Agent.store vm env) Q E inv := by
  rw [Agent.store, Call.ends_bind, Call.ends_remote]
  intro r inv' h
  obtain ⟨v, found⟩ := has
  rcases perform_unarmed h unarmed with ⟨f, rfl, -, missing, -⟩ | ⟨t, rfl, record, found', holds⟩
  · cases found.symm.trans missing
  · cases found.symm.trans found'
    let put := VmRecord.putMetadata ⟨v, iso⟩ (.singleton Agent.metadataKey env.document)
    refine stored inv' (perform_begun h trivial) ⟨put.vm, ?_⟩
    rw [holds.1, SortedMap.find?_insert_self]
    rfl

/-- Only a fault that is no failed task stops the exchange here. -/
theorem ends_detachImage (has : inv.HasIso vm iso)
    (stopped : ∀ fault inv', inv.faults.find? "detach_iso" = some fault → fault.isTaskFailure = false →
      inv.Begun (.detachIso vm) inv' → inv'.HasIso vm iso → E (.cloud fault) inv')
    (passed : ∀ iso' inv', (∀ fault, inv.faults.find? "detach_iso" = some fault → fault.isTaskFailure = true) →
      inv.Begun (.detachIso vm) inv' → inv'.HasIso vm iso' → Q () inv') :
    Call.Ends (Answers fresh allowed) (Agent.detachImage vm) Q E inv := by
  rw [Agent.detachImage, Call.ends_bind, Call.ends_attempt]
  intro r inv' h
  have begun := perform_begun h trivial
  cases armed : inv.faults.find? "detach_iso" with
  | some fault =>
    obtain ⟨rfl, holds⟩ := perform_armed h trivial armed
    dsimp only
    split
    · rename_i task
      rw [Call.ends_report]
      refine passed iso inv' (fun fault' armed' => ?_) begun (has.of_holds holds)
      cases armed.symm.trans armed'
      exact task
    · rename_i task
      exact stopped fault inv' armed (Bool.eq_false_iff.2 task) begun (has.of_holds holds)
  | none =>
    have unarmed : ∀ fault, inv.faults.find? "detach_iso" = some fault → fault.isTaskFailure = true := by
      intro fault armed'
      cases armed.symm.trans armed'
    rcases perform_unarmed h armed with ⟨f, rfl, holds, ⟨missing, -⟩ | ⟨_, _, _, task⟩⟩ | ⟨t, rfl, record, found, holds⟩
    · obtain ⟨v, found⟩ := has
      cases found.symm.trans missing
    · dsimp only
      rw [if_pos task, Call.ends_report]
      exact passed iso inv' unarmed begun (has.of_holds holds)
    · refine passed none inv' unarmed begun ⟨record.vm, ?_⟩
      rw [holds.1, SortedMap.find?_insert_self]

theorem ends_attachIso (has : inv.HasIso vm iso) (image : String)
    (failed : ∀ fault inv', inv.faults.find? "attach_iso" = some fault → inv.Begun (.attachIso vm image) inv' →
      E (.cloud fault) inv')
    (attached : ∀ inv', inv.faults.find? "attach_iso" = none → inv.Begun (.attachIso vm image) inv' →
      inv'.HasIso vm (some image) → Q () inv') :
    Call.Ends (Answers fresh allowed) (do let _ ← Call.remote (.attachIso vm image)) Q E inv := by
  rw [Call.ends_bind, Call.ends_remote]
  intro r inv' h
  have begun := perform_begun h trivial
  cases armed : inv.faults.find? "attach_iso" with
  | some fault =>
    obtain ⟨rfl, -⟩ := perform_armed h trivial armed
    exact failed fault inv' armed begun
  | none =>
    rcases perform_unarmed h armed with ⟨f, rfl, -, missing, -⟩ | ⟨t, rfl, record, found, holds⟩
    · obtain ⟨v, found⟩ := has
      cases found.symm.trans missing
    · refine attached inv' armed begun ⟨record.vm, ?_⟩
      rw [holds.1, SortedMap.find?_insert_self]

/-- The exchange as far as the old image lets it go. -/
theorem ends_exchange_begun (has : inv.HasIso vm iso) (unarmed : inv.faults.find? "set_metadata" = none)
    (env : Agent.Environment) (image : String)
    (stopped : ∀ fault inv', inv.faults.find? "detach_iso" = some fault → fault.isTaskFailure = false →
      inv'.journal = inv.journal ++ ["set_metadata", "detach_iso"] → inv'.HasIso vm iso → E (.cloud fault) inv')
    (failed : ∀ fault inv', (∀ fault, inv.faults.find? "detach_iso" = some fault → fault.isTaskFailure = true) →
      inv'.journal = inv.journal ++ ["set_metadata", "detach_iso", "attach_iso"] →
      inv.faults.find? "attach_iso" = some fault → E (.cloud fault) inv')
    (attached : ∀ inv', (∀ fault, inv.faults.find? "detach_iso" = some fault → fault.isTaskFailure = true) →
      inv'.journal = inv.journal ++ ["set_metadata", "detach_iso", "attach_iso"] →
      inv.faults.find? "attach_iso" = none → inv'.HasIso vm (some image) → Q () inv') :
    Call.Ends (Answers fresh allowed) (Agent.exchange vm env image) Q E inv := by
  rw [Agent.exchange, Call.ends_bind]
  refine ends_store_begun has unarmed env fun inv₁ stored has₁ => ?_
  have detach : inv₁.faults.find? "detach_iso" = inv.faults.find? "detach_iso" := stored.armed (by simp [Operation.name])
  have journal {op : Operation} {inv' : Inventory} (h : inv₁.Begun op inv') :
      inv'.journal = inv.journal ++ ["set_metadata", op.name] := by
    rw [h.journal, stored.journal, List.append_assoc]
    rfl
  rw [Call.ends_bind]
  refine ends_detachImage has₁ (fun fault inv₂ armed task detached has₂ => ?_) fun iso' inv₂ passed detached has₂ => ?_
  · exact stopped fault inv₂ (detach ▸ armed) task (journal detached) has₂
  have attach : inv₂.faults.find? "attach_iso" = inv.faults.find? "attach_iso" :=
    (detached.armed (by simp [Operation.name])).trans (stored.armed (by simp [Operation.name]))
  have journal' {inv' : Inventory} (h : inv₂.Begun (.attachIso vm image) inv') :
      inv'.journal = inv.journal ++ ["set_metadata", "detach_iso", "attach_iso"] := by
    rw [h.journal, journal detached, List.append_assoc]
    rfl
  rw [detach] at passed
  refine ends_attachIso has₂ image (fun fault inv₃ armed begun => ?_) fun inv₃ unarmed begun has₃ => ?_
  · exact failed fault inv₃ passed (journal' begun) (attach ▸ armed)
  · exact attached inv₃ passed (journal' begun) (attach ▸ unarmed) has₃

end Inventory

namespace World
variable {σ : Type} (w : World σ) (works : w.Works) (fresh : Nat → String) (s : At (Inventory × σ))
variable (vm : String) (env : Agent.Environment)
include works

/-- In a world that works all hangs on the exchange. -/
theorem sync_ends {Q : Unit → Inventory → Prop} {E : Failure → Inventory → Prop}
    (h : ∀ image, Call.Ends (Inventory.Answers fresh fun e r => e.Works r) (Agent.exchange vm env image) Q E
      s.state.1) :
    Call.Ending Q E ((w.withInventory fresh).carryOut (Agent.sync vm env) s).1
      ((w.withInventory fresh).carryOut (Agent.sync vm env) s).2.state.1 := by
  refine w.carryOut_within fresh works (Inventory.Answers.quiet.ends_sync ?_ vm env h)
  exact fun f _ failing => absurd (Inventory.Answers.obliging fun _ _ => id) failing

variable {record : VmRecord} (found : s.state.1.vms.find? vm = some record)
variable (unarmed : s.state.1.faults.find? "set_metadata" = none)
include found unarmed

theorem sync_stops {fault : CloudFault} (armed : s.state.1.faults.find? "detach_iso" = some fault)
    (noTask : fault.isTaskFailure = false) :
    let ran := (w.withInventory fresh).carryOut (Agent.sync vm env) s
    ran.1 = .error (.cloud fault) ∧
      ran.2.state.1.journal = s.state.1.journal ++ ["set_metadata", "detach_iso"] ∧
      ran.2.state.1.attachedIso? vm = s.state.1.attachedIso? vm := by
  intro ran
  have has : s.state.1.HasIso vm record.iso := ⟨record.vm, found⟩
  have ends : Call.Ending (fun _ _ => False) (fun f inv' => f = .cloud fault ∧
      inv'.journal = s.state.1.journal ++ ["set_metadata", "detach_iso"] ∧
      inv'.attachedIso? vm = s.state.1.attachedIso? vm) ran.1 ran.2.state.1 := by
    refine sync_ends w works fresh s vm env fun image => ?_
    refine Inventory.ends_exchange_begun has unarmed env image ?_ ?_ ?_
    · intro fault' inv' armed' _ journal has'
      cases armed.symm.trans armed'
      exact ⟨rfl, journal, has'.attachedIso?.trans has.attachedIso?.symm⟩
    · intro _ _ passed
      exact absurd (passed fault armed) (Bool.eq_false_iff.1 noTask)
    · intro _ passed
      exact absurd (passed fault armed) (Bool.eq_false_iff.1 noTask)
  cases hr : ran.1 with
  | ok u =>
    rw [hr] at ends
    exact ends.elim
  | error f =>
    rw [hr] at ends
    obtain ⟨rfl, rest⟩ := ends
    exact ⟨rfl, rest⟩

theorem sync_goes_on
    (passed : ∀ fault, s.state.1.faults.find? "detach_iso" = some fault → fault.isTaskFailure = true) :
    let ran := (w.withInventory fresh).carryOut (Agent.sync vm env) s
    ran.2.state.1.journal = s.state.1.journal ++ ["set_metadata", "detach_iso", "attach_iso"] ∧
      match s.state.1.faults.find? "attach_iso" with
      | some fault => ran.1 = .error (.cloud fault)
      | none => ran.1 = .ok () ∧ (ran.2.state.1.attachedIso? vm).isSome := by
  intro ran
  have has : s.state.1.HasIso vm record.iso := ⟨record.vm, found⟩
  have ends : Call.Ending
      (fun _ inv' => inv'.journal = s.state.1.journal ++ ["set_metadata", "detach_iso", "attach_iso"] ∧
        s.state.1.faults.find? "attach_iso" = none ∧ (inv'.attachedIso? vm).isSome)
      (fun f inv' => inv'.journal = s.state.1.journal ++ ["set_metadata", "detach_iso", "attach_iso"] ∧
        ∃ fault, s.state.1.faults.find? "attach_iso" = some fault ∧ f = .cloud fault) ran.1 ran.2.state.1 := by
    refine sync_ends w works fresh s vm env fun image => ?_
    refine Inventory.ends_exchange_begun has unarmed env image ?_ ?_ ?_
    · intro fault inv' armed noTask
      exact absurd (passed fault armed) (Bool.eq_false_iff.1 noTask)
    · intro fault inv' _ journal armed
      exact ⟨journal, fault, armed, rfl⟩
    · intro inv' _ journal unarmed has'
      exact ⟨journal, unarmed, by rw [has'.attachedIso?]; rfl⟩
  cases hr : ran.1 with
  | ok u =>
    rw [hr] at ends
    obtain ⟨journal, unarmed, attached⟩ := ends
    rw [unarmed]
    exact ⟨journal, rfl, attached⟩
  | error f =>
    rw [hr] at ends
    obtain ⟨journal, fault, armed, rfl⟩ := ends
    rw [armed]
    exact ⟨journal, rfl⟩

end World

/-- A fault that is no failed task ends it all: it is returned as it is, nothing is attached, and the image
stays, if there is one. A failed task, and that there is no image to take away, are passed over, and the new
image is attached. -/
theorem World.sync_detaching {σ : Type} (w : World σ) (works : w.Works) (fresh : Nat → String)
    (s : At (Inventory × σ)) (vm : String) (env : Agent.Environment) {record : VmRecord}
    (found : s.state.1.vms.find? vm = some record)
    (unarmed : s.state.1.faults.find? "set_metadata" = none) :
    let inv := s.state.1
    let ran := (w.withInventory fresh).carryOut (Agent.sync vm env) s
    (∀ fault, inv.faults.find? "detach_iso" = some fault → fault.isTaskFailure = false →
      ran.1 = .error (.cloud fault) ∧
        ran.2.state.1.journal = inv.journal ++ ["set_metadata", "detach_iso"] ∧
        ran.2.state.1.attachedIso? vm = inv.attachedIso? vm) ∧
    ((∀ fault, inv.faults.find? "detach_iso" = some fault → fault.isTaskFailure = true) →
      ran.2.state.1.journal = inv.journal ++ ["set_metadata", "detach_iso", "attach_iso"] ∧
        match inv.faults.find? "attach_iso" with
        | some fault => ran.1 = .error (.cloud fault)
        | none => ran.1 = .ok () ∧ (ran.2.state.1.attachedIso? vm).isSome) := by
  refine ⟨fun fault armed noTask => ?_, fun passed => ?_⟩
  · exact sync_stops w works fresh s vm env found unarmed armed noTask
  · exact sync_goes_on w works fresh s vm env found unarmed passed

/-- A machine with an image. -/
def Inventory.imaged : Inventory :=
  ((Inventory.empty false).insertVm "vm-1").modifyVm "vm-1" ({ · with iso := some "old.iso" })

/-- A rejected request stops the exchange; where there is no image the failure to take one away does not. -/
theorem World.sync_detaching_rejected :
    let env : Agent.Environment := ⟨"", ⟨"", "vm-1"⟩, "", [], ∅, ∅, ∅, .none⟩
    let fault : CloudFault := .api 500 "InternalError" "boom"
    let ran (inv : Inventory) := (calm.withInventory Nat.repr).carryOut (Agent.sync "vm-1" env) ⟨.empty, inv, ()⟩
    (ran (Inventory.imaged.arm "detach_iso" fault)).1 = .error (.cloud fault) ∧
      (ran (Inventory.imaged.arm "detach_iso" fault)).2.state.1.attachedIso? "vm-1" = some "old.iso" ∧
      (ran ((Inventory.empty false).insertVm "vm-1")).1 = .ok () := by
  intro env fault ran
  have stopped := (sync_detaching calm calm_works Nat.repr ⟨.empty, Inventory.imaged.arm "detach_iso" fault, ()⟩
    "vm-1" env rfl rfl).1 fault rfl rfl
  have went := (sync_detaching calm calm_works Nat.repr ⟨.empty, (Inventory.empty false).insertVm "vm-1", ()⟩
    "vm-1" env rfl rfl).2 (fun _ armed => nomatch armed)
  exact ⟨stopped.1, stopped.2.2, went.2.1⟩

/-- Not every failure to take away an image that is attached ends it all: a failed task does not. -/
theorem World.sync_ignores_failed_task :
    ¬∀ (s : At (Inventory × Unit)) (vm : String) (env : Agent.Environment) (fault : CloudFault),
      (s.state.1.attachedIso? vm).isSome → s.state.1.faults.find? "detach_iso" = some fault →
      (∀ name, name ≠ "detach_iso" → s.state.1.faults.find? name = none) →
      ((calm.withInventory Nat.repr).carryOut (Agent.sync vm env) s).1 = .error (.cloud fault) := by
  intro stops
  let env : Agent.Environment := ⟨"", ⟨"", "vm-1"⟩, "", [], ∅, ∅, ∅, .none⟩
  let fault : CloudFault := .task "task-1" "DETACH_ISO" "device is busy"
  let s : At (Inventory × Unit) := ⟨.empty, Inventory.imaged.arm "detach_iso" fault, ()⟩
  have others : ∀ name, name ≠ "detach_iso" → s.state.1.faults.find? name = none := fun name other =>
    SortedMap.find?_insert_of_ne _ other _
  have passed : ∀ fault', s.state.1.faults.find? "detach_iso" = some fault' → fault'.isTaskFailure = true := by
    intro fault' armed
    cases armed
    rfl
  have stopped := stops s "vm-1" env fault rfl rfl others
  obtain ⟨-, went⟩ := sync_goes_on calm calm_works Nat.repr s "vm-1" env rfl (others _ (by decide)) passed
  rw [others "attach_iso" (by decide), stopped] at went
  cases went.1

end CloudProvider
