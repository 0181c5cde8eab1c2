import CloudProvider.Proofs.Effects
import CloudProvider.Proofs.Environment
import CloudProvider.Proofs.Inventory

/-! # Environments of machines in memory

Reading the environment of a machine changes nothing. Bringing its copies up to date changes this machine
alone: whenever that fails, its document is the old one or the new one and its image may be anything; at
the end the new document is stored and an image is attached. Neither fails unless there is a reason for
it, which the rules give to the failures.
-/

namespace CloudProvider

/-- The environment of a machine, as a call reads it. -/
def Vm.Reads (vm : Vm) (env : Agent.Environment) : Prop :=
  ∃ document, vm.metadata.find? Agent.metadataKey = some document ∧
    Agent.Environment.decoder.ofText document = .ok env

/-- The machine with another document of its environment. -/
def Vm.withDocument (vm : Vm) (document : String) : Vm :=
  { vm with metadata := vm.metadata.insert Agent.metadataKey document }

namespace Vm
variable {vm : Vm} {env env' : Agent.Environment}

theorem Reads.unique (h : vm.Reads env) (h' : vm.Reads env') : env = env' := by
  obtain ⟨document, hf, hd⟩ := h
  obtain ⟨document', hf', hd'⟩ := h'
  rw [hf] at hf'
  cases hf'
  rw [hd] at hd'
  cases hd'
  rfl

theorem Reads.wellFormed (h : vm.Reads env) (hi : env.toJson.IntegersOnly) : env.WellFormed := by
  obtain ⟨document, -, hd⟩ := h
  exact Agent.Environment.wellFormed_of_ofText hd hi

theorem reads_withDocument (vm : Vm) (h : env.WellFormed) : (vm.withDocument env.document).Reads env :=
  ⟨env.document, SortedMap.find?_insert_self .., Agent.Environment.decoder_document h⟩

@[simp] theorem withDocument_withDocument (vm : Vm) (document document' : String) :
    (vm.withDocument document).withDocument document' = vm.withDocument document' := by
  simp only [withDocument, SortedMap.insert_insert]

end Vm

namespace Inventory
variable {fresh : Nat → String} {allowed : (e : Effect) → e.Reply → Prop} {inv inv' : Inventory}

/-- No fault is armed. -/
def Faultless (inv : Inventory) : Prop := ∀ name, inv.faults.find? name = none

/-- The environment of a machine holds no number with a fraction or an exponent. -/
def WholeNumbers (inv : Inventory) (vm : String) : Prop :=
  ∀ record env, inv.vms.find? vm = some record → record.vm.Reads env → env.toJson.IntegersOnly

theorem Later.faultless (h : Later inv inv') (hf : inv.Faultless) : inv'.Faultless :=
  fun name => h.faults name (hf name)

theorem Later.trans {inv'' : Inventory} (h : Later inv inv') (h' : Later inv' inv'') : Later inv inv'' :=
  ⟨Nat.le_trans h.issued h'.issued, h'.omitsDiskIds.trans h.omitsDiskIds,
    fun name hn => h'.faults name (h.faults name hn)⟩

theorem Answers.quiet : Quiet (Answers fresh allowed) := by
  intro e inv r inv' he h
  cases e with
  | remote op => exact absurd he id
  | runTool | openFile | writeFile | createDirectory | createFile | removeDirectory | removeFile =>
    exact h.2

theorem Answers.obliging (works : ∀ e r, allowed e r → e.Works r) : Obliging (Answers fresh allowed) := by
  intro e inv r inv' h
  cases e with
  | remote op => trivial
  | runTool | openFile | writeFile | createDirectory | createFile | removeDirectory | removeFile =>
    exact works _ r h.1

/-- Nothing stands against an operation. -/
theorem not_refused {op : Operation} {f : CloudFault} (clear : inv.Faultless)
    (h : inv.faults.find? op.name = some f ∨ inv.Refuses op f) : inv.Refuses op f := by
  rcases h with h | h
  · rw [clear] at h; cases h
  · exact h

theorem Holds.trans {inv₀ : Inventory} {vms : SortedMap VmRecord} {disks : SortedMap PersistentDisk}
    {images : SortedMap ImageRecord} (h : inv₀.Holds vms disks images)
    (h' : inv.Holds inv₀.vms inv₀.disks inv₀.images) : inv.Holds vms disks images :=
  ⟨h'.1.trans h.1, h'.2.1.trans h.2.1, h'.2.2.trans h.2.2⟩

section
variable {vm : String} {E : Failure → Inventory → Prop}

theorem ends_fetch {Q : Agent.Environment → Inventory → Prop}
    (failed : ∀ f inv', Later inv inv' → inv'.Holds inv.vms inv.disks inv.images →
      (inv.Faultless → ∀ record env, inv.vms.find? vm = some record → ¬ record.vm.Reads env) → E f inv')
    (read : ∀ record env inv', Later inv inv' → inv'.Holds inv.vms inv.disks inv.images →
      inv.vms.find? vm = some record → record.vm.Reads env → Q env inv') :
    Call.Ends (Answers fresh allowed) (Agent.fetch vm) Q E inv := by
  rw [Agent.fetch, Call.ends_bind]
  refine ends_remote (fun f inv' hl hh hr => failed _ inv' hl hh fun clear record env hf _ => ?_) ?_
  · rw [(not_refused clear hr).1] at hf
    cases hf
  · rintro _ inv' hl ⟨record, hf, rfl, hh⟩
    have unread : ∀ f, (∀ env, ¬ record.vm.Reads env) → E f inv' := fun f hn =>
      failed f inv' hl hh fun _ record' env hf' => by
        rw [hf] at hf'
        cases hf'
        exact hn env
    cases hd : record.vm.metadata.find? Agent.metadataKey with
    | none =>
      refine unread _ ?_
      rintro env ⟨document, hd', -⟩
      rw [hd] at hd'
      cases hd'
    | some document =>
      dsimp only
      rw [Call.ends_ofExcept]
      cases he : Agent.Environment.decoder.ofText document with
      | ok env => exact read record env inv' hl hh hf ⟨document, hd, he⟩
      | error fault =>
        refine unread _ ?_
        rintro env ⟨document', hd', he'⟩
        rw [hd] at hd'
        cases hd'
        rw [he] at he'
        cases he'

/-- A step that changes one machine, seen from where it started. -/
theorem ChangesVm.holds {inv₀ : Inventory} {record : VmRecord} {change : VmRecord → VmRecord}
    (h : inv.ChangesVm vm change inv')
    (hh : inv.Holds (inv₀.vms.insert vm record) inv₀.disks inv₀.images) :
    inv'.Holds (inv₀.vms.insert vm (change record)) inv₀.disks inv₀.images := by
  obtain ⟨record', hf, hv, hd, hi⟩ := h
  obtain ⟨hv₀, hd₀, hi₀⟩ := hh
  rw [hv₀, SortedMap.find?_insert_self] at hf
  cases hf
  refine ⟨?_, hd.trans hd₀, hi.trans hi₀⟩
  rw [hv, hv₀, SortedMap.insert_insert]

variable {record : VmRecord} (hf : inv.vms.find? vm = some record)
include hf

theorem ends_exchange (env : Agent.Environment) (image : String) {Q : Unit → Inventory → Prop}
    (failed : ∀ f inv' v iso, Later inv inv' →
      inv'.Holds (inv.vms.insert vm ⟨v, iso⟩) inv.disks inv.images →
      v = record.vm ∨ v = record.vm.withDocument env.document → ¬ inv.Faultless → E f inv')
    (done : ∀ inv', Later inv inv' → inv'.Holds
      (inv.vms.insert vm ⟨record.vm.withDocument env.document, some image⟩) inv.disks inv.images →
      Q () inv') :
    Call.Ends (Answers fresh allowed) (Agent.exchange vm env image) Q E inv := by
  have start : inv.Holds (inv.vms.insert vm ⟨record.vm, record.iso⟩) inv.disks inv.images :=
    ⟨(SortedMap.insert_of_find? hf).symm, rfl, rfl⟩
  have attach : ∀ inv₂ iso, Later inv inv₂ → inv₂.Holds
      (inv.vms.insert vm ⟨record.vm.withDocument env.document, iso⟩) inv.disks inv.images →
      Call.Ends (Answers fresh allowed) (do let _ ← Call.remote (.attachIso vm image)) Q E inv₂ := by
    intro inv₂ iso hl hh
    rw [Call.ends_bind]
    refine ends_remote (fun f inv₃ hl' hh' hr => ?_) fun t inv₃ hl' hp => ?_
    · refine failed _ inv₃ _ iso (hl.trans hl') (hh.trans hh') (.inr rfl) fun clear => ?_
      have := (not_refused (hl.faultless clear) hr).1
      rw [hh.1, SortedMap.find?_insert_self] at this
      cases this
    · exact done inv₃ (hl.trans hl') (ChangesVm.holds hp hh)
  rw [Agent.exchange, Agent.store, Call.ends_bind, Call.ends_bind]
  refine ends_remote (fun f inv₁ hl hh hr => ?_) fun t inv₁ hl hp => ?_
  · refine failed _ inv₁ _ _ hl (start.trans hh) (.inl rfl) fun clear => ?_
    have := (not_refused clear hr).1
    rw [hf] at this
    cases this
  · have stored : inv₁.Holds (inv.vms.insert vm ⟨record.vm.withDocument env.document, record.iso⟩)
        inv.disks inv.images := ChangesVm.holds hp start
    rw [Call.ends_pure, Call.ends_bind, Agent.detachImage, Call.ends_bind, Call.ends_attempt]
    intro r inv₂ ha
    have hl₂ : Later inv inv₂ := hl.trans (perform_later ha)
    rcases perform_cases ha with ⟨f, rfl, hh, hr⟩ | ⟨t, rfl, hp⟩
    · have kept := stored.trans hh
      dsimp only
      split
      · rw [Call.ends_report]
        exact attach inv₂ _ hl₂ kept
      · rename_i hn
        refine failed _ inv₂ _ _ hl₂ kept (.inr rfl) fun clear => ?_
        rcases not_refused (hl.faultless clear) hr with ⟨hnone, -⟩ | ⟨_, _, _, htask⟩
        · rw [stored.1, SortedMap.find?_insert_self] at hnone
          cases hnone
        · exact hn htask
    · exact attach inv₂ none hl₂ (ChangesVm.holds hp stored)

/-- Brings both copies up to date, or fails on the way with a reason. -/
theorem ends_sync (env : Agent.Environment) {Q : Unit → Inventory → Prop}
    (failed : ∀ f inv' v iso, Later inv inv' →
      inv'.Holds (inv.vms.insert vm ⟨v, iso⟩) inv.disks inv.images →
      v = record.vm ∨ v = record.vm.withDocument env.document →
      ¬ (inv.Faultless ∧ Obliging (Answers fresh allowed)) → E f inv')
    (done : ∀ inv' image, Later inv inv' → inv'.Holds
      (inv.vms.insert vm ⟨record.vm.withDocument env.document, some image⟩) inv.disks inv.images →
      Q () inv') :
    Call.Ends (Answers fresh allowed) (Agent.sync vm env) Q E inv := by
  refine Answers.quiet.ends_sync (fun f _ hw => ?_) vm env fun image => ?_
  · exact failed f inv record.vm record.iso (.refl inv)
      ⟨(SortedMap.insert_of_find? hf).symm, rfl, rfl⟩ (.inl rfl) fun h => hw h.2
  · exact ends_exchange hf env image (fun f inv' v iso hl hh hv hn => failed f inv' v iso hl hh hv
      fun h => hn h.1) fun inv' hl hh => done inv' image hl hh

end
end Inventory
end CloudProvider
