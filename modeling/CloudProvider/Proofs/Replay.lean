import CloudProvider.Proofs.Inventory
import CloudProvider.Proofs.Positions
import CloudProvider.Proofs.Synchronization

/-! # Runs in memory

A control plane in memory comes to what the operations of a run make of it, one after the other (`Leads`). So what
is shown of all records of a call, whatever may be replied, can be put together with what single operations do
(`respond_leads`). The states themselves are those that can be built (`Arises`).
-/

namespace CloudProvider

namespace Inventory

/-! ## States -/

/-- What can be made of an empty control plane. -/
inductive Arises : Inventory → Prop
  | empty (omits : Bool) : Arises (.empty omits)
  | omitting {inv : Inventory} (h : Arises inv) : Arises { inv with omitsDiskIds := true }
  | arm {inv : Inventory} (h : Arises inv) (operation : String) (fault : CloudFault) :
    Arises (inv.arm operation fault)
  | insertVm {inv : Inventory} (h : Arises inv) (id : String) : Arises (inv.insertVm id)
  | insertDisk {inv : Inventory} (h : Arises inv) (id : String) (attachedTo : List String) :
    Arises (inv.insertDisk id attachedTo)
  | insertImage {inv : Inventory} (h : Arises inv) (id name : String) : Arises (inv.insertImage id name)
  | putMetadata {inv : Inventory} (h : Arises inv) (vm key value : String) :
    Arises (inv.putMetadata vm key value)
  | perform {inv : Inventory} (h : Arises inv) (fresh : Nat → String) (op : Operation) :
    Arises (inv.perform fresh op).2

/-- Disks know their names. -/
def NamesDisks (inv : Inventory) : Prop := ∀ id d, inv.disks.find? id = some d → d.id = id

section
variable {fresh : Nat → String} {inv inv' : Inventory}

theorem NamesDisks.of_eq (h : inv.NamesDisks) (hd : inv'.disks = inv.disks) : inv'.NamesDisks := by
  rw [NamesDisks, hd]
  exact h

theorem NamesDisks.insert (h : inv.NamesDisks) {id : String} {d : PersistentDisk}
    (hd : inv'.disks = inv.disks.insert id d) (hid : d.id = id) : inv'.NamesDisks := by
  intro id' d' hf
  rw [hd, SortedMap.find?_insert] at hf
  split at hf
  · rename_i same
    cases hf
    rw [hid, same]
  · exact h id' d' hf

theorem NamesDisks.performs (h : inv.NamesDisks) {op : Operation} {x : op.Reply}
    (hp : inv.Performs fresh op x inv') : inv'.NamesDisks := by
  cases op with
  | createVm project spec =>
    obtain ⟨n, -, -, -, -, hd, -⟩ := hp
    exact h.of_eq hd
  | getVm vm | deleteVm vm =>
    obtain ⟨record, -, hh⟩ := hp
    first | exact h.of_eq hh.2.1 | exact h.of_eq hh.2.2.1
  | startVm vm | stopVm vm | restartVm vm | attachIso vm path | detachIso vm | setMetadata vm metadata =>
    obtain ⟨record, -, -, hd, -⟩ := hp
    exact h.of_eq hd
  | attachDisk vm disk | detachDisk vm disk =>
    obtain ⟨record, d, -, found, -, hd, -⟩ := hp
    exact h.insert hd (h disk d found)
  | createDisk project spec =>
    obtain ⟨n, -, -, -, -, hd, -⟩ := hp
    exact h.insert hd rfl
  | getDisk disk | listDisks project =>
    obtain ⟨-, -, hd, -⟩ := hp
    exact h.of_eq hd
  | deleteDisk disk =>
    obtain ⟨d, -, -, hd, -⟩ := hp
    intro id' d' hf
    rw [hd, SortedMap.find?_erase] at hf
    split at hf
    · cases hf
    · exact h id' d' hf
  | createImage name file =>
    obtain ⟨content, n, -, -, -, -, -, hd, -⟩ := hp
    exact h.of_eq hd
  | deleteImage image =>
    obtain ⟨i, -, -, hd, -⟩ := hp
    exact h.of_eq hd

theorem Arises.namesDisks (h : inv.Arises) : inv.NamesDisks := by
  induction h with
  | empty omits => exact fun _ _ hf => nomatch hf
  | omitting h ih | arm h operation fault ih | insertVm h id ih | insertImage h id name ih => exact ih.of_eq rfl
  | insertDisk h id attachedTo ih =>
    exact ih.insert (d := ⟨id, s!"disk-{id}", "core-100", 1, attachedTo⟩) rfl rfl
  | @putMetadata inv h vm key value ih =>
    refine ih.of_eq ?_
    rw [Inventory.putMetadata, modifyVm]
    split <;> rfl
  | @perform inv h fresh op ih =>
    rcases perform_cases (Prod.eta (inv.perform fresh op)).symm with ⟨f, -, hh, -⟩ | ⟨x, -, hp⟩
    · exact ih.of_eq hh.2.1
    · exact ih.performs hp

/-- A machine that is not deleted stays. -/
theorem Performs.keeps {op : Operation} {x : op.Reply} (hp : inv.Performs fresh op x inv') {vm : String}
    (other : op ≠ .deleteVm vm) (there : (inv.vms.find? vm).isSome) : (inv'.vms.find? vm).isSome := by
  have inserted {id : String} {record : VmRecord} (hv : inv'.vms = inv.vms.insert id record) :
      (inv'.vms.find? vm).isSome := by
    rw [hv, SortedMap.find?_insert]
    split
    · rfl
    · exact there
  have same (hv : inv'.vms = inv.vms) : (inv'.vms.find? vm).isSome := hv ▸ there
  cases op with
  | createVm project spec =>
    obtain ⟨n, -, -, -, hv, -⟩ := hp
    exact inserted hv
  | getVm id =>
    obtain ⟨record, -, -, hv, -⟩ := hp
    exact same hv
  | deleteVm id =>
    obtain ⟨record, -, hv, -⟩ := hp
    have ne : vm ≠ id := fun he => other (he ▸ rfl)
    rw [hv, SortedMap.find?_erase_of_ne _ ne]
    exact there
  | startVm id | stopVm id | restartVm id | attachIso id path | detachIso id | setMetadata id metadata =>
    obtain ⟨record, -, hv, -⟩ := hp
    exact inserted hv
  | attachDisk id disk | detachDisk id disk =>
    obtain ⟨record, d, -, -, hv, -⟩ := hp
    exact same hv
  | createDisk project spec =>
    obtain ⟨n, -, -, -, hv, -⟩ := hp
    exact same hv
  | getDisk disk | listDisks project =>
    obtain ⟨-, hv, -⟩ := hp
    exact same hv
  | deleteDisk disk =>
    obtain ⟨d, -, hv, -⟩ := hp
    exact same hv
  | createImage name file =>
    obtain ⟨content, n, -, -, -, -, hv, -⟩ := hp
    exact same hv
  | deleteImage image =>
    obtain ⟨i, -, hv, -⟩ := hp
    exact same hv

/-! ## One operation after the other -/

/-- Operations are performed one after the other, with these answers. -/
inductive Leads (fresh : Nat → String) : Inventory → List Answered → Inventory → Prop
  | done (inv : Inventory) : Leads fresh inv [] inv
  | step {inv inv₁ inv' : Inventory} {op : Operation} {r : op.Answer} {answered : List Answered}
    (h : inv.perform fresh op = (r, inv₁)) (rest : Leads fresh inv₁ answered inv') :
    Leads fresh inv (⟨op, r⟩ :: answered) inv'

theorem Leads.of_append {first rest : List Answered} (h : Leads fresh inv (first ++ rest) inv') :
    ∃ inv₁, Leads fresh inv first inv₁ ∧ Leads fresh inv₁ rest inv' := by
  induction first generalizing inv with
  | nil => exact ⟨inv, .done inv, h⟩
  | cons a first ih =>
    cases h with
    | step h rest =>
      obtain ⟨inv₁, leads, more⟩ := ih rest
      exact ⟨inv₁, .step h leads, more⟩

/-- A machine stays as long as no deletion of it succeeds. -/
theorem Leads.keeps {answered : List Answered} (h : Leads fresh inv answered inv') {vm : String}
    (spared : ∀ a ∈ answered, a.op = .deleteVm vm → a.fault? ≠ none) (there : (inv.vms.find? vm).isSome) :
    (inv'.vms.find? vm).isSome := by
  induction h with
  | done inv => exact there
  | @step inv inv₁ inv' op r answered h rest ih =>
    obtain ⟨spared, others⟩ := List.forall_mem_cons.1 spared
    refine ih others ?_
    rcases perform_cases h with ⟨f, -, hh, -⟩ | ⟨x, rfl, hp⟩
    · exact hh.1 ▸ there
    · exact hp.keeps (fun deletes => spared deletes rfl) there

end
end Inventory

/-! ## Records of runs in memory -/

/-- What a call ends in with its record, it ends in with the control plane that its operations lead to. -/
theorem Program.Records.ends_watched {α : Type} {p : Activity α} {Q : α → Call.Course → Prop} (h : p.Records Q)
    (fresh : Nat → String) (before : Call.Course) (inv : Inventory) :
    Ends (Inventory.Watched fresh) p
      (fun x s => ∃ course, s.1 = before ++ course ∧ Q x course ∧ inv.Leads fresh (operations course) s.2)
      (before, inv) := by
  refine h.ends_alongside (fun inv course inv' => inv.Leads fresh (operations course) inv') .done ?_ before inv
  intro e inv r inv₁ course inv' answers leads
  cases e with
  | remote op => exact .step answers leads
  | runTool | openFile | writeFile | createDirectory | createFile | removeDirectory | removeFile =>
    have same : inv₁ = inv := answers.2
    exact same ▸ leads

/-- A response, what was asked for it, and what this leads to, as the records of the call have them. -/
theorem World.respond_leads {σ : Type} (w : World σ) (fresh : Nat → String) (settings : Settings) {method : String}
    {call : Settings → List Json → Call Json} (handler : Handler method call) {args : List Json}
    {Q : Except Failure Json → Call.Course → Prop} (h : Call.Records (call settings args) Q)
    (s : At (Call.Course × Inventory × σ)) :
    let r := (w.withInventory fresh).recording.respond settings method args s
    ∃ outcome log course, r.1 = .ofOutcome outcome log ∧ r.2.state.1 = s.state.1 ++ course ∧ Q outcome course ∧
      s.state.2.1.Leads fresh (operations course) r.2.state.2.1 := by
  have ends : Program.Ends (Inventory.Watched fresh) (Dispatch.run .default settings method args)
      (fun outcome t => ∃ course, t.1 = s.state.1 ++ course ∧ Q outcome course ∧
        s.state.2.1.Leads fresh (operations course) t.2) (s.state.1, s.state.2.1) := by
    rw [Dispatch.run_ends_of_call handler.found]
    refine Program.Ends.mono (h.ends_watched fresh s.state.1 s.state.2.1) fun outcome t ht => ?_
    cases outcome with
    | ok x => exact ht
    | error f => exact ht
  obtain ⟨outcome, log, response, course, told, hq, leads⟩ := w.recording_ends fresh settings s ends
  exact ⟨outcome, log, course, response, told, hq, leads⟩

end CloudProvider
