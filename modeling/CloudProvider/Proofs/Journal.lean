import CloudProvider.Proofs.Inventory
import Mathlib.Data.List.Induction

/-! # Operations one by one

An operation that is begun is written down and takes the fault that is armed for it, whatever comes of it
(`perform_begun`). A fault that is armed is what the operation fails with (`perform_armed`); only without one
does it depend on what there is (`perform_unarmed`).
-/

namespace CloudProvider

/-- Something has come about and nothing has undone it since. -/
theorem exists_since_concat {α : Type} {brings undoes : α → Prop} {history : List α} {last : α} :
    (∃ before x after, history ++ [last] = before ++ x :: after ∧ brings x ∧ ∀ y ∈ after, ¬undoes y) ↔
      brings last ∨
        (∃ before x after, history = before ++ x :: after ∧ brings x ∧ ∀ y ∈ after, ¬undoes y) ∧ ¬undoes last := by
  constructor
  · rintro ⟨before, x, after, split, brought, spared⟩
    rcases List.eq_nil_or_concat after with rfl | ⟨after, y, rfl⟩
    · obtain ⟨-, same⟩ := List.append_inj' split rfl
      rw [List.cons.inj same |>.1]
      exact .inl brought
    · rw [List.concat_eq_append, ← List.cons_append, ← List.append_assoc] at split
      obtain ⟨rfl, same⟩ := List.append_inj' split rfl
      rw [List.cons.inj same |>.1]
      rw [List.concat_eq_append, List.forall_mem_append] at spared
      exact .inr ⟨⟨before, x, after, rfl, brought, spared.1⟩, spared.2 y List.mem_cons_self⟩
  · rintro (brought | ⟨⟨before, x, after, rfl, brought, spared⟩, spares⟩)
    · exact ⟨history, last, [], rfl, brought, List.forall_mem_nil _⟩
    · refine ⟨before, x, after ++ [last], by rw [List.append_assoc]; rfl, brought, ?_⟩
      exact List.forall_mem_append.2 ⟨spared, List.forall_mem_singleton.2 spares⟩

/-- All operations are begun but the upload of an image that cannot be read. -/
def Operation.Begins : Operation → Prop
  | .createImage _ file => ∃ content, file.content = .ok content
  | _ => True

namespace Inventory

/-- The operation has been written down and has taken its fault; other faults stay armed. -/
structure Begun (inv : Inventory) (op : Operation) (inv' : Inventory) : Prop where
  journal : inv'.journal = inv.journal ++ [op.name]
  faults : inv'.faults = inv.faults.erase op.name

section
variable {fresh : Nat → String} {inv inv' : Inventory} {op : Operation}

theorem Begun.armed (h : inv.Begun op inv') {name : String} (other : name ≠ op.name) :
    inv'.faults.find? name = inv.faults.find? name := by
  rw [h.faults, SortedMap.find?_erase_of_ne _ other]

/-- What an operation does is neither written down nor a matter of faults. -/
theorem act_aside (op : Operation) :
    (inv.act fresh op).2.journal = inv.journal ∧ (inv.act fresh op).2.faults = inv.faults := by
  cases op with
  | createVm project spec | createDisk project spec | getVm vm | getDisk disk | listDisks project =>
    exact ⟨rfl, rfl⟩
  | createImage name file =>
    obtain ⟨_ | _⟩ := file <;> exact ⟨rfl, rfl⟩
  | startVm vm | stopVm vm | restartVm vm | attachIso vm path | setMetadata vm metadata =>
    simp only [act, changeVm]
    split <;> exact ⟨rfl, rfl⟩
  | attachDisk vm disk | detachDisk vm disk =>
    simp only [act, changeDisk]
    split <;> exact ⟨rfl, rfl⟩
  | detachIso vm =>
    simp only [act, removeIso]
    split <;> exact ⟨rfl, rfl⟩
  | deleteVm vm | deleteDisk disk | deleteImage image =>
    simp only [act]
    split <;> exact ⟨rfl, rfl⟩

theorem perform_of_begins (begins : op.Begins) : inv.perform fresh op =
    match inv.faults.find? op.name with
    | some fault => (.error fault, (inv.begin op.name).2)
    | none => (inv.begin op.name).2.act fresh op := by
  unfold perform
  split
  · obtain ⟨content, readable⟩ := begins
    cases readable
  · simp only [begin]
    cases inv.faults.find? op.name <;> rfl

section
variable {r : op.Answer} (h : inv.perform fresh op = (r, inv')) (begins : op.Begins)
include h begins

theorem perform_begun : inv.Begun op inv' := by
  rw [perform_of_begins begins] at h
  split at h
  · cases h
    exact ⟨rfl, rfl⟩
  · have aside := @act_aside fresh (inv.begin op.name).2 op
    rw [h] at aside
    obtain ⟨journal, faults⟩ := aside
    exact ⟨journal, faults⟩

theorem perform_armed {fault : CloudFault} (armed : inv.faults.find? op.name = some fault) :
    r = .error fault ∧ inv'.Holds inv.vms inv.disks inv.images := by
  rw [perform_of_begins begins, armed] at h
  cases h
  exact ⟨rfl, rfl, rfl, rfl⟩

omit begins in
theorem perform_unarmed (unarmed : inv.faults.find? op.name = none) :
    (∃ f, r = .error f ∧ inv'.Holds inv.vms inv.disks inv.images ∧ inv.Refuses op f) ∨
      ∃ x, r = .ok x ∧ inv.Performs fresh op x inv' := by
  rcases perform_cases h with ⟨f, hr, hh, armed | refused⟩ | done
  · cases unarmed.symm.trans armed
  · exact .inl ⟨f, hr, hh, refused⟩
  · exact .inr done

end

end
end Inventory
end CloudProvider
