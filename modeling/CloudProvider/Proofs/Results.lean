import CloudProvider.Proofs.ResponseLine
import CloudProvider.Proofs.World

/-! # What calls return

A call that succeeds returns null, a truth value, a text or a list of texts, whatever it has been replied.
So every response can be written on a line and read from it.
-/

namespace CloudProvider

theorem Program.Ends.of_forall {Op : Type} {Reply : Op → Type} {σ α : Type}
    {may : (op : Op) → σ → Reply op → σ → Prop} {Q : α → σ → Prop} (h : ∀ x s, Q x s)
    (p : Program Op Reply α) (s : σ) : Ends may p Q s := by
  induction p generalizing s with
  | pure x => exact h x s
  | emit e next ih => exact ih s
  | perform op next ih => exact fun r s' _ => ih r s'

namespace Call
variable {α β : Type} {Q : α → Prop}

/-- Whatever may be replied, if the call has a result, it is in `Q`. -/
def Returns (Q : α → Prop) (call : Call α) : Prop :=
  ∀ (σ : Type) (may : (e : Effect) → σ → e.Reply → σ → Prop) (s : σ),
    Ends may call (fun x _ => Q x) (fun _ _ => True) s

namespace Returns

theorem pure {x : α} (h : Q x) : Returns Q (Pure.pure x) := fun _ _ _ => h

/-- Only the end of a call matters. -/
theorem bind {call : Call β} {f : β → Call α} (h : ∀ x, Returns Q (f x)) : Returns Q (call >>= f) := by
  intro σ may s
  rw [ends_bind]
  refine Program.Ends.of_forall (fun r s => ?_) call.run s
  cases r with
  | ok x => exact h x σ may s
  | error f => trivial

theorem thenAlways {release : Activity Unit} {call : Call α} (h : Returns Q call) :
    Returns Q (Call.thenAlways release call) := by
  intro σ may s
  rw [ends_thenAlways]
  refine (h σ may s).mono (fun x s hx => ?_) (fun f s _ => ?_)
  · exact Program.Ends.of_forall (fun _ _ => hx) release s
  · exact Program.Ends.of_forall (fun _ _ => trivial) release s

end Returns
end Call

namespace Json

/-- Null, a truth value, a text or a list of texts. -/
inductive Plain : Json → Prop
  | null : Plain .null
  | bool (b : Bool) : Plain (.bool b)
  | str (s : String) : Plain (.str s)
  | texts (ss : List String) : Plain (.arr (ss.map .str))

theorem Plain.fits {j : Json} (h : j.Plain) : j.Fits 1 := by
  cases h with
  | null | bool b | str s => exact ⟨trivial, trivial, Nat.zero_le 1⟩
  | texts ss =>
    have text : ∀ j ∈ ss.map Json.str, j.Fits 0 := by
      intro j hj
      obtain ⟨s, -, rfl⟩ := List.mem_map.1 hj
      exact .str s
    refine ⟨canonicalItems.2 fun j hj => (text j hj).canonical,
      integersOnlyItems.2 fun j hj => (text j hj).integersOnly, Nat.succ_le_succ ?_⟩
    exact depthItems_le.2 fun j hj => (text j hj).shallow

end Json

open Call (Returns)
open Json (Plain)

/-- Every call of the default table returns what is plain. -/
theorem Handler.returns {method : String} {call : Settings → List Json → Call Json}
    (h : Handler method call) (settings : Settings) (args : List Json) :
    Returns Plain (call settings args) := by
  cases h with
  | createStemcell =>
    repeat refine .bind fun _ => ?_
    refine .thenAlways ?_
    repeat refine .bind fun _ => ?_
    exact .pure (.str _)
  | createVm | createDisk =>
    repeat refine .bind fun _ => ?_
    exact .pure (.str _)
  | hasVm | hasDisk =>
    repeat refine .bind fun _ => ?_
    exact .pure (.bool _)
  | listDisks =>
    repeat refine .bind fun _ => ?_
    exact .pure (.texts _)
  | deleteStemcell | deleteVm | restartVm | setVmMetadata | deleteDisk | attachDisk =>
    repeat refine .bind fun _ => ?_
    exact .pure Plain.null
  | detachDisk =>
    iterate 5 refine .bind fun _ => ?_
    refine .bind fun (recorded, env) => ?_
    -- A disk that was not recorded is told of in the log, and not in the result.
    cases recorded with
    | true => exact .bind fun _ => .pure Plain.null
    | false => exact .bind fun _ => .bind fun _ => .pure Plain.null

end CloudProvider
