import CloudProvider.Proofs.Footprint
import CloudProvider.Proofs.Positions
import CloudProvider.Proofs.Views

/-! # Calls that do not look at tasks

A call that attaches or detaches a disk makes the same steps and ends alike whatever tasks its operations
come to, and all its operations serve its machine (`Alike`). What it does is told by what its machine sees.
-/

namespace CloudProvider

/-! ## Activities -/

/-- All but operations of the control plane, and those that serve the machine. -/
def Effect.Serves (vm : String) : Effect → Prop
  | .remote op => op.Serves vm
  | _ => True

def Effect.Interchangeable : (e : Effect) → e.Reply → e.Reply → Prop
  | .remote op, r, r' => op.Interchangeable r r'
  | _, r, r' => r = r'

theorem Effect.Interchangeable.refl (e : Effect) (r : e.Reply) : e.Interchangeable r r := by
  cases e with
  | remote op => exact Operation.Interchangeable.refl op r
  | _ => rfl

/-- Activities that ask the same and go on alike, if the replies are interchangeable. They serve one
machine, and their results are related. -/
inductive Activity.Alike (vm : String) {α : Type} (R : α → α → Prop) : Activity α → Activity α → Prop
  | pure {x x' : α} (h : R x x') : Alike vm R (.pure x) (.pure x')
  | emit (e e' : Event) {next next' : Activity α} (h : Alike vm R next next') :
    Alike vm R (.emit e next) (.emit e' next')
  | perform {e : Effect} {next next' : e.Reply → Activity α} (serves : e.Serves vm)
    (h : ∀ r r', e.Interchangeable r r' → Alike vm R (next r) (next' r')) :
    Alike vm R (.perform e next) (.perform e next')

namespace Activity.Alike
variable {vm : String} {α β : Type} {R : α → α → Prop} {S : β → β → Prop}

theorem bind {p p' : Activity α} {f f' : α → Activity β} (hp : Alike vm R p p')
    (hf : ∀ x x', R x x' → Alike vm S (f x) (f' x')) : Alike vm S (p >>= f) (p' >>= f') := by
  change Alike vm S (p.bind f) (p'.bind f')
  induction hp with
  | pure h => exact hf _ _ h
  | emit e e' h ih => exact .emit e e' ih
  | perform serves h ih => exact .perform serves ih

theorem mono {p p' : Activity α} {R' : α → α → Prop} (hp : Alike vm R p p')
    (h : ∀ x x', R x x' → R' x x') : Alike vm R' p p' := by
  induction hp with
  | pure hx => exact .pure (h _ _ hx)
  | emit e e' _ ih => exact .emit e e' ih
  | perform serves _ ih => exact .perform serves ih

/-- Local work has no tasks to look at. -/
theorem of_local {p : Activity α} (h : p.Only Effect.IsLocal) : Alike vm Eq p p := by
  induction p with
  | pure x => exact .pure rfl
  | emit e next ih => exact .emit e e (ih h)
  | perform e next ih =>
    obtain ⟨isLocal, h⟩ := h
    have serves : e.Serves vm := by
      cases e with
      | remote op => exact absurd isLocal id
      | _ => trivial
    refine .perform serves ?_
    intro r r' same
    have same : r = r' := by
      cases e with
      | remote op => exact absurd isLocal id
      | _ => exact same
    rw [same]
    exact ih r' (h r')

theorem reportAll (es : List Event) : Alike vm Eq (Dispatch.reportAll es) (Dispatch.reportAll es) := by
  induction es with
  | nil => exact .pure rfl
  | cons e es ih => exact .emit e e ih

end Activity.Alike

/-- The same failure, or results that are related. -/
def Call.Related {α : Type} (R : α → α → Prop) : Except Failure α → Except Failure α → Prop
  | .ok x, .ok x' => R x x'
  | .error f, .error f' => f = f'
  | _, _ => False

/-- Calls that do the same, whatever tasks are called. -/
def Call.Alike (vm : String) {α : Type} (R : α → α → Prop) (call call' : Call α) : Prop :=
  Activity.Alike vm (Call.Related R) call.run call'.run

namespace Call.Alike
variable {vm : String} {α β : Type} {R : α → α → Prop} {S : β → β → Prop}

theorem bind {call call' : Call α} {f f' : α → Call β} (hc : Alike vm R call call')
    (hf : ∀ x x', R x x' → Alike vm S (f x) (f' x')) : Alike vm S (call >>= f) (call' >>= f') := by
  unfold Call.Alike
  rw [ExceptT.run_bind, ExceptT.run_bind]
  refine Activity.Alike.bind hc ?_
  intro r r' related
  cases r with
  | ok x =>
    cases r' with
    | ok x' => exact hf x x' related
    | error f => exact absurd related id
  | error f =>
    cases r' with
    | ok x' => exact absurd related id
    | error f' => exact .pure related

theorem ofExcept {r r' : Except Failure α} (h : Call.Related R r r') :
    Alike vm R (Call.ofExcept r) (Call.ofExcept r') := Activity.Alike.pure h

theorem related_refl (r : Except Failure α) : Call.Related Eq r r := by
  cases r with
  | ok x => rfl
  | error f => rfl

theorem report (e e' : Event) : Alike vm Eq (Call.report e) (Call.report e') :=
  .emit e e' (Activity.Alike.pure rfl)

theorem of_local {call : Call α} (h : call.run.Only Effect.IsLocal) : Alike vm Eq call call :=
  (Activity.Alike.of_local h).mono fun r _ same => same ▸ related_refl r

theorem thenAlways {release : Activity Unit} (hr : release.Only Effect.IsLocal) {call call' : Call α}
    (hc : Alike vm R call call') : Alike vm R (Call.thenAlways release call) (Call.thenAlways release call') := by
  refine Activity.Alike.bind hc ?_
  intro r r' related
  refine Activity.Alike.bind (Activity.Alike.of_local hr) ?_
  intro _ _ _
  exact .pure related

/-- An operation that serves the machine, with whatever comes of it. -/
theorem attempt {op : Operation} (h : op.Serves vm) :
    Alike vm op.Interchangeable (Call.attempt op) (Call.attempt op) := by
  refine .perform h ?_
  intro r r' same
  exact .pure same

theorem getVm (vm : String) : Alike vm Eq (Call.remote (.getVm vm)) (Call.remote (.getVm vm)) := by
  have serves : (Operation.getVm vm).Serves vm := rfl
  refine (attempt serves).bind ?_
  intro r r' same
  change r = r' at same
  rw [same]
  exact ofExcept (related_refl _)

/-- An operation whose task is not looked at. -/
theorem task {op : Operation} (h : op.Serves vm) (done : ∀ r r' : op.Answer, op.Interchangeable r r' →
    r.map (fun _ => ()) = r'.map fun _ => ()) :
    Alike vm (fun _ _ => True) (Call.remote op) (Call.remote op) := by
  refine (attempt h).bind ?_
  intro r r' same
  have same := done r r' same
  refine ofExcept ?_
  cases r with
  | ok t =>
    cases r' with
    | ok t' => trivial
    | error f => cases same
  | error f =>
    cases r' with
    | ok t' => cases same
    | error f' =>
      cases same
      rfl

/-! ## Calls that attach and detach -/

theorem fetch (vm : String) : Alike vm Eq (Agent.fetch vm) (Agent.fetch vm) := by
  refine (getVm vm).bind ?_
  intro v _ same
  cases same
  cases v.metadata.find? Agent.metadataKey with
  | none => exact ofExcept (related_refl _)
  | some document => exact ofExcept (related_refl _)

theorem detachImage (vm : String) : Alike vm Eq (Agent.detachImage vm) (Agent.detachImage vm) := by
  have detach : (Operation.detachIso vm).Serves vm := rfl
  refine (attempt detach).bind ?_
  intro r r' same
  rcases same with same | ⟨f, f', rfl, rfl, failed, failed'⟩
  · cases r with
    | ok t =>
      cases r' with
      | ok t' => exact Activity.Alike.pure rfl
      | error f => cases same
    | error f =>
      cases r' with
      | ok t' => cases same
      | error f' =>
        cases same
        dsimp only
        split
        · exact report _ _
        · exact ofExcept (related_refl _)
  · -- Two tasks have failed, and neither failure is the call's.
    dsimp only
    rw [if_pos failed, if_pos failed']
    exact report _ _

theorem sync (vm : String) (env : Agent.Environment) :
    Alike vm Eq (Agent.sync vm env) (Agent.sync vm env) := by
  refine (report _ _).bind ?_
  intro _ _ _
  refine (of_local (AsksOnly.render_only env)).bind ?_
  intro image _ same
  cases same
  refine thenAlways (AsksOnly.dropFile_only image) ((report _ _).bind ?_)
  intro _ _ _
  have store : Alike vm Eq (Agent.store vm env) (Agent.store vm env) := by
    have serves : (Operation.setMetadata vm ⟨.singleton Agent.metadataKey env.document⟩).Serves vm :=
      rfl
    refine (task serves fun _ _ same => same).bind ?_
    intro _ _ _
    exact Activity.Alike.pure rfl
  refine store.bind ?_
  intro _ _ _
  refine (detachImage vm).bind ?_
  intro _ _ _
  refine (report _ _).bind ?_
  intro _ _ _
  have serves : (Operation.attachIso vm image).Serves vm := rfl
  refine (task serves fun _ _ same => same).bind ?_
  intro _ _ _
  exact Activity.Alike.pure rfl

section
variable (settings : Settings) {args : List Json} {disk : String} (pair : Disks.pair args = .ok (vm, disk))
include pair

theorem attach : Alike vm Eq (Disks.attach settings args) (Disks.attach settings args) := by
  unfold Disks.attach
  rw [pair]
  refine (report _ _).bind ?_
  intro _ _ _
  have serves : (Operation.attachDisk vm disk).Serves vm := rfl
  refine (task serves fun _ _ same => same).bind ?_
  intro _ _ _
  refine (report _ _).bind ?_
  intro _ _ _
  refine (fetch vm).bind ?_
  intro env _ same
  cases same
  refine (ofExcept (related_refl _)).bind ?_
  intro env _ same
  cases same
  refine (sync vm env).bind ?_
  intro _ _ _
  exact Activity.Alike.pure rfl

theorem detach : Alike vm Eq (Disks.detach settings args) (Disks.detach settings args) := by
  unfold Disks.detach
  rw [pair]
  refine (report _ _).bind ?_
  intro _ _ _
  have serves : (Operation.detachDisk vm disk).Serves vm := rfl
  refine (task serves fun _ _ same => same).bind ?_
  intro _ _ _
  refine (report _ _).bind ?_
  intro _ _ _
  refine (fetch vm).bind ?_
  intro env _ same
  cases same
  refine (ofExcept (related_refl _)).bind ?_
  intro struck _ same
  cases same
  obtain ⟨recorded, env⟩ := struck
  have rest : Alike vm Eq (Agent.sync vm env >>= fun _ => (Pure.pure Json.null : Call Json))
      (Agent.sync vm env >>= fun _ => Pure.pure Json.null) := by
    refine (sync vm env).bind ?_
    intro _ _ _
    exact Activity.Alike.pure rfl
  cases recorded with
  | true => exact rest
  | false => exact (report _ _).bind fun _ _ _ => rest

end

end Call.Alike

theorem Call.Related.eq {α : Type} {r r' : Except Failure α} (h : Call.Related Eq r r') : r = r' := by
  cases r with
  | ok x =>
    cases r' with
    | ok x' => exact congrArg _ h
    | error f => exact absurd h id
  | error f =>
    cases r' with
    | ok x' => exact absurd h id
    | error f' => exact congrArg _ h

/-- A call that attaches or detaches a disk does not look at tasks. -/
theorem Revision.alike (rev : Revision) (settings : Settings) {args : List Json} {vm disk : String}
    (pair : Disks.pair args = .ok (vm, disk)) :
    Activity.Alike vm Eq (Dispatch.run .default settings rev.method args)
      (Dispatch.run .default settings rev.method args) := by
  have call : Call.Alike vm Eq (rev.call settings args) (rev.call settings args) := by
    cases rev with
    | attach => exact Call.Alike.attach settings pair
    | detach => exact Call.Alike.detach settings pair
  have action : Activity.Alike vm Eq (Action.ofCall rev.call settings args)
      (Action.ofCall rev.call settings args) := by
    refine Activity.Alike.bind call ?_
    intro r r' related
    rw [related.eq]
    exact .pure rfl
  rw [Dispatch.run_known rev.handler.found]
  refine .emit _ _ (.emit _ _ (action.bind ?_))
  intro ending _ same
  rw [same]
  refine (Activity.Alike.reportAll _).bind ?_
  intro _ _ _
  exact .pure rfl

end CloudProvider
