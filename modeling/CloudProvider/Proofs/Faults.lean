import CloudProvider.Proofs.Journal

/-! # Faults that are armed

What is armed for an operation after a run is read off the run alone (`armed_iff`): the last fault that was armed
for it, unless an operation of its name has been begun since. So a fault is what the next such operation fails
with, however many others come between, and no other operation fails with it (`perform_exact`).
-/

namespace CloudProvider.Inventory

/-- What is done to a control plane in memory. -/
inductive Move where
  | insertVm (id : String)
  | insertDisk (id : String) (attachedTo : List String)
  | insertImage (id name : String)
  | putMetadata (vm key value : String)
  | arm (operation : String) (fault : CloudFault)
  | perform (op : Operation)

namespace Move

/-- The fault is armed for operations of this name. -/
def Arms (name : String) (fault : CloudFault) : Move → Prop
  | .arm operation fault' => operation = name ∧ fault' = fault
  | _ => False

/-- What has been armed for operations of this name is taken, or gives way. -/
def Disarms (name : String) : Move → Prop
  | .arm operation _ => operation = name
  | .perform op => op.Begins ∧ op.name = name
  | _ => False

end Move

section
variable (fresh : Nat → String)

def move (inv : Inventory) : Move → Inventory
  | .insertVm id => inv.insertVm id
  | .insertDisk id attachedTo => inv.insertDisk id attachedTo
  | .insertImage id name => inv.insertImage id name
  | .putMetadata vm key value => inv.putMetadata vm key value
  | .arm operation fault => inv.arm operation fault
  | .perform op => (inv.perform fresh op).2

/-- One move after the other. -/
def moved (inv : Inventory) (moves : List Move) : Inventory := moves.foldl (move fresh) inv

end

/-- After these moves the fault is armed for operations of this name: nothing has disarmed it since it was armed. -/
def Armed (inv : Inventory) (name : String) (fault : CloudFault) (moves : List Move) : Prop :=
  (∃ before arming after, moves = before ++ arming :: after ∧ arming.Arms name fault ∧ ∀ m ∈ after, ¬m.Disarms name) ∨
    inv.faults.find? name = some fault ∧ ∀ m ∈ moves, ¬m.Disarms name

section
variable {fresh : Nat → String} {inv inv' : Inventory} {name : String} {fault : CloudFault} {op : Operation}

theorem perform_of_not_begins (unread : ¬op.Begins) :
    (inv.perform fresh op).2 = inv ∧ ∃ f, (inv.perform fresh op).1 = .error f ∧ inv.Refuses op f := by
  cases op with
  | createImage image file =>
    obtain ⟨fault | content⟩ := file
    · exact ⟨rfl, _, rfl, fault, rfl, rfl⟩
    · exact absurd ⟨content, rfl⟩ unread
  | _ => exact absurd trivial unread

/-- Only arming and beginning an operation of its name matter to what is armed. -/
theorem move_armed (m : Move) : (inv.move fresh m).faults.find? name = some fault ↔
    m.Arms name fault ∨ inv.faults.find? name = some fault ∧ ¬m.Disarms name := by
  cases m with
  | insertVm | insertDisk | insertImage => simp [move, Move.Arms, Move.Disarms, insertVm, insertDisk, insertImage]
  | putMetadata vm key value =>
    have same : (inv.putMetadata vm key value).faults = inv.faults := by
      rw [putMetadata, modifyVm]
      split <;> rfl
    simp [move, Move.Arms, Move.Disarms, same]
  | arm operation fault' =>
    rw [move, arm, SortedMap.find?_insert]
    by_cases same : name = operation
    · simp [Move.Arms, Move.Disarms, same]
    · simp [Move.Arms, Move.Disarms, same, Ne.symm same]
  | perform op =>
    by_cases begins : op.Begins
    · have begun := perform_begun (Prod.eta (inv.perform fresh op)).symm begins
      rw [move, begun.faults, SortedMap.find?_erase]
      by_cases same : name = op.name
      · simp [Move.Arms, Move.Disarms, same, begins]
      · simp [Move.Arms, Move.Disarms, same, Ne.symm same]
    · rw [move, (perform_of_not_begins begins).1]
      simp [Move.Arms, Move.Disarms, begins]

theorem armed_concat {moves : List Move} {m : Move} : inv.Armed name fault (moves ++ [m]) ↔
    m.Arms name fault ∨ inv.Armed name fault moves ∧ ¬m.Disarms name := by
  rw [Armed, exists_since_concat, List.forall_mem_append, List.forall_mem_singleton, or_assoc, ← and_assoc,
    ← or_and_right]
  rfl

/-- A run leaves armed what its moves say. -/
theorem armed_iff (moves : List Move) :
    (inv.moved fresh moves).faults.find? name = some fault ↔ inv.Armed name fault moves := by
  induction moves using List.reverseRecOn with
  | nil => simp [moved, Armed]
  | append_singleton moves m ih =>
    rw [armed_concat, ← ih, moved, List.foldl_append]
    exact move_armed m

end

/-- An operation is written down and takes the fault that is armed for it, and no other, unless it is the upload of
an image that cannot be read, which does nothing at all. Whatever it fails with, machines, disks and images stay as
they are. It fails with the fault that the moves before it have left armed for it, and if they have left none, with
what stands against it, or not at all. -/
theorem perform_exact (fresh : Nat → String) (inv : Inventory) (moves : List Move) (op : Operation) :
    let reached := inv.moved fresh moves
    let r := reached.perform fresh op
    (op.Begins → reached.Begun op r.2) ∧
    (¬op.Begins → r.2 = reached ∧ ∃ f, r.1 = .error f ∧ reached.Refuses op f) ∧
    (∀ f, r.1 = .error f → r.2.Holds reached.vms reached.disks reached.images) ∧
    (∀ fault, inv.Armed op.name fault moves → op.Begins → r.1 = .error fault) ∧
    ((∀ fault, ¬inv.Armed op.name fault moves) → (∃ f, r.1 = .error f ∧ reached.Refuses op f) ∨
      ∃ x, r.1 = .ok x ∧ reached.Performs fresh op x r.2) := by
  intro reached r
  have performed : reached.perform fresh op = (r.1, r.2) := (Prod.eta r).symm
  refine ⟨perform_begun performed, perform_of_not_begins, fun f refused => ?_, fun fault armed begins => ?_, ?_⟩
  · rcases perform_cases performed with ⟨_, -, holds, -⟩ | ⟨x, done, -⟩
    · exact holds
    · cases refused.symm.trans done
  · exact (perform_armed performed begins ((armed_iff moves).2 armed)).1
  · intro none
    have unarmed : reached.faults.find? op.name = .none :=
      Option.eq_none_iff_forall_ne_some.2 fun fault armed => none fault ((armed_iff moves).1 armed)
    rcases perform_unarmed performed unarmed with ⟨f, refused, -, stands⟩ | done
    · exact .inl ⟨f, refused, stands⟩
    · exact .inr done

/-- A fault that gives way to another before the machine is started is not what starting it fails with. -/
theorem perform_exact_rearmed :
    let inv := Inventory.empty false
    let before : List Move := [.insertVm "vm-1", .arm "start_vm" (.transport "first"), .perform (.getVm "vm-1")]
    let between : List Move := [.arm "get_vm" (.transport "other"), .perform (.stopVm "vm-1")]
    let moves := before ++ .arm "start_vm" (.transport "second") :: between
    inv.Armed "start_vm" (.transport "second") moves ∧
      ((inv.moved Nat.repr moves).perform Nat.repr (.startVm "vm-1")).1 = .error (.transport "second") ∧
      ((inv.moved Nat.repr (moves ++ [.perform (.startVm "vm-1")])).perform Nat.repr (.startVm "vm-1")).2.journal =
        ["get_vm", "stop_vm", "start_vm", "start_vm"] := by
  intro inv before between moves
  have spared : ∀ m ∈ between, ¬m.Disarms "start_vm" := by
    simp [between, Move.Disarms, Operation.name]
  have armed : inv.Armed "start_vm" (.transport "second") moves :=
    .inl ⟨before, _, between, rfl, ⟨rfl, rfl⟩, spared⟩
  obtain ⟨-, -, -, refused, -⟩ := perform_exact Nat.repr inv moves (.startVm "vm-1")
  obtain ⟨begun, -⟩ := perform_exact Nat.repr inv (moves ++ [.perform (.startVm "vm-1")]) (.startVm "vm-1")
  refine ⟨armed, refused _ armed trivial, ?_⟩
  rw [(begun trivial).journal]
  decide +kernel

end CloudProvider.Inventory
