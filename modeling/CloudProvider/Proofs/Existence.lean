import CloudProvider.Proofs.Deletion
import CloudProvider.Proofs.Journal
import CloudProvider.Proofs.Replay
import CloudProvider.Proofs.Results
import Mathlib.Data.List.Induction

/-! # What a look-up tells

A look-up asks the control plane for one thing, and all that it tells is what became of that. In memory a
machine or a disk is found exactly if it has come into being, by a call or without one, and has not been deleted
since: each operation that is performed changes what can be found as the history of the control plane says
(`Sought.perform_found`), and so does a whole series of calls (`World.lived_agrees`).
-/

namespace CloudProvider

/-! ## Two look-ups, one shape -/

/-- What can be looked up. -/
inductive Sought where
  | machine
  | disk
  deriving DecidableEq

namespace Sought

/-- The method of the call. -/
def method : Sought → String
  | .machine => "has_vm"
  | .disk => "has_disk"

def call : Sought → Settings → List Json → Call Json
  | .machine => Vms.has
  | .disk => Disks.has

theorem handler (sought : Sought) : Handler sought.method sought.call := by
  cases sought with
  | machine => exact .hasVm
  | disk => exact .hasDisk

def lookUp (sought : Sought) (id : String) : Operation :=
  match sought with
  | .machine => .getVm id
  | .disk => .getDisk id

/-- What the look-up finds in memory. -/
def Found (sought : Sought) (id : String) (inv : Inventory) : Prop :=
  match sought with
  | .machine => ∃ record, inv.vms.find? id = some record
  | .disk => ∃ d, inv.disks.find? id = some d

end Sought

/-! ## One operation, and what is made of it -/

/-- The control plane knows no such thing, or denies it to those who authenticate. -/
def CloudFault.IsAbsence (settings : Settings) (fault : CloudFault) : Prop :=
  (∃ code message, fault = .api 404 code message) ∨
    (∃ code message, fault = .api 403 code message) ∧ settings.controlPlane.hasCredentials = true

theorem CloudFault.reportsAbsence_iff (settings : Settings) (fault : CloudFault) :
    fault.reportsAbsence settings.controlPlane = true ↔ fault.IsAbsence settings := by
  cases fault with
  | api status code message => simp [reportsAbsence, IsAbsence, isNotFound, isForbidden]
  | task | taskTimeout | transport | localFile => simp [reportsAbsence, IsAbsence, isNotFound, isForbidden]

/-- What a look-up comes to, given what became of the operation. -/
def lookedUp {α : Type} (settings : Settings) : Except CloudFault α → Except Failure Json
  | .ok _ => .ok (.bool true)
  | .error fault =>
    if fault.reportsAbsence settings.controlPlane then .ok (.bool false) else .error (.cloud fault)

theorem Call.exists_records (settings : Settings) (what : String) (op : Operation) :
    Call.Records (do return .bool (← Call.exists settings what op) : Call Json) fun outcome course =>
      ∃ answer : op.Answer, course = [⟨.remote op, answer⟩] ∧ outcome = lookedUp settings answer := by
  rw [Call.exists, Call.records_bind, Call.records_bind, Call.records_attempt]
  intro answer
  cases answer with
  | ok x => exact ⟨.ok x, rfl, rfl⟩
  | error fault =>
    dsimp only
    split
    · rename_i absent
      rw [Call.records_bind, Call.records_info]
      exact ⟨.error fault, rfl, (if_pos absent).symm⟩
    · rename_i present
      exact ⟨.error fault, rfl, (if_neg present).symm⟩

theorem Disks.diskId_of_str (disk : String) (more : List Json) : diskId (.str disk :: more) = .ok disk := by
  have enough : ¬(Json.str disk :: more).length < 1 := by simp
  rw [diskId, Arguments.expect, if_neg enough]
  rfl

/-- One operation is asked for and nothing else, and what it was answered decides. -/
theorem Sought.records (sought : Sought) (settings : Settings) (id : String) (more : List Json) :
    Call.Records (sought.call settings (.str id :: more)) fun outcome course =>
      ∃ answer : (sought.lookUp id).Answer,
        course = [⟨.remote (sought.lookUp id), answer⟩] ∧ outcome = lookedUp settings answer := by
  cases sought with
  | machine =>
    rw [call, Vms.has, Call.records_bind, Call.argument, Call.records_ofExcept, Arguments.vmId_of_str]
    change Call.Records _ _
    rw [Call.records_bind, Call.records_info]
    exact Call.exists_records settings _ (.getVm id)
  | disk =>
    rw [call, Disks.has, Call.records_bind, Call.argument, Call.records_ofExcept, Disks.diskId_of_str]
    change Call.Records _ _
    rw [Call.records_bind, Call.records_info]
    exact Call.exists_records settings _ (.getDisk id)

/-- The response that says what became of the operation. -/
def Response.Tells {α : Type} (r : Response) (settings : Settings) : Except CloudFault α → Prop
  | .ok _ => r.error = none ∧ r.result = some (.bool true)
  | .error fault =>
    (fault.IsAbsence settings → r.error = none ∧ r.result = some (.bool false)) ∧
      (¬fault.IsAbsence settings → r.result = none ∧
        r.error = some ⟨(Failure.cloud fault).classify.1, fault.message, (Failure.cloud fault).classify.2⟩)

theorem tells_lookedUp {α : Type} (settings : Settings) (answer : Except CloudFault α) (log : String) :
    (Response.ofOutcome (lookedUp settings answer) log).Tells settings answer := by
  cases answer with
  | ok x => exact ⟨rfl, rfl⟩
  | error fault =>
    refine ⟨fun absent => ?_, fun present => ?_⟩
    · rw [lookedUp, if_pos ((fault.reportsAbsence_iff settings).2 absent)]
      exact ⟨rfl, rfl⟩
    · rw [lookedUp, if_neg fun absent => present ((fault.reportsAbsence_iff settings).1 absent)]
      exact ⟨rfl, rfl⟩

/-! ## Histories -/

/-- Something that has come about in a control plane: a machine or a disk was put into it, or an operation was
answered. -/
inductive Occurrence where
  | inserted (sought : Sought) (id : String)
  | answered (a : Answered)

namespace Sought
variable (sought : Sought) (id : String)

/-- It has come into being. -/
def Born : Occurrence → Prop
  | .inserted sought' id' => sought' = sought ∧ id' = id
  | .answered ⟨.createVm _ _, .ok task⟩ => sought = .machine ∧ task.entity.id = id
  | .answered ⟨.createDisk _ _, .ok task⟩ => sought = .disk ∧ task.entity.id = id
  | _ => False

/-- It has been deleted. -/
def Gone : Occurrence → Prop
  | .answered ⟨.deleteVm vm, .ok _⟩ => sought = .machine ∧ vm = id
  | .answered ⟨.deleteDisk d, .ok _⟩ => sought = .disk ∧ d = id
  | _ => False

/-- It has come into being and has not been deleted since. -/
def Lives (history : List Occurrence) : Prop :=
  ∃ before birth after, history = before ++ birth :: after ∧ sought.Born id birth ∧ ∀ o ∈ after, ¬sought.Gone id o

variable {sought id}

theorem lives_concat {history : List Occurrence} {o : Occurrence} :
    sought.Lives id (history ++ [o]) ↔ sought.Born id o ∨ sought.Lives id history ∧ ¬sought.Gone id o :=
  exists_since_concat

end Sought

/-! ## What can be found -/

namespace SortedMap
variable {α : Type} {m m' : SortedMap α} {k l : String}

theorem found_insert {x : α} (h : m' = m.insert k x) :
    (∃ y, m'.find? l = some y) ↔ k = l ∨ ∃ y, m.find? l = some y := by
  rw [h, find?_insert]
  by_cases same : l = k
  · simp [same]
  · have other : ¬k = l := fun h => same h.symm
    simp [same, other]

theorem found_erase (h : m' = m.erase k) :
    (∃ y, m'.find? l = some y) ↔ (∃ y, m.find? l = some y) ∧ ¬k = l := by
  rw [h, find?_erase]
  by_cases same : l = k
  · simp [same]
  · have other : ¬k = l := fun h => same h.symm
    simp [same, other]

/-- Nothing comes into being where something is replaced. -/
theorem found_replace {x y : α} (there : m.find? k = some y) (h : m' = m.insert k x) :
    (∃ y, m'.find? l = some y) ↔ ∃ y, m.find? l = some y := by
  rw [found_insert h]
  exact or_iff_right_of_imp fun same => ⟨y, same ▸ there⟩

end SortedMap

namespace Sought
variable {sought : Sought} {id : String} {fresh : Nat → String} {inv inv' : Inventory}

theorem found_of_eq (vms : inv'.vms = inv.vms) (disks : inv'.disks = inv.disks) :
    sought.Found id inv' ↔ sought.Found id inv := by
  cases sought with
  | machine => rw [Found, Found, vms]
  | disk => rw [Found, Found, disks]

theorem found_of_changesVm {vm : String} {change : VmRecord → VmRecord} (h : inv.ChangesVm vm change inv') :
    sought.Found id inv' ↔ sought.Found id inv := by
  obtain ⟨record, there, vms, disks, -⟩ := h
  cases sought with
  | machine => exact SortedMap.found_replace there vms
  | disk => rw [Found, Found, disks]

theorem found_of_disk {disk : String} {d d' : PersistentDisk} (there : inv.disks.find? disk = some d)
    (vms : inv'.vms = inv.vms) (disks : inv'.disks = inv.disks.insert disk d') :
    sought.Found id inv' ↔ sought.Found id inv := by
  cases sought with
  | machine => rw [Found, Found, vms]
  | disk => exact SortedMap.found_replace there disks

/-- What an operation makes of what can be found, as its answer tells. -/
def Follows (sought : Sought) (id : String) (o : Occurrence) (inv inv' : Inventory) : Prop :=
  sought.Found id inv' ↔ sought.Born id o ∨ sought.Found id inv ∧ ¬sought.Gone id o

theorem Follows.of_same {o : Occurrence} (same : sought.Found id inv' ↔ sought.Found id inv)
    (unborn : ¬sought.Born id o) (spared : ¬sought.Gone id o) : sought.Follows id o inv inv' := by
  rw [Follows, same]
  exact ⟨fun found => .inr ⟨found, spared⟩, fun h => (h.resolve_left unborn).1⟩

theorem performs_found {op : Operation} {x : op.Reply} (hp : inv.Performs fresh op x inv') :
    sought.Follows id (.answered ⟨op, .ok x⟩) inv inv' := by
  cases op with
  | createVm project spec =>
    obtain ⟨n, -, -, entity, vms, disks, -⟩ := hp
    cases sought with
    | machine =>
      rw [Follows, Found, SortedMap.found_insert vms]
      simp [Born, Gone, Found, entity]
    | disk => simp [Follows, Born, Gone, Found, disks]
  | createDisk project spec =>
    obtain ⟨n, -, -, entity, vms, disks, -⟩ := hp
    cases sought with
    | machine => simp [Follows, Born, Gone, Found, vms]
    | disk =>
      rw [Follows, Found, SortedMap.found_insert disks]
      simp [Born, Gone, Found, entity]
  | deleteVm vm =>
    obtain ⟨record, -, vms, disks, -⟩ := hp
    cases sought with
    | machine =>
      rw [Follows, Found, SortedMap.found_erase vms]
      simp [Born, Gone, Found]
    | disk => simp [Follows, Born, Gone, Found, disks]
  | deleteDisk disk =>
    obtain ⟨d, -, vms, disks, -⟩ := hp
    cases sought with
    | machine => simp [Follows, Born, Gone, Found, vms]
    | disk =>
      rw [Follows, Found, SortedMap.found_erase disks]
      simp [Born, Gone, Found]
  | startVm vm | stopVm vm | restartVm vm | attachIso vm path | detachIso vm | setMetadata vm metadata =>
    exact .of_same (found_of_changesVm hp) not_false not_false
  | attachDisk vm disk | detachDisk vm disk =>
    obtain ⟨record, d, -, there, vms, disks, -⟩ := hp
    exact .of_same (found_of_disk there vms disks) not_false not_false
  | getVm vm =>
    obtain ⟨record, -, -, vms, disks, -⟩ := hp
    exact .of_same (found_of_eq vms disks) not_false not_false
  | getDisk disk | listDisks project =>
    obtain ⟨-, vms, disks, -⟩ := hp
    exact .of_same (found_of_eq vms disks) not_false not_false
  | createImage name file =>
    obtain ⟨content, n, -, -, -, -, vms, disks, -⟩ := hp
    exact .of_same (found_of_eq vms disks) not_false not_false
  | deleteImage image =>
    obtain ⟨i, -, vms, disks, -⟩ := hp
    exact .of_same (found_of_eq vms disks) not_false not_false

/-- An operation changes what can be found as its answer tells. -/
theorem perform_found {op : Operation} {r : op.Answer} (h : inv.perform fresh op = (r, inv')) :
    sought.Follows id (.answered ⟨op, r⟩) inv inv' := by
  rcases Inventory.perform_cases h with ⟨f, rfl, ⟨vms, disks, -⟩, -⟩ | ⟨x, rfl, hp⟩
  · refine .of_same (found_of_eq vms disks) ?_ ?_
    · cases op <;> exact not_false
    · cases op <;> exact not_false
  · exact performs_found hp

theorem follows_insertVm (inv : Inventory) (vm : String) :
    sought.Follows id (.inserted .machine vm) inv (inv.insertVm vm) := by
  cases sought with
  | machine =>
    have put : (inv.insertVm vm).vms = inv.vms.insert vm ⟨⟨vm, "bosh-vm", "STOPPED", [], ∅⟩, none⟩ := rfl
    rw [Follows, Found, SortedMap.found_insert put]
    simp [Born, Gone, Found]
  | disk => simp [Follows, Born, Gone, Found, Inventory.insertVm]

theorem follows_insertDisk (inv : Inventory) (disk : String) (attachedTo : List String) :
    sought.Follows id (.inserted .disk disk) inv (inv.insertDisk disk attachedTo) := by
  cases sought with
  | machine => simp [Follows, Born, Gone, Found, Inventory.insertDisk]
  | disk =>
    have put : (inv.insertDisk disk attachedTo).disks =
        inv.disks.insert disk ⟨disk, s!"disk-{disk}", "core-100", 1, attachedTo⟩ := rfl
    rw [Follows, Found, SortedMap.found_insert put]
    simp [Born, Gone, Found]

theorem found_putMetadata (inv : Inventory) (vm key value : String) :
    sought.Found id (inv.putMetadata vm key value) ↔ sought.Found id inv := by
  rw [Inventory.putMetadata, Inventory.modifyVm]
  split
  · rename_i record there
    have changes : inv.ChangesVm vm (Inventory.VmRecord.putMetadata · (.singleton key value))
        { inv with vms := inv.vms.insert vm (Inventory.VmRecord.putMetadata record (.singleton key value)) } :=
      ⟨record, there, rfl, rfl, rfl⟩
    exact found_of_changesVm changes
  · rfl

/-- What can be found is what lives according to the history. -/
def Agrees (sought : Sought) (id : String) (history : List Occurrence) (inv : Inventory) : Prop :=
  sought.Found id inv ↔ sought.Lives id history

theorem Agrees.occurs {history : List Occurrence} {o : Occurrence} (h : sought.Agrees id history inv)
    (follows : sought.Follows id o inv inv') : sought.Agrees id (history ++ [o]) inv' := by
  rw [Agrees, lives_concat]
  exact follows.trans (or_congr_right (and_congr_left' h))

theorem Agrees.leads {answered : List Answered} (leads : inv.Leads fresh answered inv') {history : List Occurrence}
    (h : sought.Agrees id history inv) : sought.Agrees id (history ++ answered.map .answered) inv' := by
  induction leads generalizing history with
  | done inv => rwa [List.map_nil, List.append_nil]
  | @step inv inv₁ inv' op r answered performed rest ih =>
    rw [List.map_cons, List.append_cons]
    exact ih (h.occurs (perform_found performed))

theorem Agrees.of_same {history : List Occurrence} (h : sought.Agrees id history inv)
    (same : sought.Found id inv' ↔ sought.Found id inv) : sought.Agrees id history inv' := same.trans h

theorem Agrees.empty (sought : Sought) (id : String) (omits : Bool) : sought.Agrees id [] (.empty omits) := by
  refine iff_of_false ?_ ?_
  · cases sought <;> exact fun ⟨_, found⟩ => nomatch found
  · rintro ⟨before, birth, after, split, -⟩
    exact List.append_ne_nil_of_right_ne_nil before (List.cons_ne_nil birth after) split.symm

theorem lookUp_holds (sought : Sought) {r : (sought.lookUp id).Answer}
    (h : inv.perform fresh (sought.lookUp id) = (r, inv')) : inv'.Holds inv.vms inv.disks inv.images := by
  rcases Inventory.perform_cases h with ⟨f, -, holds, -⟩ | ⟨x, -, performs⟩
  · exact holds
  · cases sought with
    | machine =>
      obtain ⟨record, -, -, holds⟩ := performs
      exact holds
    | disk => exact performs.2

/-- Without a fault a look-up tells what can be found. -/
theorem tells_found {r : (sought.lookUp id).Answer} (h : inv.perform fresh (sought.lookUp id) = (r, inv'))
    (unarmed : inv.faults.find? (sought.lookUp id).name = none) {settings : Settings} {response : Response}
    (tells : response.Tells settings r) : response.error = none ∧
      ∃ found : Bool, response.result = some (.bool found) ∧ (found = true ↔ sought.Found id inv) := by
  rcases Inventory.perform_unarmed h unarmed with ⟨f, rfl, -, refused⟩ | ⟨x, rfl, performs⟩
  · have missing : ¬sought.Found id inv ∧ ∃ code message, f = .api 404 code message := by
      cases sought with
      | machine =>
        obtain ⟨none, rfl⟩ := refused
        refine ⟨?_, _, _, rfl⟩
        rintro ⟨_, found⟩
        cases found.symm.trans none
      | disk =>
        obtain ⟨none, rfl⟩ := refused
        refine ⟨?_, _, _, rfl⟩
        rintro ⟨_, found⟩
        cases found.symm.trans none
    obtain ⟨error, result⟩ := tells.1 (.inl missing.2)
    exact ⟨error, false, result, iff_of_false Bool.false_ne_true missing.1⟩
  · have there : sought.Found id inv := by
      cases sought with
      | machine =>
        obtain ⟨record, found, -⟩ := performs
        exact ⟨record, found⟩
      | disk => exact ⟨x, performs.1⟩
    exact ⟨tells.1, true, tells.2, iff_of_true rfl there⟩

end Sought

/-! ## Runs -/

/-- What is done to a control plane in memory. Only calls are asked of it by the provider. -/
inductive Deed where
  | insertVm (id : String)
  | insertDisk (id : String) (attachedTo : List String)
  | insertImage (id name : String)
  | putMetadata (vm key value : String)
  | arm (operation : String) (fault : CloudFault)
  | call (settings : Settings) (method : String) (args : List Json)

namespace World
variable {σ : Type} (w : World σ) (fresh : Nat → String)

/-- Does something to a control plane and carries its history on. -/
def live (s : At (List Occurrence × Inventory × σ)) : Deed → At (List Occurrence × Inventory × σ)
  | .insertVm id => ⟨s.log, s.state.1 ++ [.inserted .machine id], s.state.2.1.insertVm id, s.state.2.2⟩
  | .insertDisk id attachedTo =>
    ⟨s.log, s.state.1 ++ [.inserted .disk id], s.state.2.1.insertDisk id attachedTo, s.state.2.2⟩
  | .insertImage id name => ⟨s.log, s.state.1, s.state.2.1.insertImage id name, s.state.2.2⟩
  | .putMetadata vm key value => ⟨s.log, s.state.1, s.state.2.1.putMetadata vm key value, s.state.2.2⟩
  | .arm operation fault => ⟨s.log, s.state.1, s.state.2.1.arm operation fault, s.state.2.2⟩
  | .call settings method args =>
    let r := (w.withInventory fresh).recording.respond settings method args ⟨s.log, [], s.state.2⟩
    ⟨r.2.log, s.state.1 ++ (operations r.2.state.1).map .answered, r.2.state.2⟩

/-- One thing after another, from an empty control plane on. -/
def lived (omits : Bool) (rest : σ) (deeds : List Deed) : At (List Occurrence × Inventory × σ) :=
  deeds.foldl (w.live fresh) ⟨.empty, [], .empty omits, rest⟩

/-- Whatever the call, the control plane comes to what its operations lead to. -/
theorem recording_leads (settings : Settings) (method : String) (args : List Json)
    (s : At (Call.Course × Inventory × σ)) :
    let r := (w.withInventory fresh).recording.respond settings method args s
    ∃ course, r.2.state.1 = s.state.1 ++ course ∧ s.state.2.1.Leads fresh (operations course) r.2.state.2.1 := by
  have anything : (Dispatch.run .default settings method args).Records fun _ _ => True :=
    .of_forall (fun _ _ => trivial) _ _
  obtain ⟨_, _, -, course, told, -, leads⟩ :=
    w.recording_ends fresh settings s (anything.ends_watched fresh s.state.1 s.state.2.1)
  exact ⟨course, told, leads⟩

variable {w fresh} {sought : Sought} {id : String}

theorem live_agrees {s : At (List Occurrence × Inventory × σ)} (h : sought.Agrees id s.state.1 s.state.2.1)
    (deed : Deed) : sought.Agrees id (w.live fresh s deed).state.1 (w.live fresh s deed).state.2.1 := by
  cases deed with
  | insertVm vm => exact h.occurs (Sought.follows_insertVm _ vm)
  | insertDisk disk attachedTo => exact h.occurs (Sought.follows_insertDisk _ disk attachedTo)
  | insertImage image name | arm operation fault => cases sought <;> exact h
  | putMetadata vm key value => exact h.of_same (Sought.found_putMetadata _ vm key value)
  | call settings method args =>
    obtain ⟨course, told, leads⟩ := w.recording_leads fresh settings method args ⟨s.log, [], s.state.2⟩
    rw [List.nil_append] at told
    rw [live]
    dsimp only
    rw [told]
    exact h.leads leads

theorem lived_agrees (omits : Bool) (rest : σ) (deeds : List Deed) :
    sought.Agrees id (w.lived fresh omits rest deeds).state.1 (w.lived fresh omits rest deeds).state.2.1 := by
  induction deeds using List.reverseRecOn with
  | nil => exact .empty sought id omits
  | append_singleton deeds deed ih =>
    rw [lived, List.foldl_append]
    exact live_agrees ih deed

end World

/-! ## Responses -/

theorem Inventory.Leads.one {fresh : Nat → String} {inv inv' : Inventory} {op : Operation} {r : op.Answer}
    (h : inv.Leads fresh [⟨op, r⟩] inv') : inv.perform fresh op = (r, inv') := by
  cases h with
  | step performed rest =>
    cases rest
    exact performed

/-- What is so of all records of a call is so of the record that is kept in a world. -/
theorem World.recording_records {σ : Type} (w : World σ) (settings : Settings) {method : String}
    {call : Settings → List Json → Call Json} (handler : Handler method call) {args : List Json}
    {Q : Except Failure Json → Call.Course → Prop} (h : Call.Records (call settings args) Q)
    (s : At (Call.Course × σ)) :
    let r := w.recording.respond settings method args s
    ∃ outcome log course, r.1 = .ofOutcome outcome log ∧ r.2.state.1 = s.state.1 ++ course ∧ Q outcome course := by
  have ends : Program.Ends Program.Kept (Dispatch.run .default settings method args)
      (fun outcome record => ∃ course, record = s.state.1 ++ course ∧ Q outcome course) s.state.1 := by
    rw [Dispatch.run_ends_of_call handler.found]
    have after := (Program.ends_kept (Q := fun outcome record => ∃ course, record = s.state.1 ++ course ∧
      Q outcome course) (call settings args).run s.state.1 []).2
        (h.mono fun outcome course hq => ⟨course, rfl, hq⟩)
    rw [List.append_nil] at after
    refine Program.Ends.mono after fun outcome record hq => ?_
    cases outcome with
    | ok x => exact hq
    | error f => exact hq
  obtain ⟨outcome, log, response, course, told, hq⟩ :=
    w.recording.respond_ends Prod.fst (fun e s => rfl) (fun s => rfl) ends
  exact ⟨outcome, log, course, response, told, hq⟩

/-- A look-up asks for one thing, and its response tells what became of that. It changes no machine, disk or image
in memory, and unless a fault is armed for it, it tells what has come into being and has not been deleted since. -/
theorem World.respond_looks_up {σ : Type} (w : World σ) (sought : Sought) (settings : Settings) (id : String)
    (more : List Json) :
    (∀ s : At (Call.Course × σ),
      let r := w.recording.respond settings sought.method (.str id :: more) s
      ∃ answer : (sought.lookUp id).Answer,
        r.2.state.1 = s.state.1 ++ [⟨.remote (sought.lookUp id), answer⟩] ∧ r.1.Tells settings answer) ∧
    (∀ (fresh : Nat → String) (s : At (Call.Course × Inventory × σ)),
      let r := (w.withInventory fresh).recording.respond settings sought.method (.str id :: more) s
      r.2.state.2.1.Holds s.state.2.1.vms s.state.2.1.disks s.state.2.1.images) ∧
    ∀ (fresh : Nat → String) (omits : Bool) (rest : σ) (deeds : List Deed),
      let s := w.lived fresh omits rest deeds
      let r := (w.withInventory fresh).recording.respond settings sought.method (.str id :: more)
        ⟨s.log, [], s.state.2⟩
      s.state.2.1.faults.find? (sought.lookUp id).name = none → r.1.error = none ∧
        ∃ found : Bool, r.1.result = some (.bool found) ∧ (found = true ↔ sought.Lives id s.state.1) := by
  have leads (fresh : Nat → String) (s : At (Call.Course × Inventory × σ)) :
      let r := (w.withInventory fresh).recording.respond settings sought.method (.str id :: more) s
      ∃ answer : (sought.lookUp id).Answer, r.1.Tells settings answer ∧
        s.state.2.1.perform fresh (sought.lookUp id) = (answer, r.2.state.2.1) := by
    intro r
    obtain ⟨_, log, _, response, -, ⟨answer, rfl, rfl⟩, leads⟩ :=
      w.respond_leads fresh settings sought.handler (sought.records settings id more) s
    exact ⟨answer, response ▸ tells_lookedUp settings answer log, leads.one⟩
  refine ⟨fun s => ?_, fun fresh s => ?_, fun fresh omits rest deeds => ?_⟩
  · obtain ⟨_, log, _, response, told, answer, rfl, rfl⟩ :=
      w.recording_records settings sought.handler (sought.records settings id more) s
    exact ⟨answer, told, response ▸ tells_lookedUp settings answer log⟩
  · obtain ⟨answer, -, performed⟩ := leads fresh s
    exact sought.lookUp_holds performed
  · intro s r unarmed
    obtain ⟨answer, tells, performed⟩ := leads fresh ⟨s.log, [], s.state.2⟩
    obtain ⟨error, found, result, told⟩ := Sought.tells_found performed unarmed tells
    exact ⟨error, found, result, told.trans (lived_agrees omits rest deeds)⟩

/-- A machine that was put into an empty control plane is there. -/
theorem World.respond_looks_up_inserted :
    let s := World.calm.lived Nat.repr false () [.insertVm "vm-1", .arm "get_disk" (.transport "connection reset")]
    s.state.2.1.faults.find? "get_vm" = none ∧ ((World.calm.withInventory Nat.repr).recording.respond
      (.bare "http://127.0.0.1" "project" "nats") "has_vm" [.str "vm-1"] ⟨s.log, [], s.state.2⟩).1.result =
        some (.bool true) := by
  intro s
  have unarmed : s.state.2.1.faults.find? "get_vm" = none := by decide
  obtain ⟨-, -, told⟩ := respond_looks_up World.calm .machine (.bare "http://127.0.0.1" "project" "nats") "vm-1" []
  obtain ⟨-, found, result, lives⟩ := told Nat.repr false ()
    [.insertVm "vm-1", .arm "get_disk" (.transport "connection reset")] unarmed
  have inserted : Sought.machine.Lives "vm-1" s.state.1 :=
    ⟨[], .inserted .machine "vm-1", [], rfl, ⟨rfl, rfl⟩, List.forall_mem_nil _⟩
  rw [lives.2 inserted] at result
  exact ⟨unarmed, result⟩

end CloudProvider
