import CloudProvider.Proofs.Arguments
import CloudProvider.Proofs.Effects
import CloudProvider.Proofs.LogIsolation
import CloudProvider.Proofs.Record

/-! # Arguments come before all else

A call takes its arguments apart before it asks anything of the world, and goes on with what it has made
of them (`Handler.decodes`). So a list that it cannot take apart is refused with nothing done, and every
other list leads to a question or to a result; and lists that agree where the method looks lead to the
same questions and to the same end.
-/

namespace CloudProvider

namespace Program
variable {Op : Type} {Reply : Op → Type} {σ α : Type}

/-- How a program ends that asks nothing. -/
def unasked? : Program Op Reply α → Option α
  | .pure x => some x
  | .emit _ next => unasked? next
  | .perform .. => none

variable {may : (op : Op) → σ → Reply op → σ → Prop} {p : Program Op Reply α} {s : σ}

theorem ends_of_unasked {x : α} {Q : α → σ → Prop} (h : p.unasked? = some x) (hQ : Q x s) :
    Ends may p Q s := by
  induction p with
  | pure y =>
    cases h
    exact hQ
  | emit e next ih => exact ih h
  | perform op next ih => cases h

/-- What only grows with every question has grown at the end of a program that asks something. -/
theorem ends_of_asked (size : σ → Nat) (grows : ∀ op s r s', may op s r s' → size s < size s')
    (h : p.unasked? = none) : Ends may p (fun _ s' => size s < size s') s := by
  induction p with
  | pure y => cases h
  | emit e next ih => exact ih h
  | perform op next ih =>
    intro r s' hm
    have kept : Ends may (next r) (fun _ t => size s < size t) s' :=
      (only_true (next r)).ends (fun op t r t' _ hm ht => Nat.lt_trans ht (grows op t r t' hm))
        (grows op s r s' hm)
    exact kept

end Program

/-! ## Calls take their arguments first -/

/-- The call asks something, or it has a result. -/
def Call.Proceeds {α : Type} (call : Call α) : Prop := ∀ f, call.run.unasked? ≠ some (.error f)

theorem Call.Proceeds.of_asked {α : Type} {call : Call α} (h : call.run.unasked? = none) :
    call.Proceeds := by
  intro f hf
  rw [h] at hf
  cases hf

namespace Handler
variable {method : String} {call : Settings → List Json → Call Json}

/-- Every call makes something of its arguments, and goes on with that. -/
theorem decodes (h : Handler method call) :
    ∃ (α : Type) (parse : List Json → Except ArgumentFault α) (rest : Settings → α → Call Json),
      (∀ settings args, call settings args = Call.argument (parse args) >>= rest settings) ∧
        Arguments.Decodes method parse ∧ ∀ settings a, (rest settings a).Proceeds := by
  cases h with
  | createStemcell =>
    exact ⟨_, _, _, fun _ _ => rfl, Arguments.decodes_image, fun _ _ => .of_asked rfl⟩
  | createVm => exact ⟨_, _, _, fun _ _ => rfl, Arguments.decodes_createVm, fun _ _ => .of_asked rfl⟩
  | createDisk => exact ⟨_, _, _, fun _ _ => rfl, Arguments.decodes_createDisk, fun _ _ => .of_asked rfl⟩
  | attachDisk | detachDisk =>
    exact ⟨_, _, _, fun _ _ => rfl, Arguments.decodes_pair rfl, fun _ _ => .of_asked rfl⟩
  | setVmMetadata =>
    refine ⟨_, _, _, fun _ _ => rfl, Arguments.decodes_tags, ?_⟩
    intro _ _ f hf
    cases hf
  | deleteStemcell | deleteVm | hasVm | restartVm | deleteDisk | hasDisk | listDisks =>
    exact ⟨_, _, _, fun _ _ => rfl, Arguments.decodes_id rfl _, fun _ _ => .of_asked rfl⟩

end Handler

/-! ## Refusals -/

/-- The failure of the provider itself, which another try does not mend. -/
def Response.Refused (r : Response) : Prop :=
  r.result = none ∧ ∃ message, r.error = some ⟨.cpiError, message, false⟩

/-- The world, with the record of all that it was asked. -/
def World.recording {σ : Type} (w : World σ) : World (Call.Course × σ) where
  answer e s := ((w.answer e s.2).1, s.1 ++ [⟨e, (w.answer e s.2).1⟩], (w.answer e s.2).2)
  clock s := ((w.clock s.2).1, s.1, (w.clock s.2).2)

/-- Operations are performed in memory, and all that is asked is written down. -/
def Inventory.Watched (fresh : Nat → String) (e : Effect) (s : Call.Course × Inventory) (r : e.Reply)
    (s' : Call.Course × Inventory) : Prop :=
  s'.1 = s.1 ++ [⟨e, r⟩] ∧ Inventory.Answers fresh (fun _ _ => True) e s.2 r s'.2

namespace Arguments
variable {method : String} {args args' : List Json}

theorem accepted_congr (agree : ∀ i ∈ positions method, args[i]? = args'[i]?) :
    Accepted method args ↔ Accepted method args' := by
  unfold Accepted
  refine forall_congr' fun p => forall_congr' fun hp => ?_
  rw [agree p.1 (List.mem_map_of_mem hp)]

/-- A list that ends before a position that is read is not accepted. -/
theorem not_accepted_of_short {i : Nat} (hi : i ∈ positions method) (short : args.length ≤ i) :
    ¬ Accepted method args := by
  intro h
  obtain ⟨p, hp, rfl⟩ := List.mem_map.1 hi
  obtain ⟨j, hj, -⟩ := h p hp
  have := length_of_given hj
  omega

end Arguments

section
open Arguments (Accepted positions)
variable {σ : Type} (w : World σ) (fresh : Nat → String) (settings : Settings) {method : String}
variable {args args' : List Json}

/-- The response and what was asked for it, as the program of the call has them. -/
theorem World.recording_ends (s : World.At (Call.Course × Inventory × σ))
    {Q : Except Failure Json → Call.Course × Inventory → Prop}
    (h : Program.Ends (Inventory.Watched fresh) (Dispatch.run .default settings method args) Q
      (s.state.1, s.state.2.1)) :
    ∃ outcome log,
      ((w.withInventory fresh).recording.respond settings method args s).1 = .ofOutcome outcome log ∧
        Q outcome (((w.withInventory fresh).recording.respond settings method args s).2.state.1,
          ((w.withInventory fresh).recording.respond settings method args s).2.state.2.1) := by
  refine World.respond_ends _ (fun s : Call.Course × Inventory × σ => (s.1, s.2.1)) (fun e s => ?_)
    (fun s => rfl) h
  cases e with
  | remote op => exact ⟨rfl, rfl⟩
  | runTool | openFile | writeFile | createDirectory | createFile | removeDirectory | removeFile =>
    exact ⟨rfl, trivial, rfl⟩

/-- Arguments that are not accepted are refused, and nothing has been done. -/
theorem World.respond_refused (known : Text.lowerCase method ∈ ActionTable.default.keys)
    (h : ¬ Accepted (Text.lowerCase method) args) (s : World.At (Call.Course × Inventory × σ)) :
    let r := (w.withInventory fresh).recording.respond settings method args s
    r.1.Refused ∧ r.2.state.1 = s.state.1 ∧ r.2.state.2.1 = s.state.2.1 := by
  obtain ⟨action, ha⟩ := SortedMap.mem_keys.1 known
  obtain ⟨call, hc, rfl⟩ := Handler.of_find? ha
  obtain ⟨α, parse, rest, takes, decodes, -⟩ := hc.decodes
  have ends : Program.Ends (Inventory.Watched fresh) (Dispatch.run .default settings method args)
      (fun outcome t => (∃ fault, outcome = .error (.argument fault)) ∧ t = (s.state.1, s.state.2.1))
      (s.state.1, s.state.2.1) := by
    rw [Dispatch.run_ends_of_call ha, takes, Call.ends_bind, Call.ends_argument]
    cases hp : parse args with
    | ok a => exact absurd ((decodes.accepts args).1 ⟨a, hp⟩) h
    | error fault => exact ⟨⟨fault, rfl⟩, rfl⟩
  obtain ⟨_, log, hr, ⟨fault, rfl⟩, hs⟩ := w.recording_ends fresh settings s ends
  obtain ⟨course, inventory⟩ := Prod.mk.inj hs
  refine ⟨?_, course, inventory⟩
  rw [hr]
  exact ⟨rfl, _, rfl⟩

/-- With arguments that are accepted, something is asked or there is a result. -/
theorem World.respond_accepted (known : Text.lowerCase method ∈ ActionTable.default.keys)
    (h : Accepted (Text.lowerCase method) args) (s : World.At (Call.Course × Inventory × σ)) :
    let r := (w.withInventory fresh).recording.respond settings method args s
    ¬ (r.1.Refused ∧ r.2.state.1 = s.state.1) := by
  obtain ⟨action, ha⟩ := SortedMap.mem_keys.1 known
  obtain ⟨call, hc, rfl⟩ := Handler.of_find? ha
  obtain ⟨α, parse, rest, takes, decodes, proceeds⟩ := hc.decodes
  obtain ⟨a, hp⟩ := (decodes.accepts args).2 h
  have ends : Program.Ends (Inventory.Watched fresh) (Dispatch.run .default settings method args)
      (fun outcome t => (∃ x, outcome = .ok x) ∨ s.state.1.length < t.1.length)
      (s.state.1, s.state.2.1) := by
    rw [Dispatch.run_ends_of_call ha, takes, hp]
    show Program.Ends _ (rest settings a).run (Call.Ending _ _) _
    cases hu : (rest settings a).run.unasked? with
    | none =>
      have grows : ∀ e t r t', Inventory.Watched fresh e t r t' → t.1.length < t'.1.length := by
        intro e t r t' hm
        rw [hm.1, List.length_append]
        exact Nat.lt_succ_self _
      have asked := Program.ends_of_asked (s := (s.state.1, s.state.2.1)) (fun t => t.1.length) grows hu
      refine asked.mono fun outcome t longer => ?_
      cases outcome with
      | ok x => exact .inr longer
      | error f => exact .inr longer
    | some outcome =>
      refine Program.ends_of_unasked hu ?_
      cases outcome with
      | ok x => exact .inl ⟨x, rfl⟩
      | error f => exact absurd hu (proceeds settings a f)
  obtain ⟨outcome, log, hr, hq⟩ := w.recording_ends fresh settings s ends
  intro r
  rintro ⟨⟨none, -⟩, same⟩
  change r.1 = _ at hr
  rcases hq with ⟨x, rfl⟩ | longer
  · rw [hr] at none
    cases none
  · change _ < r.2.state.1.length at longer
    rw [same] at longer
    exact Nat.lt_irrefl _ longer

end

/-! ## Lists that agree -/

/-- A world that does not report on its answers. -/
def World.silent {σ : Type} (w : World σ) : ReportingWorld σ := { w with reports := fun _ _ => [] }

theorem World.respond_play {σ : Type} (w : World σ) (settings : Settings) (method : String)
    (args : List Json) (s : World.At σ) :
    w.respond settings method args s =
      let (outcome, trail, s') := w.silent.play (Dispatch.run .default settings method args) s.state
      (.ofOutcome outcome (s.log.recordAll trail).text, ⟨.empty, s'⟩) :=
  w.silent.respond_eq .default settings ⟨method, args⟩ s

/-- What an action leads to, behind the reports that it begins with. -/
def Dispatch.conclude (method : String) (action : Activity Ending) : Activity (Except Failure Json) := do
  let outcome := (← action).outcome method
  reportAll (closing method outcome)
  return outcome

theorem Dispatch.run_known {table : ActionTable} {method : String} {action : Action}
    (h : table.find? (Text.lowerCase method) = some action) (settings : Settings) (args : List Json) :
    run table settings method args =
      .emit (.info s!"Begin action {Text.lowerCase method}" [])
        (.emit (.info s!"Raw action arguments: {(Json.arr args).text}" [])
          (conclude (Text.lowerCase method) (action settings args))) := by
  rw [run, runAction, h]
  rfl

/-- The same result or error; only the logs may differ. -/
def Response.SameButLog (r r' : Response) : Prop := r'.result = r.result ∧ r'.error = r.error

theorem Response.SameButLog.trans {r r' r'' : Response} (h : r.SameButLog r') (h' : r'.SameButLog r'') :
    r.SameButLog r'' := ⟨h'.1.trans h.1, h'.2.trans h.2⟩

/-- Two responses to one outcome differ in their logs alone. -/
theorem Response.ofOutcome_any_log (outcome : Except Failure Json) (log log' : String) :
    (ofOutcome outcome log).SameButLog (ofOutcome outcome log') := by
  cases outcome with
  | ok result => exact ⟨rfl, rfl⟩
  | error f => exact ⟨rfl, rfl⟩

/-- A call that makes the same of two lists is answered alike, but for the log. -/
theorem World.respond_congr {σ : Type} (w : World σ) {settings : Settings} {method : String}
    {args args' : List Json} {action : Action}
    (h : ActionTable.default.find? (Text.lowerCase method) = some action)
    (same : action settings args' = action settings args) (s : World.At σ) :
    let r := w.respond settings method args s
    let r' := w.respond settings method args' s
    r.1.SameButLog r'.1 ∧ r'.2.state = r.2.state := by
  have played : ∀ args, ∃ log,
      let p := w.silent.play (Dispatch.conclude (Text.lowerCase method) (action settings args))
        (w.clock (w.clock s.state).2).2
      w.respond settings method args s = (.ofOutcome p.1 log, ⟨.empty, p.2.2⟩) := by
    intro args
    rw [respond_play, Dispatch.run_known h]
    exact ⟨_, rfl⟩
  obtain ⟨log, hr⟩ := played args
  obtain ⟨log', hr'⟩ := played args'
  rw [same] at hr'
  rw [hr, hr']
  exact ⟨Response.ofOutcome_any_log _ log log', rfl⟩

/-- Whatever comes of a call depends on the positions that its method reads, and on nothing else in the
list: a list is refused with nothing done exactly when one of them is not what it must be, and lists that
agree there have the same result or error after the same questions. Of lists that are too short to make a
machine only the length is told, so there it has to be the same for the same message. -/
theorem World.respond_reads_positions {σ : Type} (w : World σ) (fresh : Nat → String)
    (settings : Settings) {method : String} (known : Text.lowerCase method ∈ ActionTable.default.keys)
    (args : List Json) (s : World.At (Call.Course × Inventory × σ)) :
    let respond := fun args => (w.withInventory fresh).recording.respond settings method args s
    let r := respond args
    (¬ Arguments.Accepted (Text.lowerCase method) args ↔ r.1.Refused ∧ r.2.state.1 = s.state.1) ∧
      (¬ Arguments.Accepted (Text.lowerCase method) args → r.2.state.2.1 = s.state.2.1) ∧
      ∀ args', (∀ i ∈ Arguments.positions (Text.lowerCase method), args[i]? = args'[i]?) →
        let r' := respond args'
        r'.1.result = r.1.result ∧ r'.2.state.1 = r.2.state.1 ∧ r'.2.state.2.1 = r.2.state.2.1 ∧
          ((Text.lowerCase method = "create_vm" → args.length < 6 → args'.length = args.length) →
            r'.1.error = r.1.error) := by
  intro respond r
  have refused : ∀ args, ¬ Arguments.Accepted (Text.lowerCase method) args →
      (respond args).1.Refused ∧ (respond args).2.state.1 = s.state.1 ∧
        (respond args).2.state.2.1 = s.state.2.1 := by
    intro args h
    exact w.respond_refused fresh settings known h s
  refine ⟨⟨fun h => ⟨(refused args h).1, (refused args h).2.1⟩, fun h accepted => ?_⟩,
    fun h => (refused args h).2.2, fun args' agree => ?_⟩
  · exact w.respond_accepted fresh settings known accepted s h
  intro r'
  by_cases gap : Text.lowerCase method = "create_vm" → args.length < 6 → args'.length = args.length
  · obtain ⟨action, ha⟩ := SortedMap.mem_keys.1 known
    obtain ⟨call, hc, rfl⟩ := Handler.of_find? ha
    obtain ⟨α, parse, rest, takes, decodes, -⟩ := hc.decodes
    have same : Action.ofCall call settings args' = Action.ofCall call settings args := by
      unfold Action.ofCall
      rw [takes, takes, decodes.same args args' agree gap]
    obtain ⟨⟨result, error⟩, state⟩ := (w.withInventory fresh).recording.respond_congr ha same s
    exact ⟨result, congrArg (·.1) state, congrArg (·.2.1) state, fun _ => error⟩
  · -- Both lists end before the last position that is read.
    have short : Text.lowerCase method = "create_vm" ∧ args.length < 6 := by
      simp only [Classical.not_imp] at gap
      exact ⟨gap.1, gap.2.1⟩
    have last : 5 ∈ Arguments.positions (Text.lowerCase method) := by
      rw [short.1]
      decide
    have here := Arguments.not_accepted_of_short last (Nat.le_of_lt_succ short.2)
    have there : ¬ Arguments.Accepted (Text.lowerCase method) args' :=
      fun h => here ((Arguments.accepted_congr agree).2 h)
    obtain ⟨⟨none, -⟩, course, inventory⟩ := refused args here
    obtain ⟨⟨none', -⟩, course', inventory'⟩ := refused args' there
    exact ⟨none'.trans none.symm, course'.trans course.symm, inventory'.trans inventory.symm,
      fun h => absurd h gap⟩

/-- Neither the disks of a new machine nor what follows its environment matter; a flavor that is no text
is refused before anything is asked. -/
theorem World.respond_reads_positions_machine :
    let s : World.At (Call.Course × Inventory × Unit) := ⟨.empty, [], .empty false, ()⟩
    let respond := fun args => (World.calm.withInventory Nat.repr).recording.respond
      (.bare "http://127.0.0.1" "project" "nats") "Create_VM" args s
    let list : Json → Json → List Json → List Json := fun flavor disks more =>
      [.str "agent-1", .str "stemcell-1", .obj [("disk_flavor", flavor), ("vm_flavor", .str "small")],
        .obj [], disks, .obj []] ++ more
    let r := respond (list (.str "core-100") (.arr []) [])
    let r' := respond (list (.str "core-100") (.str "disk-1") [.null, .bool true])
    r'.1.result = r.1.result ∧ r'.1.error = r.1.error ∧ r'.2.state.1 = r.2.state.1 ∧
      (respond (list (.bool true) (.arr []) [])).1.Refused ∧
      (respond (list (.bool true) (.arr []) [])).2.state.1 = [] := by
  intro s respond list
  have known : Text.lowerCase "Create_VM" ∈ ActionTable.default.keys := by decide +kernel
  have lowered : Text.lowerCase "Create_VM" = "create_vm" := by decide +kernel
  have reads (flavor disks : Json) (more : List Json) := World.calm.respond_reads_positions Nat.repr
    (.bare "http://127.0.0.1" "project" "nats") known (list flavor disks more) s
  rw [lowered] at reads
  obtain ⟨-, -, agree⟩ := reads (.str "core-100") (.arr []) []
  obtain ⟨result, course, -, error⟩ := agree (list (.str "core-100") (.str "disk-1") [.null, .bool true]) (by
    intro i hi
    simp only [Arguments.positions, Arguments.reads, List.map_cons, List.map_nil, List.mem_cons,
      List.not_mem_nil, or_false] at hi
    rcases hi with rfl | rfl | rfl | rfl | rfl <;> rfl)
  have unaccepted : ¬ Arguments.Accepted "create_vm" (list (.bool true) (.arr []) []) := by
    intro h
    obtain ⟨_, hj, _, rfl, -, ⟨_, hs⟩, -⟩ := h (2, Arguments.IsVmProperties) (by simp [Arguments.reads])
    cases hj
    cases hs
  obtain ⟨refused, nothing⟩ := (reads (.bool true) (.arr []) []).1.1 unaccepted
  refine ⟨result, error fun _ short => ?_, course, refused, nothing⟩
  exact absurd short (by decide)

end CloudProvider
