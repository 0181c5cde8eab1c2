import Mathlib.Data.List.Basic
import CloudProvider.Proofs.Record
import CloudProvider.Proofs.RetryFlag

/-! # The order in which both copies are brought up to date

An image is made first (`Rendered`), then the control plane is asked for three things in turn
(`Exchanged`). Each of the two may stop at any step. What was asked, and what came of it, is written down
in full, and all else is read off it: the two copies are one document, and no machine is started before
its copies are in place.
-/

namespace CloudProvider

/-- An operation of the control plane among all that was asked. -/
def Answered.asked (a : Answered) : Asked Effect.Reply := ⟨.remote a.op, a.answer⟩

/-- What comes of a run of the tool. -/
def Agent.toolResult : Except Failure ToolOutcome → Except Failure Unit
  | .error f => .error (.mediaRender f.message "")
  | .ok ⟨true, _⟩ => .ok ()
  | .ok ⟨false, output⟩ => .error (.mediaRender s!"{imageTool} exited unsuccessfully" output)

namespace Asked

/-- The operation of the control plane that was asked for, if it was one. -/
def answered? : Asked Effect.Reply → Option Answered
  | ⟨.remote op, answer⟩ => some ⟨op, answer⟩
  | _ => none

/-- A temporary file or directory is removed. -/
def isRemoval : Asked Effect.Reply → Bool
  | ⟨.removeDirectory _, _⟩ | ⟨.removeFile _, _⟩ => true
  | _ => false

/-- How a step of bringing the copies up to date has failed. That there is no image to take away is no
failure, nor is it one that a temporary file stays where it is. -/
def failure? : Asked Effect.Reply → Option Failure
  | ⟨.remote (.detachIso _), .error fault⟩ => if fault.isTaskFailure then none else some (.cloud fault)
  | ⟨.remote _, .error fault⟩ => some (.cloud fault)
  | ⟨.runTool _ _, r⟩ =>
    match Agent.toolResult r with
    | .ok () => none
    | .error f => some f
  | ⟨.writeFile _ _, .error fault⟩ | ⟨.createDirectory _, .error fault⟩ | ⟨.createFile _ _, .error fault⟩ =>
    some (.io fault)
  | _ => none

end Asked

/-- What was asked of the control plane. -/
def operations (course : Call.Course) : List Answered := course.filterMap Asked.answered?

/-! ## Scratch files -/

namespace Call
variable {Q : Except Failure String → Course → Prop}

theorem records_createDirectory (stem : String) : Records (Scratch.createDirectory stem) Q ↔
    ∀ r : Except FileFault String, Q (r.mapError .io) [⟨.createDirectory stem, r⟩] := by
  rw [Scratch.createDirectory, records_bind, records_lift, Program.records_ask]
  rfl

theorem records_createFile (stem suffix : String) : Records (Scratch.createFile stem suffix) Q ↔
    ∀ r : Except FileFault String, Q (r.mapError .io) [⟨.createFile stem suffix, r⟩] := by
  rw [Scratch.createFile, records_bind, records_lift, Program.records_ask]
  rfl

theorem records_writeFile (path : String) (content : Text.Bytes) {Q : Except Failure Unit → Course → Prop} :
    Records (writeFile path content) Q ↔
      ∀ r : Except FileFault Unit, Q (r.mapError .io) [⟨.writeFile path content, r⟩] := by
  rw [writeFile, records_bind, records_lift, Activity.writeFile, Program.records_ask]
  rfl

variable {Q : Unit → Course → Prop}

theorem records_reportRemoval (what path : String) (r : Except FileFault Unit) :
    (Scratch.reportRemoval what path r).Records Q ↔ Q () [] := by
  cases r with
  | ok u => rfl
  | error fault => rfl

/-- Nothing hangs on whether a removal succeeds. -/
theorem records_dropDirectory (path : String) :
    (Scratch.dropDirectory path).Records Q ↔ ∀ r, Q () [⟨.removeDirectory path, r⟩] := by
  rw [Scratch.dropDirectory, Program.records_bind, Program.records_ask]
  simp only [records_reportRemoval, List.append_nil]

theorem records_dropFile (path : String) :
    (Scratch.dropFile path).Records Q ↔ ∀ r, Q () [⟨.removeFile path, r⟩] := by
  rw [Scratch.dropFile, Program.records_bind, Program.records_ask]
  simp only [records_reportRemoval, List.append_nil]

end Call

namespace Agent
open Call (Course Records)

/-! ## The image -/

theorem records_makeImage (image file : String) {Q : Except Failure Unit → Course → Prop} :
    Records (makeImage image file) Q ↔
      ∀ r, Q (toolResult r) [⟨.runTool imageTool ["-o", image, file], r⟩] := by
  rw [makeImage, Call.records_bind, Call.records_lift, Activity.runTool, Program.records_ask]
  refine forall_congr' fun r => ?_
  rcases r with f | ⟨success, output⟩
  · rfl
  · cases success <;> rfl

/-- The file that the tool is given. -/
def envFile (directory : String) : String := directory ++ "/" ++ fileName

/-- What is asked when nothing fails: the tool is run on a file with the document. -/
def preparation (directory image document output : String) (removed : Except FileFault Unit) : Course :=
  [⟨.createDirectory "agent-iso-dir", .ok directory⟩,
    ⟨.writeFile (envFile directory) (Text.Utf8.encode document), .ok ()⟩,
    ⟨.createFile "agent-env-iso" ".iso", .ok image⟩,
    ⟨.runTool imageTool ["-o", image, envFile directory], .ok ⟨true, output⟩⟩,
    ⟨.removeDirectory directory, removed⟩]

/-- The making of an image, and what comes of it. -/
inductive Rendered (document : String) : Except Failure String → Course → Prop
  | homeless (fault : FileFault) : Rendered document (.error (.io fault))
      [⟨.createDirectory "agent-iso-dir", .error fault⟩]
  | unwritten (directory : String) (fault : FileFault) (removed : Except FileFault Unit) :
    Rendered document (.error (.io fault))
      [⟨.createDirectory "agent-iso-dir", .ok directory⟩,
        ⟨.writeFile (envFile directory) (Text.Utf8.encode document), .error fault⟩,
        ⟨.removeDirectory directory, removed⟩]
  | imageless (directory : String) (fault : FileFault) (removed : Except FileFault Unit) :
    Rendered document (.error (.io fault))
      [⟨.createDirectory "agent-iso-dir", .ok directory⟩,
        ⟨.writeFile (envFile directory) (Text.Utf8.encode document), .ok ()⟩,
        ⟨.createFile "agent-env-iso" ".iso", .error fault⟩,
        ⟨.removeDirectory directory, removed⟩]
  | failed (directory image : String) (r : Except Failure ToolOutcome) (f : Failure)
      (h : toolResult r = .error f) (dropped removed : Except FileFault Unit) :
    Rendered document (.error f)
      [⟨.createDirectory "agent-iso-dir", .ok directory⟩,
        ⟨.writeFile (envFile directory) (Text.Utf8.encode document), .ok ()⟩,
        ⟨.createFile "agent-env-iso" ".iso", .ok image⟩,
        ⟨.runTool imageTool ["-o", image, envFile directory], r⟩,
        ⟨.removeFile image, dropped⟩, ⟨.removeDirectory directory, removed⟩]
  | made (directory image output : String) (removed : Except FileFault Unit) :
    Rendered document (.ok image) (preparation directory image document output removed)

theorem render_records (env : Environment) : Records (render env) (Rendered env.document) := by
  rw [render, Scratch.withDirectory, Call.records_bind, Call.records_createDirectory]
  intro r
  rcases r with fault | directory
  · exact .homeless fault
  change Records _ _
  rw [Call.records_thenAlways, Call.records_bind, Call.records_writeFile]
  intro r
  rcases r with fault | ⟨⟩
  · exact (Call.records_dropDirectory directory).2 fun removed => .unwritten directory fault removed
  change Records _ _
  rw [Scratch.makingFile, Call.records_bind, Call.records_createFile]
  intro r
  rcases r with fault | image
  · exact (Call.records_dropDirectory directory).2 fun removed => .imageless directory fault removed
  change Records _ _
  rw [Call.records_thenOnFailure, Call.records_bind, records_makeImage]
  intro r
  cases hr : toolResult r with
  | error f =>
    exact (Call.records_dropFile image).2 fun dropped => (Call.records_dropDirectory directory).2
      fun removed => .failed directory image r f hr dropped removed
  | ok u =>
    have success : ∃ output, r = .ok ⟨true, output⟩ := by
      rcases r with f | ⟨success, output⟩
      · cases hr
      · cases success with
        | true => exact ⟨output, rfl⟩
        | false => cases hr
    obtain ⟨output, rfl⟩ := success
    exact (Call.records_dropDirectory directory).2 fun removed => .made directory image output removed

/-! ## The control plane -/

/-- The metadata that hold a document. -/
def mirror (document : String) : VmMetadata := ⟨.singleton metadataKey document⟩

/-- What the control plane is asked for, in this order. -/
def requests (vm document image : String) : List Operation :=
  [.setMetadata vm (mirror document), .detachIso vm, .attachIso vm image]

/-- The exchange with the control plane, and what comes of it. -/
inductive Exchanged (vm document image : String) : Except Failure Unit → List Answered → Prop
  | unstored (fault : CloudFault) : Exchanged vm document image (.error (.cloud fault))
      [⟨.setMetadata vm (mirror document), .error fault⟩]
  | undetached (stored : Task) (detached : Except CloudFault Task) (f : Failure)
      (h : (Answered.mk (.detachIso vm) detached).asked.failure? = some f) :
    Exchanged vm document image (.error f)
      [⟨.setMetadata vm (mirror document), .ok stored⟩, ⟨.detachIso vm, detached⟩]
  | unattached (stored : Task) (detached : Except CloudFault Task)
      (h : (Answered.mk (.detachIso vm) detached).asked.failure? = none) (fault : CloudFault) :
    Exchanged vm document image (.error (.cloud fault))
      [⟨.setMetadata vm (mirror document), .ok stored⟩, ⟨.detachIso vm, detached⟩,
        ⟨.attachIso vm image, .error fault⟩]
  | done (stored : Task) (detached : Except CloudFault Task)
      (h : (Answered.mk (.detachIso vm) detached).asked.failure? = none) (attached : Task) :
    Exchanged vm document image (.ok ())
      [⟨.setMetadata vm (mirror document), .ok stored⟩, ⟨.detachIso vm, detached⟩,
        ⟨.attachIso vm image, .ok attached⟩]

theorem records_detachImage (vm : String) {Q : Except Failure Unit → Course → Prop} :
    Records (detachImage vm) Q ↔ ∀ r : Except CloudFault Task,
      Q (match (Answered.mk (.detachIso vm) r).asked.failure? with
        | none => .ok ()
        | some f => .error f) [⟨.remote (.detachIso vm), r⟩] := by
  rw [detachImage, Call.records_bind, Call.records_attempt]
  refine forall_congr' fun r => ?_
  rcases r with fault | task
  · cases h : fault.isTaskFailure <;> simp [Answered.asked, Asked.failure?, h]
  · rfl

/-- Both copies are brought up to date: the image first, then the rest. -/
inductive Synchronized (vm : String) (env : Environment) : Except Failure Unit → Course → Prop
  | unrendered (f : Failure) (course : Course) (h : Rendered env.document (.error f) course) :
    Synchronized vm env (.error f) course
  | exchanged (directory image output : String) (removed : Except FileFault Unit)
      (r : Except Failure Unit) (ops : List Answered) (h : Exchanged vm env.document image r ops)
      (dropped : Except FileFault Unit) : Synchronized vm env r
      (preparation directory image env.document output removed ++
        (ops.map Answered.asked ++ [⟨.removeFile image, dropped⟩]))

/-- An operation whose result nothing hangs on. -/
theorem records_carriedOut (op : Operation) {Q : Except Failure Unit → Course → Prop} :
    Records (do let _ ← Call.remote op) Q ↔
      ∀ r : op.Answer, Q ((r.mapError .cloud).map fun _ => ()) [⟨.remote op, r⟩] := by
  rw [Call.records_bind, Call.records_remote]
  refine forall_congr' fun r => ?_
  cases r with
  | error fault => rfl
  | ok x => rfl

theorem exchange_records (vm : String) (env : Environment) (image : String) :
    Records (exchange vm env image) fun r course =>
      ∃ ops, course = ops.map Answered.asked ∧ Exchanged vm env.document image r ops := by
  rw [exchange, Call.records_bind, store, records_carriedOut]
  rintro (fault | stored)
  · exact ⟨_, rfl, .unstored fault⟩
  change Records _ _
  rw [Call.records_bind, records_detachImage]
  intro detached
  cases h : (Answered.mk (.detachIso vm) detached).asked.failure? with
  | some f =>
    exact ⟨[_, ⟨.detachIso vm, detached⟩], rfl, .undetached stored detached f h⟩
  | none =>
    change Records _ _
    rw [records_carriedOut]
    rintro (fault | attached)
    · exact ⟨[_, _, _], rfl, .unattached stored detached h fault⟩
    · exact ⟨[_, _, _], rfl, .done stored detached h attached⟩

theorem sync_records (vm : String) (env : Environment) :
    Records (sync vm env) (Synchronized vm env) := by
  simp only [sync, Call.records_bind, Call.records_report, List.nil_append]
  refine (render_records env).mono fun r course rendered => ?_
  rcases r with f | image
  · exact .unrendered f course rendered
  rcases rendered with _ | _ | _ | _ | ⟨directory, _, output, removed⟩
  have exchanged : Records (exchange vm env image) fun r course =>
      (Scratch.dropFile image).Records fun _ more => Synchronized vm env r
        (preparation directory image env.document output removed ++ (course ++ more)) := by
    refine (exchange_records vm env image).mono ?_
    rintro r _ ⟨ops, rfl, h⟩
    exact (Call.records_dropFile image).2 (.exchanged directory image output removed r ops h)
  simpa only [Call.records_thenAlways, exchange, Call.records_bind, Call.records_report, List.nil_append]
    using exchanged

/-! ## What is so of it -/

/-- Nothing has failed. -/
def Smooth (course : Course) : Prop := ∀ asked ∈ course, asked.failure? = none

theorem smooth_nil : Smooth [] := List.forall_mem_nil _

/-- Only what was made on the way is removed. -/
def Cleanup (course : Course) : Prop := ∀ asked ∈ course, asked.isRemoval

/-- The first failure is what comes of it all, and nothing is asked after it but removals. -/
inductive Halts : Except Failure Unit → Course → Prop
  | done (course : Course) (smooth : Smooth course) : Halts (.ok ()) course
  | failed (before : Course) (asked : Asked Effect.Reply) (after : Course) {f : Failure}
      (smooth : Smooth before) (h : asked.failure? = some f) (cleanup : Cleanup after) :
    Halts (.error f) (before ++ asked :: after)

section
variable {vm document image directory output : String} {env : Environment} {r : Except Failure Unit}
variable {removed dropped : Except FileFault Unit} {course before : Course} {ops : List Answered}

theorem Halts.after (smooth : Smooth before) (h : Halts r course) : Halts r (before ++ course) := by
  cases h with
  | done _ smooth' => exact .done _ (List.forall_mem_append.2 ⟨smooth, smooth'⟩)
  | failed before' asked after smooth' h cleanup =>
    rw [← List.append_assoc]
    exact .failed _ asked after (List.forall_mem_append.2 ⟨smooth, smooth'⟩) h cleanup

theorem preparation_smooth : Smooth (preparation directory image document output removed) := by
  simp only [Smooth, preparation, List.forall_mem_cons]
  exact ⟨rfl, rfl, rfl, rfl, rfl, smooth_nil⟩

theorem Rendered.operations {r : Except Failure String} (h : Rendered document r course) :
    operations course = [] := by
  cases h <;> rfl

theorem Rendered.halts {f : Failure} (h : Rendered document (.error f) course) : Halts (.error f) course := by
  cases h with
  | homeless fault => exact .failed [] _ [] smooth_nil rfl (List.forall_mem_nil _)
  | unwritten directory fault removed =>
    exact .failed [_] _ [_] (by simp [Smooth, Asked.failure?]) rfl (by simp [Cleanup, Asked.isRemoval])
  | imageless directory fault removed =>
    exact .failed [_, _] _ [_] (by simp [Smooth, Asked.failure?]) rfl (by simp [Cleanup, Asked.isRemoval])
  | failed directory image r f h dropped removed =>
    refine .failed [_, _, _] _ [_, _] (by simp [Smooth, Asked.failure?]) ?_
      (by simp [Cleanup, Asked.isRemoval])
    rw [Asked.failure?, h]

theorem Exchanged.halts (h : Exchanged vm document image r ops) :
    Halts r (ops.map Answered.asked ++ [⟨.removeFile image, dropped⟩]) := by
  have cleanup : Cleanup [⟨.removeFile image, dropped⟩] := by simp [Cleanup, Asked.isRemoval]
  cases h with
  | unstored fault => exact .failed [] _ _ smooth_nil rfl cleanup
  | undetached stored detached f h =>
    exact .failed [_] _ _ (List.forall_mem_singleton.2 rfl) h cleanup
  | unattached stored detached h fault =>
    exact .failed [_, _] _ _ (List.forall_mem_cons.2 ⟨rfl, List.forall_mem_singleton.2 h⟩) rfl cleanup
  | done stored detached h attached =>
    refine .done _ (List.forall_mem_cons.2 ⟨rfl, List.forall_mem_cons.2 ⟨h, ?_⟩⟩)
    exact List.forall_mem_cons.2 ⟨rfl, List.forall_mem_singleton.2 rfl⟩

end

/-- The tool is run before anything is asked of the control plane, on the document that is stored, and
makes the image that is attached. -/
structure InOrder (vm : String) (env : Environment) (result : Except Failure Unit) (course : Course) :
    Prop where
  copies : operations course = [] ∨ ∃ directory image output removed cleanup, ∃ ops : List Answered,
    course = preparation directory image env.document output removed ++ (ops.map Answered.asked ++ cleanup) ∧
      ops.map Answered.op <+: requests vm env.document image ∧ Cleanup cleanup
  stops : Halts result course
  complete : result = .ok () → ∃ directory image output removed stored detached attached dropped,
    course = preparation directory image env.document output removed ++
      [⟨.remote (.setMetadata vm (mirror env.document)), .ok stored⟩, ⟨.remote (.detachIso vm), detached⟩,
        ⟨.remote (.attachIso vm image), .ok attached⟩, ⟨.removeFile image, dropped⟩]

/-- Nothing else is asked of the control plane. -/
theorem InOrder.requested {vm : String} {env : Environment} {r : Except Failure Unit} {course : Course}
    (h : InOrder vm env r course) {op : Operation} {answer : op.Answer}
    (hm : ⟨.remote op, answer⟩ ∈ course) : ∃ image, op ∈ requests vm env.document image := by
  rcases h.copies with none | ⟨directory, image, output, removed, cleanup, ops, rfl, requested, removals⟩
  · have asked : ⟨op, answer⟩ ∈ operations course := List.mem_filterMap.2 ⟨_, hm, rfl⟩
    rw [none] at asked
    cases asked
  refine ⟨image, requested.subset ?_⟩
  rcases List.mem_append.1 hm with hm | hm
  · simp [preparation] at hm
  rcases List.mem_append.1 hm with hm | hm
  · obtain ⟨a, ha, same⟩ := List.mem_map.1 hm
    obtain ⟨⟩ := same
    exact List.mem_map_of_mem ha
  · exact absurd (removals _ hm) Bool.false_ne_true

theorem Synchronized.inOrder {vm : String} {env : Environment} {r : Except Failure Unit} {course : Course}
    (h : Synchronized vm env r course) : InOrder vm env r course := by
  cases h with
  | unrendered f course h => exact ⟨.inl h.operations, h.halts, nofun⟩
  | exchanged directory image output removed r ops h dropped =>
    refine ⟨.inr ⟨directory, image, output, removed, [⟨.removeFile image, dropped⟩], ops, rfl, ?_, ?_⟩,
      h.halts.after preparation_smooth, ?_⟩
    · cases h <;> simp [requests]
    · simp [Cleanup, Asked.isRemoval]
    · rintro rfl
      cases h with
      | done stored detached h attached =>
        exact ⟨directory, image, output, removed, stored, detached, attached, dropped, rfl⟩

end Agent

/-! ## New machines -/

namespace Vms
open Call (Course Records)

/-- A machine is started only right after its copies have been brought up to date. -/
def StartedInStep (course : Course) : Prop :=
  ∀ before vm answer after, course = before ++ ⟨.remote (.startVm vm), answer⟩ :: after →
    ∃ earlier env synced, before = earlier ++ synced ∧ Agent.InOrder vm env (.ok ()) synced

/-- No machine is started. -/
def StartsNone (course : Course) : Prop := ∀ vm answer, ⟨.remote (.startVm vm), answer⟩ ∉ course

theorem StartsNone.startedInStep {course : Course} (h : StartsNone course) : StartedInStep course := by
  rintro before vm answer after rfl
  exact absurd (List.mem_append_right _ (List.mem_cons_self ..)) (h vm answer)

theorem StartsNone.synced {earlier synced : Course} {vm : String} {env : Agent.Environment}
    {r : Except Failure Unit} (h : StartsNone earlier) (hs : Agent.InOrder vm env r synced) :
    StartsNone (earlier ++ synced) := by
  intro id answer hm
  rcases List.mem_append.1 hm with hm | hm
  · exact h id answer hm
  · obtain ⟨image, hr⟩ := hs.requested hm
    simp [Agent.requests] at hr

theorem StartsNone.started {earlier synced : Course} {vm : String} {env : Agent.Environment}
    (h : StartsNone earlier) (hs : Agent.InOrder vm env (.ok ()) synced) (answer : Except CloudFault Task) :
    StartedInStep (earlier ++ (synced ++ [⟨.remote (.startVm vm), answer⟩])) := by
  intro before id answer' after split
  rw [← List.append_assoc] at split
  obtain ⟨rfl, same, -⟩ := (List.append_cons_inj_of_notMem (h.synced hs id answer') List.not_mem_nil).1 split
  obtain ⟨⟩ := same
  exact ⟨earlier, env, synced, rfl, hs⟩

theorem create_records (settings : Settings) (args : List Json) :
    Records (create settings args) fun _ course => StartedInStep course := by
  rw [create, Call.records_bind, Call.argument, Call.records_ofExcept]
  cases CreateArguments.parse args with
  | error fault => exact StartsNone.startedInStep fun _ _ => List.not_mem_nil
  | ok a => ?_
  change Records _ _
  simp only [Call.records_bind, Call.records_info, List.nil_append]
  rw [Call.records_remote]
  rintro (fault | task)
  · exact StartsNone.startedInStep (by simp [StartsNone])
  change Records _ _
  rw [Call.records_remote]
  rintro (fault | vm)
  · exact StartsNone.startedInStep (by simp [StartsNone])
  change Records _ _
  rw [Call.records_ofExcept]
  cases ephemeralDiskId vm with
  | error f => exact StartsNone.startedInStep (by simp [StartsNone])
  | ok disk =>
    change Records _ _
    refine Call.Records.mono (Agent.sync_records _ _) fun r synced hs => ?_
    have earlier : StartsNone [⟨.remote (.createVm settings.controlPlane.projectId a.spec), .ok task⟩,
      ⟨.remote (.getVm task.entity.id), .ok vm⟩] := by simp [StartsNone]
    rcases r with f | ⟨⟩
    · exact (earlier.synced hs.inOrder).startedInStep
    change Records _ _
    rw [Call.records_remote]
    rintro (fault | started)
    · exact earlier.started hs.inOrder (.error fault)
    · exact earlier.started hs.inOrder (.ok started)

end Vms

/-- However the control plane, the tool and the files behave, the copies are brought up to date in their
order and from one document, and a new machine is started only when that has succeeded. -/
theorem Agent.copies_in_order {σ : Type} (answer : (e : Effect) → σ → e.Reply × σ) (s : σ) :
    (∀ vm env, InOrder vm env ((sync vm env).run.recorded answer s).1 ((sync vm env).run.recorded answer s).2) ∧
      ∀ settings args, Vms.StartedInStep ((Vms.create settings args).run.recorded answer s).2 := by
  constructor
  · intro vm env
    exact Program.Records.recorded (p := (sync vm env).run) (Q := InOrder vm env)
      (Call.Records.mono (sync_records vm env) fun r course h => h.inOrder) answer s
  · intro settings args
    exact Program.Records.recorded (p := (Vms.create settings args).run) (Q := fun _ => Vms.StartedInStep)
      (Vms.create_records settings args) answer s

end CloudProvider
