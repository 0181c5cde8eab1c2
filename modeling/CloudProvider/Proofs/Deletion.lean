import Mathlib.Data.List.Induction
import CloudProvider.Proofs.Agreement
import CloudProvider.Proofs.Process
import CloudProvider.Proofs.Replay

/-! # The deletion of a machine

A machine is deleted by operations that are asked for in turn until one fails (`InTurn`): its disks are listed,
those of the listing that it has are detached, it is stopped, and it is deleted. In memory no disk has it when
it is stopped, and at the end it is gone and nothing else has changed (`respond_deletes`). What is detached is
what the call for a machine's disks reports of the same listing, but a disk that the listing repeats is detached
again, and reported once (`delete_detaches_listed`).
-/

namespace CloudProvider

/-! ## Operations in turn -/

theorem Answered.of_succeeded {a : Answered} (h : a.fault? = none) : ∃ x : a.op.Reply, a = ⟨a.op, .ok x⟩ := by
  obtain ⟨op, fault | x⟩ := a
  · cases h
  · exact ⟨x, rfl⟩

/-- Operations are asked for one after the other until one fails; what comes of them, and their answers. -/
inductive InTurn : List Operation → Except CloudFault Unit → List Answered → Prop
  | done : InTurn [] (.ok ()) []
  | failed (op : Operation) (ops : List Operation) (fault : CloudFault) :
    InTurn (op :: ops) (.error fault) [⟨op, .error fault⟩]
  | step {op : Operation} {ops : List Operation} {r : Except CloudFault Unit} {answered : List Answered}
    (x : op.Reply) (h : InTurn ops r answered) : InTurn (op :: ops) r (⟨op, .ok x⟩ :: answered)

namespace InTurn
variable {ops ops' : List Operation} {r : Except CloudFault Unit} {answered answered' : List Answered}
variable {fault : CloudFault}

theorem append (h : InTurn ops (.ok ()) answered) (h' : InTurn ops' r answered') :
    InTurn (ops ++ ops') r (answered ++ answered') := by
  generalize hr : Except.ok () = result at h
  induction h with
  | done => exact h'
  | failed op ops fault => cases hr
  | step x h ih => exact .step x (ih hr)

theorem stopped (h : InTurn ops (.error fault) answered) (ops' : List Operation) :
    InTurn (ops ++ ops') (.error fault) answered := by
  generalize hr : Except.error fault = result at h ⊢
  induction h with
  | done => cases hr
  | failed op ops fault => exact .failed op (ops ++ ops') fault
  | step x h ih => exact .step x (ih hr)

/-- All have succeeded if nothing has failed. -/
theorem of_ok (h : InTurn ops (.ok ()) answered) : answered.map (·.op) = ops ∧ ∀ a ∈ answered, a.fault? = none := by
  generalize hr : Except.ok () = result at h
  induction h with
  | done => exact ⟨rfl, List.forall_mem_nil _⟩
  | failed op ops fault => cases hr
  | step x h ih =>
    obtain ⟨asked, smooth⟩ := ih hr
    exact ⟨congrArg _ asked, List.forall_mem_cons.2 ⟨rfl, smooth⟩⟩

theorem of_smooth (h : InTurn ops r answered) (smooth : ∀ a ∈ answered, a.fault? = none) : r = .ok () := by
  induction h with
  | done => rfl
  | failed op ops fault => cases smooth _ (List.mem_singleton.2 rfl)
  | step x h ih => exact ih fun a ha => smooth a (List.mem_cons_of_mem _ ha)

/-- The failure is that of the last operation that was asked for. -/
theorem of_error (h : InTurn ops (.error fault) answered) :
    ∃ before a, answered = before ++ [a] ∧ a.fault? = some fault := by
  generalize hr : Except.error fault = result at h
  induction h with
  | done => cases hr
  | failed op ops fault =>
    cases hr
    exact ⟨[], ⟨op, .error fault⟩, rfl, rfl⟩
  | @step op ops r answered x h ih =>
    obtain ⟨before, a, rfl, failed⟩ := ih hr
    exact ⟨⟨op, .ok x⟩ :: before, a, rfl, failed⟩

/-- What stands before an operation that was asked for has succeeded, and what comes after one that failed is
nothing. -/
theorem split {before after : List Answered} {a : Answered} (h : InTurn ops r (before ++ a :: after)) :
    (∀ b ∈ before, b.fault? = none) ∧ (∃ rest, ops = before.map (·.op) ++ a.op :: rest) ∧
      ∀ fault, a.fault? = some fault → r = .error fault ∧ after = [] := by
  induction before generalizing ops with
  | nil =>
    cases h with
    | failed op ops fault =>
      refine ⟨List.forall_mem_nil _, ⟨ops, rfl⟩, fun fault' failed => ⟨?_, rfl⟩⟩
      cases failed
      rfl
    | step x h => exact ⟨List.forall_mem_nil _, ⟨_, rfl⟩, fun fault failed => nomatch failed⟩
  | cons b before ih =>
    generalize whole : b :: before ++ a :: after = answered at h
    cases h with
    | done => cases whole
    | failed op ops fault => simp at whole
    | step x h =>
      obtain ⟨rfl, rfl⟩ := List.cons.inj whole
      obtain ⟨smooth, ⟨rest, asked⟩, stops⟩ := ih h
      exact ⟨List.forall_mem_cons.2 ⟨rfl, smooth⟩, ⟨rest, congrArg _ asked⟩, stops⟩

/-- An operation is not asked for before all that come before it have succeeded. -/
theorem reached {first rest : List Operation} {op : Operation} {before after : List Answered} {a : Answered}
    (h : InTurn (first ++ op :: rest) r (before ++ a :: after)) (hf : a.op ∉ first) (hr : a.op ∉ rest) :
    a.op = op ∧ ∀ op ∈ first, ∃ x : op.Reply, ⟨op, .ok x⟩ ∈ before := by
  obtain ⟨smooth, ⟨more, asked⟩, -⟩ := h.split
  obtain ⟨rfl, same, -⟩ := (List.append_cons_inj_of_notMem hf hr).1 asked
  refine ⟨same.symm, fun op' ho => ?_⟩
  obtain ⟨b, hb, rfl⟩ := List.mem_map.1 ho
  obtain ⟨x, succeeded⟩ := Answered.of_succeeded (smooth b hb)
  exact ⟨x, succeeded ▸ hb⟩

/-- The last operation has not succeeded if something has failed. -/
theorem last_fails {last : Operation} (h : InTurn (ops ++ [last]) (.error fault) answered) (once : last ∉ ops) :
    ∀ a ∈ answered, a.op = last → a.fault? ≠ none := by
  induction ops generalizing answered with
  | nil =>
    cases h with
    | failed => exact List.forall_mem_singleton.2 fun _ smooth => nomatch smooth
    | step x h => cases h
  | cons op ops ih =>
    rw [List.mem_cons, not_or] at once
    obtain ⟨other, once⟩ := once
    cases h with
    | failed => exact List.forall_mem_singleton.2 fun same => absurd same.symm other
    | step x h => exact List.forall_mem_cons.2 ⟨fun same => absurd same.symm other, ih h once⟩

end InTurn

theorem operations_asked (answered : List Answered) : operations (answered.map Answered.asked) = answered := by
  induction answered with
  | nil => rfl
  | cons a answered ih => exact congrArg (a :: ·) ih

namespace Call
variable {α β : Type}

/-- The call asks for these operations in turn, and for nothing else; it ends with a value unless one fails. -/
def TakesTurns (call : Call α) (ops : List Operation) (x : α) : Prop :=
  Records call fun r course => ∃ result answered, r = (result.mapError .cloud).map (fun _ => x) ∧
    course = answered.map Answered.asked ∧ InTurn ops result answered

namespace TakesTurns
variable {call : Call α} {ops ops' : List Operation} {x : α}

theorem pure (x : α) : TakesTurns (Pure.pure x) [] x := ⟨.ok (), [], rfl, rfl, .done⟩

theorem info (h : call.TakesTurns ops x) (message : String) :
    TakesTurns (do Call.info message; call) ops x := by
  rw [TakesTurns, records_bind, records_info]
  exact h

theorem remote (h : call.TakesTurns ops x) (op : Operation) :
    TakesTurns (do let _ ← Call.remote op; call) (op :: ops) x := by
  rw [TakesTurns, records_bind, records_remote]
  rintro (fault | y)
  · exact ⟨.error fault, [⟨op, .error fault⟩], rfl, rfl, .failed op ops fault⟩
  · refine Records.mono h ?_
    rintro r course ⟨result, answered, hr, rfl, turn⟩
    exact ⟨result, ⟨op, .ok y⟩ :: answered, hr, rfl, .step y turn⟩

theorem bind {first : Call Unit} (hf : first.TakesTurns ops ()) (h : call.TakesTurns ops' x) :
    TakesTurns (do first; call) (ops ++ ops') x := by
  rw [TakesTurns, records_bind]
  refine Records.mono hf ?_
  rintro _ _ ⟨fault | u, before, rfl, rfl, turn⟩
  · exact ⟨.error fault, before, rfl, rfl, turn.stopped ops'⟩
  · refine Records.mono h ?_
    rintro r _ ⟨result, answered, hr, rfl, more⟩
    exact ⟨result, before ++ answered, hr, List.map_append.symm, turn.append more⟩

end TakesTurns
end Call

/-! ## What a deletion asks for -/

theorem Arguments.vmId_of_str (vm : String) (more : List Json) : Arguments.vmId (.str vm :: more) = .ok vm := by
  have enough : ¬ (Json.str vm :: more).length < 1 := by simp
  rw [vmId, expect, if_neg enough]
  rfl

namespace Disks

/-- The ids of the disks of a listing that a machine has, as often as they are listed. -/
def attachedIds (vm : String) (disks : List PersistentDisk) : List String := (attachedTo vm disks).map (·.id)

theorem mem_attachedIds {vm id : String} {disks : List PersistentDisk} :
    id ∈ attachedIds vm disks ↔ ∃ d ∈ disks, d.id = id ∧ vm ∈ d.vms := by
  simp only [attachedIds, attachedTo, List.mem_map, List.mem_filter, decide_eq_true_eq]
  refine exists_congr fun d => ?_
  rw [and_assoc, and_comm (a := d.id = id)]

/-- The disks are listed, and those that the machine has are reported. -/
theorem list_records (settings : Settings) (vm : String) (more : List Json) :
    Call.Records (list settings (.str vm :: more)) fun r course =>
      ∃ answer : Except CloudFault (List PersistentDisk),
        r = (answer.mapError .cloud).map (fun disks => .arr ((attachedIds vm disks).eraseDups.map .str)) ∧
          course = [⟨.remote (.listDisks settings.controlPlane.projectId), answer⟩] := by
  rw [list, Call.records_bind, Call.argument, Call.records_ofExcept, Arguments.vmId_of_str]
  change Call.Records _ _
  rw [Call.records_bind, Call.records_info, Call.records_bind, Call.records_remote]
  rintro (fault | disks)
  · exact ⟨.error fault, rfl, rfl⟩
  · exact ⟨.ok disks, rfl, rfl⟩

end Disks

namespace Vms
open Call (Records TakesTurns)

/-- What is asked for before the machine is stopped, if the listing shows these disks. -/
def detaching (project vm : String) (disks : List PersistentDisk) : List Operation :=
  .listDisks project :: (Disks.attachedIds vm disks).map (.detachDisk vm)

/-- All that is asked for. -/
def deletion (project vm : String) (disks : List PersistentDisk) : List Operation :=
  detaching project vm disks ++ [.stopVm vm, .deleteVm vm]

theorem deletion_eq (project vm : String) (disks : List PersistentDisk) :
    deletion project vm disks = detaching project vm disks ++ [.stopVm vm] ++ [.deleteVm vm] := by
  simp [deletion]

theorem detachAll_takesTurns (vm : String) (ds : List PersistentDisk) :
    (detachAll vm ds).TakesTurns ((ds.map (·.id)).map (.detachDisk vm)) () := by
  induction ds with
  | nil => exact .pure ()
  | cons d ds ih => exact (ih.remote (.detachDisk vm d.id)).info _

theorem delete_records (settings : Settings) (vm : String) (more : List Json) :
    Records (delete settings (.str vm :: more)) fun r course => ∃ disks result answered,
      r = (result.mapError .cloud).map (fun _ => .null) ∧ course = answered.map Answered.asked ∧
        InTurn (deletion settings.controlPlane.projectId vm disks) result answered ∧
        ∀ shown, ⟨.listDisks settings.controlPlane.projectId, .ok shown⟩ ∈ answered.head? → shown = disks := by
  rw [delete, Call.records_bind, Call.argument, Call.records_ofExcept, Arguments.vmId_of_str]
  change Records _ _
  rw [Call.records_bind, Call.records_info, Call.records_bind, Call.records_info, Call.records_bind,
    Call.records_remote]
  rintro (fault | disks)
  · exact ⟨[], .error fault, [⟨_, .error fault⟩], rfl, rfl, .failed _ _ fault, by simp⟩
  have deleting := ((TakesTurns.pure Json.null).remote (.deleteVm vm)).info "Deleting VM"
  have stopping := (deleting.remote (.stopVm vm)).info "Stopping VM"
  have rest := (detachAll_takesTurns vm (Disks.attachedTo vm disks)).bind stopping
  refine Call.Records.mono rest ?_
  rintro r _ ⟨result, answered, hr, rfl, turn⟩
  exact ⟨disks, result, ⟨_, .ok disks⟩ :: answered, hr, rfl, .step disks turn, by simp⟩

end Vms

/-! ## Detached and reported -/

/-- Of what repeats, the first stays. -/
theorem eraseDups_firsts (ids : List String) :
    ids.eraseDups.Pairwise fun a b => ids.idxOf a < ids.idxOf b := by
  induction ids using List.reverseRecOn with
  | nil => exact .nil
  | append_singleton ids id ih =>
    have kept : ids.eraseDups.Pairwise fun a b => (ids ++ [id]).idxOf a < (ids ++ [id]).idxOf b :=
      ih.imp_of_mem fun {a b} ha hb h => by
        rwa [List.idxOf_append_of_mem (List.mem_eraseDups.1 ha), List.idxOf_append_of_mem (List.mem_eraseDups.1 hb)]
    rw [List.eraseDups_append]
    by_cases known : id ∈ ids
    · have none : [id].removeAll ids = [] := by simp [List.removeAll, known]
      rw [none]
      exact (List.append_nil ids.eraseDups).symm ▸ kept
    · have one : [id].removeAll ids = [id] := by simp [List.removeAll, known]
      rw [one]
      refine List.pairwise_append.2 ⟨kept, List.pairwise_singleton .., fun a ha b hb => ?_⟩
      obtain rfl := List.mem_singleton.1 hb
      have there := List.mem_eraseDups.1 ha
      rw [List.idxOf_append_of_mem there, List.idxOf_append_of_notMem known]
      exact Nat.lt_of_lt_of_le (List.idxOf_lt_length_of_mem there) (Nat.le_add_right _ _)

theorem nodup_eraseDups (ids : List String) : ids.eraseDups.Nodup :=
  (eraseDups_firsts ids).imp fun {a b} (before : ids.idxOf a < ids.idxOf b) (same : a = b) =>
    Nat.ne_of_lt before (congrArg (ids.idxOf ·) same)

theorem eraseDups_eq_iff {ids : List String} : ids.eraseDups = ids ↔ ids.Nodup :=
  ⟨fun same => same ▸ nodup_eraseDups ids, Inventory.eraseDups_of_nodup⟩

/-- The disks of a listing that a machine has: each by its id, once, in the order in which they first come. -/
structure Disks.Reports (vm : String) (disks : List PersistentDisk) (ids : List String) : Prop where
  members : ∀ id, id ∈ ids ↔ ∃ d ∈ disks, d.id = id ∧ vm ∈ d.vms
  once : ids.Nodup
  order : ids.Pairwise fun a b => (attachedIds vm disks).idxOf a < (attachedIds vm disks).idxOf b

theorem Disks.reports_firsts (vm : String) (disks : List PersistentDisk) :
    Reports vm disks (attachedIds vm disks).eraseDups where
  members _ := List.mem_eraseDups.trans mem_attachedIds
  once := nodup_eraseDups _
  order := eraseDups_firsts _

/-- Every listing is the same, and nothing fails. -/
structure Grants {σ : Type} (answer : (e : Effect) → σ → e.Reply × σ) (disks : List PersistentDisk) : Prop where
  listed : ∀ project s, (answer (.remote (.listDisks project)) s).1 = .ok disks
  granted : ∀ op s, ∃ x, (answer (.remote op) s).1 = .ok x

section
variable {σ : Type} {answer : (e : Effect) → σ → e.Reply × σ} {disks : List PersistentDisk}
variable (grants : Grants answer disks) (settings : Settings) (vm : String) (more : List Json) (s : σ)
include grants

/-- All is asked for that a deletion may ask for. -/
theorem Grants.delete :
    let deleted := (Vms.delete settings (.str vm :: more)).run.recorded answer s
    deleted.1 = .ok .null ∧ (operations deleted.2).map (·.op) =
      Vms.deletion settings.controlPlane.projectId vm disks := by
  intro deleted
  obtain ⟨shown, result, answered, hr, told, turn, listed⟩ :=
    Program.Records.recorded (Vms.delete_records settings vm more) answer s
  have answers : ∀ a ∈ answered, ∃ t, a.answer = (answer (.remote a.op) t).1 := fun a ha =>
    Program.recorded_answered answer _ s a.asked (told ▸ List.mem_map_of_mem ha)
  have smooth : ∀ a ∈ answered, a.fault? = none := by
    intro a ha
    obtain ⟨t, ht⟩ := answers a ha
    obtain ⟨x, hx⟩ := grants.granted a.op t
    rw [Answered.fault?, ht, hx]
  obtain rfl := turn.of_smooth smooth
  refine ⟨hr, ?_⟩
  have course : operations deleted.2 = answered := (congrArg operations told).trans (operations_asked answered)
  rw [course, turn.of_ok.1]
  cases turn with
  | step x turn =>
    obtain ⟨t, ht⟩ := answers _ (List.mem_cons_self ..)
    have shows := listed x rfl
    rw [grants.listed] at ht
    cases ht
    rw [shows]

theorem Grants.list :
    ((Disks.list settings (.str vm :: more)).run.recorded answer s).1 =
      .ok (.arr ((Disks.attachedIds vm disks).eraseDups.map .str)) := by
  obtain ⟨listing, hr, told⟩ := Program.Records.recorded (Disks.list_records settings vm more) answer s
  obtain ⟨t, ht⟩ := Program.recorded_answered answer _ s
    ⟨.remote (.listDisks settings.controlPlane.projectId), listing⟩ (told ▸ List.mem_cons_self ..)
  have shows : listing = .ok disks := Eq.trans ht (grants.listed _ t)
  rw [hr, shows]
  rfl

end

/-- Where nothing fails, a machine is deleted after all disks have been detached that the listing shows with it,
as often as it shows them, and each of these is reported once. So what is detached is what is reported if and
only if the listing repeats none of them. -/
theorem Vms.delete_detaches_listed {σ : Type} {answer : (e : Effect) → σ → e.Reply × σ}
    {disks : List PersistentDisk} (grants : Grants answer disks) (settings : Settings) (vm : String)
    (more : List Json) (s : σ) :
    let deleted := (delete settings (.str vm :: more)).run.recorded answer s
    let listed := (Disks.list settings (.str vm :: more)).run.recorded answer s
    ∃ detached reported : List String,
      deleted.1 = .ok .null ∧
      (operations deleted.2).map (·.op) = .listDisks settings.controlPlane.projectId ::
        (detached.map (.detachDisk vm) ++ [.stopVm vm, .deleteVm vm]) ∧
      listed.1 = .ok (.arr (reported.map .str)) ∧
      detached = (disks.filter fun d => vm ∈ d.vms).map (·.id) ∧
      Disks.Reports vm disks reported ∧ (detached = reported ↔ detached.Nodup) := by
  obtain ⟨deleted, asked⟩ := grants.delete settings vm more s
  exact ⟨Disks.attachedIds vm disks, (Disks.attachedIds vm disks).eraseDups, deleted, asked,
    grants.list settings vm more s, rfl, Disks.reports_firsts vm disks, eq_comm.trans eraseDups_eq_iff⟩

/-- What an operation is answered where nothing fails and every listing is the same. -/
def Operation.granted (disks : List PersistentDisk) : (op : Operation) → op.Answer
  | .listDisks _ => .ok disks
  | .getVm vm => .ok ⟨vm, "bosh-vm", "STARTED", [], ∅⟩
  | .getDisk disk => .ok ⟨disk, "", "", 1, []⟩
  | .createVm .. | .deleteVm _ | .startVm _ | .stopVm _ | .restartVm _ | .attachDisk .. | .detachDisk ..
  | .attachIso .. | .detachIso _ | .setMetadata .. | .createDisk .. | .deleteDisk _ | .createImage ..
  | .deleteImage _ => .ok (.completed "task" "" "")

/-- A world in which nothing fails and every listing is the same. -/
def World.granting (disks : List PersistentDisk) : World Unit where
  answer
    | .remote op, s => (op.granted disks, s)
    | e, s => World.calm.answer e s
  clock := World.calm.clock

theorem World.granting_grants (disks : List PersistentDisk) : Grants (World.granting disks).answer disks := by
  refine ⟨fun project s => rfl, fun op s => ?_⟩
  cases op <;> exact ⟨_, rfl⟩

/-- A disk of some machines. -/
def PersistentDisk.plain (id : String) (vms : List String) : PersistentDisk := ⟨id, "", "core-100", 1, vms⟩

/-- What is listed once is detached once, and disks of other machines are passed over. -/
theorem Vms.delete_detaches_listed_plain :
    let disks : List PersistentDisk :=
      [.plain "disk-2" ["vm-1"], .plain "disk-3" ["vm-2"], .plain "disk-1" ["vm-2", "vm-1"]]
    let settings := Settings.bare "http://127.0.0.1" "project" "nats"
    let deleted := (delete settings [.str "vm-1"]).run.recorded (World.granting disks).answer ()
    let listed := (Disks.list settings [.str "vm-1"]).run.recorded (World.granting disks).answer ()
    (operations deleted.2).map (·.op) = [.listDisks "project", .detachDisk "vm-1" "disk-2",
      .detachDisk "vm-1" "disk-1", .stopVm "vm-1", .deleteVm "vm-1"] ∧
      listed.1 = .ok (.arr [.str "disk-2", .str "disk-1"]) := by
  intro disks settings deleted listed
  obtain ⟨detached, reported, -, asked, list, shown, -, same⟩ :=
    delete_detaches_listed (World.granting_grants disks) settings "vm-1" [] ()
  have two : detached = ["disk-2", "disk-1"] := shown
  subst two
  obtain rfl := same.2 (by decide)
  exact ⟨asked, list⟩

/-- A listing that repeats a disk is reported without the repetition, but the disk is detached twice. -/
theorem Vms.delete_detaches_repeated :
    ¬∀ (disks : List PersistentDisk) (vm : String) (ids : List String),
      let settings := Settings.bare "http://127.0.0.1" "project" "nats"
      ((Disks.list settings [.str vm]).run.recorded (World.granting disks).answer ()).1 =
          .ok (.arr (ids.map .str)) →
        (operations ((delete settings [.str vm]).run.recorded (World.granting disks).answer ()).2).map (·.op) =
          .listDisks "project" :: (ids.map (.detachDisk vm) ++ [.stopVm vm, .deleteVm vm]) := by
  intro agree
  let disks : List PersistentDisk := [.plain "disk-1" ["vm-1"], .plain "disk-1" ["vm-1"]]
  let settings := Settings.bare "http://127.0.0.1" "project" "nats"
  have grants := World.granting_grants disks
  have once := agree disks "vm-1" ["disk-1"] (grants.list settings "vm-1" [] ())
  have twice := (grants.delete settings "vm-1" [] ()).2
  have lengths := congrArg List.length (once.symm.trans twice)
  exact absurd lengths (by decide)

/-! ## Deletions in memory -/

namespace Inventory

/-- A disk that a machine has no more. -/
def leaving (vm : String) (d : PersistentDisk) : PersistentDisk := { d with vms := d.vms.filter (· ≠ vm) }

@[simp] theorem leaving_leaving (vm : String) (d : PersistentDisk) : leaving vm (leaving vm d) = leaving vm d := by
  simp [leaving]

theorem leaving_of_free {vm : String} {d : PersistentDisk} (free : vm ∉ d.vms) : leaving vm d = d := by
  have others : d.vms.filter (· ≠ vm) = d.vms := List.filter_eq_self.2 fun v hv => by
    simpa using fun same : v = vm => free (same ▸ hv)
  rw [leaving, others]

/-- A machine is gone and no disk has it any more; all else is as it was. -/
structure Without (inv : Inventory) (vm : String) (inv' : Inventory) : Prop where
  vms : inv'.vms = inv.vms.erase vm
  disks : ∀ disk, inv'.disks.find? disk = (inv.disks.find? disk).map (leaving vm)
  images : inv'.images = inv.images

section
variable {fresh : Nat → String} {inv inv' : Inventory} {answered : List Answered} {vm : String}

/-- What has been performed without a fault. -/
theorem Leads.of_smooth {a : Answered} (h : Leads fresh inv (a :: answered) inv') (smooth : a.fault? = none) :
    ∃ x inv₁, inv.Performs fresh a.op x inv₁ ∧ a = ⟨a.op, .ok x⟩ ∧ Leads fresh inv₁ answered inv' := by
  cases h with
  | @step _ inv₁ _ op r _ h rest =>
    rcases perform_cases h with ⟨f, rfl, -⟩ | ⟨x, rfl, hp⟩
    · cases smooth
    · exact ⟨x, inv₁, hp, rfl, rest⟩

/-- Disks are detached one after the other; one that has been detached may be detached again. -/
theorem Leads.detached {ids : List String} (h : Leads fresh inv answered inv')
    (asked : answered.map (·.op) = ids.map (.detachDisk vm)) (smooth : ∀ a ∈ answered, a.fault? = none) :
    inv'.vms = inv.vms ∧ inv'.images = inv.images ∧ ∀ disk, inv'.disks.find? disk =
      if disk ∈ ids then (inv.disks.find? disk).map (leaving vm) else inv.disks.find? disk := by
  induction ids generalizing inv answered with
  | nil =>
    obtain rfl := List.map_eq_nil_iff.1 asked
    cases h
    exact ⟨rfl, rfl, fun disk => (if_neg List.not_mem_nil).symm⟩
  | cons id ids ih =>
    obtain ⟨⟨op, r⟩, rest, rfl, rfl, others⟩ := List.map_eq_cons_iff.1 asked
    obtain ⟨first, smooth⟩ := List.forall_mem_cons.1 smooth
    obtain ⟨x, inv₁, ⟨record, d, -, found, hv, hd, hi⟩, -, leads⟩ := h.of_smooth first
    obtain ⟨vms, images, disks⟩ := ih leads others smooth
    change inv₁.disks = inv.disks.insert id (leaving vm d) at hd
    refine ⟨vms.trans hv, images.trans hi, fun disk => ?_⟩
    rw [disks, hd, SortedMap.find?_insert]
    by_cases same : disk = id
    · subst same
      simp [found]
    · simp [same]

end
end Inventory

namespace Vms
open Inventory (Leads Without leaving_of_free)

/-- What a deletion of a machine has done, by what was asked for and how it was answered. -/
structure Deletes (vm : String) (inv : Inventory) (outcome : Except Failure Json) (answered : List Answered)
    (inv' : Inventory) : Prop where
  /-- The machine is stopped only after every disk that had it has been detached. -/
  stops : ∀ before id answer after, answered = before ++ ⟨.stopVm id, answer⟩ :: after →
    id = vm ∧ ∀ disk d, inv.disks.find? disk = some d → vm ∈ d.vms → ∃ t, ⟨.detachDisk vm disk, .ok t⟩ ∈ before
  /-- It is deleted only after it has been stopped. -/
  deletes : ∀ before id answer after, answered = before ++ ⟨.deleteVm id, answer⟩ :: after →
    id = vm ∧ ∃ t, ⟨.stopVm vm, .ok t⟩ ∈ before
  /-- The first operation that fails is the last, and its fault is what the call fails with. -/
  halts : ∀ before a after fault, answered = before ++ a :: after → a.fault? = some fault →
    after = [] ∧ outcome = .error (.cloud fault)
  /-- The call fails with nothing else, and then the machine is still there. -/
  fails : ∀ f, outcome = .error f →
    (∃ before a fault, answered = before ++ [a] ∧ a.fault? = some fault ∧ f = .cloud fault) ∧
      ((inv.vms.find? vm).isSome → (inv'.vms.find? vm).isSome)
  completes : ∀ result, outcome = .ok result → result = .null ∧ inv.Without vm inv'

section
variable {fresh : Nat → String} {project vm : String} {inv inv' : Inventory} {result : Except CloudFault Unit}
variable {answered : List Answered}

/-- In memory the listing shows the disks that there are. -/
theorem turn_of_listing {disks : List PersistentDisk}
    (turn : InTurn (deletion project vm disks) result answered)
    (listed : ∀ shown, ⟨.listDisks project, .ok shown⟩ ∈ answered.head? → shown = disks)
    (leads : inv.Leads fresh answered inv') :
    InTurn (deletion project vm inv.disks.values) result answered := by
  change InTurn (.listDisks project :: _) result answered at turn
  cases turn with
  | failed op ops fault => exact .failed _ _ fault
  | step shown turn =>
    obtain rfl := listed shown rfl
    obtain ⟨shown', inv₁, ⟨rfl, -⟩, same, -⟩ := leads.of_smooth rfl
    cases same
    exact .step _ turn

/-- Every disk that has the machine is among those that are detached. -/
theorem mem_attachedIds (names : inv.NamesDisks) {disk : String} {d : PersistentDisk}
    (found : inv.disks.find? disk = some d) (has : vm ∈ d.vms) : disk ∈ Disks.attachedIds vm inv.disks.values :=
  Disks.mem_attachedIds.2 ⟨d, SortedMap.mem_values.2 ⟨disk, found⟩, names disk d found, has⟩

/-- All operations have been performed: the machine is gone from where it was. -/
theorem without_of_turn (names : inv.NamesDisks)
    (turn : InTurn (deletion project vm inv.disks.values) (.ok ()) answered)
    (leads : inv.Leads fresh answered inv') : inv.Without vm inv' := by
  obtain ⟨asked, smooth⟩ := turn.of_ok
  obtain ⟨before, after, rfl, detaching, ending⟩ := List.map_eq_append_iff.1 asked
  obtain ⟨⟨list, listing⟩, loop, rfl, rfl, detached⟩ := List.map_eq_cons_iff.1 detaching
  obtain ⟨⟨stop, stopping⟩, after, rfl, rfl, last⟩ := List.map_eq_cons_iff.1 ending
  obtain ⟨⟨delete, deleting⟩, rfl, rfl⟩ := List.map_eq_singleton_iff.1 last
  simp only [List.forall_mem_cons, List.forall_mem_append] at smooth
  obtain ⟨⟨smoothList, smoothLoop⟩, smoothStop, smoothDelete, -⟩ := smooth
  obtain ⟨_, inv₁, ⟨-, vms₁, disks₁, images₁⟩, -, leads⟩ := leads.of_smooth smoothList
  obtain ⟨inv₂, looped, leads⟩ := leads.of_append
  obtain ⟨vms₂, images₂, disks₂⟩ := looped.detached detached smoothLoop
  obtain ⟨_, inv₃, ⟨record, -, vms₃, disks₃, images₃⟩, -, leads⟩ := leads.of_smooth smoothStop
  obtain ⟨_, inv₄, ⟨_, -, vms₄, disks₄, images₄⟩, -, leads⟩ := leads.of_smooth smoothDelete
  cases leads
  refine ⟨?_, fun disk => ?_, ?_⟩
  · rw [vms₄, vms₃, vms₂, vms₁]
    refine SortedMap.ext_find? fun id => ?_
    simp only [SortedMap.find?_erase, SortedMap.find?_insert]
    split <;> rfl
  · rw [disks₄, disks₃, disks₂, disks₁]
    split
    · rfl
    · rename_i spared
      cases found : inv.disks.find? disk with
      | none => rfl
      | some d =>
        have free : vm ∉ d.vms := fun has => spared (mem_attachedIds names found has)
        exact congrArg some (leaving_of_free free).symm
  · rw [images₄, images₃, images₂, images₁]

theorem deletes_of_turn (names : inv.NamesDisks)
    (turn : InTurn (deletion project vm inv.disks.values) result answered)
    (leads : inv.Leads fresh answered inv') :
    Deletes vm inv ((result.mapError .cloud).map fun _ => .null) answered inv' where
  stops before id answer after split := by
    rw [split] at turn
    obtain ⟨same, reached⟩ := turn.reached (by simp [detaching]) (by simp)
    refine ⟨Operation.stopVm.inj same, fun disk d found has => reached _ ?_⟩
    exact List.mem_cons_of_mem _ (List.mem_map_of_mem (mem_attachedIds names found has))
  deletes before id answer after split := by
    rw [deletion_eq, split] at turn
    obtain ⟨same, reached⟩ := turn.reached (by simp [detaching]) (by simp)
    exact ⟨Operation.deleteVm.inj same, reached (.stopVm vm) (by simp)⟩
  halts before a after fault split failed := by
    rw [split] at turn
    obtain ⟨-, -, stops⟩ := turn.split
    obtain ⟨rfl, nothing⟩ := stops fault failed
    exact ⟨nothing, rfl⟩
  fails f failed := by
    obtain fault | u := result
    · cases failed
      obtain ⟨before, a, last, ha⟩ := turn.of_error
      rw [deletion_eq] at turn
      exact ⟨⟨before, a, fault, last, ha, rfl⟩, leads.keeps (turn.last_fails (by simp [detaching]))⟩
    · cases failed
  completes value done := by
    obtain fault | u := result
    · cases done
    · cases done
      exact ⟨rfl, without_of_turn names turn leads⟩

end
end Vms

/-- A machine in memory is deleted in order: it is stopped after all its disks have been detached, and deleted
after it has been stopped. The first fault ends the call, which fails with it and leaves the machine where it is;
otherwise the machine is gone from where it was, and from no other place is anything gone. -/
theorem World.respond_deletes {σ : Type} (w : World σ) (fresh : Nat → String) (settings : Settings) (vm : String)
    (more : List Json) (s : At (Call.Course × Inventory × σ)) (arises : s.state.2.1.Arises) :
    let r := (w.withInventory fresh).recording.respond settings "delete_vm" (.str vm :: more) s
    ∃ outcome log answered, r.1 = .ofOutcome outcome log ∧
      r.2.state.1 = s.state.1 ++ answered.map Answered.asked ∧
      Vms.Deletes vm s.state.2.1 outcome answered r.2.state.2.1 := by
  obtain ⟨outcome, log, course, response, told, ⟨disks, result, answered, rfl, rfl, turn, listed⟩, leads⟩ :=
    w.respond_leads fresh settings .deleteVm (Vms.delete_records settings vm more) s
  rw [operations_asked] at leads
  exact ⟨_, log, answered, response, told,
    Vms.deletes_of_turn arises.namesDisks (Vms.turn_of_listing turn listed leads) leads⟩

/-- A disk of two machines stays with the other one, and a machine that cannot be stopped is still there. -/
theorem World.respond_deletes_shared :
    let settings : Settings := .bare "http://127.0.0.1" "project" "nats"
    let inv := (((Inventory.empty false).insertVm "vm-1").insertVm "vm-2").insertDisk "disk-1" ["vm-1", "vm-2"]
    let unstoppable := inv.arm "stop_vm" (.transport "refused")
    let respond := fun inv : Inventory => (World.calm.withInventory Nat.repr).recording.respond settings "delete_vm"
      [.str "vm-1"] ⟨.empty, [], inv, ()⟩
    inv.Without "vm-1" (respond inv).2.state.2.1 ∧
      ((respond unstoppable).2.state.2.1.vms.find? "vm-1").isSome := by
  intro settings inv unstoppable respond
  have success : (respond inv).1.isSuccess = true := by decide +kernel
  have failure : (respond unstoppable).1.isSuccess = false := by decide +kernel
  have ran (inv : Inventory) : (World.calm.withInventory Nat.repr).recording.respond settings "delete_vm"
      [.str "vm-1"] ⟨.empty, [], inv, ()⟩ = respond inv := rfl
  have arises : inv.Arises := ((Inventory.Arises.empty false).insertVm "vm-1" |>.insertVm "vm-2").insertDisk _ _
  constructor
  · have responded := World.calm.respond_deletes Nat.repr settings "vm-1" [] ⟨.empty, [], inv, ()⟩ arises
    rw [ran] at responded
    obtain ⟨f | result, log, _, response, -, deletes⟩ := responded
    · rw [response] at success
      cases success
    · exact (deletes.completes result rfl).2
  · have responded := World.calm.respond_deletes Nat.repr settings "vm-1" [] ⟨.empty, [], unstoppable, ()⟩
      (arises.arm _ _)
    rw [ran] at responded
    obtain ⟨f | result, log, _, response, -, deletes⟩ := responded
    · exact (deletes.fails f rfl).2 rfl
    · rw [response] at failure
      cases failure

end CloudProvider
