import CloudProvider.Proofs.Convergence
import CloudProvider.Proofs.Housekeeping

/-! # Nothing hangs on a removal

A program that is told that a removal has failed goes on as if it had succeeded, so what comes of it is not changed
(`Activity.Heedless`).
-/

namespace CloudProvider

/-! ## Courses -/

namespace Program
variable {Op : Type} {Reply : Op → Type} {α β : Type}

/-- If it is replied to as in the course, the program asks just this and comes to the result. -/
inductive Takes : Program Op Reply α → List (Asked Reply) → α → Prop
  | pure (x : α) : Takes (.pure x) [] x
  | emit (e : Event) {next : Program Op Reply α} {course : List (Asked Reply)} {x : α} (h : Takes next course x) :
    Takes (.emit e next) course x
  | perform {op : Op} {next : Reply op → Program Op Reply α} (r : Reply op) {course : List (Asked Reply)} {x : α}
    (h : Takes (next r) course x) : Takes (.perform op next) (⟨op, r⟩ :: course) x

theorem Takes.bind {p : Program Op Reply α} {f : α → Program Op Reply β} {course more : List (Asked Reply)} {x : α}
    {y : β} (hp : p.Takes course x) (hf : (f x).Takes more y) : (p >>= f).Takes (course ++ more) y := by
  change (p.bind f).Takes _ y
  induction hp with
  | pure x => exact hf
  | emit e h ih => exact .emit e (ih hf)
  | perform r h ih => exact .perform r (ih hf)

theorem Takes.of_bind {p : Program Op Reply α} {f : α → Program Op Reply β} {course : List (Asked Reply)} {y : β}
    (h : (p >>= f).Takes course y) : ∃ before x after, course = before ++ after ∧ p.Takes before x ∧ (f x).Takes after y := by
  change (p.bind f).Takes course y at h
  induction p generalizing course with
  | pure x => exact ⟨[], x, course, rfl, .pure x, h⟩
  | emit e next ih =>
    cases h with
    | emit _ h =>
      obtain ⟨before, x, after, rfl, hp, hf⟩ := ih h
      exact ⟨before, x, after, rfl, .emit e hp, hf⟩
  | perform op next ih =>
    cases h with
    | perform r h =>
      obtain ⟨before, x, after, rfl, hp, hf⟩ := ih r h
      exact ⟨⟨op, r⟩ :: before, x, after, rfl, .perform r hp, hf⟩

end Program

/-- What is on the film is a course that the program takes. -/
theorem Scene.ends_takes {root : String} {α : Type} (p : Activity α) (s : Scene) :
    Program.Ends (Filmed root) p
      (fun x s' => ∃ more, s'.1 = s.1 ++ more ∧ p.Takes (more.map (·.asked)) x) s := by
  induction p generalizing s with
  | pure x => exact ⟨[], (List.append_nil _).symm, .pure x⟩
  | emit e next ih => exact (ih s).mono fun x s' ⟨more, told, takes⟩ => ⟨more, told, .emit e takes⟩
  | perform e next ih =>
    rintro r s' ⟨-, eq⟩
    rw [eq]
    refine (ih r _).mono fun x s'' ⟨more, told, takes⟩ => ⟨⟨⟨e, r⟩, s.2, s'.2⟩ :: more, ?_, .perform r takes⟩
    rw [told, Scene.next, List.append_assoc]
    rfl

/-! ## Removals -/

def Effect.IsRemoval : Effect → Prop
  | .removeDirectory _ | .removeFile _ => True
  | _ => False

/-- The same, but for a removal, which succeeds. -/
def Asked.cleared : Asked Effect.Reply → Asked Effect.Reply
  | ⟨.removeDirectory path, _⟩ => ⟨.removeDirectory path, .ok ()⟩
  | ⟨.removeFile path, _⟩ => ⟨.removeFile path, .ok ()⟩
  | asked => asked

theorem Asked.cleared_of_not_isRemoval {asked : Asked Effect.Reply} (h : ¬asked.op.IsRemoval) :
    asked.cleared = asked := by
  obtain ⟨e, r⟩ := asked
  cases e with
  | removeDirectory | removeFile => exact absurd trivial h
  | remote | runTool | openFile | writeFile | createDirectory | createFile => rfl

namespace Activity
variable {α β : Type}

/-- If removals succeed that have failed, it asks the same and comes to the same. -/
def Heedless (p : Activity α) : Prop := ∀ course x, p.Takes course x → p.Takes (course.map Asked.cleared) x

theorem Heedless.bind {p : Activity α} {f : α → Activity β} (hp : Heedless p) (hf : ∀ x, Heedless (f x)) :
    Heedless (p >>= f) := by
  intro course y h
  obtain ⟨before, x, after, rfl, takes, rest⟩ := h.of_bind
  rw [List.map_append]
  exact (hp before x takes).bind (hf x after y rest)

theorem Heedless.of_only {p : Activity α} (h : p.Only fun e => ¬e.IsRemoval) : Heedless p := by
  intro course x takes
  have same : course.map Asked.cleared = course := by
    induction takes with
    | pure x => rfl
    | emit e takes ih => exact ih h
    | perform r takes ih => rw [List.map_cons, ih (h.2 r), Asked.cleared_of_not_isRemoval h.1]
  exact same.symm ▸ takes

theorem Heedless.pure (x : α) : Heedless (Pure.pure x) := .of_only trivial

/-- Whatever is replied, nothing comes of it but a report. -/
theorem Heedless.of_silent {e : Effect} {f : e.Reply → Activity Unit}
    (silent : ∀ r course u, (f r).Takes course u ↔ course = []) : Heedless (Program.ask e >>= f) := by
  intro course u h
  obtain ⟨_, r, after, rfl, asked, rest⟩ := h.of_bind
  cases asked with
  | perform r h =>
    cases h
    obtain rfl := (silent r after u).1 rest
    obtain ⟨r', cleared⟩ : ∃ r', Asked.cleared ⟨e, r⟩ = ⟨e, r'⟩ := by cases e <;> exact ⟨_, rfl⟩
    rw [List.append_nil, List.map_singleton, cleared]
    exact .perform r' ((silent r' [] u).2 rfl)

theorem takes_reportRemoval (what path : String) (r : Except FileFault Unit) (course : Call.Course) (u : Unit) :
    (Scratch.reportRemoval what path r).Takes course u ↔ course = [] := by
  cases r with
  | ok =>
    constructor
    · rintro ⟨⟩
      rfl
    · rintro rfl
      exact .pure ()
  | error fault =>
    constructor
    · rintro (_ | ⟨_, ⟨⟩⟩)
      rfl
    · rintro rfl
      exact .emit _ (.pure ())

theorem heedless_dropFile (path : String) : Heedless (Scratch.dropFile path) :=
  .of_silent (takes_reportRemoval "file" path)

theorem heedless_dropDirectory (path : String) : Heedless (Scratch.dropDirectory path) :=
  .of_silent (takes_reportRemoval "directory" path)

end Activity

namespace Call
open Activity (Heedless)
variable {α β : Type}

theorem heedless_bind {call : Call α} {f : α → Call β} (hc : Heedless call.run) (hf : ∀ x, Heedless (f x).run) :
    Heedless (call >>= f).run := by
  rw [ExceptT.run_bind]
  refine hc.bind fun r => ?_
  cases r with
  | ok x => exact hf x
  | error f => exact .pure _

theorem heedless_thenAlways {release : Activity Unit} {call : Call α} (hr : Heedless release)
    (hc : Heedless call.run) : Heedless (thenAlways release call).run :=
  hc.bind fun _ => hr.bind fun _ => .pure _

theorem heedless_thenOnFailure {release : Activity Unit} {call : Call α} (hr : Heedless release)
    (hc : Heedless call.run) : Heedless (thenOnFailure release call).run := by
  rw [thenOnFailure, ExceptT.run_mk]
  refine hc.bind fun r => ?_
  cases r with
  | ok x => exact .pure _
  | error f => exact hr.bind fun _ => .pure _

theorem heedless_makingFile (stem suffix : String) {call : String → Call Unit} (h : ∀ path, Heedless (call path).run) :
    Heedless (Scratch.makingFile stem suffix call).run := by
  refine heedless_bind (.of_only (only_bind (only_lift ((Program.only_ask _).2 id)) fun _ => trivial)) fun path => ?_
  exact heedless_thenOnFailure (Activity.heedless_dropFile path) (heedless_bind (h path) fun _ => .pure _)

theorem heedless_withDirectory (stem : String) {call : String → Call α} (h : ∀ path, Heedless (call path).run) :
    Heedless (Scratch.withDirectory stem call).run := by
  refine heedless_bind (.of_only (only_bind (only_lift ((Program.only_ask _).2 id)) fun _ => trivial)) fun path => ?_
  exact heedless_thenAlways (Activity.heedless_dropDirectory path) (h path)

theorem heedless_render (env : Agent.Environment) : Heedless (Agent.render env).run := by
  refine heedless_withDirectory _ fun directory => heedless_bind (.of_only ?_) fun _ =>
    heedless_makingFile _ _ fun image => .of_only ?_
  · exact only_bind (only_lift ((Program.only_ask _).2 id)) fun _ => trivial
  · refine only_bind (only_lift ((Program.only_ask _).2 id)) fun r => ?_
    cases r with
    | error fault => trivial
    | ok outcome => dsimp only; split <;> trivial

section
open Scene

theorem heedless_of_attaches (images : Temporaries) {call : Call α} (h : call.run.Only (Attaches images)) :
    Heedless call.run := by
  refine .of_only (h.mono fun e attaches removal => ?_)
  obtain ⟨op, rfl, -⟩ := attaches.remote
  exact removal

theorem heedless_of_handles {file : String} {call : Call α} (h : call.run.Only (Handles file)) :
    Heedless call.run := by
  refine .of_only (h.mono fun e handles removal => ?_)
  cases e with
  | removeDirectory | removeFile => exact handles
  | remote | runTool | openFile | writeFile | createDirectory | createFile => exact removal

theorem heedless_fetch (vm : String) : Heedless (Agent.fetch vm).run := heedless_of_attaches ∅ (only_fetch vm)

theorem heedless_sync (vm : String) (env : Agent.Environment) : Heedless (Agent.sync vm env).run := by
  refine heedless_bind (.of_only trivial) fun _ => heedless_bind (heedless_render env) fun image =>
    heedless_thenAlways (Activity.heedless_dropFile image) ?_
  exact heedless_of_attaches {image} <| only_bind trivial fun _ => only_bind (only_store vm env) fun _ =>
    only_bind (only_detachImage vm) fun _ => only_bind trivial fun _ =>
      only_bind (only_remote rfl) fun _ => trivial

theorem heedless_decompress (source : String) : Heedless (Stemcells.decompress source).run :=
  heedless_makingFile _ _ fun target => heedless_of_handles <|
    only_bind (only_lift (Stemcells.gunzip_only trivial fun _ => rfl)) fun r => by cases r <;> trivial

end

/-! ## Calls -/

section
variable (settings : Settings) (args : List Json)

theorem heedless_createStemcell : Heedless (Stemcells.create settings args).run := by
  refine heedless_bind (.of_only trivial) fun image => heedless_bind (.of_only trivial) fun _ =>
    heedless_bind (.of_only trivial) fun _ => heedless_bind (heedless_decompress _) fun raw =>
    heedless_thenAlways (Activity.heedless_dropFile raw) (.of_only ?_)
  exact only_bind (only_bind (only_lift ((Program.only_ask _).2 id)) fun _ => trivial) fun _ =>
    only_bind trivial fun _ => only_bind (only_remote id) fun _ => trivial

theorem heedless_createVm : Heedless (Vms.create settings args).run := by
  refine heedless_bind (.of_only trivial) fun a => heedless_bind (.of_only trivial) fun _ =>
    heedless_bind (.of_only (only_remote id)) fun task => heedless_bind (.of_only trivial) fun _ =>
    heedless_bind (.of_only (only_remote id)) fun vm => heedless_bind (.of_only trivial) fun disk =>
    heedless_bind (heedless_sync _ _) fun _ => .of_only ?_
  exact only_bind trivial fun _ => only_bind (only_remote id) fun _ => trivial

theorem heedless_attachDisk : Heedless (Disks.attach settings args).run :=
  heedless_bind (.of_only trivial) fun _ => heedless_bind (.of_only trivial) fun _ =>
    heedless_bind (.of_only (only_remote id)) fun _ => heedless_bind (.of_only trivial) fun _ =>
    heedless_bind (heedless_fetch _) fun _ =>
    heedless_bind (.of_only trivial) fun _ => heedless_bind (heedless_sync _ _) fun _ => .of_only trivial

theorem heedless_detachDisk : Heedless (Disks.detach settings args).run := by
  refine heedless_bind (.of_only trivial) fun a => heedless_bind (.of_only trivial) fun _ =>
    heedless_bind (.of_only (only_remote id)) fun _ => heedless_bind (.of_only trivial) fun _ =>
    heedless_bind (heedless_fetch _) fun _ =>
    heedless_bind (.of_only trivial) fun struck => ?_
  have rest : Heedless (Agent.sync a.1 struck.2 >>= fun _ => (Pure.pure Json.null : Call Json)).run :=
    heedless_bind (heedless_sync _ _) fun _ => .of_only trivial
  dsimp only
  split
  · exact heedless_bind (.of_only trivial) fun _ => rest
  · exact rest

end

end Call

/-- The calls that make files of their own. -/
def scratchUsers : List String := ["create_vm", "attach_disk", "detach_disk", "create_stemcell"]

section
variable {method : String} {call : Settings → List Json → Call Json}

theorem Handler.leaves_tidy (handler : Handler method call) (scratches : method ∈ scratchUsers) {root : String}
    {base : Temporaries} {s : Scene} (built : s.Building base ∅) (settings : Settings) (args : List Json) :
    Call.Leaves (Scene.Filmed root) (call settings args) (Scene.Tidy base) s := by
  simp only [scratchUsers, List.mem_cons, List.not_mem_nil, or_false] at scratches
  rcases scratches with rfl | rfl | rfl | rfl
  · exact handler.unique .createVm ▸ built.createVm_leaves settings args
  · exact handler.unique .attachDisk ▸ built.attachDisk_leaves settings args
  · exact handler.unique .detachDisk ▸ built.detachDisk_leaves settings args
  · exact handler.unique .createStemcell ▸ built.createStemcell_leaves settings args

theorem Handler.heedless (handler : Handler method call) (scratches : method ∈ scratchUsers) (settings : Settings)
    (args : List Json) : Activity.Heedless (call settings args).run := by
  simp only [scratchUsers, List.mem_cons, List.not_mem_nil, or_false] at scratches
  rcases scratches with rfl | rfl | rfl | rfl
  · exact handler.unique .createVm ▸ Call.heedless_createVm settings args
  · exact handler.unique .attachDisk ▸ Call.heedless_attachDisk settings args
  · exact handler.unique .detachDisk ▸ Call.heedless_detachDisk settings args
  · exact handler.unique .createStemcell ▸ Call.heedless_createStemcell settings args

theorem Dispatch.run_heedless {method : String} (scratches : Text.lowerCase method ∈ scratchUsers)
    (settings : Settings) (args : List Json) : Activity.Heedless (run .default settings method args) := by
  have reports (es : List Event) : (reportAll es).Only fun e => ¬e.IsRemoval := by
    induction es with
    | nil => trivial
    | cons e es ih => exact ih
  cases h : ActionTable.default.find? (Text.lowerCase method) with
  | none =>
    rw [run, runAction, h]
    exact .of_only (Program.Only.bind (reports _) fun _ => trivial)
  | some action =>
    obtain ⟨call, handler, rfl⟩ := Handler.of_find? h
    rw [run, runAction, h]
    refine Activity.Heedless.bind (.of_only (reports _)) fun _ => ?_
    refine ((handler.heedless scratches settings args).bind fun r => .pure _).bind fun ending => ?_
    exact .of_only (Program.Only.bind (reports _) fun _ => trivial)

end

/-- In whatever way the world answers, as long as it keeps temporary files: nothing stands after a call that the call
has made, but for what could not be removed, and nothing else is removed. While the tool runs its files stand; while
the control plane is asked its directory is gone, and an image stands until it is attached. If the removals that have
failed had succeeded, the call would have asked the same and come to the same. -/
theorem World.respond_cleans_up {σ : Type} {w : World σ} {root : String} {temps : σ → Temporaries}
    (keeps : w.KeepsTemporaries root temps) (settings : Settings) {method : String}
    (scratches : Text.lowerCase method ∈ scratchUsers) (args : List Json) (log : CallLog) (s : σ) :
    let r := (w.filmed temps).respond settings method args ⟨log, [], s⟩
    let film : Film := r.2.state.1
    (∀ path ∈ temps r.2.state.2, film.Made path → film.Left path) ∧ temps s ⊆ temps r.2.state.2 ∧ film.Proper ∧
      ∃ outcome log', r.1 = .ofOutcome outcome log' ∧
        (Dispatch.run .default settings method args).Takes (film.map (·.asked.cleared)) outcome := by
  have built : Scene.Building (temps s) ∅ ([], temps s) :=
    ⟨subset_rfl, Set.disjoint_empty _, fun path made => by simp [Film.Made] at made, Film.proper_nil⟩
  have tidies : Program.Ends (Scene.Filmed root) (Dispatch.run .default settings method args)
      (fun _ => Scene.Tidy (temps s)) ([], temps s) :=
    Dispatch.run_ends (fun _ => built.tidy) fun call handler => handler.leaves_tidy scratches built settings args
  obtain ⟨outcome, log', response, tidy, film, told, takes⟩ := (w.filmed temps).respond_ends
    (fun s : Film × σ => ((s.1, temps s.2) : Scene)) (fun e s => ⟨keeps.answers e s.2, rfl⟩)
    (fun s => Prod.ext rfl (keeps.clock s.2)) (s := ⟨log, [], s⟩)
    (tidies.and (Scene.ends_takes _ _))
  intro r shown
  have same : shown = film := told
  refine ⟨fun path stands made => ?_, tidy.keeping.spared, tidy.keeping.proper, outcome, log', response, ?_⟩
  · exact (tidy.keeping.owned path stands made).resolve_left (Set.notMem_empty _)
  · have cleared := Dispatch.run_heedless scratches settings args _ _ takes
    rw [List.map_map, ← same] at cleared
    exact cleared

/-! ## A directory for temporary files -/

namespace World

/-- A new path below `/tmp`, if the name is free. -/
def lodge (name : String) (standing : List String) : Except FileFault String × List String :=
  let path := "/tmp" ++ "/" ++ name
  if '/' ∈ name.toList ∨ ∃ other ∈ standing, other = path ∨ (path ++ "/").toList <+: other.toList then
    (.error .absent, standing)
  else (.ok path, path :: standing)

/-- A world of temporary files, in which nothing fails. -/
def lodging : World (List String) where
  answer
    | .remote _, standing => (.error (.transport "no control plane"), standing)
    | .runTool .., standing => (.ok ⟨true, ""⟩, standing)
    | .openFile _, standing => (.error .absent, standing)
    | .writeFile path _, standing => (.ok (), path :: standing)
    | .createDirectory stem, standing => lodge stem standing
    | .createFile stem suffix, standing => lodge (stem ++ suffix) standing
    | .removeDirectory path, standing =>
      (.ok (), standing.filter fun other => ¬(other = path ∨ (path ++ "/").toList <+: other.toList))
    | .removeFile path, standing => (.ok (), standing.filter fun other => ¬other = path)
  clock standing := ("00:00:00", standing)

theorem lodge_answers (name : String) (standing : List String) :
    (∃ path, lodge name standing = (.ok path, path :: standing) ∧ Temporaries.Unused "/tmp" {p | p ∈ standing} path) ∨
      ∃ fault, lodge name standing = (.error fault, standing) := by
  unfold lodge
  dsimp only
  split
  · exact .inr ⟨_, rfl⟩
  · rename_i free
    push Not at free
    exact .inl ⟨_, rfl, ⟨name, free.1, rfl⟩, Set.disjoint_left.2 fun other stands inside =>
      inside.elim (free.2 other stands).1 (free.2 other stands).2⟩

theorem lodging_keeps : lodging.KeepsTemporaries "/tmp" fun standing => {path | path ∈ standing} where
  answers e standing := by
    have cons (path : String) : {p | p ∈ path :: standing} = insert path {p | p ∈ standing} := by
      ext p
      simp
    have filtered (paths : Temporaries) (keep : String → Bool) (h : ∀ p, keep p ↔ p ∉ paths) :
        Temporaries.Removes paths {p | p ∈ standing} (.ok ()) {p | p ∈ standing.filter keep} :=
      ⟨fun p hp => (List.mem_filter.1 hp).1, fun p hp => List.mem_filter.2 ⟨hp.1, (h p).2 hp.2⟩,
        fun _ => Set.disjoint_left.2 fun p hp => (h p).1 (List.mem_filter.1 hp).2⟩
    cases e with
    | createDirectory stem =>
      obtain ⟨path, eq, unused⟩ | ⟨fault, eq⟩ := lodge_answers stem standing <;> simp only [lodging, eq]
      · exact ⟨unused, cons path⟩
      · rfl
    | createFile stem suffix =>
      obtain ⟨path, eq, unused⟩ | ⟨fault, eq⟩ := lodge_answers (stem ++ suffix) standing <;> simp only [lodging, eq]
      · exact ⟨unused, cons path⟩
      · rfl
    | writeFile path content =>
      exact ⟨fun p hp => List.mem_cons_of_mem _ hp, (cons path).le, fun _ => List.mem_cons_self⟩
    | runTool => exact subset_rfl
    | removeDirectory path => exact filtered _ _ fun p => by simp [Temporaries.Inside]
    | removeFile path => exact filtered _ _ fun p => by simp
    | openFile | remote => rfl
  clock standing := rfl

/-- With a control plane in memory the temporary files are the same. -/
theorem KeepsTemporaries.withInventory {σ : Type} {w : World σ} {root : String} {temps : σ → Temporaries}
    (keeps : w.KeepsTemporaries root temps) (fresh : Nat → String) :
    (w.withInventory fresh).KeepsTemporaries root fun s => temps s.2 where
  answers e s := by
    cases e with
    | remote op => rfl
    | runTool | openFile | writeFile | createDirectory | createFile | removeDirectory | removeFile =>
      exact keeps.answers _ s.2
  clock s := keeps.clock s.2

/-- What stands beside a control plane in memory. -/
def lodged (s : Inventory × List String) : Temporaries := {path | path ∈ s.2}

/-- A disk is attached, and nothing is left but what had stood before. -/
theorem respond_cleans_up_attached :
    let w := lodging.withInventory Nat.repr
    let settings := Settings.bare "http://127.0.0.1" "project" "nats"
    let args := [.str "vm-1", .str "disk-1"]
    let r := (w.filmed lodged).respond settings "attach_disk" args ⟨.empty, [], Inventory.pair, ["/tmp/other"]⟩
    let film : Film := r.2.state.1
    r.1.isSuccess ∧ r.2.state.2.2 = ["/tmp/other"] ∧
      (∀ path ∈ lodged r.2.state.2, film.Made path → film.Left path) ∧
      lodged (Inventory.pair, ["/tmp/other"]) ⊆ lodged r.2.state.2 ∧ film.Proper ∧
      ∃ outcome log', r.1 = .ofOutcome outcome log' ∧
        (Dispatch.run .default settings "attach_disk" args).Takes (film.map (·.asked.cleared)) outcome := by
  intro w settings args r film
  have scratches : Text.lowerCase "attach_disk" ∈ scratchUsers := by decide +kernel
  have keeps : w.KeepsTemporaries "/tmp" lodged := lodging_keeps.withInventory Nat.repr
  have cleans := respond_cleans_up keeps settings scratches args .empty (Inventory.pair, ["/tmp/other"])
  exact ⟨by decide +kernel, by decide +kernel, cleans⟩

end World
end CloudProvider
