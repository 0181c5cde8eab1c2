import CloudProvider.Proofs.Temporaries

/-! # No call leaves its files behind

A call owns what it has made and not removed. What it owns grows while it builds, and when it drops a file or a
directory it owns this no more, or the removal has failed (`Keeping.removed`). So the state of a call is one of a few:
it has made nothing yet (`Building` with nothing of its own), it works in a directory (`Working`), it has an image
(`Imaged`) or the file of a stemcell (`Holding`), or it owns nothing any more (`Tidy`), which is how every call ends.
-/

namespace CloudProvider
open Temporaries (Inside Placed Removes)

namespace Scene
variable {root : String} {base own own' paths after : Temporaries} {s : Scene}

/-! ## What a call has made -/

/-- Nothing has been removed, and all that has been made is among `own`. -/
structure Building (base own : Temporaries) (s : Scene) : Prop where
  spared : base ⊆ s.2
  apart : Disjoint base own
  made : ∀ path, s.1.Made path → path ∈ own
  proper : s.1.Proper

/-- What has been made and stands is among `own`, but for what could not be removed. -/
structure Keeping (base own : Temporaries) (s : Scene) : Prop where
  spared : base ⊆ s.2
  apart : Disjoint base own
  owned : ∀ path ∈ s.2, s.1.Made path → path ∈ own ∨ s.1.Left path
  proper : s.1.Proper

/-- No directory stands, but for what could not be removed. -/
def Vacated (s : Scene) : Prop :=
  ∀ directory, s.1.Housed directory → ∀ path ∈ Inside directory, path ∈ s.2 → s.1.Left path

/-- Nothing stands that has been made, but for what could not be removed. -/
structure Tidy (base : Temporaries) (s : Scene) : Prop where
  keeping : Keeping base ∅ s
  vacated : Vacated s

theorem Building.keeping (h : Building base own s) : Keeping base own s :=
  ⟨h.spared, h.apart, fun path _ made => .inl (h.made path made), h.proper⟩

theorem Building.tidy (h : Building base ∅ s) : Tidy base s :=
  ⟨h.keeping, fun directory housed => absurd (h.made directory housed.made) (Set.notMem_empty _)⟩

variable {e : Effect} {r : e.Reply}

theorem Building.next (h : Building base own s) (spared : base ⊆ after) (apart : Disjoint base own') (more : own ⊆ own')
    (makes : ∀ path, Asked.Makes ⟨e, r⟩ path → path ∈ own') (proper : Moment.Proper s.1 ⟨⟨e, r⟩, s.2, after⟩) :
    Building base own' (s.next e r after) :=
  ⟨spared, apart, fun path made => (Film.made_append.1 made).elim (fun made => more (h.made path made)) (makes path),
    h.proper.append proper⟩

/-- What makes nothing and changes nothing. -/
theorem Building.unchanged (h : Building base own s) (makes : ∀ path, ¬Asked.Makes ⟨e, r⟩ path)
    (proper : Moment.Proper s.1 ⟨⟨e, r⟩, s.2, s.2⟩) : Building base own (s.next e r s.2) :=
  h.next h.spared h.apart subset_rfl (fun path made => absurd made (makes path)) proper

theorem Vacated.next (h : Vacated s) (shrinks : after ⊆ s.2) (houses : ∀ directory, ¬Asked.Houses ⟨e, r⟩ directory) :
    Vacated (s.next e r after) := by
  intro directory housed path inside stands
  have housed' := (Film.housed_append.1 housed).resolve_right (houses directory)
  exact Film.left_append.2 (.inl (h directory housed' path inside (shrinks stands)))

/-- What is removed is gone, or its removal has failed. -/
theorem Keeping.removed {removal : Except FileFault Unit} (h : Keeping base own s)
    (removes : Removes paths s.2 removal after) (apart : Disjoint base paths) (less : own' ⊆ own)
    (rest : own ⊆ paths ∪ own') (leaves : ∀ fault, removal = .error fault → ∀ path ∈ paths, Asked.Leaves ⟨e, r⟩ path)
    (makes : ∀ path, ¬Asked.Makes ⟨e, r⟩ path) (proper : Moment.Proper s.1 ⟨⟨e, r⟩, s.2, after⟩) :
    Keeping base own' (s.next e r after) := by
  refine ⟨fun path stood => removes.spares ⟨h.spared stood, fun removed => ?_⟩, h.apart.mono_right less,
    fun path stands made => ?_, h.proper.append proper⟩
  · exact Set.disjoint_left.1 apart stood removed
  · rcases h.owned path (removes.shrinks stands) ((Film.made_append.1 made).resolve_right (makes path)) with owned | left
    · rcases rest owned with removed | kept
      · cases removal with
        | ok u => exact absurd removed (Set.disjoint_left.1 (removes.gone rfl) stands)
        | error fault => exact .inr (Film.left_append.2 (.inr (leaves fault rfl path removed)))
      · exact .inl kept
    · exact .inr (Film.left_append.2 (.inl left))

theorem Keeping.dropFile {file : String} {r : Except FileFault Unit} (h : Keeping base (insert file own) s)
    (removes : Removes {file} s.2 r after) : Keeping base own (s.next (.removeFile file) r after) :=
  h.removed removes (h.apart.mono_right (Set.singleton_subset_iff.2 (Set.mem_insert _ _))) (Set.subset_insert _ _)
    subset_rfl (by rintro fault rfl path rfl; rfl) (fun _ => id) trivial

theorem Keeping.dropDirectory {directory : String} {r : Except FileFault Unit}
    (h : Keeping base (Inside directory ∪ own) s) (removes : Removes (Inside directory) s.2 r after) :
    Keeping base own (s.next (.removeDirectory directory) r after) :=
  h.removed removes (h.apart.mono_right Set.subset_union_left) Set.subset_union_right subset_rfl
    (by rintro fault rfl path inside; exact inside) (fun _ => id) trivial

/-- When the last file is dropped, nothing is left. -/
theorem Keeping.tidy {file : String} {r : Except FileFault Unit} (h : Keeping base {file} s) (vacated : Vacated s)
    (removes : Removes {file} s.2 r after) : Tidy base (s.next (.removeFile file) r after) := by
  have keeping : Keeping base (insert file ∅) s := by
    rw [insert_empty_eq]
    exact h
  exact ⟨keeping.dropFile removes, vacated.next removes.shrinks fun _ => id⟩

/-- When the only directory is dropped, none is left. -/
theorem vacated_dropDirectory {directory : String} {r : Except FileFault Unit}
    (alone : ∀ other, s.1.Housed other → other = directory) (removes : Removes (Inside directory) s.2 r after) :
    Vacated (s.next (.removeDirectory directory) r after) := by
  intro other housed path inside stands
  obtain rfl := alone other ((Film.housed_append.1 housed).resolve_right id)
  cases r with
  | ok u => exact absurd inside (Set.disjoint_left.1 (removes.gone rfl) stands)
  | error fault => exact Film.left_append.2 (.inr inside)

/-! ## The control plane -/

/-- An operation of the control plane, which attaches no image but these. -/
def Attaches (images : Temporaries) : Effect → Prop
  | .remote (.attachIso _ image) => image ∈ images
  | .remote _ => True
  | _ => False

theorem Attaches.remote {images : Temporaries} (h : Attaches images e) :
    ∃ op, e = .remote op ∧ ∀ vm image, op = .attachIso vm image → image ∈ images := by
  cases e with
  | remote op =>
    refine ⟨op, rfl, ?_⟩
    rintro vm image rfl
    exact h
  | runTool | openFile | writeFile | createDirectory | createFile | removeDirectory | removeFile => exact absurd h id

theorem Vacated.proper (h : Vacated s) {op : Operation} {r : op.Answer}
    (attaches : ∀ vm image, op = .attachIso vm image → s.1.Stood image ∧ image ∈ s.2) :
    Moment.Proper s.1 ⟨⟨.remote op, r⟩, s.2, s.2⟩ :=
  ⟨h, fun vm image eq => (attaches vm image eq).1.append (attaches vm image eq).2⟩

theorem Keeping.remote (h : Keeping base own s) {op : Operation} {r : op.Answer}
    (proper : Moment.Proper s.1 ⟨⟨.remote op, r⟩, s.2, s.2⟩) : Keeping base own (s.next (.remote op) r s.2) := by
  refine ⟨h.spared, h.apart, fun path stands made => ?_, h.proper.append proper⟩
  exact (h.owned path stands ((Film.made_append.1 made).resolve_right id)).imp_right fun left =>
    Film.left_append.2 (.inl left)

theorem Building.plain (h : Building base ∅ s) (plain : Attaches ∅ e) (answers : s.2.Answers root e r after) :
    Building base ∅ (s.next e r after) := by
  obtain ⟨op, rfl, none⟩ := plain.remote
  cases answers
  exact h.unchanged (fun _ => id)
    (h.tidy.vacated.proper fun vm image eq => absurd (none vm image eq) (Set.notMem_empty _))

theorem Tidy.plain (h : Tidy base s) (plain : Attaches ∅ e) (answers : s.2.Answers root e r after) :
    Tidy base (s.next e r after) := by
  obtain ⟨op, rfl, none⟩ := plain.remote
  cases answers
  exact ⟨h.keeping.remote (h.vacated.proper fun vm image eq => absurd (none vm image eq) (Set.notMem_empty _)),
    h.vacated.next subset_rfl fun _ => id⟩

/-- The image is there and to be dropped, and nothing else. -/
structure Imaged (base : Temporaries) (image : String) (s : Scene) : Prop where
  keeping : Keeping base {image} s
  vacated : Vacated s
  stood : s.1.Stood image
  stands : image ∈ s.2

theorem Imaged.exchange {image : String} (h : Imaged base image s) (attaches : Attaches {image} e)
    (answers : s.2.Answers root e r after) : Imaged base image (s.next e r after) := by
  obtain ⟨op, rfl, only⟩ := attaches.remote
  cases answers
  have proper : Moment.Proper s.1 ⟨⟨.remote op, r⟩, s.2, s.2⟩ := h.vacated.proper fun vm other eq => by
    obtain rfl := only vm other eq
    exact ⟨h.stood, h.stands⟩
  exact ⟨h.keeping.remote proper, h.vacated.next subset_rfl fun _ => id, h.stood.append h.stands, h.stands⟩

section
variable {α β : Type} {call : Call α} {f : α → Call β}

/-- What no step of a call breaks holds at its end. -/
theorem leaves_of_steps {P : Effect → Prop} {I : Scene → Prop} (only : call.run.Only P)
    (steps : ∀ e s r after, P e → s.2.Answers root e r after → I s → I (s.next e r after)) (h : I s) :
    Call.Leaves (Filmed root) call I s := by
  refine Call.leaves_of_only only ?_ h
  rintro e s r s' he ⟨answers, eq⟩ hs
  rw [eq]
  exact steps e s r s'.2 he answers hs

theorem Tidy.leaves (h : Tidy base s) (plain : call.run.Only (Attaches ∅)) :
    Call.Leaves (Filmed root) call (Tidy base) s :=
  leaves_of_steps plain (fun _ _ _ _ plain answers tidy => tidy.plain plain answers) h

/-- Operations before anything is made. -/
theorem Building.before (h : Building base ∅ s) (plain : call.run.Only (Attaches ∅))
    (rest : ∀ x s, Building base ∅ s → Call.Leaves (Filmed root) (f x) (Tidy base) s) :
    Call.Leaves (Filmed root) (call >>= f) (Tidy base) s := by
  have built : Call.Leaves (Filmed root) call (Building base ∅) s :=
    leaves_of_steps plain (fun _ _ _ _ plain answers built => built.plain plain answers) h
  rw [Call.Leaves, Call.ends_bind]
  exact Call.Ends.mono built rest fun _ _ h => h.tidy

/-- Operations after all has been removed. -/
theorem leaves_after (tidies : Call.Leaves (Filmed root) call (Tidy base) s)
    (plain : ∀ x, (f x).run.Only (Attaches ∅)) : Call.Leaves (Filmed root) (call >>= f) (Tidy base) s := by
  rw [Call.Leaves, Call.ends_bind]
  exact Call.Ends.mono tidies (fun x _ h => h.leaves (plain x)) fun _ _ h => h

end

/-! ## Images -/

/-- The tool's directory is there, and it is the only one. -/
structure Working (root : String) (base own : Temporaries) (directory : String) (s : Scene) : Prop where
  building : Building base own s
  inside : Inside directory ⊆ own
  placed : Placed root directory
  stands : directory ∈ s.2
  housed : s.1.Housed directory
  alone : ∀ other, s.1.Housed other → other = directory

theorem Working.next {directory : String} (h : Working root base own directory s)
    (building : Building base own' (s.next e r after)) (more : own ⊆ own') (grows : s.2 ⊆ after)
    (houses : ∀ other, ¬Asked.Houses ⟨e, r⟩ other) : Working root base own' directory (s.next e r after) where
  building := building
  inside := h.inside.trans more
  placed := h.placed
  stands := grows h.stands
  housed := Film.housed_append.2 (.inl h.housed)
  alone other housed := h.alone other ((Film.housed_append.1 housed).resolve_right (houses other))

/-- A new directory. -/
theorem Building.createDirectory {stem path : String} (h : Building base ∅ s) (unused : s.2.Unused root path) :
    Working root base (Inside path) path (s.next (.createDirectory stem) (.ok path) (insert path s.2)) where
  building := h.next (h.spared.trans (Set.subset_insert _ _)) (unused.free.mono_left h.spared) (Set.empty_subset _)
    (by rintro _ rfl; exact Temporaries.mem_inside_self _) trivial
  inside := subset_rfl
  placed := unused.placed
  stands := Set.mem_insert _ _
  housed := Film.housed_append.2 (.inr rfl)
  alone other housed := (Film.housed_append.1 housed).elim
    (fun housed => absurd (h.made other housed.made) (Set.notMem_empty _)) id

/-- All has failed, and the directory is still to be dropped. -/
structure Abandoned (base : Temporaries) (directory : String) (s : Scene) : Prop where
  keeping : Keeping base (Inside directory) s
  alone : ∀ other, s.1.Housed other → other = directory

/-- The image is made, and the directory is still to be dropped. -/
structure Produced (base : Temporaries) (directory image : String) (s : Scene) : Prop where
  keeping : Keeping base (Inside directory ∪ {image}) s
  alone : ∀ other, s.1.Housed other → other = directory
  outside : image ∉ Inside directory
  stood : s.1.Stood image
  stands : image ∈ s.2

theorem Abandoned.dropDirectory {directory : String} {r : Except FileFault Unit} (h : Abandoned base directory s)
    (removes : Removes (Inside directory) s.2 r after) : Tidy base (s.next (.removeDirectory directory) r after) := by
  have keeping : Keeping base (Inside directory ∪ ∅) s := (Set.union_empty _).symm ▸ h.keeping
  exact ⟨keeping.dropDirectory removes, vacated_dropDirectory h.alone removes⟩

theorem Produced.dropDirectory {directory image : String} {r : Except FileFault Unit} (h : Produced base directory image s)
    (removes : Removes (Inside directory) s.2 r after) :
    Imaged base image (s.next (.removeDirectory directory) r after) :=
  have stands := removes.spares ⟨h.stands, h.outside⟩
  ⟨h.keeping.dropDirectory removes, vacated_dropDirectory h.alone removes, h.stood.append stands, stands⟩

theorem Produced.dropFile {directory image : String} {r : Except FileFault Unit} (h : Produced base directory image s)
    (removes : Removes {image} s.2 r after) : Abandoned base directory (s.next (.removeFile image) r after) := by
  have keeping : Keeping base (insert image (Inside directory)) s := Set.union_singleton ▸ h.keeping
  exact ⟨keeping.dropFile removes, fun other housed => h.alone other ((Film.housed_append.1 housed).resolve_right id)⟩

theorem Working.abandoned {directory : String} (h : Working root base (Inside directory) directory s) :
    Abandoned base directory s := ⟨h.building.keeping, h.alone⟩

theorem Working.writeFile {directory : String} {content : Text.Bytes} {r : Except FileFault Unit}
    (h : Working root base (Inside directory) directory s)
    (answers : s.2.Answers root (.writeFile (Agent.envFile directory) content) r after) :
    Working root base (Inside directory) directory (s.next (.writeFile (Agent.envFile directory) content) r after) := by
  refine h.next (h.building.next (h.building.spared.trans answers.1) h.building.apart subset_rfl ?_ trivial) subset_rfl
    answers.1 fun _ => id
  rintro _ rfl
  exact Temporaries.envFile_mem_inside directory

/-- A new file for the image. -/
theorem Working.createFile {directory image : String} (stem suffix : String)
    (h : Working root base (Inside directory) directory s) (unused : s.2.Unused root image) :
    Working root base (Inside directory ∪ {image}) directory
      (s.next (.createFile stem suffix) (.ok image) (insert image s.2)) := by
  have free : Disjoint base {image} := Set.disjoint_singleton_right.2 fun stood =>
    Set.disjoint_left.1 unused.free (h.building.spared stood) (Temporaries.mem_inside_self image)
  refine h.next (h.building.next (h.building.spared.trans (Set.subset_insert _ _)) (h.building.apart.union_right free)
    Set.subset_union_left ?_ trivial) Set.subset_union_left (Set.subset_insert _ _) fun _ => id
  rintro _ rfl
  exact Set.mem_union_right _ rfl

theorem Working.runTool {directory image : String} {r : Except Failure ToolOutcome}
    (h : Working root base (Inside directory ∪ {image}) directory s) (outside : image ∉ Inside directory)
    (written : Agent.envFile directory ∈ s.2) (stands : image ∈ s.2) (stood : s.1.Stood image) (grows : s.2 ⊆ after) :
    Produced base directory image
      (s.next (.runTool Agent.imageTool ["-o", image, Agent.envFile directory]) r after) := by
  have there : {directory, Agent.envFile directory, image} ⊆ s.2 ∩ after := by
    rintro _ (rfl | rfl | rfl)
    · exact ⟨h.stands, grows h.stands⟩
    · exact ⟨written, grows written⟩
    · exact ⟨stands, grows stands⟩
  have building := h.building.next (e := .runTool Agent.imageTool ["-o", image, Agent.envFile directory]) (r := r)
    (h.building.spared.trans grows) h.building.apart subset_rfl (fun _ => False.elim)
    ⟨directory, image, rfl, h.housed, there⟩
  exact ⟨building.keeping, (h.next building subset_rfl grows fun _ => id).alone, outside, stood.append (grows stands),
    grows stands⟩

/-- The making of an image in a directory that is there. -/
theorem Working.ends_image {directory : String} (h : Working root base (Inside directory) directory s)
    (content : Text.Bytes) :
    Call.Ends (Filmed root) (do
      Call.writeFile (Agent.envFile directory) content
      Scratch.makingFile "agent-env-iso" ".iso" fun image => Agent.makeImage image (Agent.envFile directory))
      (Produced base directory) (fun _ => Abandoned base directory) s := by
  rw [Call.ends_bind, Call.writeFile, Call.ends_bind, Call.ends_lift, Activity.writeFile, ends_ask]
  intro r after answers
  have h₁ := h.writeFile answers
  cases r with
  | error fault => exact h₁.abandoned
  | ok u =>
    have written : Agent.envFile directory ∈ after := answers.2.2 rfl
    change Call.Ends (Filmed root) (Scratch.makingFile _ _ _) _ _ _
    rw [Scratch.makingFile, Call.ends_bind, Scratch.createFile, Call.ends_bind, Call.ends_lift, ends_ask]
    intro r after' answers'
    cases r with
    | error fault =>
      cases answers'
      have h₂ := h₁.next (e := .createFile "agent-env-iso" ".iso") (r := .error fault)
        (h₁.building.unchanged (fun _ => id) trivial) subset_rfl subset_rfl fun _ => id
      exact h₂.abandoned
    | ok image =>
      obtain ⟨unused, rfl⟩ := answers'
      have outside := unused.outside h₁.placed h₁.stands
      have h₂ := h₁.createFile "agent-env-iso" ".iso" unused
      change Call.Ends (Filmed root) (Call.thenOnFailure _ _) _ _ _
      rw [Call.ends_thenOnFailure, Call.ends_bind, Agent.makeImage, Call.ends_bind, Call.ends_lift, Activity.runTool,
        ends_ask]
      intro r after'' grows
      have made := h₂.runTool (r := r) outside (Set.mem_insert_of_mem _ written) (Set.mem_insert _ _)
        (.of_made rfl (Set.mem_insert _ _)) grows
      have dropped : Program.Ends (Filmed root) (Scratch.dropFile image) (fun _ => Abandoned base directory) _ :=
        ends_dropFile.2 fun _ _ removes => made.dropFile removes
      obtain fault | ⟨success, output⟩ := r
      · exact dropped
      · cases success
        · exact dropped
        · exact made

/-- The image is left to the caller, unless it cannot be made. -/
theorem Building.ends_render (h : Building base ∅ s) (env : Agent.Environment) :
    Call.Ends (Filmed root) (Agent.render env) (Imaged base) (fun _ => Tidy base) s := by
  rw [Agent.render, Scratch.withDirectory, Call.ends_bind, Scratch.createDirectory, Call.ends_bind, Call.ends_lift,
    ends_ask]
  intro r after answers
  cases r with
  | error fault =>
    cases answers
    exact (h.unchanged (e := .createDirectory "agent-iso-dir") (r := .error fault) (fun _ => id) trivial).tidy
  | ok directory =>
    obtain ⟨unused, rfl⟩ := answers
    change Call.Ends (Filmed root) (Call.thenAlways _ _) _ _ _
    rw [Call.ends_thenAlways]
    refine ((h.createDirectory unused).ends_image _).mono (fun image s made => ?_) fun _ s abandoned => ?_
    · exact ends_dropDirectory.2 fun _ _ removes => made.dropDirectory removes
    · exact ends_dropDirectory.2 fun _ _ removes => abandoned.dropDirectory removes

/-! ## Calls -/

section
variable {α β : Type} {images : Temporaries}

theorem only_store (vm : String) (env : Agent.Environment) : (Agent.store vm env).run.Only (Attaches images) :=
  Call.only_bind (Call.only_remote trivial) fun _ => trivial

theorem only_detachImage (vm : String) : (Agent.detachImage vm).run.Only (Attaches images) := by
  refine Call.only_bind (Call.only_lift ((Program.only_ask _).2 trivial)) fun r => ?_
  cases r with
  | ok task => trivial
  | error fault => dsimp only; split <;> trivial

theorem only_fetch (vm : String) : (Agent.fetch vm).run.Only (Attaches images) := by
  refine Call.only_bind (Call.only_remote trivial) fun v => ?_
  cases v.metadata.find? Agent.metadataKey <;> trivial

end

theorem Building.sync_leaves (h : Building base ∅ s) (vm : String) (env : Agent.Environment) :
    Call.Leaves (Filmed root) (Agent.sync vm env) (Tidy base) s := by
  rw [Call.Leaves, Agent.sync, Call.ends_bind, Call.ends_report, Call.ends_bind]
  refine (h.ends_render env).mono (fun image s imaged => ?_) fun _ _ tidy => tidy
  have exchange : (do
      Call.report (.info "Updating metadata for VM" [("vm_id", vm)])
      Agent.store vm env
      Agent.detachImage vm
      Call.report (.info "Attaching ISO" [("vm_id", vm), ("path", image)])
      let _ ← Call.remote (.attachIso vm image) : Call Unit).run.Only (Attaches {image}) :=
    Call.only_bind trivial fun _ => Call.only_bind (only_store vm env) fun _ =>
      Call.only_bind (only_detachImage vm) fun _ => Call.only_bind trivial fun _ =>
        Call.only_bind (Call.only_remote rfl) fun _ => trivial
  rw [Call.ends_thenAlways]
  have dropped (s : Scene) (h : Imaged base image s) :
      Program.Ends (Filmed root) (Scratch.dropFile image) (fun _ => Tidy base) s :=
    ends_dropFile.2 fun _ _ removes => h.keeping.tidy h.vacated removes
  have exchanged : Call.Leaves (Filmed root) _ (Imaged base image) s :=
    leaves_of_steps exchange (fun _ _ _ _ attaches answers imaged => imaged.exchange attaches answers) imaged
  exact Call.Ends.mono exchanged (fun _ => dropped) fun _ => dropped

/-! ## Stemcells -/

/-- Work on a file, in which no image is attached. -/
def Handles (file : String) : Effect → Prop
  | .openFile _ => True
  | .writeFile path _ => path = file
  | .remote op => Attaches ∅ (.remote op)
  | _ => False

/-- The file is all that has been made. -/
structure Holding (base : Temporaries) (file : String) (s : Scene) : Prop where
  building : Building base {file} s
  homeless : ∀ directory, ¬s.1.Housed directory

theorem Holding.vacated {file : String} (h : Holding base file s) : Vacated s :=
  fun directory housed => absurd housed (h.homeless directory)

theorem Holding.next {file : String} (h : Holding base file s) (building : Building base {file} (s.next e r after))
    (houses : ∀ directory, ¬Asked.Houses ⟨e, r⟩ directory) : Holding base file (s.next e r after) :=
  ⟨building, fun directory housed => (Film.housed_append.1 housed).elim (h.homeless directory) (houses directory)⟩

theorem Holding.handles {file : String} (h : Holding base file s) (handles : Handles file e)
    (answers : s.2.Answers root e r after) : Holding base file (s.next e r after) := by
  have built := h.building
  cases e with
  | openFile path =>
    cases answers
    exact h.next (built.unchanged (fun _ => id) trivial) fun _ => id
  | writeFile path content =>
    cases handles
    exact h.next (built.next (built.spared.trans answers.1) built.apart subset_rfl (fun _ => id) trivial) fun _ => id
  | remote op =>
    obtain ⟨_, ⟨⟩, none⟩ := Attaches.remote handles
    cases answers
    exact h.next (built.unchanged (fun _ => id)
      (h.vacated.proper fun vm image eq => absurd (none vm image eq) (Set.notMem_empty _))) fun _ => id
  | runTool | createDirectory | createFile | removeDirectory | removeFile => exact absurd handles id

theorem Holding.leaves {α : Type} {call : Call α} {file : String} (h : Holding base file s)
    (handles : call.run.Only (Handles file)) : Call.Leaves (Filmed root) call (Holding base file) s :=
  leaves_of_steps handles (fun _ _ _ _ handles answers holding => holding.handles handles answers) h

theorem Holding.ends_dropFile {file : String} (h : Holding base file s) :
    Program.Ends (Filmed root) (Scratch.dropFile file) (fun _ => Tidy base) s :=
  Scene.ends_dropFile.2 fun _ _ removes => h.building.keeping.tidy h.vacated removes

/-- A new file. -/
theorem Building.createFile {file : String} (h : Building base ∅ s) (stem suffix : String)
    (unused : s.2.Unused root file) :
    Holding base file (s.next (.createFile stem suffix) (.ok file) (insert file s.2)) where
  building := by
    refine h.next (h.spared.trans (Set.subset_insert _ _)) ?_ (Set.empty_subset _) (fun _ => id) trivial
    exact Set.disjoint_singleton_right.2 fun stood =>
      Set.disjoint_left.1 unused.free (h.spared stood) (Temporaries.mem_inside_self file)
  homeless directory housed := (Film.housed_append.1 housed).elim
    (fun housed => absurd (h.made directory housed.made) (Set.notMem_empty _)) id

theorem Building.ends_decompress (h : Building base ∅ s) (source : String) :
    Call.Ends (Filmed root) (Stemcells.decompress source) (Holding base) (fun _ => Tidy base) s := by
  rw [Stemcells.decompress, Scratch.makingFile, Call.ends_bind, Scratch.createFile, Call.ends_bind, Call.ends_lift,
    ends_ask]
  intro r after answers
  cases r with
  | error fault =>
    cases answers
    exact (h.unchanged (e := .createFile "stemcell-image" ".img") (r := .error fault) (fun _ => id) trivial).tidy
  | ok target =>
    obtain ⟨unused, rfl⟩ := answers
    change Call.Ends (Filmed root) (Call.thenOnFailure _ _) _ _ _
    rw [Call.ends_thenOnFailure, Call.ends_bind]
    refine Call.Ends.mono ((h.createFile "stemcell-image" ".img" unused).leaves ?_) (fun _ _ holding => holding)
      fun _ _ holding => holding.ends_dropFile
    exact Call.only_bind (Call.only_lift (Stemcells.gunzip_only trivial fun _ => rfl)) fun r => by cases r <;> trivial

/-! ## Calls -/

section
variable (h : Building base ∅ s) (settings : Settings) (args : List Json)
include h

theorem Building.createStemcell_leaves : Call.Leaves (Filmed root) (Stemcells.create settings args) (Tidy base) s := by
  refine h.before trivial fun image s h => h.before trivial fun _ s h => h.before trivial fun _ s h => ?_
  rw [Call.Leaves, Call.ends_bind]
  refine (h.ends_decompress image.path).mono (fun raw s holding => ?_) fun _ _ tidy => tidy
  have uploads : (do
      let file ← Call.openFile raw
      Call.info "Beginning stemcell upload"
      let task ← Call.remote (.createImage image.name file)
      return .str task.entity.id : Call Json).run.Only (Handles raw) :=
    Call.only_bind (Call.only_bind (Call.only_lift ((Program.only_ask _).2 trivial)) fun _ => trivial) fun _ =>
      Call.only_bind trivial fun _ => Call.only_bind (Call.only_remote trivial) fun _ => trivial
  rw [Call.ends_thenAlways]
  exact Call.Ends.mono (holding.leaves uploads) (fun _ _ holding => holding.ends_dropFile)
    fun _ _ holding => holding.ends_dropFile

theorem Building.createVm_leaves : Call.Leaves (Filmed root) (Vms.create settings args) (Tidy base) s := by
  refine h.before trivial fun a s h => h.before trivial fun _ s h => h.before (Call.only_remote trivial) fun task s h =>
    h.before trivial fun _ s h => h.before (Call.only_remote trivial) fun vm s h => h.before trivial fun disk s h => ?_
  exact leaves_after (h.sync_leaves _ _) fun _ => Call.only_bind trivial fun _ =>
    Call.only_bind (Call.only_remote trivial) fun _ => trivial

theorem Building.attachDisk_leaves : Call.Leaves (Filmed root) (Disks.attach settings args) (Tidy base) s := by
  refine h.before trivial fun a s h => h.before trivial fun _ s h => h.before (Call.only_remote trivial) fun _ s h =>
    h.before trivial fun _ s h => h.before (only_fetch _) fun env s h => h.before trivial fun env s h => ?_
  exact leaves_after (h.sync_leaves _ _) fun _ => trivial

theorem Building.detachDisk_leaves : Call.Leaves (Filmed root) (Disks.detach settings args) (Tidy base) s := by
  refine h.before trivial fun a s h => h.before trivial fun _ s h => h.before (Call.only_remote trivial) fun _ s h =>
    h.before trivial fun _ s h => h.before (only_fetch _) fun env s h => h.before trivial fun struck s h => ?_
  have rest {s : Scene} (h : Building base ∅ s) :
      Call.Leaves (Filmed root) (Agent.sync a.1 struck.2 >>= fun _ => (Pure.pure Json.null : Call Json)) (Tidy base) s :=
    leaves_after (h.sync_leaves _ _) fun _ => trivial
  dsimp only
  split
  · exact h.before trivial fun _ s h => rest h
  · exact rest h

end

end Scene
end CloudProvider
