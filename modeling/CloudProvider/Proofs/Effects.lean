import CloudProvider.Proofs.World

/-! # The parts that calls are made of

Statements are about the control plane, so files and the image tool matter for two things only: they
leave the state alone (`Quiet`), and a call that they fail has a failure of its own making
(`Failure.IsLocal`). Where they do as they are told (`Obliging`), they fail no call. Each part of a call
has one rule here, and calls are taken apart by these rules.
-/

namespace CloudProvider

/-- All but an operation of the control plane. -/
def Effect.IsLocal : Effect → Prop
  | .remote _ => False
  | _ => True

/-- The image tool succeeds; temporary files and directories can be made and written. -/
def Effect.Works : (e : Effect) → e.Reply → Prop
  | .runTool .., r => ∃ output, r = .ok ⟨true, output⟩
  | .writeFile .., r => r = .ok ()
  | .createDirectory _, r | .createFile .., r => ∃ path, r = .ok path
  | .remote _, _ | .openFile _, _ | .removeDirectory _, _ | .removeFile _, _ => True

/-- A world in which nothing but the control plane fails. -/
def World.Works {σ : Type} (w : World σ) : Prop := ∀ (e : Effect) (s : σ), e.Works (w.answer e s).1

/-- A world that works. -/
def World.calm : World Unit where
  answer
    | .remote _, s => (.error (.transport "no control plane"), s)
    | .runTool .., s => (.ok ⟨true, ""⟩, s)
    | .openFile _, s => (.error .absent, s)
    | .createDirectory stem, s => (.ok stem, s)
    | .createFile stem suffix, s => (.ok (stem ++ suffix), s)
    | .writeFile .., s | .removeDirectory _, s | .removeFile _, s => (.ok (), s)
  clock s := ("00:00:00", s)

theorem World.calm_works : World.calm.Works := by
  intro e s
  cases e with
  | remote op | openFile path | removeDirectory path | removeFile path => trivial
  | runTool program arguments => exact ⟨"", rfl⟩
  | writeFile path content => rfl
  | createDirectory stem | createFile stem suffix => exact ⟨_, rfl⟩

/-- What arguments, files, documents and the image tool can bring about. -/
def Failure.IsLocal : Failure → Prop
  | .argument _ | .io _ | .serialization _ | .metadata _ | .mediaRender .. => True
  | .classified kind canRetry _ => kind = .cpiError ∧ canRetry = false
  | .cloud _ | .config _ | .internal _ => False

theorem Failure.IsLocal.classify {f : Failure} (h : f.IsLocal) : f.classify = (.cpiError, false) := by
  cases f with
  | classified kind canRetry message => exact Prod.ext h.1 h.2
  | cloud fault | config message | internal message => exact absurd h id
  | argument fault | io fault | serialization fault | metadata message | mediaRender message output => rfl

section
variable {σ α : Type}

/-- Only operations of the control plane change the state. -/
def Quiet (may : (e : Effect) → σ → e.Reply → σ → Prop) : Prop :=
  ∀ e s r s', e.IsLocal → may e s r s' → s' = s

/-- All else does as it is told. -/
def Obliging (may : (e : Effect) → σ → e.Reply → σ → Prop) : Prop :=
  ∀ e s r s', may e s r s' → e.Works r

variable {may : (e : Effect) → σ → e.Reply → σ → Prop}

theorem Scratch.ends_reportRemoval (what path : String) (r : Except FileFault Unit)
    {Q : Unit → σ → Prop} {s : σ} (hQ : Q () s) :
    Program.Ends may (Scratch.reportRemoval what path r) Q s := by
  cases r with
  | ok u => exact hQ
  | error fault => exact hQ

/-- Unpacking opens the source and writes the target. -/
theorem Stemcells.gunzip_only {allowed : Effect → Prop} {source target : String} (opens : allowed (.openFile source))
    (writes : ∀ content, allowed (.writeFile target content)) :
    (Stemcells.gunzip source target).Only allowed := by
  have read : (Stemcells.readFile source).Only allowed := by
    refine Program.Only.bind ((Program.only_ask _).2 opens) fun r => ?_
    cases r <;> trivial
  refine read.bind fun r => ?_
  cases r with
  | error fault => trivial
  | ok bytes =>
    dsimp only
    cases Gzip.decode bytes with
    | error fault => trivial
    | ok content =>
      refine Program.Only.bind ((Program.only_ask _).2 (writes content)) fun r => ?_
      cases r <;> trivial

variable (quiet : Quiet may)
include quiet

theorem Quiet.ends_ask {e : Effect} (he : e.IsLocal) {Q : e.Reply → σ → Prop} {s : σ}
    (hQ : ∀ r, (Obliging may → e.Works r) → Q r s) : Program.Ends may (Program.ask e) Q s := by
  intro r s' hm
  obtain rfl := quiet e s r s' he hm
  exact hQ r fun works => works e s' r s' hm

theorem Quiet.ends_only {p : Activity α} (hp : p.Only Effect.IsLocal) {Q : α → σ → Prop} {s : σ}
    (hQ : ∀ x, Q x s) : Program.Ends may p Q s := by
  have same : Program.Ends may p (fun _ t => t = s) s :=
    hp.ends (fun op t r t' ho hm ht => (quiet op t r t' ho hm).trans ht) rfl
  exact same.mono fun x t ht => ht ▸ hQ x

/-! ## Scratch files -/

theorem Quiet.ends_dropDirectory (path : String) {Q : Unit → σ → Prop} {s : σ} (hQ : Q () s) :
    Program.Ends may (Scratch.dropDirectory path) Q s := by
  rw [Scratch.dropDirectory, Program.ends_bind]
  exact quiet.ends_ask (by trivial) fun r _ => Scratch.ends_reportRemoval _ _ r hQ

theorem Quiet.ends_dropFile (path : String) {Q : Unit → σ → Prop} {s : σ} (hQ : Q () s) :
    Program.Ends may (Scratch.dropFile path) Q s := by
  rw [Scratch.dropFile, Program.ends_bind]
  exact quiet.ends_ask (by trivial) fun r _ => Scratch.ends_reportRemoval _ _ r hQ

/-! ## Stemcells -/

section
variable {E : Failure → σ → Prop} {s : σ} (hE : ∀ f, f.IsLocal → E f s)
include hE

theorem Quiet.ends_openFile (path : String) {Q : OpenFile → σ → Prop} (hQ : ∀ file, Q file s) :
    Call.Ends may (Call.openFile path) Q E s := by
  rw [Call.openFile, Call.ends_bind, Call.ends_lift, Activity.openFile]
  refine quiet.ends_ask (by trivial) fun r _ => ?_
  cases r with
  | ok file => exact hQ file
  | error fault => exact hE _ trivial

theorem Quiet.ends_decompress (source : String) {Q : String → σ → Prop} (hQ : ∀ path, Q path s) :
    Call.Ends may (Stemcells.decompress source) Q E s := by
  rw [Stemcells.decompress, Scratch.makingFile, Scratch.createFile, Call.ends_bind, Call.ends_bind,
    Call.ends_lift]
  refine quiet.ends_ask (by trivial) fun r _ => ?_
  cases r with
  | error fault => exact hE _ trivial
  | ok image =>
    have drop : ∀ f, f.IsLocal → Program.Ends may (Scratch.dropFile image) (fun _ => E f) s :=
      fun f hf => quiet.ends_dropFile image (hE f hf)
    change Call.Ends may (Call.thenOnFailure _ _) Q E s
    simp only [Call.ends_thenOnFailure, Call.ends_bind, Call.ends_lift]
    refine quiet.ends_only (Stemcells.gunzip_only trivial fun _ => trivial) fun r => ?_
    cases r with
    | error message => exact drop _ ⟨rfl, rfl⟩
    | ok size => exact hQ image

end

/-! ## Environments -/

variable {Q : α → σ → Prop} {E : Failure → σ → Prop} {s : σ}
variable (hE : ∀ f, f.IsLocal → ¬ Obliging may → E f s)
include hE

theorem Quiet.ends_createDirectory (stem : String) {Q : String → σ → Prop} (hQ : ∀ path, Q path s) :
    Call.Ends may (Scratch.createDirectory stem) Q E s := by
  rw [Scratch.createDirectory, Call.ends_bind, Call.ends_lift]
  refine quiet.ends_ask (by trivial) fun r works => ?_
  cases r with
  | ok path => exact hQ path
  | error fault => exact hE _ trivial fun h => nomatch works h

theorem Quiet.ends_createFile (stem suffix : String) {Q : String → σ → Prop} (hQ : ∀ path, Q path s) :
    Call.Ends may (Scratch.createFile stem suffix) Q E s := by
  rw [Scratch.createFile, Call.ends_bind, Call.ends_lift]
  refine quiet.ends_ask (by trivial) fun r works => ?_
  cases r with
  | ok path => exact hQ path
  | error fault => exact hE _ trivial fun h => nomatch works h

theorem Quiet.ends_writeFile (path : String) (content : Text.Bytes) {Q : Unit → σ → Prop}
    (hQ : Q () s) : Call.Ends may (Call.writeFile path content) Q E s := by
  rw [Call.writeFile, Call.ends_bind, Call.ends_lift, Activity.writeFile]
  refine quiet.ends_ask (by trivial) fun r works => ?_
  cases r with
  | ok u => exact hQ
  | error fault => exact hE _ trivial fun h => nomatch works h

theorem Quiet.ends_makeImage (image file : String) {Q : Unit → σ → Prop} (hQ : Q () s) :
    Call.Ends may (Agent.makeImage image file) Q E s := by
  rw [Agent.makeImage, Call.ends_bind, Call.ends_lift, Activity.runTool]
  refine quiet.ends_ask (by trivial) fun r works => ?_
  cases r with
  | error fault => exact hE _ trivial fun h => nomatch works h
  | ok outcome =>
    obtain ⟨success, output⟩ := outcome
    cases success with
    | true => exact hQ
    | false => exact hE _ trivial fun h => nomatch works h

theorem Quiet.ends_render (env : Agent.Environment) {Q : String → σ → Prop} (hQ : ∀ path, Q path s) :
    Call.Ends may (Agent.render env) Q E s := by
  rw [Agent.render, Scratch.withDirectory, Call.ends_bind]
  refine quiet.ends_createDirectory hE _ fun directory => ?_
  have drop : ∀ {Q : σ → Prop}, Q s → Program.Ends may (Scratch.dropDirectory directory)
      (fun _ => Q) s := fun h => quiet.ends_dropDirectory directory h
  rw [Call.ends_thenAlways, Call.ends_bind]
  refine quiet.ends_writeFile (fun f hf hw => drop (hE f hf hw)) _ _ ?_
  rw [Scratch.makingFile, Call.ends_bind]
  refine quiet.ends_createFile (fun f hf hw => drop (hE f hf hw)) _ _ fun image => ?_
  rw [Call.ends_thenOnFailure, Call.ends_bind]
  refine quiet.ends_makeImage (fun f hf hw => quiet.ends_dropFile image (drop (hE f hf hw))) _ _ ?_
  exact drop (hQ image)

/-- Brings both copies up to date once the image is made. -/
def Agent.exchange (vm : String) (env : Agent.Environment) (image : String) : Call Unit := do
  Agent.store vm env
  Agent.detachImage vm
  let _ ← Call.remote (.attachIso vm image)

/-- What comes of the exchange of the copies is what comes of the whole. -/
theorem Quiet.ends_sync (vm : String) (env : Agent.Environment) {Q : Unit → σ → Prop}
    (h : ∀ image, Call.Ends may (Agent.exchange vm env image) Q E s) :
    Call.Ends may (Agent.sync vm env) Q E s := by
  rw [Agent.sync, Call.ends_bind, Call.ends_report, Call.ends_bind]
  refine quiet.ends_render hE env fun image => ?_
  rw [Call.ends_thenAlways, Call.ends_bind, Call.ends_report]
  have h' : Call.Ends may (Agent.exchange vm env image)
      (fun x => Program.Ends may (Scratch.dropFile image) fun _ => Q x)
      (fun f => Program.Ends may (Scratch.dropFile image) fun _ => E f) s :=
    (h image).mono (fun x s hs => quiet.ends_dropFile image hs)
      (fun f s hs => quiet.ends_dropFile image hs)
  simpa only [Agent.exchange, Call.ends_bind, Call.ends_report] using h'

end
end CloudProvider
