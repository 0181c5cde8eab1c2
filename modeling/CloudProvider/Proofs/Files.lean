import Mathlib.Logic.Function.Basic
import CloudProvider.Proofs.Existence

/-! # Files that hold what is written to them

A world may answer anything when it is asked for files. Where it keeps them, what is read is what a file holds, a file
holds what has been written to it, and a new file takes nothing from those that are there (`World.KeepsFiles`). The
record of a call is then one of answers that follow on each other (`World.recording_files`).
-/

namespace CloudProvider

/-- What each path holds, where it holds anything. -/
abbrev Files := String → Option Text.Bytes

namespace Files

/-- How files can answer, and what they hold afterwards. A file may also fail to be made, opened, read or written, and
may hold anything after a failure; whatever else is asked, they may change. -/
def Answers (files : Files) : (e : Effect) → e.Reply → Files → Prop
  | .openFile path, r, files' => files' = files ∧ ∀ bytes, r >>= OpenFile.content = .ok bytes → files path = some bytes
  | .writeFile path content, r, files' => r = .ok () → files' path = some content
  | .createFile _ _, _, files' => ∀ path, files path ≠ none → files' path = files path
  | _, _, _ => True

/-- What was asked and answered leads from files to files. -/
inductive Leads : Files → Call.Course → Files → Prop
  | done (files : Files) : Leads files [] files
  | step {files files₁ files' : Files} {e : Effect} {r : e.Reply} {course : Call.Course}
    (h : files.Answers e r files₁) (rest : Leads files₁ course files') : Leads files (⟨e, r⟩ :: course) files'

end Files

/-- The world keeps the files that it `holds`. -/
structure World.KeepsFiles {σ : Type} (w : World σ) (holds : σ → Files) : Prop where
  answers (e : Effect) (s : σ) : (holds s).Answers e (w.answer e s).1 (holds (w.answer e s).2)
  clock (s : σ) : holds (w.clock s).2 = holds s

/-- A world of files, in which nothing fails. -/
def World.filing : World Files where
  answer
    | .remote _, files => (.error (.transport "no control plane"), files)
    | .runTool .., files => (.ok ⟨true, ""⟩, files)
    | .openFile path, files =>
      match files path with
      | some bytes => (.ok ⟨.ok bytes⟩, files)
      | none => (.error .absent, files)
    | .createDirectory stem, files => (.ok stem, files)
    | .createFile stem suffix, files => (.ok (stem ++ suffix), files)
    | .writeFile path content, files => (.ok (), Function.update files path (some content))
    | .removeDirectory _, files => (.ok (), files)
    | .removeFile path, files => (.ok (), Function.update files path none)
  clock files := ("00:00:00", files)

theorem World.filing_keeps : World.filing.KeepsFiles id where
  answers e files := by
    cases e with
    | openFile path =>
      show Files.Answers files (.openFile path) (World.filing.answer (.openFile path) files).1 _
      simp only [filing]
      cases held : files path with
      | some bytes => exact ⟨rfl, fun _ h => held.trans (congrArg some (Except.ok.inj h))⟩
      | none => exact ⟨rfl, nofun⟩
    | writeFile path content =>
      intro written
      show Function.update files path (some content) path = some content
      exact Function.update_self ..
    | createFile stem suffix => exact fun path _ => rfl
    | remote | runTool | createDirectory | removeDirectory | removeFile => trivial
  clock files := rfl

/-- Files that are asked, and the record of all that is asked. -/
def Files.Watched (e : Effect) (s : Call.Course × Files) (r : e.Reply) (s' : Call.Course × Files) : Prop :=
  s'.1 = s.1 ++ [⟨e, r⟩] ∧ s.2.Answers e r s'.2

/-- What a call ends in with its record, it ends in with the files that its record leads to. -/
theorem Program.Records.ends_filed {α : Type} {p : Activity α} {Q : α → Call.Course → Prop} (h : p.Records Q)
    (before : Call.Course) (files : Files) :
    Ends Files.Watched p (fun x s => ∃ course, s.1 = before ++ course ∧ Q x course ∧ files.Leads course s.2)
      (before, files) := h.ends_alongside Files.Leads .done .step before files

/-- The record of a call in a world that keeps files is one of what these answer. -/
theorem World.recording_files {σ : Type} (w : World σ) {holds : σ → Files} (keeps : w.KeepsFiles holds)
    (settings : Settings) (method : String) (args : List Json) (s : At (Call.Course × σ)) :
    let r := w.recording.respond settings method args s
    ∃ course, r.2.state.1 = s.state.1 ++ course ∧ (holds s.state.2).Leads course (holds r.2.state.2) := by
  have anything : (Dispatch.run .default settings method args).Records fun _ _ => True :=
    .of_forall (fun _ _ => trivial) _ _
  obtain ⟨_, _, -, course, told, -, leads⟩ := w.recording.respond_ends
    (fun s : Call.Course × σ => (s.1, holds s.2)) (fun e s => ⟨rfl, keeps.answers e s.2⟩)
    (fun s => Prod.ext rfl (keeps.clock s.2)) (anything.ends_filed s.state.1 (holds s.state.2))
  exact ⟨course, told, leads⟩

end CloudProvider
