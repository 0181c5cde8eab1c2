import Mathlib.Data.Set.BooleanAlgebra
import Mathlib.Data.Set.Insert
import Mathlib.Order.CompletePartialOrder
import CloudProvider.Proofs.Synchronization

/-! # Temporary files

What stands in the directory for temporary files is a state of its own, and everything that is asked may change it in
its way (`Temporaries.Answers`). A film shows each thing that is asked with what stands before and after it. A scene
of it is proper if the tool finds the files that it is given, and if an operation of the control plane finds no
directory any more, and finds the image that it attaches (`Moment.Proper`).
-/

namespace CloudProvider

/-- The temporary files and directories that stand. -/
abbrev Temporaries := Set String

namespace Temporaries

/-- A directory with all that is in it. -/
def Inside (directory : String) : Temporaries := {path | path = directory ∨ (directory ++ "/").toList <+: path.toList}

theorem mem_inside_self (directory : String) : directory ∈ Inside directory := .inl rfl

theorem envFile_mem_inside (directory : String) : Agent.envFile directory ∈ Inside directory := by
  refine .inr ?_
  simp only [Agent.envFile, String.toList_append]
  exact List.prefix_append ..

/-- A name in the directory for temporary files, which is `root`. -/
def Placed (root path : String) : Prop := ∃ name : String, '/' ∉ name.toList ∧ path = root ++ "/" ++ name

/-- A new path: nothing stands there. -/
structure Unused (root : String) (t : Temporaries) (path : String) : Prop where
  placed : Placed root path
  free : Disjoint t (Inside path)

/-- A new file is not in a directory that stands beside it. -/
theorem Unused.outside {root directory path : String} {t : Temporaries} (unused : Unused root t path)
    (placed : Placed root directory) (stands : directory ∈ t) : path ∉ Inside directory := by
  rintro (rfl | below)
  · exact Set.disjoint_left.1 unused.free stands (mem_inside_self path)
  · obtain ⟨name, slashless, rfl⟩ := unused.placed
    obtain ⟨directory, -, rfl⟩ := placed
    simp only [String.toList_append, List.append_assoc] at below
    rw [List.prefix_append_right_inj, List.prefix_append_right_inj] at below
    exact slashless (below.subset (List.mem_append_right _ (by simp)))

/-- Of these paths all are removed, or there is a failure, which may leave any of them. -/
structure Removes (paths before : Temporaries) (r : Except FileFault Unit) (after : Temporaries) : Prop where
  shrinks : after ⊆ before
  spares : before \ paths ⊆ after
  gone : r = .ok () → Disjoint after paths

/-- What stands after something has been asked. What is made gets a new path; the tool deletes nothing, and may make
more than it is asked for; the control plane has no part in it. -/
def Answers (root : String) (before : Temporaries) : (e : Effect) → e.Reply → Temporaries → Prop
  | .createDirectory _, .ok path, after | .createFile _ _, .ok path, after =>
    Unused root before path ∧ after = insert path before
  | .createDirectory _, .error _, after | .createFile _ _, .error _, after => after = before
  | .writeFile path _, r, after => before ⊆ after ∧ after ⊆ insert path before ∧ (r = .ok () → path ∈ after)
  | .runTool _ _, _, after => before ⊆ after
  | .removeDirectory path, r, after => Removes (Inside path) before r after
  | .removeFile path, r, after => Removes {path} before r after
  | .openFile _, _, after | .remote _, _, after => after = before

end Temporaries

open Temporaries (Inside)

namespace Asked

/-- It makes something at the path. -/
def Makes : Asked Effect.Reply → String → Prop
  | ⟨.createDirectory _, .ok made⟩, path | ⟨.createFile _ _, .ok made⟩, path => path = made
  | ⟨.writeFile written _, _⟩, path => path = written
  | _, _ => False

/-- It makes this directory. -/
def Houses : Asked Effect.Reply → String → Prop
  | ⟨.createDirectory _, .ok made⟩, directory => directory = made
  | _, _ => False

/-- It fails to remove what may stand at the path. -/
def Leaves : Asked Effect.Reply → String → Prop
  | ⟨.removeDirectory directory, .error _⟩, path => path ∈ Inside directory
  | ⟨.removeFile file, .error _⟩, path => path = file
  | _, _ => False

theorem Houses.makes {asked : Asked Effect.Reply} {directory : String} (h : asked.Houses directory) :
    asked.Makes directory := by
  obtain ⟨e, r⟩ := asked
  cases e with
  | createDirectory stem =>
    cases r with
    | ok made => exact h
    | error fault => exact h
  | remote | runTool | openFile | writeFile | createFile | removeDirectory | removeFile => exact absurd h id

end Asked

/-- Something that was asked, and what stood before and after it. -/
structure Moment where
  asked : Asked Effect.Reply
  before : Temporaries
  after : Temporaries

/-- All that was asked, in its order. -/
abbrev Film := List Moment

namespace Film
variable {film : Film} {m : Moment} {path : String}

/-- Something has been made at the path. -/
def Made (film : Film) (path : String) : Prop := ∃ m ∈ film, m.asked.Makes path

/-- The directory has been made. -/
def Housed (film : Film) (directory : String) : Prop := ∃ m ∈ film, m.asked.Houses directory

/-- A removal of what may stand at the path has failed. -/
def Left (film : Film) (path : String) : Prop := ∃ m ∈ film, m.asked.Leaves path

/-- The file has been made and has stood ever since. -/
def Stood (film : Film) (file : String) : Prop := ∃ before made rest stem suffix, film = before ++ made :: rest ∧
  made.asked = ⟨.createFile stem suffix, .ok file⟩ ∧ ∀ m ∈ made :: rest, file ∈ m.after

theorem made_append : Made (film ++ [m]) path ↔ film.Made path ∨ m.asked.Makes path := by
  simp [Made, or_and_right, exists_or]

theorem housed_append : Housed (film ++ [m]) path ↔ film.Housed path ∨ m.asked.Houses path := by
  simp [Housed, or_and_right, exists_or]

theorem left_append : Left (film ++ [m]) path ↔ film.Left path ∨ m.asked.Leaves path := by
  simp [Left, or_and_right, exists_or]

theorem Housed.made (h : film.Housed path) : film.Made path := by
  obtain ⟨m, hm, houses⟩ := h
  exact ⟨m, hm, houses.makes⟩

theorem Stood.of_made {stem suffix : String} (made : m.asked = ⟨.createFile stem suffix, .ok path⟩)
    (stands : path ∈ m.after) : Stood (film ++ [m]) path :=
  ⟨film, m, [], stem, suffix, rfl, made, List.forall_mem_singleton.2 stands⟩

theorem Stood.append (h : film.Stood path) (stands : path ∈ m.after) : Stood (film ++ [m]) path := by
  obtain ⟨before, made, rest, stem, suffix, rfl, making, stood⟩ := h
  refine ⟨before, made, rest ++ [m], stem, suffix, List.append_assoc .., making, ?_⟩
  rw [← List.cons_append, List.forall_mem_append]
  exact ⟨stood, List.forall_mem_singleton.2 stands⟩

end Film

/-- While the tool runs, the directory stands that has been made for it, with the file that it is given and the image.
While the control plane is asked, no such directory stands unless its removal has failed, and an image that is
attached has stood from its making until this is done. -/
def Moment.Proper (past : Film) (m : Moment) : Prop :=
  match m.asked with
  | ⟨.runTool _ arguments, _⟩ => ∃ directory image, arguments = ["-o", image, Agent.envFile directory] ∧
    past.Housed directory ∧ {directory, Agent.envFile directory, image} ⊆ m.before ∩ m.after
  | ⟨.remote op, _⟩ => (∀ directory, past.Housed directory → ∀ path ∈ Inside directory, path ∈ m.before → past.Left path) ∧
    ∀ vm image, op = .attachIso vm image → Film.Stood (past ++ [m]) image
  | _ => True

/-- Every moment of the film is proper after those before it. -/
def Film.Proper (film : Film) : Prop := ∀ past m rest, film = past ++ m :: rest → m.Proper past

theorem Film.proper_nil : Film.Proper [] := fun _ _ _ h => by simp at h

theorem Film.Proper.append {film : Film} {m : Moment} (h : film.Proper) (hm : m.Proper film) :
    Film.Proper (film ++ [m]) := by
  intro past m' rest eq
  obtain rfl | ⟨rest, last, rfl⟩ := rest.eq_nil_or_concat
  · obtain ⟨rfl, same⟩ := List.append_inj' eq rfl
    cases same
    exact hm
  · rw [List.concat_eq_append, ← List.cons_append, ← List.append_assoc] at eq
    exact h past m' rest (List.append_inj' eq rfl).1

/-! ## Worlds -/

/-- The world keeps what stands, in the directory `root`. -/
structure World.KeepsTemporaries {σ : Type} (w : World σ) (root : String) (temps : σ → Temporaries) : Prop where
  answers (e : Effect) (s : σ) : (temps s).Answers root e (w.answer e s).1 (temps (w.answer e s).2)
  clock (s : σ) : temps (w.clock s).2 = temps s

/-- The world, with a film of what it is asked. -/
def World.filmed {σ : Type} (w : World σ) (temps : σ → Temporaries) : World (Film × σ) where
  answer e s := ((w.answer e s.2).1, s.1 ++ [⟨⟨e, (w.answer e s.2).1⟩, temps s.2, temps (w.answer e s.2).2⟩],
    (w.answer e s.2).2)
  clock s := ((w.clock s.2).1, s.1, (w.clock s.2).2)

/-- A film and what stands at its end. -/
abbrev Scene := Film × Temporaries

namespace Scene

/-- What is asked next, and what stands then. -/
def next (s : Scene) (e : Effect) (r : e.Reply) (after : Temporaries) : Scene :=
  (s.1 ++ [⟨⟨e, r⟩, s.2, after⟩], after)

/-- What is asked goes on the film. -/
def Filmed (root : String) (e : Effect) (s : Scene) (r : e.Reply) (s' : Scene) : Prop :=
  s.2.Answers root e r s'.2 ∧ s' = s.next e r s'.2

variable {root : String} {s : Scene}

theorem ends_ask {e : Effect} {Q : e.Reply → Scene → Prop} : Program.Ends (Filmed root) (Program.ask e) Q s ↔
    ∀ r after, s.2.Answers root e r after → Q r (s.next e r after) := by
  constructor
  · exact fun h r after answers => h r _ ⟨answers, rfl⟩
  · rintro h r ⟨film, after⟩ ⟨answers, eq⟩
    rw [eq]
    exact h r after answers

theorem ends_dropFile {path : String} {Q : Unit → Scene → Prop} :
    Program.Ends (Filmed root) (Scratch.dropFile path) Q s ↔
      ∀ r after, Temporaries.Removes {path} s.2 r after → Q () (s.next (.removeFile path) r after) := by
  rw [Scratch.dropFile, Program.ends_bind, ends_ask]
  refine forall_congr' fun r => forall_congr' fun after => imp_congr_right fun _ => ?_
  cases r <;> rfl

theorem ends_dropDirectory {path : String} {Q : Unit → Scene → Prop} :
    Program.Ends (Filmed root) (Scratch.dropDirectory path) Q s ↔
      ∀ r after, Temporaries.Removes (Inside path) s.2 r after → Q () (s.next (.removeDirectory path) r after) := by
  rw [Scratch.dropDirectory, Program.ends_bind, ends_ask]
  refine forall_congr' fun r => forall_congr' fun after => imp_congr_right fun _ => ?_
  cases r <;> rfl

end Scene
end CloudProvider
