import CloudProvider.Proofs.Files
import CloudProvider.Proofs.Gzip.Member

/-! # What becomes of a stemcell

Decompressing is all done before the control plane is asked for anything, so a file that cannot be decompressed leaves
no trace there. What is uploaded otherwise is what the first member of the file stands for: the members behind it are
passed over without a word.
-/

namespace CloudProvider

open Text (Bytes)
open Call (Course Records)

theorem Call.records_openFile (path : String) {Q : Except Failure OpenFile → Course → Prop} :
    Records (openFile path) Q ↔ ∀ r : Except FileFault OpenFile, Q (r.mapError .io) [⟨.openFile path, r⟩] := by
  rw [openFile, records_bind, records_lift, Activity.openFile, Program.records_ask]
  rfl

/-- The path of a file that was opened and read, with what was read. -/
def Asked.read? : Asked Effect.Reply → Option (String × Bytes)
  | ⟨.openFile path, .ok ⟨.ok bytes⟩⟩ => some (path, bytes)
  | _ => none

/-- What was read. -/
def reads (course : Course) : List (String × Bytes) := course.filterMap Asked.read?

namespace Stemcells

/-! ## The course of a call -/

/-- What a file stands for, or why it cannot be told. -/
def unpack (opened : Except FileFault OpenFile) : Except String Bytes :=
  match opened >>= OpenFile.content with
  | .error fault => .error fault.message
  | .ok bytes => (Gzip.decode bytes).mapError Gzip.Fault.message

/-- What the call comes to, given what became of the upload. -/
def uploaded : Except CloudFault Task → Except Failure Json
  | .error fault => .error (.cloud fault)
  | .ok task => .ok (.str task.entity.id)

/-- A stemcell is decompressed into a file of its own. Each step may fail; then the file is removed again. -/
inductive Decompressed (path : String) : Except Failure String → Course → Prop
  | unmade (fault : FileFault) : Decompressed path (.error (.io fault))
      [⟨.createFile "stemcell-image" ".img", .error fault⟩]
  | packed (raw : String) (opened : Except FileFault OpenFile) (message : String) (h : unpack opened = .error message)
    (removed : Except FileFault Unit) :
    Decompressed path (.error (.cpi message s!"Unable to decompress stemcell image '{path}'"))
      [⟨.createFile "stemcell-image" ".img", .ok raw⟩, ⟨.openFile path, opened⟩, ⟨.removeFile raw, removed⟩]
  | unwritten (raw : String) (opened : Except FileFault OpenFile) (content : Bytes) (h : unpack opened = .ok content)
    (fault : FileFault) (removed : Except FileFault Unit) :
    Decompressed path (.error (.cpi fault.message s!"Unable to decompress stemcell image '{path}'"))
      [⟨.createFile "stemcell-image" ".img", .ok raw⟩, ⟨.openFile path, opened⟩,
        ⟨.writeFile raw content, .error fault⟩, ⟨.removeFile raw, removed⟩]
  | written (raw : String) (opened : Except FileFault OpenFile) (content : Bytes) (h : unpack opened = .ok content) :
    Decompressed path (.ok raw)
      [⟨.createFile "stemcell-image" ".img", .ok raw⟩, ⟨.openFile path, opened⟩, ⟨.writeFile raw content, .ok ()⟩]

/-- The file is opened again and sent, and removed whatever becomes of that. -/
inductive Created (path name : String) : Except Failure Json → Course → Prop
  | stopped {f : Failure} {course : Course} (h : Decompressed path (.error f) course) :
    Created path name (.error f) course
  | unopened {raw : String} {course : Course} (h : Decompressed path (.ok raw) course) (fault : FileFault)
    (removed : Except FileFault Unit) :
    Created path name (.error (.io fault)) (course ++ [⟨.openFile raw, .error fault⟩, ⟨.removeFile raw, removed⟩])
  | sent {raw : String} {course : Course} (h : Decompressed path (.ok raw) course) (file : OpenFile)
    (answer : Except CloudFault Task) (removed : Except FileFault Unit) :
    Created path name (uploaded answer) (course ++ [⟨.openFile raw, .ok file⟩,
      ⟨.remote (.createImage name file), answer⟩, ⟨.removeFile raw, removed⟩])

theorem records_gunzip (source target : String) {Q : Except String Nat → Course → Prop} :
    (gunzip source target).Records Q ↔ ∀ opened : Except FileFault OpenFile,
      match unpack opened with
      | .error message => Q (.error message) [⟨.openFile source, opened⟩]
      | .ok content => ∀ written : Except FileFault Unit,
        Q ((written.map fun _ => content.length).mapError FileFault.message)
          [⟨.openFile source, opened⟩, ⟨.writeFile target content, written⟩] := by
  rw [gunzip, readFile, Program.records_bind, Program.records_bind, Activity.openFile, Program.records_ask]
  refine forall_congr' fun opened => ?_
  rcases opened with fault | ⟨fault | bytes⟩
  · rfl
  · rfl
  have unpacked : unpack (.ok ⟨.ok bytes⟩) = (Gzip.decode bytes).mapError Gzip.Fault.message := rfl
  rw [unpacked]
  dsimp only
  rw [Program.records_pure]
  dsimp only
  cases Gzip.decode bytes with
  | error fault => rfl
  | ok content =>
    dsimp only
    rw [Program.records_bind, Activity.writeFile, Program.records_ask]
    refine forall_congr' fun written => ?_
    cases written with
    | error fault => rfl
    | ok u => rfl

theorem decompress_records (path : String) : Records (decompress path) (Decompressed path) := by
  rw [decompress, Scratch.makingFile, Call.records_bind, Call.records_createFile]
  rintro (fault | raw)
  · exact .unmade fault
  change Records _ _
  rw [Call.records_thenOnFailure, Call.records_bind, Call.records_bind, Call.records_lift, records_gunzip]
  intro opened
  cases h : unpack opened with
  | error message => exact (Call.records_dropFile raw).2 fun removed => .packed raw opened message h removed
  | ok content =>
    rintro (fault | ⟨⟩)
    · exact (Call.records_dropFile raw).2 fun removed => .unwritten raw opened content h fault removed
    · exact .written raw opened content h

theorem Image.parse_of_str {path : String} (more : List Json) :
    Image.parse (.str path :: more) = match PathName.baseName? path with
      | some name => .ok ⟨path, name⟩
      | none => .error (.wrongValue "image_path" path) := by
  have enough : ¬ (Json.str path :: more).length < 1 := by simp
  rw [parse, Arguments.expect, if_neg enough]
  rfl

theorem create_records (settings : Settings) {path name : String} (named : PathName.baseName? path = some name)
    (more : List Json) : Records (create settings (.str path :: more)) (Created path name) := by
  rw [create, Call.records_bind, Call.argument, Call.records_ofExcept, Image.parse_of_str, named]
  change Records _ _
  rw [Call.records_bind, Call.records_info, Call.records_bind, Call.records_info, Call.records_bind]
  refine (decompress_records path).mono fun r course made => ?_
  cases r with
  | error f => exact .stopped made
  | ok raw =>
    change Records _ _
    rw [Call.records_thenAlways, Call.records_bind, Call.records_openFile]
    rintro (fault | file)
    · exact (Call.records_dropFile raw).2 fun removed => .unopened made fault removed
    change Records _ _
    rw [Call.records_bind, Call.records_info, Call.records_bind, Call.records_remote]
    rintro (fault | task)
    · exact (Call.records_dropFile raw).2 fun removed => .sent made file (.error fault) removed
    · exact (Call.records_dropFile raw).2 fun removed => .sent made file (.ok task) removed

/-- A path that ends in no name is refused. -/
theorem create_nameless (settings : Settings) {path : String} (nameless : PathName.baseName? path = none)
    (more : List Json) : Records (create settings (.str path :: more)) fun r course =>
      r = .error (.argument (.wrongValue "image_path" path)) ∧ course = [] := by
  rw [create, Call.records_bind, Call.argument, Call.records_ofExcept, Image.parse_of_str, nameless]
  exact ⟨rfl, rfl⟩

/-! ## What is uploaded -/

theorem unpack_eq_ok {opened : Except FileFault OpenFile} {content : Bytes} :
    unpack opened = .ok content ↔ ∃ bytes, opened = .ok ⟨.ok bytes⟩ ∧ Gzip.decode bytes = .ok content := by
  rcases opened with fault | ⟨fault | bytes⟩
  · exact ⟨nofun, nofun⟩
  · exact ⟨nofun, nofun⟩
  have unpacked : unpack (.ok ⟨.ok bytes⟩) = (Gzip.decode bytes).mapError Gzip.Fault.message := rfl
  rw [unpacked]
  cases decoded : Gzip.decode bytes with
  | error fault =>
    refine ⟨nofun, ?_⟩
    rintro ⟨_, ⟨⟩, h⟩
    cases decoded.symm.trans h
  | ok c =>
    constructor
    · rintro ⟨⟩
      exact ⟨bytes, rfl, decoded⟩
    · rintro ⟨_, ⟨⟩, h⟩
      exact congrArg _ (Except.ok.inj (decoded.symm.trans h))

namespace Decompressed
variable {path : String} {course : Course}

/-- Nothing is asked of the control plane. -/
theorem quiet {r : Except Failure String} (h : Decompressed path r course) : operations course = [] := by
  cases h <;> rfl

theorem isLocal {f : Failure} (h : Decompressed path (.error f) course) : f.IsLocal := by
  cases h with
  | unmade fault => trivial
  | packed | unwritten => exact ⟨rfl, rfl⟩

/-- What is written is what the first member of the file stands for. -/
theorem unpacks {raw : String} (h : Decompressed path (.ok raw) course) : ∃ bytes content,
    Gzip.decode bytes = .ok content ∧ course = [⟨.createFile "stemcell-image" ".img", .ok raw⟩,
      ⟨.openFile path, .ok ⟨.ok bytes⟩⟩, ⟨.writeFile raw content, .ok ()⟩] := by
  cases h with
  | written raw opened content h =>
    obtain ⟨bytes, rfl, decoded⟩ := unpack_eq_ok.1 h
    exact ⟨bytes, content, decoded, rfl⟩

end Decompressed

namespace Created
variable {path name : String} {course : Course} {r : Except Failure Json}

/-- Without a member at the beginning of the file nothing reaches the control plane. -/
theorem fails (h : Created path name r course)
    (broken : ∀ bytes, (path, bytes) ∈ reads course → Gzip.Broken bytes) :
    (∃ f, r = .error f ∧ f.IsLocal) ∧ operations course = [] := by
  have impossible {raw : String} {first rest : Course} (h : Decompressed path (.ok raw) first)
      (split : course = first ++ rest) : False := by
    obtain ⟨bytes, content, decoded, rfl⟩ := h.unpacks
    obtain ⟨f, failed⟩ := Gzip.broken_iff.1 (broken bytes (by simp [split, reads, Asked.read?]))
    cases failed.symm.trans decoded
  cases h with
  | stopped h => exact ⟨⟨_, rfl, h.isLocal⟩, h.quiet⟩
  | unopened h fault removed => exact (impossible h rfl).elim
  | sent h file answer removed => exact (impossible h rfl).elim

end Created

/-! ## Files that are kept -/

end Stemcells

/-- How a file could not be made, opened, read or written. -/
def Asked.fileFault? : Asked Effect.Reply → Option FileFault
  | ⟨.createFile .., .error fault⟩ | ⟨.writeFile .., .error fault⟩ | ⟨.openFile _, .error fault⟩
  | ⟨.openFile _, .ok ⟨.error fault⟩⟩ => some fault
  | _ => none

/-- An image of this name and content is uploaded, unless a file fails, and nothing else is asked of the control plane. -/
structure Uploads (name : String) (content : Bytes) (course : Course) : Prop where
  only : ∀ a ∈ operations course, ∃ file, a.op = .createImage name file ∧
    ∀ bytes, file.content = .ok bytes → bytes = content
  once : (∀ a ∈ course, a.fileFault? = none) →
    ∃ answer, operations course = [⟨.createImage name ⟨.ok content⟩, answer⟩]

section
variable {path name : String} {course : Course} {files files' : Files} {bytes content : Bytes}

theorem Uploads.of_fault (quiet : operations course = []) (faulty : ∃ a ∈ course, a.fileFault? ≠ none) :
    Uploads name content course where
  only a ha := by
    rw [quiet] at ha
    cases ha
  once smooth := by
    obtain ⟨a, ha, faulty⟩ := faulty
    exact absurd (smooth a ha) faulty

/-- What is read of a file is what it held before the new file was made. -/
theorem Files.Leads.read_back {stem suffix : String} {made : Except FileFault String} {bytes' : Bytes} {rest : Course}
    (h : files.Leads (⟨.createFile stem suffix, made⟩ :: ⟨.openFile path, .ok ⟨.ok bytes'⟩⟩ :: rest) files')
    (there : files path = some bytes) : bytes' = bytes ∧ ∃ files₁ : Files, files₁.Leads rest files' := by
  cases h with | step created leads =>
  cases leads with | step opened leads =>
  have kept := (created path (there ▸ Option.some_ne_none bytes)).trans there
  exact ⟨Option.some.inj ((opened.2 bytes' rfl).symm.trans kept), _, leads⟩

namespace Stemcells

/-- The file that has been written holds what the first member of the image stands for. -/
theorem Decompressed.holds {raw : String} {rest : Course} (h : Decompressed path (.ok raw) course)
    (leads : files.Leads (course ++ rest) files') (there : files path = some bytes)
    (decoded : Gzip.decode bytes = .ok content) :
    ∃ files₁ : Files, files₁ raw = some content ∧ files₁.Leads rest files' := by
  obtain ⟨bytes', content', decoded', rfl⟩ := h.unpacks
  obtain ⟨rfl, files₁, leads⟩ := leads.read_back there
  cases leads with | step written leads =>
  obtain rfl : content' = content := Except.ok.inj (decoded'.symm.trans decoded)
  exact ⟨_, written rfl, leads⟩

/-- A file that can be decompressed is, unless a file fails. -/
theorem Decompressed.stumbles {f : Failure} (h : Decompressed path (.error f) course)
    (leads : files.Leads course files') (there : files path = some bytes) (decoded : Gzip.decode bytes = .ok content) :
    ∃ a ∈ course, a.fileFault? ≠ none := by
  cases h with
  | unmade fault => exact ⟨_, List.mem_singleton_self _, Option.some_ne_none fault⟩
  | unwritten raw opened content h fault removed =>
    exact ⟨⟨.writeFile raw content, .error fault⟩, by simp, Option.some_ne_none fault⟩
  | packed raw opened message h removed =>
    rcases opened with fault | ⟨fault | bytes'⟩
    · exact ⟨⟨.openFile path, .error fault⟩, by simp, Option.some_ne_none fault⟩
    · exact ⟨⟨.openFile path, .ok ⟨.error fault⟩⟩, by simp, Option.some_ne_none fault⟩
    · obtain ⟨rfl, -⟩ := leads.read_back there
      cases h.symm.trans (unpack_eq_ok.2 ⟨bytes', rfl, decoded⟩)

/-- What the image begins with is uploaded. -/
theorem Created.uploads {r : Except Failure Json} (h : Created path name r course)
    (leads : files.Leads course files') (there : files path = some bytes) (decoded : Gzip.decode bytes = .ok content) :
    Uploads name content course := by
  cases h with
  | stopped h => exact .of_fault h.quiet (h.stumbles leads there decoded)
  | @unopened raw course h fault removed =>
    refine .of_fault ?_ ⟨⟨.openFile raw, .error fault⟩, by simp, Option.some_ne_none fault⟩
    rw [operations, List.filterMap_append]
    exact List.append_eq_nil_iff.2 ⟨h.quiet, rfl⟩
  | @sent raw course h file answer removed =>
    obtain ⟨files₁, holds, leads⟩ := h.holds leads there decoded
    cases leads with | step opened leads =>
    have asked : operations (course ++ [⟨.openFile raw, .ok file⟩, ⟨.remote (.createImage name file), answer⟩,
        ⟨.removeFile raw, removed⟩]) = [⟨.createImage name file, answer⟩] := by
      rw [operations, List.filterMap_append]
      exact congrArg (· ++ _) h.quiet
    have read : ∀ bytes, file.content = .ok bytes → bytes = content := fun bytes read =>
      Option.some.inj ((opened.2 bytes read).symm.trans holds)
    refine ⟨fun a ha => ?_, fun smooth => ?_⟩
    · rw [asked] at ha
      obtain rfl := List.mem_singleton.1 ha
      exact ⟨file, rfl, read⟩
    · obtain ⟨fault | content'⟩ := file
      · exact absurd (smooth ⟨.openFile raw, .ok ⟨.error fault⟩⟩ (by simp)) (Option.some_ne_none fault)
      · obtain rfl := read content' rfl
        exact ⟨answer, asked⟩

end Stemcells
end

theorem Failure.IsLocal.refused {f : Failure} (h : f.IsLocal) (log : String) :
    (Response.ofOutcome (.error f) log).Refused := by
  refine ⟨rfl, f.message, ?_⟩
  show some (ResponseError.mk f.classify.1 f.message f.classify.2) = _
  rw [h.classify]

/-- A stemcell that cannot be decompressed is refused, whatever the world answers, and nothing is asked of the control
plane. In a world that keeps its files, what is uploaded under the base name is what the first member of the file
stands for, whatever stands behind it; that is all of the image as long as the other members stand for nothing. -/
theorem World.respond_uploads_first {σ : Type} (w : World σ) (settings : Settings) (path : String) (more : List Json)
    (s : At (Course × σ)) :
    let r := w.recording.respond settings "create_stemcell" (.str path :: more) s
    ∃ course, r.2.state.1 = s.state.1 ++ course ∧
      ((∀ bytes, (path, bytes) ∈ reads course → Gzip.Broken bytes) → r.1.Refused ∧ operations course = []) ∧
      ∀ (holds : σ → Files) (name : String) (first : Bytes) (rest members : List Bytes) (tail : Bytes),
        w.KeepsFiles holds → PathName.baseName? path = some name → List.Forall₂ Gzip.Member (first :: rest) members →
        holds s.state.2 path = some (members.flatten ++ tail) →
          Uploads name first course ∧
            ((∀ content ∈ rest, content = []) → Uploads name (first :: rest).flatten course) := by
  intro r
  cases named : PathName.baseName? path with
  | none =>
    obtain ⟨_, log, course, response, told, rfl, rfl⟩ :=
      w.recording_records settings .createStemcell (Stemcells.create_nameless settings named more) s
    refine ⟨[], told, fun _ => ⟨?_, rfl⟩, fun _ _ _ _ _ _ _ impossible => nomatch impossible⟩
    have isLocal : (Failure.argument (.wrongValue "image_path" path)).IsLocal := trivial
    exact response ▸ isLocal.refused log
  | some name =>
    obtain ⟨outcome, log, course, response, told, created⟩ :=
      w.recording_records settings .createStemcell (Stemcells.create_records settings named more) s
    refine ⟨course, told, fun broken => ?_, ?_⟩
    · obtain ⟨⟨f, rfl, isLocal⟩, quiet⟩ := created.fails broken
      exact ⟨response ▸ isLocal.refused log, quiet⟩
    · rintro holds _ first rest members tail keeps ⟨⟩ whole there
      obtain ⟨course', told', leads⟩ := w.recording_files keeps settings "create_stemcell" (.str path :: more) s
      obtain rfl : course' = course := List.append_cancel_left (told'.symm.trans told)
      have uploads : Uploads name first course' := created.uploads leads there (Gzip.decode_members whole tail)
      refine ⟨uploads, fun empty => ?_⟩
      have nothing : rest.flatten = [] := List.flatten_eq_nil_iff.2 empty
      rwa [List.flatten_cons, nothing, List.append_nil]

/-- Where there is a file of this name and no other. -/
def Files.single (path : String) (bytes : Bytes) : Files := fun p => if p = path then some bytes else none

/-- A file that is no member is refused; an image in two members, the second of which stands for nothing, is uploaded. -/
theorem World.respond_uploads_first_stored :
    let respond := fun bytes => World.filing.recording.respond (.bare "http://127.0.0.1" "project" "nats")
      "create_stemcell" [.str "image.tgz"] ⟨.empty, [], Files.single "image.tgz" bytes⟩
    (respond [1, 2, 3]).1.Refused ∧
      Uploads "image.tgz" [97] (respond (Gzip.store [97] ++ Gzip.store [])).2.state.1 := by
  intro respond
  have uploads (bytes : Bytes) := respond_uploads_first World.filing (.bare "http://127.0.0.1" "project" "nats")
    "image.tgz" [] ⟨.empty, [], Files.single "image.tgz" bytes⟩
  constructor
  · obtain ⟨_, rfl, refused, -⟩ := uploads [1, 2, 3]
    have read : reads (respond [1, 2, 3]).2.state.1 = [("image.tgz", [1, 2, 3])] := by decide +kernel
    refine (refused fun bytes given => ?_).1
    have given : ("image.tgz", bytes) ∈ reads (respond [1, 2, 3]).2.state.1 := given
    rw [read] at given
    obtain ⟨-, rfl⟩ := Prod.mk.inj (List.mem_singleton.1 given)
    exact .of_headless (by decide +kernel)
  · obtain ⟨_, rfl, -, uploads⟩ := uploads (Gzip.store [97] ++ Gzip.store [])
    have members : List.Forall₂ Gzip.Member [[97], []] [Gzip.store [97], Gzip.store []] :=
      .cons (Gzip.store_member _) (.cons (Gzip.store_member _) .nil)
    obtain ⟨-, whole⟩ := uploads id "image.tgz" [97] [[]] _ [] World.filing_keeps (by decide +kernel) members
      (by decide +kernel)
    exact whole (by simp)

/-- Of an image in two members only the first is uploaded. -/
theorem World.respond_drops_second :
    let files := Files.single "image.tgz" (Gzip.store [97] ++ Gzip.store [98])
    let r := World.filing.recording.respond (.bare "http://127.0.0.1" "project" "nats") "create_stemcell"
      [.str "image.tgz"] ⟨.empty, [], files⟩
    (operations r.2.state.1).map (fun a => match a.op with
      | .createImage name ⟨.ok content⟩ => some (name, content)
      | _ => none) = [some ("image.tgz", [97])] ∧
    List.Forall₂ Gzip.Member [[97], [98]] [Gzip.store [97], Gzip.store [98]] ∧
    [[97], [98]].flatten ≠ ([97] : Bytes) := by
  refine ⟨by decide +kernel, .cons (Gzip.store_member _) (.cons (Gzip.store_member _) .nil), by decide⟩

end CloudProvider
