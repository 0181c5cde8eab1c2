import CloudProvider.Dispatch
import CloudProvider.Log.Timestamp
import CloudProvider.Startup

/-!
A whole process, as a program over the system: it reads the settings' file, and if it comes to the call it
exchanges requests with the control plane, handles files and runs the image tool, each event of the call
under the time at which it comes. At its end it writes the response and a line break. A process that would
ask or expand for ever is given up and writes nothing.
-/

namespace CloudProvider.Process

/-- What a process asks of the system. -/
inductive Op (Path : Type) where
  | readSettings (path : Path)
  | wire (op : Wire)
  /-- An effect of the call that is not a matter of the control plane. -/
  | effect (e : Effect)
  /-- Seconds since the beginning of 1970. -/
  | time
  /-- Puts a text on standard output. -/
  | write (text : String)

@[reducible] def Op.Reply {Path : Type} : Op Path → Type
  | .readSettings _ => Except FileFault Text.Bytes
  | .wire op => op.Reply
  | .effect e => e.Reply
  | .time => Nat
  | .write _ => Unit

/-- What a process does; it may be given up without a result. -/
abbrev Course (Path : Type) := OptionT (Program (Op Path) Op.Reply)

variable {Path : Type}

def ask (op : Op Path) : Course Path op.Reply := OptionT.lift (Program.ask op)

def clock : Course Path String := do return Timestamp.text (← ask .time)

def note (e : Event) : Logged (Course Path) Unit := do
  let now ← StateT.lift clock
  modify (·.record now e)

/-- What the client asks goes to the system, and what it reports to the log of the call. -/
def wireHost : Program.Host Wire Wire.Reply (Logged (Course Path)) where
  answer op := StateT.lift (ask (.wire op))
  note := note

def answer (client : Client) (patience : Nat) : (e : Effect) → Logged (Course Path) e.Reply
  | .remote op => do (← client.answer patience wireHost op).getM
  | e => StateT.lift (ask (.effect e))

def host (client : Client) (patience : Nat) : Program.Host Effect Effect.Reply (Logged (Course Path)) where
  answer := answer client patience
  note := note

/-- Makes the call that has been prepared. -/
def call (patience : Nat) (p : Startup.Prepared) : Course Path Response := do
  let (response, _) ← (respond (host p.client patience) ActionTable.default p.settings p.request.method
    p.request.arguments).run .empty
  return response

def run {Argument : Type} (around : Startup.Surroundings Argument Path) (patience : Nat)
    (input : Text.Bytes) (arguments : List Argument) : Course Path Unit := do
  let response ←
    Startup.answerIn around (fun path => Program.ask (Op.readSettings path)) patience input arguments (call patience)
  ask (.write (response.line ++ "\n"))

end CloudProvider.Process
