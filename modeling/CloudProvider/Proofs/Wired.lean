import CloudProvider.Proofs.Conversation
import CloudProvider.Proofs.Process

/-! # Calls over the wire

In a process the operations of a call are conversations of its client, and only what these ask goes over the
wire. What such a run gives, and what has then gone over the wire, is put together from what single operations
give (`run_gives`); what a conversation gives it gives in the process too (`answer_gives`).
-/

namespace CloudProvider.Process
open Conversation (Transcript)
variable {Path : Type} {α β : Type}

/-- What has gone over the wire. -/
def wired (record : Record Path) : Transcript :=
  record.filterMap fun
    | ⟨.wire op, reply⟩ => some ⟨op, reply⟩
    | _ => none

theorem wired_append (record more : Record Path) : wired (record ++ more) = wired record ++ wired more :=
  List.filterMap_append

/-- Whatever is replied, it comes to a result, and `Q` holds of this and of what has gone over the wire. -/
def Gives (x : Course Path α) (Q : α → Transcript → Prop) : Prop :=
  x.run.Records fun r record => ∃ a, r = some a ∧ Q a (wired record)

namespace Gives
variable {x : Course Path α} {f : α → Course Path β} {Q : α → Transcript → Prop} {R : β → Transcript → Prop}

theorem pure {a : α} (h : Q a []) : Gives (Pure.pure a : Course Path α) Q := ⟨a, rfl, h⟩

theorem mono {Q' : α → Transcript → Prop} (h : Gives x Q) (hQ : ∀ a sent, Q a sent → Q' a sent) : Gives x Q' :=
  Program.Records.mono h fun _ _ ⟨a, ha, hq⟩ => ⟨a, ha, hQ a _ hq⟩

theorem bind (hx : Gives x Q) (hf : ∀ a sent, Q a sent → Gives (f a) fun b more => R b (sent ++ more)) :
    Gives (x >>= f) R := by
  rw [Gives, OptionT.run_bind, Option.elimM, Program.records_bind]
  refine Program.Records.mono hx ?_
  rintro r record ⟨a, rfl, hq⟩
  refine Program.Records.mono (hf a _ hq) ?_
  rintro r more ⟨b, rfl, hr⟩
  exact ⟨b, rfl, wired_append record more ▸ hr⟩

theorem ask {op : Op Path} {Q : op.Reply → Transcript → Prop} (h : ∀ r, Q r (wired [⟨op, r⟩])) :
    Gives (ask op) Q := by
  rw [Gives, Process.ask, OptionT.run_lift, Program.records_bind, Program.records_ask]
  exact fun r => ⟨r, rfl, h r⟩

end Gives

/-- What happens reaches the log, and not the wire. -/
theorem note_gives (e : Event) (log : CallLog) :
    Gives ((note e : Logged (Course Path) Unit).run log) fun _ sent => sent = [] := by
  refine Gives.bind (Q := fun _ sent => sent = []) ?_ ?_
  · refine Gives.bind (Q := fun _ sent => sent = []) (.bind (.ask fun _ => rfl) ?_) ?_
    · rintro seconds sent rfl
      exact .pure rfl
    · rintro now sent rfl
      exact .pure rfl
  · rintro now sent rfl
    exact .pure rfl

/-- What a conversation ends in with its record, it gives in the process. -/
theorem wire_gives {p : Program Wire Wire.Reply α} {Q : α → Transcript → Prop} {before : Transcript}
    (h : Program.Ends Program.Kept p Q before) (log : CallLog) :
    Gives ((p.run wireHost : Logged (Course Path) α).run log) fun r sent => Q r.1 (before ++ sent) := by
  induction p generalizing before log with
  | pure x => exact .pure ((List.append_nil before).symm ▸ h)
  | emit e next ih =>
    refine (note_gives e log).bind ?_
    rintro r sent rfl
    exact ih h r.2
  | perform op next ih =>
    have asked : Gives ((wireHost.answer op : Logged (Course Path) op.Reply).run log)
        fun r sent => sent = [⟨op, r.1⟩] := by
      refine Gives.bind (Q := fun r sent => sent = [⟨op, r⟩]) (.ask fun _ => rfl) ?_
      rintro r sent rfl
      exact .pure rfl
    refine asked.bind ?_
    rintro r sent rfl
    exact (ih r.1 (h r.1 _ rfl) r.2).mono fun r more hr => by rwa [← List.append_assoc]

variable {client : Client} {patience : Nat}

/-- An operation whose conversation is not given up is answered by what comes of this. -/
theorem answer_gives {op : Operation} {Q : op.Answer → Transcript → Prop}
    (h : (client.perform patience op).Records fun r sent => ∃ a, r = some a ∧ Q a sent) (log : CallLog) :
    Gives ((answer client patience (.remote op) : Logged (Course Path) op.Answer).run log)
      fun r sent => Q r.1 sent := by
  refine (wire_gives h.program log).bind ?_
  rintro ⟨r, log⟩ sent ⟨a, rfl, hq⟩
  exact .pure ((List.append_nil sent).symm ▸ hq)

/-- All else does not go over the wire. -/
theorem answer_gives_of_isLocal {e : Effect} (he : e.IsLocal) (log : CallLog) :
    Gives ((answer client patience e : Logged (Course Path) e.Reply).run log) fun _ sent => sent = [] := by
  cases e with
  | remote op => exact absurd he id
  | runTool | openFile | writeFile | createDirectory | createFile | removeDirectory | removeFile =>
    refine Gives.bind (Q := fun _ sent => sent = []) (.ask fun _ => rfl) ?_
    rintro r sent rfl
    exact .pure rfl

/-- An effect is answered, and what it has sent comes after what was sent before. -/
def Sends (Q : (e : Effect) → e.Reply → Transcript → Prop) (e : Effect) (before : Transcript) (r : e.Reply)
    (after : Transcript) : Prop :=
  ∃ more, after = before ++ more ∧ Q e r more

/-- A run gives what its program ends in, where every effect that it may come to is answered so that `Q`. -/
theorem run_gives {P : Effect → Prop} {Q : (e : Effect) → e.Reply → Transcript → Prop}
    (answers : ∀ e, P e → ∀ log,
      Gives ((answer client patience e : Logged (Course Path) e.Reply).run log) fun r sent => Q e r.1 sent)
    {p : Activity α} (only : p.Only P) {R : α → Transcript → Prop} {before : Transcript}
    (ends : Program.Ends (Sends Q) p R before) (log : CallLog) :
    Gives ((p.run (host client patience) : Logged (Course Path) α).run log)
      fun r sent => R r.1 (before ++ sent) := by
  induction p generalizing before log with
  | pure x => exact .pure ((List.append_nil before).symm ▸ ends)
  | emit e next ih =>
    refine (note_gives e log).bind ?_
    rintro r sent rfl
    exact ih only ends r.2
  | perform e next ih =>
    refine (answers e only.1 log).bind ?_
    intro r sent hq
    exact (ih r.1 (only.2 r.1) (ends r.1 _ ⟨sent, rfl, hq⟩) r.2).mono fun r more hr => by rwa [← List.append_assoc]

/-! ## Whatever comes of it -/

/-- What holds of two things that go over the wire one after the other, if it holds of each. -/
structure Composes (Q : Transcript → Prop) : Prop where
  nothing : Q []
  append : ∀ sent more, Q sent → Q more → Q (sent ++ more)

/-- Whatever is replied, `Q` holds of what has gone over the wire, also if the course is given up. -/
def Wires (x : Course Path α) (Q : Transcript → Prop) : Prop := x.run.Records fun _ record => Q (wired record)

section
variable {x : Course Path α} {f : α → Course Path β} {Q : Transcript → Prop}

theorem Gives.wires (h : Gives x fun _ sent => Q sent) : Wires x Q :=
  Program.Records.mono h fun _ _ ⟨_, _, hq⟩ => hq

variable (composes : Composes Q)
include composes

theorem Gives.wires_nothing (h : Gives x fun _ sent => sent = []) : Wires x Q :=
  (h.mono fun _ _ none => none ▸ composes.nothing).wires

theorem Wires.bind (hx : Wires x Q) (hf : ∀ a, Wires (f a) Q) :
    Wires (x >>= f) Q := by
  rw [Wires, OptionT.run_bind, Option.elimM, Program.records_bind]
  refine Program.Records.mono hx fun r record hq => ?_
  cases r with
  | none => exact (Program.records_pure _).2 ((List.append_nil record).symm ▸ hq)
  | some a => exact Program.Records.mono (hf a) fun r more hm => wired_append record more ▸ composes.append _ _ hq hm

variable (performs : ∀ op, (client.perform patience op).Records fun _ sent => Q sent)
include performs

theorem answer_wires (e : Effect) (log : CallLog) :
    Wires ((answer client patience e : Logged (Course Path) e.Reply).run log) Q := by
  cases e with
  | remote op =>
    refine (wire_gives (performs op).program log).wires.bind composes ?_
    rintro ⟨none | answer, log⟩ <;> exact composes.nothing
  | runTool | openFile | writeFile | createDirectory | createFile | removeDirectory | removeFile =>
    refine (answer_gives_of_isLocal ?_ log).wires_nothing composes
    trivial

/-- What holds of all operations holds of every run. -/
theorem run_wires (p : Activity α) (log : CallLog) :
    Wires ((p.run (host client patience) : Logged (Course Path) α).run log) Q := by
  induction p generalizing log with
  | pure x => exact composes.nothing
  | emit e next ih => exact ((note_gives e log).wires_nothing composes).bind composes fun r => ih r.2
  | perform e next ih => exact (answer_wires composes performs e log).bind composes fun r => ih r.1 r.2

end

end CloudProvider.Process
