import CloudProvider.Proofs.Effects

/-! # A response tells of its own call

What a call reports is followed through a world that reports on its answers, too (`play`). A run that keeps
a log adds these events to it and does nothing else (`run_eq`), so a response is what comes of the call with
the lines of what was reported in it (`Event.entry`, `Dispatched`), and calls that share a log are answered as
if each had one of its own.
-/

namespace CloudProvider

namespace Event

/-- The word for the level in a log. Events below information level have none and are not kept. -/
def label? (e : Event) : Option String :=
  match e.level with
  | .trace | .debug => none
  | .info => some "INFO"
  | .warn => some "WARN"
  | .error => some "ERROR"

/-- What a log gets of an event: one line with the time, the level, the message and the fields in their order, if
the event is kept. -/
def entry (time : String) (e : Event) : String :=
  match e.label? with
  | none => ""
  | some label =>
    let fields := String.join (e.fields.map fun (key, value) => " " ++ key ++ "=" ++ value)
    time ++ " " ++ label ++ " " ++ e.message ++ fields ++ "\n"

end Event

/-- Events with the times at which they come. -/
abbrev Trail := List (String × Event)

/-- All that a log gets of these events. -/
def Trail.text (trail : Trail) : String := String.join (trail.map fun (time, e) => e.entry time)

namespace CallLog

def recordAll (log : CallLog) (trail : Trail) : CallLog :=
  trail.foldl (fun log e => log.record e.1 e.2) log

theorem recordAll_append (log : CallLog) (trail more : Trail) :
    log.recordAll (trail ++ more) = (log.recordAll trail).recordAll more := List.foldl_append ..

end CallLog

/-- A world that reports on its answers, each event with its time. -/
structure ReportingWorld (σ : Type) extends World σ where
  reports : (e : Effect) → σ → Trail

namespace ReportingWorld
variable {σ α β : Type} (w : ReportingWorld σ)

def host : Program.Host Effect Effect.Reply (Logged (StateM σ)) :=
  loggingHost (fun e log s => (((w.answer e s).1, log.recordAll (w.reports e s)), (w.answer e s).2)) w.clock

/-- What comes of an activity, all that is reported in it, and the state that it leaves. -/
def play : Activity α → σ → α × Trail × σ
  | .pure x, s => (x, [], s)
  | .emit e next, s =>
    let (x, trail, s') := play next (w.clock s).2
    (x, ((w.clock s).1, e) :: trail, s')
  | .perform op next, s =>
    let (x, trail, s') := play (next (w.answer op s).1) (w.answer op s).2
    (x, w.reports op s ++ trail, s')

/-- A run with a log is the same with the log of what is reported. -/
theorem run_eq (p : Activity α) (log : CallLog) (s : σ) :
    (p.run w.host).run log s =
      (((w.play p s).1, log.recordAll (w.play p s).2.1), (w.play p s).2.2) := by
  induction p generalizing log s with
  | pure x => rfl
  | emit e next ih => exact ih (log.record (w.clock s).1 e) (w.clock s).2
  | perform op next ih =>
    rw [play, CallLog.recordAll_append]
    exact ih (w.answer op s).1 (log.recordAll (w.reports op s)) (w.answer op s).2

theorem play_pure (x : α) (s : σ) : w.play (pure x) s = (x, [], s) := rfl

theorem play_log (e : Event) (s : σ) :
    w.play (Program.log e) s = ((), [((w.clock s).1, e)], (w.clock s).2) := rfl

theorem play_bind (p : Activity α) (f : α → Activity β) (s : σ) :
    w.play (p >>= f) s =
      let (x, trail, s') := w.play p s
      let (y, more, s'') := w.play (f x) s'
      (y, trail ++ more, s'') := by
  change w.play (p.bind f) s = _
  induction p generalizing s with
  | pure x => rfl
  | emit e next ih =>
    rw [Program.bind, play, ih]
    rfl
  | perform op next ih =>
    rw [Program.bind, play, ih]
    simp only [play, List.append_assoc]

/-- Events are reported one after the other. -/
inductive Reported : List Event → σ → Trail → σ → Prop
  | done (s : σ) : Reported [] s [] s
  | next (e : Event) {es : List Event} {s s' : σ} {trail : Trail} (rest : Reported es (w.clock s).2 trail s') :
    Reported (e :: es) s (((w.clock s).1, e) :: trail) s'

theorem play_reportAll (es : List Event) (s : σ) :
    ∃ trail s', w.play (Dispatch.reportAll es) s = ((), trail, s') ∧ w.Reported es s trail s' := by
  induction es generalizing s with
  | nil => exact ⟨[], s, rfl, .done s⟩
  | cons e es ih =>
    obtain ⟨trail, s', played, told⟩ := ih (w.clock s).2
    refine ⟨((w.clock s).1, e) :: trail, s', ?_, .next e told⟩
    simp only [Dispatch.reportAll, play_bind, play_log, played, List.singleton_append]

section
variable {table : ActionTable} {method : String}

theorem dispatched_unknown (h : table.find? method = none) (settings : Settings) (args : List Json) (s : σ) :
    ∃ trail s', w.play (Dispatch.runAction table settings method args) s =
        (.error (Dispatch.notSupported table.keys method), trail, s') ∧
      w.Reported [.error (Dispatch.notSupported table.keys method).message []] s trail s' := by
  obtain ⟨trail, s', played, told⟩ :=
    w.play_reportAll [.error (Dispatch.notSupported table.keys method).message []] s
  refine ⟨trail, s', ?_, told⟩
  rw [Dispatch.runAction, h]
  dsimp only
  rw [play_bind, played]
  simp only [play_pure, List.append_nil]

end

/-- Answers one call with any table. -/
def respond (table : ActionTable) (settings : Settings) (q : Request) (s : World.At σ) :
    Response × World.At σ :=
  let r := (CloudProvider.respond w.host table settings q.method q.arguments).run s.log s.state
  (r.1.1, ⟨r.1.2, r.2⟩)

theorem respond_eq (table : ActionTable) (settings : Settings) (q : Request) (s : World.At σ) :
    w.respond table settings q s =
      let (outcome, trail, s') := w.play (Dispatch.run table settings q.method q.arguments) s.state
      (.ofOutcome outcome (s.log.recordAll trail).text, ⟨.empty, s'⟩) := by
  have answered : w.respond table settings q s =
      let ran := ((Dispatch.run table settings q.method q.arguments).run w.host).run s.log s.state
      (.ofOutcome ran.1.1 ran.1.2.text, ⟨.empty, ran.2⟩) := by
    unfold respond CloudProvider.respond
    -- What the program does is not asked for, so it is kept from being evaluated.
    generalize Dispatch.run table settings q.method q.arguments = p
    rfl
  rw [answered, run_eq]

/-- Answers calls that share a log. -/
def session (table : ActionTable) (settings : Settings) :
    List Request → World.At σ → List Response × World.At σ
  | [], s => ([], s)
  | q :: qs, s =>
    let (response, s') := w.respond table settings q s
    let (responses, s'') := session table settings qs s'
    (response :: responses, s'')

end ReportingWorld
end CloudProvider
