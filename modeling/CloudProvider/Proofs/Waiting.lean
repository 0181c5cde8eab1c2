import CloudProvider.Proofs.Conversation

/-! # Waiting for a task

A task that has not ended is asked for again, turn by turn. What was on the wire is read as a list of turns
(`OnWire`), and the turns follow an automaton with three counters: the state of the task, the clock, and
the failed polls in a row (`Waits`). What the automaton keeps to, whatever is replied, is read off it by
induction on the turns (`Waited`).
-/

namespace CloudProvider

/-- What is done for a task that has not ended. -/
inductive Turn where
  /-- It has taken too long. -/
  | late
  /-- It is asked for again. -/
  | polled (outcome : Except CloudFault Task)
  /-- There is no patience left to ask again. -/
  | abandoned

namespace Turn

/-- The task as it is known after a turn. -/
def known (task : Task) : Turn → Task
  | Turn.polled (.ok received) => received
  | _ => task

/-- The polls that have failed since the task was last received. -/
def missed (failures : Nat) : Turn → Nat
  | Turn.polled (.ok _) => 0
  | Turn.polled (.error _) => failures + 1
  | _ => failures

end Turn

/-- The task that was received last. -/
def lastKnown (task : Task) (turns : List Turn) : Task := turns.foldl Turn.known task

/-- The polls that have failed since then. -/
def missedPolls (failures : Nat) (turns : List Turn) : Nat := turns.foldl Turn.missed failures

def CloudFault.isTransport : CloudFault → Bool
  | .transport _ => true
  | _ => false

namespace Client
open Conversation (Records Records.mono Transcript)

/-- The clock says that the waiting has to stop. -/
def IsLate (c : Client) (started now : Nat) : Prop := c.timeoutSecs * 1000000000 ≤ now - started

/-- What is on the wire, turn by turn. A poll asks for the task that was received last. -/
inductive OnWire (c : Client) (started : Nat) : Task → List Turn → Transcript → Prop
  | nothing (task : Task) : OnWire c started task [] []
  | late (task : Task) (now : Nat) (h : c.IsLate started now) : OnWire c started task [.late] [⟨.clock, now⟩]
  | abandoned (task : Task) (now : Nat) (h : ¬c.IsLate started now) :
    OnWire c started task [.abandoned] [⟨.clock, now⟩, ⟨.pause c.pollIntervalMs, ()⟩]
  | polled (task : Task) (now : Nat) (h : ¬c.IsLate started now) {outcome : Except CloudFault Task}
      {asks rest : Transcript} {turns : List Turn}
      (asked : c.Asks Task.decoder .get s!"tasks/{task.id}" .nothing asks outcome)
      (on : OnWire c started ((Turn.polled outcome).known task) turns rest) :
    OnWire c started task (.polled outcome :: turns)
      (⟨.clock, now⟩ :: ⟨.pause c.pollIntervalMs, ()⟩ :: (asks ++ rest))

/-- The automaton: the turns that are taken with so many polls to go and so many missed, and their end. -/
inductive Waits (c : Client) : (patience failures : Nat) → Task → List Turn →
    Option (Except CloudFault Task) → Prop
  | completed {patience failures : Nat} {task : Task} (h : task.state = .completed) :
    Waits c patience failures task [] (some (.ok task))
  | failed {patience failures : Nat} {task : Task} (h : task.state = .failed) :
    Waits c patience failures task [] (some (.error (.task task.id task.operation task.errorSummary)))
  | late {patience failures : Nat} {task : Task} (h : task.state.isTerminal = false) :
    Waits c patience failures task [.late] (some (.error (.taskTimeout task.id c.timeoutSecs)))
  | abandoned {failures : Nat} {task : Task} (h : task.state.isTerminal = false) :
    Waits c 0 failures task [.abandoned] none
  | received {patience failures : Nat} {task polled : Task} {turns : List Turn}
      {r : Option (Except CloudFault Task)} (h : task.state.isTerminal = false)
      (rest : Waits c patience 0 polled turns r) :
    Waits c (patience + 1) failures task (.polled (.ok polled) :: turns) r
  | missed {patience failures : Nat} {task : Task} {message : String} {turns : List Turn}
      {r : Option (Except CloudFault Task)} (h : task.state.isTerminal = false)
      (few : failures < maxPollFailures) (rest : Waits c patience (failures + 1) task turns r) :
    Waits c (patience + 1) failures task (.polled (.error (.transport message)) :: turns) r
  | unreachable {patience failures : Nat} {task : Task} {message : String}
      (h : task.state.isTerminal = false) (many : maxPollFailures ≤ failures) :
    Waits c (patience + 1) failures task [.polled (.error (.transport message))]
      (some (.error (.transport message)))
  | refused {patience failures : Nat} {task : Task} {fault : CloudFault}
      (h : task.state.isTerminal = false) (reached : fault.isTransport = false) :
    Waits c (patience + 1) failures task [.polled (.error fault)] (some (.error fault))

/-- A turn: the clock is looked at, and if there is time, there is a pause before `next`. -/
def turn (c : Client) (started : Nat) (task : Task) (next : Conversation Task) : Conversation Task := do
  let now ← Conversation.ask Wire.clock
  if c.timeoutSecs * 1000000000 ≤ now - started then
    Conversation.fail (.taskTimeout task.id c.timeoutSecs)
  else
    Conversation.ask (Wire.pause c.pollIntervalMs)
    next

/-- What is done with what a poll comes to. -/
def afterPoll (c : Client) (started patience failures : Nat) (task : Task) :
    Except CloudFault Task → Conversation Task
  | .ok polled => c.wait started patience 0 polled
  | .error (.transport message) => do
    if failures < maxPollFailures then
      Conversation.report <| .warn "task poll failed, retrying" [("task_id", task.id),
        ("attempt", toString (failures + 1)), ("error", message)]
      c.wait started patience (failures + 1) task
    else Conversation.fail (.transport message)
  | .error fault => Conversation.fail fault

section
variable {c : Client} {started patience failures : Nat} {task : Task}

theorem wait_zero (h : task.state.isTerminal = false) :
    c.wait started 0 failures task = c.turn started task Conversation.giveUp := by
  rw [wait]
  cases hs : task.state with
  | completed | failed => rw [hs] at h; cases h
  | queued | started => rfl

theorem wait_succ (h : task.state.isTerminal = false) :
    c.wait started (patience + 1) failures task = c.turn started task
      (Conversation.outcome (c.fetch Task.decoder s!"tasks/{task.id}") >>=
        c.afterPoll started patience failures task) := by
  rw [wait]
  cases hs : task.state with
  | completed | failed => rw [hs] at h; cases h
  | queued | started =>
    refine congrArg (c.turn started task) (congrArg _ (funext fun r => ?_))
    rcases r with (- | - | - | - | -) | polled <;> rfl

theorem afterPoll_refused {fault : CloudFault} (h : fault.isTransport = false) :
    c.afterPoll started patience failures task (.error fault) = Conversation.fail fault := by
  cases fault with
  | transport message => cases h
  | api | task | taskTimeout | localFile => rfl

theorem records_turn {next : Conversation Task} {Q : Option (Except CloudFault Task) → Transcript → Prop}
    (late : ∀ now, c.IsLate started now →
      Q (some (.error (.taskTimeout task.id c.timeoutSecs))) [⟨.clock, now⟩])
    (inTime : ∀ now, ¬c.IsLate started now → Records next fun r more =>
      Q r (⟨.clock, now⟩ :: ⟨.pause c.pollIntervalMs, ()⟩ :: more)) :
    Records (c.turn started task next) Q := by
  rw [turn, Conversation.records_bind, Conversation.records_ask]
  intro now
  dsimp only
  split
  · exact Conversation.records_fail.2 (late now ‹_›)
  · rw [Conversation.records_bind, Conversation.records_ask]
    exact fun _ => inTime now ‹_›

theorem records_ended (h : task.state.isTerminal = true) :
    Records (c.wait started patience failures task) fun r transcript =>
      ∃ turns, c.OnWire started task turns transcript ∧ c.Waits patience failures task turns r := by
  unfold wait
  cases hs : task.state with
  | completed => exact Conversation.records_pure.2 ⟨[], .nothing task, .completed hs⟩
  | failed => exact Conversation.records_fail.2 ⟨[], .nothing task, .failed hs⟩
  | queued | started => rw [hs] at h; cases h

end

/-- Waiting is what the automaton does. -/
theorem wait_records (c : Client) (started patience failures : Nat) (task : Task) :
    Records (c.wait started patience failures task) fun r transcript =>
      ∃ turns, c.OnWire started task turns transcript ∧ c.Waits patience failures task turns r := by
  induction patience generalizing failures task with
  | zero =>
    cases h : task.state.isTerminal with
    | true => exact records_ended h
    | false =>
      rw [wait_zero h]
      refine records_turn (fun now late => ⟨[.late], .late task now late, .late h⟩) fun now inTime => ?_
      exact Conversation.records_giveUp.2 ⟨[.abandoned], .abandoned task now inTime, .abandoned h⟩
  | succ patience ih =>
    cases h : task.state.isTerminal with
    | true => exact records_ended h
    | false =>
      rw [wait_succ h]
      refine records_turn (fun now late => ⟨[.late], .late task now late, .late h⟩) fun now inTime => ?_
      rw [Conversation.records_bind, Conversation.records_outcome]
      refine Records.mono (fetch_records c Task.decoder s!"tasks/{task.id}") ?_
      rintro r asks ⟨outcome, rfl, asked⟩
      dsimp only [Option.map]
      rcases outcome with fault | polled
      · cases reached : fault.isTransport with
        | false =>
          rw [afterPoll_refused reached, Conversation.records_fail]
          exact ⟨[_], .polled task now inTime asked (.nothing task), .refused h reached⟩
        | true =>
          obtain ⟨message, rfl⟩ : ∃ message, fault = .transport message := by
            cases fault with
            | transport message => exact ⟨message, rfl⟩
            | api | task | taskTimeout | localFile => cases reached
          rw [afterPoll]
          split
          · rw [Conversation.records_bind, Conversation.records_report]
            refine Records.mono (ih (failures + 1) task) ?_
            rintro r rest ⟨turns, on, waits⟩
            exact ⟨_ :: turns, .polled task now inTime asked on, .missed h ‹_› waits⟩
          · rw [Conversation.records_fail]
            exact ⟨[_], .polled task now inTime asked (.nothing task), .unreachable h (Nat.le_of_not_lt ‹_›)⟩
      · refine Records.mono (ih 0 polled) ?_
        rintro r rest ⟨turns, on, waits⟩
        exact ⟨.polled (.ok polled) :: turns, .polled task now inTime asked on, .received h waits⟩

/-- What is so of a turn that is taken on `task`, after so many missed polls, with `later` turns to come. -/
structure Taken (c : Client) (r : Option (Except CloudFault Task)) (failures : Nat) (task : Task)
    (turn : Turn) (later : List Turn) : Prop where
  pending : task.state.isTerminal = false
  few : failures ≤ 3
  late : turn = .late → later = [] ∧ r = some (.error (.taskTimeout task.id c.timeoutSecs))
  refused : ∀ fault, turn = .polled (.error fault) → fault.isTransport = false →
    later = [] ∧ r = some (.error fault)
  unreachable : ∀ message, turn = .polled (.error (.transport message)) → failures = 3 →
    later = [] ∧ r = some (.error (.transport message))

/-- All turns are taken so. -/
def AllTaken (c : Client) (r : Option (Except CloudFault Task)) : Nat → Task → List Turn → Prop
  | _, _, [] => True
  | failures, task, turn :: later =>
    c.Taken r failures task turn later ∧ AllTaken c r (turn.missed failures) (turn.known task) later

section
variable {c : Client} {patience failures : Nat} {task : Task} {turns : List Turn}
variable {r : Option (Except CloudFault Task)}

theorem AllTaken.taken {before later : List Turn} {turn : Turn}
    (h : AllTaken c r failures task (before ++ turn :: later)) :
    c.Taken r (missedPolls failures before) (lastKnown task before) turn later := by
  induction before generalizing failures task with
  | nil => exact h.1
  | cons first before ih => exact ih h.2

theorem Waits.allTaken (h : c.Waits patience failures task turns r) (few : failures ≤ maxPollFailures) :
    AllTaken c r failures task turns := by
  induction h with
  | completed | failed => trivial
  | late h => exact ⟨⟨h, few, fun _ => ⟨rfl, rfl⟩, nofun, nofun⟩, trivial⟩
  | abandoned h => exact ⟨⟨h, few, nofun, nofun, nofun⟩, trivial⟩
  | received h rest ih => exact ⟨⟨h, few, nofun, nofun, nofun⟩, ih (Nat.zero_le _)⟩
  | missed h fewer rest ih =>
    refine ⟨⟨h, few, nofun, ?_, ?_⟩, ih fewer⟩
    · rintro _ ⟨⟩ ⟨⟩
    · rintro _ ⟨⟩ many
      exact absurd fewer (many ▸ Nat.lt_irrefl _)
  | unreachable h many =>
    refine ⟨⟨h, few, nofun, ?_, ?_⟩, trivial⟩
    · rintro _ ⟨⟩ ⟨⟩
    · rintro _ ⟨⟩ _
      exact ⟨rfl, rfl⟩
  | refused h reached =>
    refine ⟨⟨h, few, nofun, ?_, ?_⟩, trivial⟩
    · rintro _ ⟨⟩ _
      exact ⟨rfl, rfl⟩
    · rintro _ ⟨⟩ _
      cases reached

theorem Waits.newest (h : c.Waits patience failures task turns r)
    (ended : (lastKnown task turns).state.isTerminal = true) :
    turns = [] ∨ ∃ before, turns = before ++ [.polled (.ok (lastKnown task turns))] := by
  induction h with
  | completed | failed => exact .inl rfl
  | late h | abandoned h | unreachable h | refused h => exact absurd ended (h ▸ Bool.false_ne_true)
  | @received _ _ task polled turns r h rest ih =>
    right
    rcases ih ended with rfl | ⟨before, last⟩
    · exact ⟨[], rfl⟩
    · exact ⟨.polled (.ok polled) :: before, congrArg _ last⟩
  | @missed _ _ task message turns r h few rest ih =>
    right
    rcases ih ended with rfl | ⟨before, last⟩
    · exact absurd ended (h ▸ Bool.false_ne_true)
    · exact ⟨.polled (.error (.transport message)) :: before, congrArg _ last⟩

theorem Waits.completed_iff (h : c.Waits patience failures task turns r) (t : Task) :
    r = some (.ok t) ↔ t = lastKnown task turns ∧ t.state = .completed := by
  have open_ne {task : Task} (h : task.state.isTerminal = false) : task.state ≠ .completed := by
    rintro hs
    rw [hs] at h
    cases h
  induction h with
  | completed h =>
    constructor
    · rintro ⟨⟩
      exact ⟨rfl, h⟩
    · rintro ⟨rfl, -⟩
      rfl
  | failed h =>
    refine ⟨nofun, ?_⟩
    rintro ⟨rfl, hs⟩
    exact absurd (h.symm.trans hs) nofun
  | late h | abandoned h | unreachable h | refused h =>
    refine ⟨nofun, ?_⟩
    rintro ⟨rfl, hs⟩
    exact absurd hs (open_ne h)
  | received h rest ih | missed h few rest ih => exact ih

theorem Waits.failed_of (h : c.Waits patience failures task turns r)
    (failed : (lastKnown task turns).state = .failed) :
    r = some (.error (.task (lastKnown task turns).id (lastKnown task turns).operation
      (lastKnown task turns).errorSummary)) := by
  induction h with
  | completed h => exact absurd (h.symm.trans failed) nofun
  | failed h => rfl
  | late h | abandoned h | unreachable h | refused h =>
    exact absurd (h.symm.trans (congrArg _ failed)) Bool.false_ne_true
  | received h rest ih | missed h few rest ih => exact ih failed

/-- What a wait fails from. -/
inductive FailsFrom (fault : CloudFault) (failures : Nat) (task : Task) (turns : List Turn) : Prop
  | failed (h : (lastKnown task turns).state = .failed)
  | late (before : List Turn) (h : turns = before ++ [.late])
  | polled (before : List Turn) (h : turns = before ++ [.polled (.error fault)])
      (many : fault.isTransport = true → missedPolls failures before = maxPollFailures)

theorem FailsFrom.after {fault : CloudFault} {turn : Turn}
    (h : FailsFrom fault (turn.missed failures) (turn.known task) turns) :
    FailsFrom fault failures task (turn :: turns) := by
  cases h with
  | failed h => exact .failed h
  | late before h => exact .late (turn :: before) (congrArg _ h)
  | polled before h many => exact .polled (turn :: before) (congrArg _ h) many

theorem Waits.failsFrom {fault : CloudFault} (h : c.Waits patience failures task turns r)
    (few : failures ≤ maxPollFailures) (hr : r = some (.error fault)) :
    FailsFrom fault failures task turns := by
  induction h with
  | completed | abandoned => cases hr
  | failed h => exact .failed h
  | late h => exact .late [] rfl
  | received h rest ih => exact (ih (Nat.zero_le _) hr).after
  | missed h fewer rest ih => exact (ih fewer hr).after
  | unreachable h many =>
    cases hr
    exact .polled [] rfl fun _ => Nat.le_antisymm few many
  | refused h reached =>
    cases hr
    exact .polled [] rfl fun transport => absurd transport (reached ▸ Bool.false_ne_true)

theorem Waits.abandoned_of (h : c.Waits patience failures task turns r) (hr : r = none) :
    ∃ before, turns = before ++ [.abandoned] ∧ before.length = patience := by
  induction h with
  | completed | failed | late | unreachable | refused => cases hr
  | abandoned h => exact ⟨[], rfl, rfl⟩
  | received h rest ih | missed h few rest ih =>
    obtain ⟨before, rfl, length⟩ := ih hr
    exact ⟨_ :: before, rfl, congrArg (· + 1) length⟩

end

/-- How every wait goes, and how it ends. -/
structure Waited (c : Client) (patience : Nat) (task : Task) (turns : List Turn)
    (r : Option (Except CloudFault Task)) : Prop where
  /-- Turns are taken on tasks that have not ended, after three missed polls in a row at the most. -/
  taken : ∀ before turn later, turns = before ++ turn :: later →
    c.Taken r (missedPolls 0 before) (lastKnown task before) turn later
  /-- A task that has ended is the first one, or has come with the last poll. -/
  newest : (lastKnown task turns).state.isTerminal = true →
    turns = [] ∨ ∃ before, turns = before ++ [.polled (.ok (lastKnown task turns))]
  completed : ∀ t, r = some (.ok t) ↔ t = lastKnown task turns ∧ t.state = .completed
  failed : ∀ t, t = lastKnown task turns → t.state = .failed →
    r = some (.error (.task t.id t.operation t.errorSummary))
  /-- The fourth missed poll in a row, and no other, is the end. -/
  unreachable : ∀ message, r = some (.error (.transport message)) ↔
    ∃ before, turns = before ++ [.polled (.error (.transport message))] ∧ missedPolls 0 before = 3
  fails : ∀ fault, r = some (.error fault) → FailsFrom fault 0 task turns
  abandoned : r = none → ∃ before, turns = before ++ [.abandoned] ∧ before.length = patience

theorem Waits.waited {c : Client} {patience : Nat} {task : Task} {turns : List Turn}
    {r : Option (Except CloudFault Task)} (h : c.Waits patience 0 task turns r) :
    c.Waited patience task turns r where
  taken before turn later split := AllTaken.taken (split ▸ h.allTaken (Nat.zero_le _))
  newest := h.newest
  completed := h.completed_iff
  failed t last hs := by
    subst last
    exact h.failed_of hs
  unreachable message := by
    have taken {before turn} (last : turns = before ++ [turn]) :=
      AllTaken.taken (last ▸ h.allTaken (Nat.zero_le _))
    constructor
    · rintro rfl
      cases h.failsFrom (Nat.zero_le _) rfl with
      | failed failed => exact absurd (h.failed_of failed) nofun
      | late before last => exact absurd ((taken last).late rfl).2 nofun
      | polled before last many => exact ⟨before, last, many rfl⟩
    · rintro ⟨before, last, many⟩
      exact ((taken last).unreachable message rfl many).2
  fails fault hr := h.failsFrom (Nat.zero_le _) hr
  abandoned := h.abandoned_of

/-- Without any time nothing is asked for again. -/
theorem OnWire.late_at_once {c : Client} {started : Nat} {task : Task} {turns : List Turn}
    {transcript : Transcript} (on : c.OnWire started task turns transcript) (h : c.timeoutSecs = 0) :
    turns = [] ∨ turns = [.late] := by
  have late (now : Nat) : c.IsLate started now := by
    rw [IsLate, h, Nat.zero_mul]
    exact Nat.zero_le _
  cases on with
  | nothing => exact .inl rfl
  | late => exact .inr rfl
  | abandoned _ now inTime | polled _ now inTime => exact absurd (late now) inTime

/-- Whatever the control plane replies to polls, and whatever the clock says, a wait takes its turns as it
should, every poll asks for the task that was received last, and without any time there is no poll. -/
theorem wait_takes_turns {σ : Type} (answer : (op : Wire) → σ → op.Reply × σ) (s : σ) (c : Client)
    (started patience : Nat) (task : Task) :
    let ran := (c.wait started patience 0 task).run.run.recorded answer s
    ∃ turns, c.OnWire started task turns ran.2 ∧ c.Waited patience task turns ran.1 ∧
      (c.timeoutSecs = 0 → ∀ outcome, .polled outcome ∉ turns) := by
  obtain ⟨turns, on, waits⟩ := (c.wait_records started patience 0 task).recorded answer s
  refine ⟨turns, on, waits.waited, fun h outcome polled => ?_⟩
  rcases on.late_at_once h with rfl | rfl
  · cases polled
  · simp at polled

end Client
end CloudProvider
