import CloudProvider.Proofs.Program

/-! # All that was asked and replied

The longest memory that a statement may want: every operation with its reply, in their order. Nothing is
said of what may be replied, so what is shown here of a program is so of all its runs
(`Records.recorded`). Records of one program after another are appended, and so every part of a program
can be judged by its own record.
-/

namespace CloudProvider

/-- An operation with the reply to it. -/
structure Asked {Op : Type} (Reply : Op → Type) where
  op : Op
  reply : Reply op

namespace Program
variable {Op : Type} {Reply : Op → Type} {α β : Type}

/-- Anything may be replied, and all of it is kept. -/
def Kept (op : Op) (record : List (Asked Reply)) (r : Reply op) (record' : List (Asked Reply)) : Prop :=
  record' = record ++ [⟨op, r⟩]

/-- Whatever is replied, the program ends in `Q` with the record of all that it has asked. -/
def Records (p : Program Op Reply α) (Q : α → List (Asked Reply) → Prop) : Prop := Ends Kept p Q []

variable {Q : α → List (Asked Reply) → Prop}

/-- What was asked before a program does not matter to it. -/
theorem ends_kept (p : Program Op Reply α) (before after : List (Asked Reply)) :
    Ends Kept p Q (before ++ after) ↔ Ends Kept p (fun x record => Q x (before ++ record)) after := by
  induction p generalizing after with
  | pure x => rfl
  | emit e next ih => exact ih after
  | perform op next ih =>
    constructor
    · rintro h r _ rfl
      exact (ih r _).1 (h r _ (List.append_assoc ..).symm)
    · rintro h r _ rfl
      rw [List.append_assoc]
      exact (ih r _).2 (h r _ rfl)

theorem Records.mono {p : Program Op Reply α} {R : α → List (Asked Reply) → Prop} (h : p.Records Q)
    (hQR : ∀ x record, Q x record → R x record) : p.Records R := Ends.mono h hQR

@[simp] theorem records_pure (x : α) : (Pure.pure x : Program Op Reply α).Records Q ↔ Q x [] := .rfl

@[simp] theorem records_log (e : Event) {Q : Unit → List (Asked Reply) → Prop} :
    (log e : Program Op Reply Unit).Records Q ↔ Q () [] := .rfl

@[simp] theorem records_ask (op : Op) {Q : Reply op → List (Asked Reply) → Prop} :
    (ask op : Program Op Reply (Reply op)).Records Q ↔ ∀ r, Q r [⟨op, r⟩] :=
  ⟨fun h r => h r _ rfl, fun h r _ hr => hr ▸ h r⟩

@[simp] theorem records_bind (p : Program Op Reply α) (f : α → Program Op Reply β)
    {Q : β → List (Asked Reply) → Prop} : (p >>= f).Records Q ↔
      p.Records fun x record => (f x).Records fun y more => Q y (record ++ more) := by
  have after : ∀ x record, Ends Kept (f x) Q record ↔
      (f x).Records fun y more => Q y (record ++ more) := fun x record => by
    have h := ends_kept (Q := Q) (f x) record []
    rwa [List.append_nil] at h
  rw [Records, ends_bind]
  exact iff_of_eq (congrArg (Ends Kept p · []) (funext fun x => funext fun record => propext (after x record)))

/-- What a program ends in with its record, it ends in beside whatever its record leads to, if single replies lead
there as they may. -/
theorem Records.ends_alongside {τ : Type} {may : (op : Op) → τ → Reply op → τ → Prop} {p : Program Op Reply α}
    (h : p.Records Q) (leads : τ → List (Asked Reply) → τ → Prop) (done : ∀ t, leads t [] t)
    (step : ∀ {op t r t₁ record t'}, may op t r t₁ → leads t₁ record t' → leads t (⟨op, r⟩ :: record) t')
    (before : List (Asked Reply)) (t : τ) :
    Ends (fun op s r s' => s'.1 = s.1 ++ [⟨op, r⟩] ∧ may op s.2 r s'.2) p
      (fun x s => ∃ record, s.1 = before ++ record ∧ Q x record ∧ leads t record s.2) (before, t) := by
  have after : ∀ record before t, Ends Kept p Q record →
      Ends (fun op s r s' => s'.1 = s.1 ++ [⟨op, r⟩] ∧ may op s.2 r s'.2) p
        (fun x s => ∃ more, s.1 = before ++ more ∧ Q x (record ++ more) ∧ leads t more s.2) (before, t) := by
    clear h
    induction p with
    | pure x => exact fun record before t h => ⟨[], (List.append_nil _).symm, (List.append_nil record).symm ▸ h, done t⟩
    | emit e next ih => exact fun record before t h => ih record before t h
    | perform op next ih =>
      rintro record before t h r ⟨_, t₁⟩ ⟨rfl, answers⟩
      refine (ih r _ _ t₁ (h r _ rfl)).mono fun x s ⟨more, told, hq, rest⟩ =>
        ⟨⟨op, r⟩ :: more, ?_, ?_, step answers rest⟩
      · rw [told, List.append_assoc]
        rfl
      · rwa [List.append_assoc] at hq
  exact after [] before t h

section
variable {σ : Type}

/-- Replies come from somewhere, and what is asked is written down. -/
def recording (answer : (op : Op) → σ → Reply op × σ) :
    Host Op Reply (StateM (List (Asked Reply) × σ)) where
  answer op := fun (record, s) => ((answer op s).1, record ++ [⟨op, (answer op s).1⟩], (answer op s).2)
  note _ := Pure.pure ()

/-- A run of the program with the record of it. -/
def recorded (answer : (op : Op) → σ → Reply op × σ) (p : Program Op Reply α) (s : σ) :
    α × List (Asked Reply) :=
  let ran := (p.run (recording answer)).run ([], s)
  (ran.1, ran.2.1)

/-- What is shown of all records is so of every run. -/
theorem Records.recorded {p : Program Op Reply α} (h : p.Records Q)
    (answer : (op : Op) → σ → Reply op × σ) (s : σ) : Q (p.recorded answer s).1 (p.recorded answer s).2 := by
  have run : ∀ record s, Ends Kept p Q record →
      Q ((p.run (recording answer)).run (record, s)).1 ((p.run (recording answer)).run (record, s)).2.1 := by
    clear h
    induction p with
    | pure x => exact fun record s h => h
    | emit e next ih => exact fun record s h => ih record s h
    | perform op next ih => exact fun record s h => ih _ _ _ (h _ _ rfl)
  exact run [] s h

end

end Program

namespace Call
variable {α β : Type}

abbrev Course := List (Asked Effect.Reply)

/-- Whatever is replied, the call ends in `Q` with the record of all that it has asked. -/
def Records (call : Call α) (Q : Except Failure α → Course → Prop) : Prop := call.run.Records Q

variable {Q : Except Failure α → Course → Prop}

theorem Records.mono {call : Call α} {R : Except Failure α → Course → Prop} (h : call.Records Q)
    (hQR : ∀ r course, Q r course → R r course) : call.Records R := Program.Records.mono h hQR

@[simp] theorem records_ofExcept (r : Except Failure α) : Records (ofExcept r) Q ↔ Q r [] := .rfl

@[simp] theorem records_fail (f : Failure) : Records (fail f) Q ↔ Q (.error f) [] := .rfl

@[simp] theorem records_lift (a : Activity α) :
    Records (ExceptT.lift a) Q ↔ a.Records fun x => Q (.ok x) := by
  rw [Records, ExceptT.run_lift, map_eq_pure_bind, Program.records_bind]
  simp only [Program.records_pure, List.append_nil]

@[simp] theorem records_report (e : Event) {Q : Except Failure Unit → Course → Prop} :
    Records (report e) Q ↔ Q (.ok ()) [] := by
  rw [report, records_lift, Program.records_log]

@[simp] theorem records_info (message : String) {Q : Except Failure Unit → Course → Prop} :
    Records (info message) Q ↔ Q (.ok ()) [] := records_report _

/-- A failure ends the call with what has been asked so far. -/
@[simp] theorem records_bind (call : Call α) (f : α → Call β) {Q : Except Failure β → Course → Prop} :
    Records (call >>= f) Q ↔ Records call fun r course =>
      match r with
      | .ok x => Records (f x) fun r more => Q r (course ++ more)
      | .error f => Q (.error f) course := by
  rw [Records, ExceptT.run_bind, Program.records_bind]
  refine iff_of_eq (congrArg _ (funext fun r => funext fun course => ?_))
  cases r with
  | ok x => rfl
  | error f => exact congrArg _ (List.append_nil course)

theorem records_attempt (op : Operation) {Q : Except Failure op.Answer → Course → Prop} :
    Records (attempt op) Q ↔ ∀ r, Q (.ok r) [⟨.remote op, r⟩] := by
  rw [attempt, records_lift, Activity.remote, Program.records_ask]

theorem records_remote (op : Operation) {Q : Except Failure op.Reply → Course → Prop} :
    Records (remote op) Q ↔ ∀ r : op.Answer, Q (r.mapError .cloud) [⟨.remote op, r⟩] := by
  rw [remote, records_bind, records_attempt]
  rfl

@[simp] theorem records_thenAlways (release : Activity Unit) (call : Call α) :
    Records (thenAlways release call) Q ↔
      Records call fun r course => release.Records fun _ more => Q r (course ++ more) := by
  rw [Records, thenAlways, ExceptT.run_mk, Program.records_bind]
  simp only [Program.records_bind, Program.records_pure, List.append_nil]
  rfl

@[simp] theorem records_thenOnFailure (release : Activity Unit) (call : Call α) :
    Records (thenOnFailure release call) Q ↔ Records call fun r course =>
      match r with
      | .ok x => Q (.ok x) course
      | .error f => release.Records fun _ more => Q (.error f) (course ++ more) := by
  rw [Records, thenOnFailure, ExceptT.run_mk, Program.records_bind]
  refine iff_of_eq (congrArg _ (funext fun r => funext fun course => ?_))
  cases r with
  | ok x => simp only [Program.records_pure, List.append_nil, Bool.false_eq_true, if_false]
  | error f =>
    simp only [if_true, Program.records_bind, Program.records_pure, List.append_nil]

end Call
end CloudProvider
