import CloudProvider.Dispatch

/-! # What programs end in

A program is judged by what it ends in, whatever is replied to it. `may op s r s'` says that operation
`op`, asked in state `s`, can be answered `r` and leave `s'`; events leave the state alone. The state
is whatever a statement is about: a control plane in memory, or no more than the last reply. So one
rule for each way of building programs serves all statements, and `run_ends` carries what was shown to
every host whose replies are among those that were allowed.
-/

namespace CloudProvider

namespace Program
variable {Op : Type} {Reply : Op → Type} {σ α β : Type}
variable (may : (op : Op) → σ → Reply op → σ → Prop)

/-- Whatever may be replied, the program ends in `Q`. -/
def Ends : Program Op Reply α → (α → σ → Prop) → σ → Prop
  | .pure x, Q, s => Q x s
  | .emit _ next, Q, s => Ends next Q s
  | .perform op next, Q, s => ∀ r s', may op s r s' → Ends (next r) Q s'

variable {may} {Q : α → σ → Prop}

@[simp] theorem ends_pure (x : α) : Ends may (Pure.pure x : Program Op Reply α) Q = Q x := rfl

@[simp] theorem ends_log (e : Event) {Q : Unit → σ → Prop} :
    Ends may (log e : Program Op Reply Unit) Q = Q () := rfl

@[simp] theorem ends_bind (p : Program Op Reply α) (f : α → Program Op Reply β) {Q : β → σ → Prop} :
    Ends may (p >>= f) Q = Ends may p fun x => Ends may (f x) Q := by
  funext s
  show Ends may (p.bind f) Q s = _
  induction p generalizing s with
  | pure x => rfl
  | emit e next ih => exact ih s
  | perform op next ih =>
    exact forall_congr fun r => forall_congr fun s' => forall_congr fun _ => ih r s'

theorem Ends.mono {p : Program Op Reply α} {R : α → σ → Prop} {s : σ} (h : Ends may p Q s)
    (hQR : ∀ x s, Q x s → R x s) : Ends may p R s := by
  induction p generalizing s with
  | pure x => exact hQR x s h
  | emit e next ih => exact ih h
  | perform op next ih => exact fun r s' hm => ih r (h r s' hm)

theorem Ends.and {p : Program Op Reply α} {R : α → σ → Prop} {s : σ} (hQ : Ends may p Q s)
    (hR : Ends may p R s) : Ends may p (fun x s => Q x s ∧ R x s) s := by
  induction p generalizing s with
  | pure x => exact ⟨hQ, hR⟩
  | emit e next ih => exact ih hQ hR
  | perform op next ih => exact fun r s' hm => ih r (hQ r s' hm) (hR r s' hm)

/-- No operation that the program may come to is outside `P`. -/
def Only (P : Op → Prop) : Program Op Reply α → Prop
  | .pure _ => True
  | .emit _ next => Only P next
  | .perform op next => P op ∧ ∀ r, Only P (next r)

section
variable {P : Op → Prop}

@[simp] theorem only_pure (x : α) : Only P (Pure.pure x : Program Op Reply α) := trivial

@[simp] theorem only_log (e : Event) : Only P (log e : Program Op Reply Unit) := trivial

@[simp] theorem only_ask (op : Op) : Only P (ask op : Program Op Reply (Reply op)) ↔ P op :=
  and_iff_left fun _ => trivial

theorem Only.bind {p : Program Op Reply α} {f : α → Program Op Reply β} (hp : Only P p)
    (hf : ∀ x, Only P (f x)) : Only P (p >>= f) := by
  change Only P (p.bind f)
  induction p with
  | pure x => exact hf x
  | emit e next ih => exact ih hp
  | perform op next ih => exact ⟨hp.1, fun r => ih r (hp.2 r)⟩

/-- What no step of the program breaks holds at its end. -/
theorem Only.ends {p : Program Op Reply α} (hp : Only P p) {I : σ → Prop}
    (keeps : ∀ op s r s', P op → may op s r s' → I s → I s') {s : σ} (hs : I s) :
    Ends may p (fun _ => I) s := by
  induction p generalizing s with
  | pure x => exact hs
  | emit e next ih => exact ih hp hs
  | perform op next ih => exact fun r s' hm => ih r (hp.2 r) (keeps op s r s' hp.1 hm hs)

theorem Only.mono {P' : Op → Prop} {p : Program Op Reply α} (hp : Only P p)
    (h : ∀ op, P op → P' op) : Only P' p := by
  induction p with
  | pure x => trivial
  | emit e next ih => exact ih hp
  | perform op next ih => exact ⟨h op hp.1, fun r => ih r (hp.2 r)⟩

theorem only_true (p : Program Op Reply α) : Only (fun _ => True) p := by
  induction p with
  | pure x => trivial
  | emit e next ih => exact ih
  | perform op next ih => exact ⟨trivial, ih⟩

end

/-- What a program ends in under `may` is what its run ends in, if `state` shows the host's state as
`may` speaks of it. -/
theorem run_ends {L S : Type} {host : Host Op Reply (StateT L (StateM S))} {state : S → σ}
    (answers : ∀ op l s, may op (state s) ((host.answer op).run l s).1.1
      (state ((host.answer op).run l s).2))
    (notes : ∀ e l s, state ((host.note e).run l s).2 = state s)
    {p : Program Op Reply α} {l : L} {s : S} (h : Ends may p Q (state s)) :
    Q ((p.run host).run l s).1.1 (state ((p.run host).run l s).2) := by
  induction p generalizing l s with
  | pure x => exact h
  | emit e next ih =>
    have h' : Ends may next Q (state ((host.note e).run l s).2) := by rw [notes]; exact h
    exact ih h'
  | perform op next ih => exact ih _ (h _ _ (answers op l s))

/-- A run in a state is seen as a run in what `view` shows of the state, if single steps are. -/
theorem run_view {L S T : Type} {host : Host Op Reply (StateT L (StateM S))}
    {host' : Host Op Reply (StateT L (StateM T))} {view : S → T}
    (answers : ∀ op l s, ((host'.answer op).run l (view s)) =
      (((host.answer op).run l s).1, view ((host.answer op).run l s).2))
    (notes : ∀ e l s, ((host'.note e).run l (view s)) =
      (((host.note e).run l s).1, view ((host.note e).run l s).2))
    (p : Program Op Reply α) (l : L) (s : S) :
    (p.run host').run l (view s) = (((p.run host).run l s).1, view ((p.run host).run l s).2) := by
  induction p generalizing l s with
  | pure x => rfl
  | emit e next ih =>
    show (next.run host').run ((host'.note e).run l (view s)).1.2 ((host'.note e).run l (view s)).2 = _
    rw [notes]
    exact ih _ _
  | perform op next ih =>
    show ((next ((host'.answer op).run l (view s)).1.1).run host').run
      ((host'.answer op).run l (view s)).1.2 ((host'.answer op).run l (view s)).2 = _
    rw [answers]
    exact ih _ _ _

end Program

namespace Call
variable {σ α β : Type}

/-- `Q` of a result, `E` of a failure. -/
def Ending (Q : α → σ → Prop) (E : Failure → σ → Prop) : Except Failure α → σ → Prop
  | .ok x => Q x
  | .error f => E f

variable (may : (e : Effect) → σ → e.Reply → σ → Prop)

/-- Whatever may be replied, the call ends in `Q` with a result or in `E` with a failure. -/
def Ends (call : Call α) (Q : α → σ → Prop) (E : Failure → σ → Prop) : σ → Prop :=
  Program.Ends may call.run (Ending Q E)

/-- Whatever comes of the call, it ends in `I`. -/
abbrev Leaves (call : Call α) (I : σ → Prop) : σ → Prop := Ends may call (fun _ => I) (fun _ => I)

variable {may} {Q : α → σ → Prop} {E : Failure → σ → Prop}

theorem ends_run (call : Call α) (R : Except Failure α → σ → Prop) :
    Program.Ends may call.run R = Ends may call (fun x => R (.ok x)) (fun f => R (.error f)) := by
  have h : R = Ending (fun x => R (.ok x)) (fun f => R (.error f)) := by
    funext r s; cases r <;> rfl
  exact congrArg (Program.Ends may call.run) h

theorem Ends.mono {call : Call α} {Q' : α → σ → Prop} {E' : Failure → σ → Prop} {s : σ}
    (h : Ends may call Q E s) (hQ : ∀ x s, Q x s → Q' x s) (hE : ∀ f s, E f s → E' f s) :
    Ends may call Q' E' s := by
  refine Program.Ends.mono h fun r s hr => ?_
  cases r with
  | ok x => exact hQ x s hr
  | error f => exact hE f s hr

theorem Ends.and {call : Call α} {Q' : α → σ → Prop} {E' : Failure → σ → Prop} {s : σ}
    (h : Ends may call Q E s) (h' : Ends may call Q' E' s) :
    Ends may call (fun x s => Q x s ∧ Q' x s) (fun f s => E f s ∧ E' f s) s := by
  refine Program.Ends.mono (Program.Ends.and h h') fun r s hr => ?_
  cases r with
  | ok x => exact hr
  | error f => exact hr

@[simp] theorem ends_pure (x : α) : Ends may (pure x) Q E = Q x := rfl

@[simp] theorem ends_bind (call : Call α) (f : α → Call β) {Q : β → σ → Prop} :
    Ends may (call >>= f) Q E = Ends may call (fun x => Ends may (f x) Q E) E := by
  rw [Ends, ExceptT.run_bind, Program.ends_bind, ends_run]; rfl

@[simp] theorem ends_ofExcept (r : Except Failure α) : Ends may (ofExcept r) Q E = Ending Q E r := rfl

@[simp] theorem ends_argument (r : Except ArgumentFault α) :
    Ends may (argument r) Q E = Ending Q E (r.mapError .argument) := rfl

@[simp] theorem ends_lift (a : Activity α) : Ends may (ExceptT.lift a) Q E = Program.Ends may a Q := by
  rw [Ends, ExceptT.run_lift, map_eq_pure_bind, Program.ends_bind]; rfl

@[simp] theorem ends_report (e : Event) {Q : Unit → σ → Prop} : Ends may (report e) Q E = Q () := by
  rw [report, ends_lift, Program.ends_log]

@[simp] theorem ends_info (message : String) {Q : Unit → σ → Prop} :
    Ends may (info message) Q E = Q () := ends_report _

theorem ends_attempt (op : Operation) {Q : op.Answer → σ → Prop} :
    Ends may (attempt op) Q E = fun s => ∀ r s', may (.remote op) s r s' → Q r s' := by
  rw [attempt, ends_lift]; rfl

theorem ends_remote (op : Operation) {Q : op.Reply → σ → Prop} :
    Ends may (remote op) Q E =
      fun s => ∀ r s', may (.remote op) s r s' → Ending Q E (r.mapError .cloud) s' := by
  rw [remote, ends_bind, ends_attempt]; rfl

/-- A release after the call sees the state in which the call ends. -/
@[simp] theorem ends_thenAlways (release : Activity Unit) (call : Call α) :
    Ends may (thenAlways release call) Q E =
      Ends may call (fun x => Program.Ends may release fun _ => Q x)
        (fun f => Program.Ends may release fun _ => E f) := by
  rw [Ends, thenAlways, ExceptT.run_mk, Program.ends_bind, ends_run]
  simp only [Program.ends_bind]; rfl

@[simp] theorem ends_thenOnFailure (release : Activity Unit) (call : Call α) :
    Ends may (thenOnFailure release call) Q E =
      Ends may call Q (fun f => Program.Ends may release fun _ => E f) := by
  rw [Ends, thenOnFailure, ExceptT.run_mk, Program.ends_bind, ends_run]
  simp only [Bool.false_eq_true, if_false, if_true, Program.ends_bind]; rfl

/-! ## Operations that a call may come to -/

section
variable {P : Effect → Prop}

theorem only_bind {call : Call α} {f : α → Call β} (hc : call.run.Only P)
    (hf : ∀ x, (f x).run.Only P) : (call >>= f).run.Only P := by
  rw [ExceptT.run_bind]
  refine hc.bind fun r => ?_
  cases r with
  | ok x => exact hf x
  | error e => trivial

theorem only_lift {a : Activity α} (h : a.Only P) : (ExceptT.lift a : Call α).run.Only P := by
  rw [ExceptT.run_lift, map_eq_pure_bind]
  exact h.bind fun _ => trivial

theorem only_remote {op : Operation} (h : P (.remote op)) : (remote op).run.Only P :=
  only_bind (only_lift ((Program.only_ask _).2 h)) fun _ => trivial

/-- What no operation of the call breaks holds at its end. -/
theorem leaves_of_only {call : Call α} (hc : call.run.Only P)
    {may : (e : Effect) → σ → e.Reply → σ → Prop} {I : σ → Prop}
    (keeps : ∀ e s r s', P e → may e s r s' → I s → I s') {s : σ} (hs : I s) :
    Leaves may call I s := by
  rw [Leaves, ← ends_run call fun _ => I]
  exact hc.ends keeps hs

theorem only_thenAlways {release : Activity Unit} {call : Call α} (hr : release.Only P)
    (hc : call.run.Only P) : (thenAlways release call).run.Only P :=
  hc.bind fun _ => hr.bind fun _ => trivial

theorem only_thenOnFailure {release : Activity Unit} {call : Call α} (hr : release.Only P)
    (hc : call.run.Only P) : (thenOnFailure release call).run.Only P := by
  rw [thenOnFailure, ExceptT.run_mk]
  refine hc.bind fun r => ?_
  cases r with
  | ok x => trivial
  | error e => exact hr.bind fun _ => trivial

end

end Call
end CloudProvider
