import CloudProvider.Proofs.Alike

/-! # Calls about different machines do not disturb each other

Each call has a process of its own, with files, an image tool and a log; two processes share nothing but the
control plane. Two calls attach or detach disks on behalf of two machines, and their steps alternate in any
way (`Race`). Neither changes what the other sees, so at any time what is left of a call leads to where the
whole of it would have led at the start (`OnCourse`), and no third machine sees anything (`Race.Sound`).
-/

namespace CloudProvider

theorem World.run_perform {σ α : Type} (w : World σ) (e : Effect) (next : e.Reply → Activity α)
    (log : CallLog) (s : σ) : ((Program.perform e next : Activity α).run w.host).run log s =
      ((next (w.answer e s).1).run w.host).run log (w.answer e s).2 := rfl

/-! ## What the other machines see -/

section
variable {σ α : Type} (w : World σ) (fresh : Nat → String) {vm other : String} {inv inv' : Inventory}
variable {e : Effect}

theorem World.answer_faultless (clear : inv.Faultless) (e : Effect) (own : σ) :
    ((w.withInventory fresh).answer e (inv, own)).2.1.Faultless := by
  cases e with
  | remote op => exact (Inventory.perform_later rfl).faultless clear
  | runTool | openFile | writeFile | createDirectory | createFile | removeDirectory | removeFile => exact clear

theorem World.answer_spares (serves : e.Serves vm) (hne : other ≠ vm) (inv : Inventory) (own : σ) :
    Inventory.SameFor other inv ((w.withInventory fresh).answer e (inv, own)).2.1 := by
  cases e with
  | remote op => exact Inventory.perform_spares fresh inv serves hne
  | runTool | openFile | writeFile | createDirectory | createFile | removeDirectory | removeFile =>
    exact .refl other inv

/-- An effect that serves the machine is answered by what the machine sees. -/
theorem World.answer_alike (serves : e.Serves vm) (same : Inventory.SameFor vm inv inv')
    (clear : inv.Faultless) (clear' : inv'.Faultless) (own : σ) :
    let a := (w.withInventory fresh).answer e (inv, own)
    let a' := (w.withInventory fresh).answer e (inv', own)
    e.Interchangeable a.1 a'.1 ∧ Inventory.SameFor vm a.2.1 a'.2.1 ∧ a'.2.2 = a.2.2 := by
  cases e with
  | remote op =>
    obtain ⟨replies, inventories⟩ := Inventory.perform_alike fresh serves same clear clear'
    exact ⟨replies, inventories, rfl⟩
  | runTool | openFile | writeFile | createDirectory | createFile | removeDirectory | removeFile =>
    exact ⟨rfl, same, rfl⟩

namespace Activity
variable {R : α → α → Prop} {p p' : Activity α}

/-- What comes of the activity, and what it leaves to its machine, depends on what the machine sees. -/
theorem Alike.run (h : Alike vm R p p') (same : Inventory.SameFor vm inv inv') (clear : inv.Faultless)
    (clear' : inv'.Faultless) (log log' : CallLog) (own : σ) :
    let r := (p.run (w.withInventory fresh).host).run log (inv, own)
    let r' := (p'.run (w.withInventory fresh).host).run log' (inv', own)
    R r.1.1 r'.1.1 ∧ Inventory.SameFor vm r.2.1 r'.2.1 := by
  induction h generalizing inv inv' log log' own with
  | pure h => exact ⟨h, same⟩
  | emit e e' h ih => exact ih same clear clear' _ _ _
  | @perform e next next' serves h ih =>
    obtain ⟨replies, inventories, owns⟩ := w.answer_alike fresh serves same clear clear' own
    have faultless := w.answer_faultless fresh clear e own
    have faultless' := w.answer_faultless fresh clear' e own
    dsimp only
    rw [World.run_perform, World.run_perform]
    generalize (w.withInventory fresh).answer e (inv, own) = a at replies inventories owns faultless ⊢
    generalize (w.withInventory fresh).answer e (inv', own) = a' at replies inventories owns faultless' ⊢
    obtain ⟨reply, inv₁, own₁⟩ := a
    obtain ⟨reply', inv₁', own₁'⟩ := a'
    -- The replies differ in their tasks at most, and what is left does not look at them.
    cases owns
    exact ih _ _ replies inventories faultless faultless' _ _ _

end Activity
end

/-! ## One call, step by step -/

/-- One step of a run: an event is noted, or an operation is answered. -/
def Program.advance {Op : Type} {Reply : Op → Type} {α : Type} {m : Type → Type} [Monad m]
    (host : Host Op Reply m) : Program Op Reply α → m (Program Op Reply α)
  | .pure x => Pure.pure (.pure x)
  | .emit e next => do
    host.note e
    return next
  | .perform op next => do return next (← host.answer op)

/-- A run is its first step and the run of what is left. -/
theorem Program.advance_run {Op : Type} {Reply : Op → Type} {α : Type} {m : Type → Type} [Monad m]
    [LawfulMonad m] (host : Host Op Reply m) (p : Program Op Reply α) :
    (do (← p.advance host).run host) = p.run host := by
  cases p with
  | pure x => simp [advance]
  | emit e next => simp [advance, run]
  | perform op next => simp [advance, run]

/-- What is left of a call, and the state of its process. -/
structure Pending (σ : Type) where
  rest : Activity (Except Failure Json)
  place : World.At σ

namespace Pending
variable {σ : Type}

/-- A call of which nothing has been done. -/
def start (settings : Settings) (method : String) (args : List Json) (place : World.At σ) : Pending σ :=
  ⟨Dispatch.run .default settings method args, place⟩

/-- The response, if nothing is left to do. -/
def response? (p : Pending σ) : Option Response :=
  match p.rest with
  | .pure outcome => some (.ofOutcome outcome p.place.log.text)
  | _ => none

variable (w : World σ) (fresh : Nat → String)

/-- One step, and the control plane after it. -/
def turn (inv : Inventory) (p : Pending σ) : Inventory × Pending σ :=
  let r := (p.rest.advance (w.withInventory fresh).host).run p.place.log (inv, p.place.state)
  (r.2.1, ⟨r.1.1, r.1.2, r.2.2⟩)

/-- What comes of the call if nothing comes between, and the control plane after it. -/
def conclusion (inv : Inventory) (p : Pending σ) : Except Failure Json × Inventory :=
  let r := (p.rest.run (w.withInventory fresh).host).run p.place.log (inv, p.place.state)
  (r.1.1, r.2.1)

theorem respond_conclusion (settings : Settings) (method : String) (args : List Json) (place : World.At σ)
    (inv : Inventory) :
    let r := (w.withInventory fresh).respond settings method args ⟨place.log, inv, place.state⟩
    let c := (start settings method args place).conclusion w fresh inv
    (∀ log, (Response.ofOutcome c.1 log).SameButLog r.1) ∧ r.2.state.1 = c.2 := by
  rw [World.respond_eq]
  unfold conclusion start
  -- What the program does is not asked for, so it is kept from being evaluated.
  generalize Dispatch.run .default settings method args = p
  exact ⟨fun log => Response.ofOutcome_any_log _ log _, rfl⟩

variable {vm other : String} {inv inv' : Inventory} {p : Pending σ}

/-- A step does not change where the call leads. -/
theorem conclusion_turn (inv : Inventory) (p : Pending σ) :
    (p.turn w fresh inv).2.conclusion w fresh (p.turn w fresh inv).1 = p.conclusion w fresh inv := by
  unfold conclusion
  rw [← Program.advance_run _ p.rest]
  rfl

theorem turn_faultless (clear : inv.Faultless) (p : Pending σ) : (p.turn w fresh inv).1.Faultless := by
  obtain ⟨rest, place⟩ := p
  cases rest with
  | pure outcome => exact clear
  | emit e next => exact clear
  | perform e next => exact w.answer_faultless fresh clear e place.state

theorem turn_spares (alike : Activity.Alike vm Eq p.rest p.rest) (hne : other ≠ vm) (inv : Inventory) :
    Inventory.SameFor other inv (p.turn w fresh inv).1 := by
  obtain ⟨rest, place⟩ := p
  cases alike with
  | pure h => exact .refl other inv
  | emit e e' h => exact .refl other inv
  | perform serves h => exact w.answer_spares fresh serves hne inv place.state

theorem turn_alike (alike : Activity.Alike vm Eq p.rest p.rest) (inv : Inventory) :
    Activity.Alike vm Eq (p.turn w fresh inv).2.rest (p.turn w fresh inv).2.rest := by
  obtain ⟨rest, place⟩ := p
  cases alike with
  | pure h => exact .pure h
  | emit e e' h => exact h
  | perform serves h => exact h _ _ (.refl _ _)

/-- What is left of the call leads to an end that was set at the start, as far as its machine sees. -/
structure OnCourse (vm : String) (goal : Except Failure Json × Inventory) (inv : Inventory)
    (p : Pending σ) : Prop where
  alike : Activity.Alike vm Eq p.rest p.rest
  outcome : (p.conclusion w fresh inv).1 = goal.1
  inventory : Inventory.SameFor vm goal.2 (p.conclusion w fresh inv).2

namespace OnCourse
variable {w fresh} {goal : Except Failure Json × Inventory}

theorem start (alike : Activity.Alike vm Eq p.rest p.rest) (inv : Inventory) :
    OnCourse w fresh vm (p.conclusion w fresh inv) inv p := ⟨alike, rfl, .refl vm _⟩

/-- The call makes a step of its own. -/
theorem turn (h : OnCourse w fresh vm goal inv p) :
    OnCourse w fresh vm goal (p.turn w fresh inv).1 (p.turn w fresh inv).2 := by
  refine ⟨turn_alike w fresh h.alike inv, ?_, ?_⟩
  · rw [conclusion_turn]
    exact h.outcome
  · rw [conclusion_turn]
    exact h.inventory

/-- Something else happens that the machine does not see. -/
theorem elsewhere (h : OnCourse w fresh vm goal inv p) (same : Inventory.SameFor vm inv inv')
    (clear : inv.Faultless) (clear' : inv'.Faultless) : OnCourse w fresh vm goal inv' p := by
  obtain ⟨outcome, inventory⟩ := h.alike.run w fresh same clear clear' p.place.log p.place.log p.place.state
  exact ⟨h.alike, outcome.symm.trans h.outcome, h.inventory.trans inventory⟩

/-- The end that was set is reached. -/
theorem ended (h : OnCourse w fresh vm goal inv p) {r : Response} (done : p.response? = some r) :
    (∃ log, r = .ofOutcome goal.1 log) ∧ Inventory.SameFor vm goal.2 inv := by
  obtain ⟨rest, place⟩ := p
  cases rest with
  | pure outcome =>
    cases done
    refine ⟨⟨place.log.text, ?_⟩, h.inventory⟩
    rw [← h.outcome]
    rfl
  | emit e next => cases done
  | perform e next => cases done

end OnCourse

/-- Steps one after the other, with nothing between. -/
def turns : Nat → Inventory × Pending σ → Inventory × Pending σ
  | 0, s => s
  | n + 1, s => turns n (s.2.turn w fresh s.1)

/-- Every call comes to its end. -/
theorem turns_end (inv : Inventory) (p : Pending σ) : ∃ n r,
    (turns w fresh n (inv, p)).2.response? = some r ∧
      (∃ log, r = .ofOutcome (p.conclusion w fresh inv).1 log) ∧
      (turns w fresh n (inv, p)).1 = (p.conclusion w fresh inv).2 := by
  obtain ⟨rest, place⟩ := p
  induction rest generalizing inv place with
  | pure outcome => exact ⟨0, _, rfl, ⟨_, rfl⟩, rfl⟩
  | emit e next ih =>
    obtain ⟨n, r, done⟩ := ih _ _
    exact ⟨n + 1, r, done⟩
  | perform e next ih =>
    obtain ⟨n, r, done⟩ := ih _ _ _
    exact ⟨n + 1, r, done⟩

end Pending

/-! ## Two calls in turns -/

/-- Whose turn it is. -/
inductive Side where
  | first
  | second

def Side.other : Side → Side
  | .first => .second
  | .second => .first

/-- Two calls that have not ended, and the control plane that they share. -/
structure Race (σ τ : Type) where
  inventory : Inventory
  first : Pending σ
  second : Pending τ

namespace Race
variable {σ τ : Type} (w₁ : World σ) (w₂ : World τ) (fresh : Nat → String)

/-- One of the calls makes its next step. -/
def turn (race : Race σ τ) : Side → Race σ τ
  | .first =>
    let r := race.first.turn w₁ fresh race.inventory
    ⟨r.1, r.2, race.second⟩
  | .second =>
    let r := race.second.turn w₂ fresh race.inventory
    ⟨r.1, race.first, r.2⟩

def run (turns : List Side) (race : Race σ τ) : Race σ τ := turns.foldl (turn w₁ w₂ fresh) race

/-- The same race, told from the other side. -/
def swap (race : Race σ τ) : Race τ σ := ⟨race.inventory, race.second, race.first⟩

theorem run_swap (turns : List Side) (race : Race σ τ) :
    (race.run w₁ w₂ fresh turns).swap = race.swap.run w₂ w₁ fresh (turns.map .other) := by
  induction turns generalizing race with
  | nil => rfl
  | cons side turns ih =>
    cases side with
    | first => exact ih (race.turn w₁ w₂ fresh .first)
    | second => exact ih (race.turn w₁ w₂ fresh .second)

/-- Both calls have ended, with these responses. -/
def Answered (race : Race σ τ) (r₁ r₂ : Response) : Prop :=
  race.first.response? = some r₁ ∧ race.second.response? = some r₂

theorem run_first (n : Nat) (race : Race σ τ) : race.run w₁ w₂ fresh (.replicate n .first) =
    let s := Pending.turns w₁ fresh n (race.inventory, race.first)
    ⟨s.1, s.2, race.second⟩ := by
  induction n generalizing race with
  | zero => rfl
  | succ n ih => exact ih (race.turn w₁ w₂ fresh .first)

theorem run_second (n : Nat) (race : Race σ τ) : race.run w₁ w₂ fresh (.replicate n .second) =
    let s := Pending.turns w₂ fresh n (race.inventory, race.second)
    ⟨s.1, race.first, s.2⟩ := by
  induction n generalizing race with
  | zero => rfl
  | succ n ih => exact ih (race.turn w₁ w₂ fresh .second)

/-- One way of taking turns is to let the first call come to its end before the second one starts. -/
theorem first_before_second (race : Race σ τ) :
    let a := race.first.conclusion w₁ fresh race.inventory
    let b := race.second.conclusion w₂ fresh a.2
    ∃ turns r₁ r₂, (race.run w₁ w₂ fresh turns).Answered r₁ r₂ ∧ (∃ log, r₁ = .ofOutcome a.1 log) ∧
      (∃ log, r₂ = .ofOutcome b.1 log) ∧ (race.run w₁ w₂ fresh turns).inventory = b.2 := by
  intro a b
  obtain ⟨n, r₁, done₁, outcome₁, left⟩ := Pending.turns_end w₁ fresh race.inventory race.first
  obtain ⟨m, r₂, done₂, outcome₂, final⟩ := Pending.turns_end w₂ fresh a.2 race.second
  refine ⟨.replicate n .first ++ .replicate m .second, r₁, r₂, ?_⟩
  rw [run, List.foldl_append, ← run, ← run, run_first, run_second]
  dsimp only
  rw [left]
  exact ⟨⟨done₁, done₂⟩, outcome₁, outcome₂, final⟩

/-- Each call leads to its end, and no third machine sees a difference. -/
structure Sound (vm₁ vm₂ : String) (goal₁ goal₂ : Except Failure Json × Inventory) (inv₀ : Inventory)
    (race : Race σ τ) : Prop where
  clear : race.inventory.Faultless
  first : race.first.OnCourse w₁ fresh vm₁ goal₁ race.inventory
  second : race.second.OnCourse w₂ fresh vm₂ goal₂ race.inventory
  others : ∀ vm, vm ≠ vm₁ → vm ≠ vm₂ → Inventory.SameFor vm inv₀ race.inventory

section
variable {w₁ w₂ fresh} {vm₁ vm₂ : String} {goal₁ goal₂ : Except Failure Json × Inventory}
variable {inv₀ : Inventory} {race : Race σ τ}

theorem Sound.turn (h : race.Sound w₁ w₂ fresh vm₁ vm₂ goal₁ goal₂ inv₀) (hne : vm₁ ≠ vm₂)
    (side : Side) : (race.turn w₁ w₂ fresh side).Sound w₁ w₂ fresh vm₁ vm₂ goal₁ goal₂ inv₀ := by
  cases side with
  | first =>
    have clear := race.first.turn_faultless w₁ fresh h.clear
    have spares {vm : String} (hv : vm ≠ vm₁) := Pending.turn_spares w₁ fresh h.first.alike hv race.inventory
    exact ⟨clear, h.first.turn, h.second.elsewhere (spares hne.symm) h.clear clear,
      fun vm hv hv' => (h.others vm hv hv').trans (spares hv)⟩
  | second =>
    have clear := race.second.turn_faultless w₂ fresh h.clear
    have spares {vm : String} (hv : vm ≠ vm₂) := Pending.turn_spares w₂ fresh h.second.alike hv race.inventory
    exact ⟨clear, h.first.elsewhere (spares hne) h.clear clear, h.second.turn,
      fun vm hv hv' => (h.others vm hv hv').trans (spares hv')⟩

theorem Sound.run (h : race.Sound w₁ w₂ fresh vm₁ vm₂ goal₁ goal₂ inv₀) (hne : vm₁ ≠ vm₂)
    (turns : List Side) : (race.run w₁ w₂ fresh turns).Sound w₁ w₂ fresh vm₁ vm₂ goal₁ goal₂ inv₀ := by
  induction turns generalizing race with
  | nil => exact h
  | cons side turns ih => exact ih (h.turn hne side)

/-- Two races that lead to the same ends agree when they are over. -/
theorem Sound.agree {race' : Race σ τ} {r₁ r₂ r₁' r₂' : Response}
    (h : race.Sound w₁ w₂ fresh vm₁ vm₂ goal₁ goal₂ inv₀) (done : race.Answered r₁ r₂)
    (h' : race'.Sound w₁ w₂ fresh vm₁ vm₂ goal₁ goal₂ inv₀) (done' : race'.Answered r₁' r₂') :
    r₁.SameButLog r₁' ∧ r₂.SameButLog r₂' ∧ race.inventory.SameMachines race'.inventory := by
  obtain ⟨⟨log₁, rfl⟩, seen₁⟩ := h.first.ended done.1
  obtain ⟨⟨log₂, rfl⟩, seen₂⟩ := h.second.ended done.2
  obtain ⟨⟨log₁', rfl⟩, seen₁'⟩ := h'.first.ended done'.1
  obtain ⟨⟨log₂', rfl⟩, seen₂'⟩ := h'.second.ended done'.2
  refine ⟨Response.ofOutcome_any_log .., Response.ofOutcome_any_log .., Inventory.SameFor.all ?_⟩
  intro vm
  -- A machine of the race sees what its own call was to leave, any other what it saw at the start.
  by_cases hv₁ : vm = vm₁
  · rw [hv₁]
    exact seen₁.symm.trans seen₁'
  · by_cases hv₂ : vm = vm₂
    · rw [hv₂]
      exact seen₂.symm.trans seen₂'
    · exact (h.others vm hv₁ hv₂).symm.trans (h'.others vm hv₁ hv₂)

end

section
variable (settings₁ settings₂ : Settings) (rev₁ rev₂ : Revision) {args₁ args₂ : List Json}
variable {vm₁ vm₂ disk₁ disk₂ : String} (pair₁ : Disks.pair args₁ = .ok (vm₁, disk₁))
variable (pair₂ : Disks.pair args₂ = .ok (vm₂, disk₂)) (hne : vm₁ ≠ vm₂) {inv : Inventory}
variable (clear : inv.Faultless) (s₁ : World.At σ) (s₂ : World.At τ) (turns : List Side)
include pair₁ pair₂ hne clear

/-- A race that is over ends as if the first call had been made before the second one. -/
theorem answered_as_first_before_second (r₁ r₂ : Response) :
    let start : Race σ τ :=
      ⟨inv, .start settings₁ rev₁.method args₁ s₁, .start settings₂ rev₂.method args₂ s₂⟩
    let race := start.run w₁ w₂ fresh turns
    let one := (w₁.withInventory fresh).respond settings₁ rev₁.method args₁ ⟨s₁.log, inv, s₁.state⟩
    let other := (w₂.withInventory fresh).respond settings₂ rev₂.method args₂
      ⟨s₂.log, one.2.state.1, s₂.state⟩
    race.Answered r₁ r₂ →
      r₁.SameButLog one.1 ∧ r₂.SameButLog other.1 ∧ race.inventory.SameMachines other.2.state.1 := by
  intro start race one other done
  have sound : start.Sound w₁ w₂ fresh vm₁ vm₂ _ _ inv :=
    ⟨clear, .start (rev₁.alike settings₁ pair₁) inv, .start (rev₂.alike settings₂ pair₂) inv,
      fun vm _ _ => .refl vm inv⟩
  -- One call after the other is a race as well, from the same start and so to the same ends.
  obtain ⟨turns', _, _, done', ⟨log₁, rfl⟩, ⟨log₂, rfl⟩, final⟩ := start.first_before_second w₁ w₂ fresh
  obtain ⟨same₁, same₂, machines⟩ := (sound.run hne turns).agree done (sound.run hne turns') done'
  obtain ⟨answer₁, between⟩ := Pending.respond_conclusion w₁ fresh settings₁ rev₁.method args₁ s₁ inv
  obtain ⟨answer₂, left⟩ :=
    Pending.respond_conclusion w₂ fresh settings₂ rev₂.method args₂ s₂ one.2.state.1
  have between : one.2.state.1 = (start.first.conclusion w₁ fresh inv).2 := between
  rw [← between] at same₂ final
  refine ⟨same₁.trans (answer₁ log₁), same₂.trans (answer₂ log₂), ?_⟩
  have left : other.2.state.1 = (start.second.conclusion w₂ fresh one.2.state.1).2 := left
  rw [left, ← final]
  exact machines

/-- Two calls attach or detach disks on behalf of two machines, and take turns in any way. They can be
brought to their ends; and when they are there, both have been answered, and all is left, as if one had
been made after the other, whichever was first. -/
theorem answered_in_order :
    let start : Race σ τ :=
      ⟨inv, .start settings₁ rev₁.method args₁ s₁, .start settings₂ rev₂.method args₂ s₂⟩
    let race := start.run w₁ w₂ fresh turns
    let first := fun inv : Inventory =>
      (w₁.withInventory fresh).respond settings₁ rev₁.method args₁ ⟨s₁.log, inv, s₁.state⟩
    let second := fun inv : Inventory =>
      (w₂.withInventory fresh).respond settings₂ rev₂.method args₂ ⟨s₂.log, inv, s₂.state⟩
    (∃ more r₁ r₂, (race.run w₁ w₂ fresh more).Answered r₁ r₂) ∧
      ∀ r₁ r₂, race.Answered r₁ r₂ →
        (let one := first inv
          let other := second one.2.state.1
          r₁.SameButLog one.1 ∧ r₂.SameButLog other.1 ∧
            race.inventory.SameMachines other.2.state.1) ∧
        let one := second inv
        let other := first one.2.state.1
        r₂.SameButLog one.1 ∧ r₁.SameButLog other.1 ∧ race.inventory.SameMachines other.2.state.1 := by
  intro start race first second
  constructor
  · obtain ⟨more, r₁, r₂, done, -⟩ := race.first_before_second w₁ w₂ fresh
    exact ⟨more, r₁, r₂, done⟩
  intro r₁ r₂ done
  constructor
  · exact answered_as_first_before_second w₁ w₂ fresh settings₁ settings₂ rev₁ rev₂ pair₁ pair₂ hne clear
      s₁ s₂ turns r₁ r₂ done
  · have told : Race.run w₂ w₁ fresh (turns.map .other)
        ⟨inv, .start settings₂ rev₂.method args₂ s₂, .start settings₁ rev₁.method args₁ s₁⟩ = race.swap :=
      (run_swap w₁ w₂ fresh turns start).symm
    have swapped := answered_as_first_before_second w₂ w₁ fresh settings₂ settings₁ rev₂ rev₁ pair₂ pair₁
      hne.symm clear s₂ s₁ (turns.map .other) r₂ r₁
    dsimp only at swapped
    rw [told] at swapped
    exact swapped ⟨done.2, done.1⟩

end

/-- The machine that gets the disk and the machine that gives it up, in turns. -/
theorem answered_in_order_handover :
    let settings : Settings := .bare "http://127.0.0.1" "project" "nats"
    let attach := [Json.str "vm-1", .str "disk-1"]
    let detach := [Json.str "vm-2", .str "disk-1"]
    let inv := (Inventory.pair.insertVm "vm-2" |>.insertDisk "disk-1" ["vm-2"]).putMetadata "vm-2"
      Agent.metadataKey Agent.Environment.bare.document
    let s : World.At Unit := ⟨.empty, ()⟩
    let start : Race Unit Unit := ⟨inv, .start settings Revision.attach.method attach s,
      .start settings Revision.detach.method detach s⟩
    let race := start.run World.calm World.calm Nat.repr (List.replicate 40 [Side.first, .second]).flatten
    let first := fun inv : Inventory => (World.calm.withInventory Nat.repr).respond settings
      Revision.attach.method attach ⟨s.log, inv, s.state⟩
    let second := fun inv : Inventory => (World.calm.withInventory Nat.repr).respond settings
      Revision.detach.method detach ⟨s.log, inv, s.state⟩
    inv.Faultless ∧ ∃ r₁ r₂, race.Answered r₁ r₂ ∧ r₁.isSuccess = true ∧ r₂.isSuccess = true ∧
      let one := first inv
      let other := second one.2.state.1
      r₁.SameButLog one.1 ∧ r₂.SameButLog other.1 ∧ race.inventory.SameMachines other.2.state.1 := by
  intro settings attach detach inv s start race first second
  have clear : inv.Faultless := fun _ => rfl
  have finished : race.first.response?.map (·.isSuccess) = some true ∧
      race.second.response?.map (·.isSuccess) = some true := by decide +kernel
  obtain ⟨r₁, done₁, success₁⟩ := Option.map_eq_some_iff.1 finished.1
  obtain ⟨r₂, done₂, success₂⟩ := Option.map_eq_some_iff.1 finished.2
  have pair₁ : Disks.pair attach = .ok ("vm-1", "disk-1") := rfl
  have pair₂ : Disks.pair detach = .ok ("vm-2", "disk-1") := rfl
  have answered : race.Answered r₁ r₂ := ⟨done₁, done₂⟩
  have ordered := answered_in_order World.calm World.calm Nat.repr settings settings .attach .detach
    pair₁ pair₂ (by decide) clear s s (List.replicate 40 [Side.first, .second]).flatten
  refine ⟨clear, r₁, r₂, answered, success₁, success₂, ?_⟩
  have told := (ordered.2 r₁ r₂ answered).1
  dsimp only [first, second, race, start] at told ⊢
  exact told

end Race

end CloudProvider
