import CloudProvider.Log.Event

/-!
Activities that report events and ask a host to perform operations. A program is a tree: what it does
next depends on the host's reply. Its meaning is what it does under a host, in whatever monad the host
works; so one program runs against the real world, against a world in memory, and under any behaviour
that a theorem speaks of.
-/

namespace CloudProvider

/-- An activity that ends with an `α`. -/
inductive Program (Op : Type) (Reply : Op → Type) (α : Type) where
  | pure (x : α)
  | emit (event : Event) (next : Program Op Reply α)
  | perform (op : Op) (next : Reply op → Program Op Reply α)

namespace Program
variable {Op : Type} {Reply : Op → Type} {α β γ : Type}

def bind : Program Op Reply α → (α → Program Op Reply β) → Program Op Reply β
  | .pure x, f => f x
  | .emit e next, f => .emit e (next.bind f)
  | .perform op next, f => .perform op fun r => (next r).bind f

instance : Monad (Program Op Reply) where
  pure := .pure
  bind := .bind

theorem bind_pure' (p : Program Op Reply α) : p.bind .pure = p := by
  induction p with
  | pure x => rfl
  | emit e next ih => rw [bind, ih]
  | perform op next ih => rw [bind]; congr; funext r; exact ih r

theorem bind_assoc' (p : Program Op Reply α) (f : α → Program Op Reply β)
    (g : β → Program Op Reply γ) : (p.bind f).bind g = p.bind fun x => (f x).bind g := by
  induction p with
  | pure x => rfl
  | emit e next ih => rw [bind, bind, bind, ih]
  | perform op next ih => rw [bind, bind, bind]; congr; funext r; exact ih r

instance : LawfulMonad (Program Op Reply) :=
  LawfulMonad.mk' _ bind_pure' (fun _ _ => rfl) bind_assoc'

/-- Reports an event. -/
def log (e : Event) : Program Op Reply Unit := .emit e (.pure ())

/-- Asks the host. -/
def ask (op : Op) : Program Op Reply (Reply op) := .perform op .pure

/-- What programs run under: answers to operations, and a place for events. -/
structure Host (Op : Type) (Reply : Op → Type) (m : Type → Type) where
  answer : (op : Op) → m (Reply op)
  note : Event → m Unit

def run {m : Type → Type} [Monad m] (host : Host Op Reply m) : Program Op Reply α → m α
  | .pure x => Pure.pure x
  | .emit e next => do host.note e; next.run host
  | .perform op next => do (next (← host.answer op)).run host

/-- A run as a sequence of single steps over a state, one for each operation. -/
def step {σ : Type} (answer : (op : Op) → σ → Reply op × σ) :
    Program Op Reply α → σ → Program Op Reply α × σ
  | .pure x, s => (.pure x, s)
  | .emit _ next, s => step answer next s
  | .perform op next, s => let (r, s) := answer op s; (next r, s)

end Program
end CloudProvider
