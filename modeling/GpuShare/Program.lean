/-!
Programs that ask their surroundings. A program is a tree: it is done, or it asks a request and goes
on with the answer. What the answers are is left to whoever runs it, so one program can be run alone,
step by step between others, or against surroundings that fail.
-/

set_option autoImplicit false

namespace GpuShare

/-- What a program may ask, and the type of each answer. -/
structure Interface where
  Request : Type
  Answer : Request → Type

/-- A finite tree of requests that ends in a value. -/
inductive Program (I : Interface) (α : Type) where
  | done (a : α)
  | ask (request : I.Request) (next : I.Answer request → Program I α)

namespace Program

variable {I : Interface} {α β γ σ : Type}

def bind : Program I α → (α → Program I β) → Program I β
  | done a, f => f a
  | ask request next, f => ask request fun answer => (next answer).bind f

instance : Monad (Program I) where
  pure := done
  bind := bind

def request (request : I.Request) : Program I (I.Answer request) := ask request done

def run (serve : (request : I.Request) → σ → I.Answer request × σ) : Program I α → σ → α × σ
  | done a, state => (a, state)
  | ask request next, state =>
    let (answer, state) := serve request state
    (next answer).run serve state

theorem bind_done (program : Program I α) : program.bind done = program := by
  induction program with
  | done a => rfl
  | ask request next ih => simp only [bind]; congr 1; funext answer; exact ih answer

theorem bind_assoc (program : Program I α) (f : α → Program I β) (g : β → Program I γ) :
    (program.bind f).bind g = program.bind fun a => (f a).bind g := by
  induction program with
  | done a => rfl
  | ask request next ih => simp only [bind]; congr 1; funext answer; exact ih answer

instance : LawfulMonad (Program I) := LawfulMonad.mk' _ bind_done (fun _ _ => rfl) bind_assoc

-- Running two programs in a row hands the state on.
theorem run_bind (serve : (request : I.Request) → σ → I.Answer request × σ)
    (program : Program I α) (f : α → Program I β) (state : σ) :
    (program.bind f).run serve state =
      (f (program.run serve state).1).run serve (program.run serve state).2 := by
  induction program generalizing state with
  | done a => rfl
  | ask request next ih => exact ih _ _

end Program

abbrev Attempt (I : Interface) (ε α : Type) := ExceptT ε (Program I) α

namespace Attempt

variable {I : Interface} {ε δ α : Type}

def lift (program : Program I α) : Attempt I ε α :=
  ExceptT.mk (program.bind fun a => .done (.ok a))

def explaining (f : ε → δ) (attempt : Attempt I ε α) : Attempt I δ α :=
  ExceptT.mk (attempt.run.bind fun
    | .ok a => .done (.ok a)
    | .error e => .done (.error (f e)))

def outcome (attempt : Attempt I ε α) : Attempt I δ (Except ε α) := lift attempt.run

end Attempt

end GpuShare
