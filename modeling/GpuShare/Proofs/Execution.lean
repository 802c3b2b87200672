import GpuShare.Proofs.Protocol

/-!
Executions in surroundings that may answer in several ways. The surroundings relate a state to the answers
that a request may get there and to the state that each leaves. An execution says all that was asked and
answered, so a failure is an answer like any other and needs no cause. What a program can ask is a matter of
its tree alone, and what the answers do is a matter of the surroundings alone.
-/

set_option autoImplicit false

namespace GpuShare

/-- The answers that a request may get in a state, each with the state after it. -/
abbrev Surroundings (I : Interface) (σ : Type) : Type :=
  σ → (request : I.Request) → I.Answer request → σ → Prop

section Surroundings

variable {I : Interface} {σ ν : Type} {replies : Surroundings I σ} {state after : σ}
  {exchanges : List (Exchange I)}

/-- These requests may be answered like this, one after the other. -/
def Passes (replies : Surroundings I σ) : σ → List (Exchange I) → σ → Prop
  | state, [], after => after = state
  | state, exchange :: rest, after =>
    ∃ middle, replies state exchange.request exchange.answer middle ∧ Passes replies middle rest after

theorem passes_append {first rest : List (Exchange I)} :
    Passes replies state (first ++ rest) after ↔
      ∃ middle, Passes replies state first middle ∧ Passes replies middle rest after := by
  induction first generalizing state with
  | nil => simp [Passes]
  | cons exchange first ih =>
    simp only [List.cons_append, Passes, ih]
    constructor
    · rintro ⟨here, replied, middle, begins, ends⟩
      exact ⟨middle, ⟨here, replied, begins⟩, ends⟩
    · rintro ⟨middle, ⟨here, replied, begins⟩, ends⟩
      exact ⟨here, replied, middle, begins, ends⟩

theorem Passes.keeps (passes : Passes replies state exchanges after) {view : σ → ν}
    (leaves : ∀ exchange ∈ exchanges, ∀ state after,
      replies state exchange.request exchange.answer after → view after = view state) :
    view after = view state := by
  induction exchanges generalizing state with
  | nil => rw [show after = state from passes]
  | cons exchange rest ih =>
    obtain ⟨middle, replied, later⟩ := passes
    have kept := ih later fun other member => leaves other (List.mem_cons_of_mem _ member)
    rw [kept]
    exact leaves exchange List.mem_cons_self _ _ replied

-- What every exchange keeps holds wherever one of them is answered, and after them.
theorem Passes.reaches (passes : Passes replies state exchanges after) (invariant : σ → Prop)
    (keeps : ∀ exchange ∈ exchanges, ∀ state next, invariant state →
      replies state exchange.request exchange.answer next → invariant next) (here : invariant state) :
    invariant after ∧ ∀ exchange ∈ exchanges, ∃ state next, invariant state ∧
      replies state exchange.request exchange.answer next := by
  induction exchanges generalizing state with
  | nil =>
    rw [show after = state from passes]
    exact ⟨here, nofun⟩
  | cons exchange rest ih =>
    obtain ⟨middle, replied, later⟩ := passes
    obtain ⟨first, keeps⟩ := List.forall_mem_cons.1 keeps
    obtain ⟨last, all⟩ := ih later keeps (first state middle here replied)
    exact ⟨last, List.forall_mem_cons.2 ⟨⟨state, middle, here, replied⟩, all⟩⟩

end Surroundings

namespace Program

variable {I : Interface} {φ α β σ τ : Type} {replies : Surroundings I σ} {program : Program I α}
  {state after : σ} {exchanges : List (Exchange I)} {a : α}

structure Executes (replies : Surroundings I σ) (program : Program I α) (state : σ)
    (exchanges : List (Exchange I)) (value : α) (after : σ) : Prop where
  ends : program.Ends exchanges value
  passes : Passes replies state exchanges after

theorem ends_bind {f : α → Program I β} {b : β} :
    (program >>= f).Ends exchanges b ↔ ∃ a first rest, exchanges = first ++ rest ∧
      program.Ends first a ∧ (f a).Ends rest b := by
  induction program generalizing exchanges with
  | done a =>
    constructor
    · intro ends
      exact ⟨a, [], exchanges, rfl, ⟨rfl, rfl⟩, ends⟩
    · rintro ⟨_, _, rest, rfl, ⟨rfl, rfl⟩, ends⟩
      exact ends
  | ask request next ih =>
    constructor
    · rintro ⟨answer, later, rfl, ends⟩
      obtain ⟨a, first, rest, rfl, begins, ends⟩ := (ih answer).1 ends
      exact ⟨a, _ :: first, rest, rfl, ⟨answer, first, rfl, begins⟩, ends⟩
    · rintro ⟨a, _, rest, rfl, ⟨answer, first, rfl, begins⟩, ends⟩
      exact ⟨answer, first ++ rest, rfl, (ih answer).2 ⟨a, first, rest, rfl, begins, ends⟩⟩

theorem Asks.of_ends {kind : I.Request → Prop} (asks : program.Asks kind)
    (ends : program.Ends exchanges a) : ∀ exchange ∈ exchanges, kind exchange.request := by
  induction program generalizing exchanges with
  | done value =>
    obtain ⟨rfl, -⟩ := ends
    nofun
  | ask request next ih =>
    obtain ⟨answer, rest, rfl, later⟩ := ends
    exact List.forall_mem_cons.2 ⟨asks.1, ih answer (asks.2 answer) later⟩

-- What every allowed exchange keeps is kept by a program that follows the protocol.
theorem Follows.executes {protocol : Protocol I φ} {ends : φ → α → Prop} {phase : φ}
    (follows : program.Follows protocol ends phase)
    (executes : program.Executes replies state exchanges a after) (invariant : φ → σ → Prop)
    (keeps : ∀ phase state request answer next, invariant phase state →
      protocol.allows phase request → replies state request answer next →
      invariant (protocol.next phase request answer) next)
    (here : invariant phase state) : ∃ phase, invariant phase after ∧ ends phase a := by
  obtain ⟨finished, passes⟩ := executes
  induction program generalizing phase state exchanges with
  | done value =>
    obtain ⟨rfl, rfl⟩ := finished
    obtain rfl : after = state := passes
    exact ⟨phase, here, follows⟩
  | ask request next ih =>
    obtain ⟨answer, rest, rfl, finished⟩ := finished
    obtain ⟨middle, replied, passes⟩ := passes
    exact ih answer (follows.2 answer) (keeps _ _ _ _ _ here follows.1 replied) finished passes

def trace (serve : (request : I.Request) → τ → I.Answer request × τ) :
    Program I α → τ → List (Exchange I)
  | done _, _ => []
  | ask request next, state =>
    ⟨request, (serve request state).1⟩ ::
      (next (serve request state).1).trace serve (serve request state).2

theorem ends_run (serve : (request : I.Request) → τ → I.Answer request × τ) (program : Program I α)
    (state : τ) : program.Ends (program.trace serve state) (program.run serve state).1 := by
  induction program generalizing state with
  | done a => exact ⟨rfl, rfl⟩
  | ask request next ih => exact ⟨_, _, rfl, ih _ _⟩

-- A run that is answered as the surroundings may answer is an execution.
theorem executes_run {serve : (request : I.Request) → τ → I.Answer request × τ} (view : τ → σ)
    (fits : ∀ request state,
      replies (view state) request (serve request state).1 (view (serve request state).2))
    (program : Program I α) (state : τ) :
    program.Executes replies (view state) (program.trace serve state) (program.run serve state).1
      (view (program.run serve state).2) := by
  refine ⟨ends_run serve program state, ?_⟩
  induction program generalizing state with
  | done a => exact rfl
  | ask request next ih => exact ⟨_, fits request state, ih _ _⟩

end Program

namespace Attempt

variable {I : Interface} {ε α β : Type} {exchanges : List (Exchange I)}

-- An attempt goes on only after a part that did not fail.
theorem ends_bind {attempt : Attempt I ε α} {next : α → Attempt I ε β} {outcome : Except ε β} :
    (attempt >>= next).run.Ends exchanges outcome ↔
      (∃ e, outcome = .error e ∧ attempt.run.Ends exchanges (.error e)) ∨
      ∃ a first rest, exchanges = first ++ rest ∧ attempt.run.Ends first (.ok a) ∧
        (next a).run.Ends rest outcome := by
  rw [ExceptT.run_bind, Program.ends_bind]
  constructor
  · rintro ⟨result, first, rest, rfl, begins, ends⟩
    cases result with
    | ok a => exact .inr ⟨a, first, rest, rfl, begins, ends⟩
    | error e =>
      obtain ⟨rfl, rfl⟩ := ends
      exact .inl ⟨e, rfl, by rwa [List.append_nil]⟩
  · rintro (⟨e, rfl, ends⟩ | ⟨a, first, rest, rfl, begins, ends⟩)
    · exact ⟨.error e, exchanges, [], (List.append_nil _).symm, ends, rfl, rfl⟩
    · exact ⟨.ok a, first, rest, rfl, begins, ends⟩

end Attempt

end GpuShare
