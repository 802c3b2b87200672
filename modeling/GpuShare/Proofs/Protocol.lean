import GpuShare.Program

/-!
What a program may ask, whatever it is answered. A protocol has phases: a phase allows some requests,
and an answer leads to the next phase. Following a protocol is said of the tree of the program, so it
holds of a program that is run alone, and of one whose steps lie between the steps of others.
-/

set_option autoImplicit false

namespace GpuShare

structure Exchange (I : Interface) where
  request : I.Request
  answer : I.Answer request

/-- The requests that each phase allows, and the phase after an answer. -/
structure Protocol (I : Interface) (φ : Type) where
  allows : φ → I.Request → Prop
  next : φ → (request : I.Request) → I.Answer request → φ

namespace Program

variable {I : Interface} {φ α β : Type}

/-- A program asks only what its phase allows, and ends in a phase that suits its value. -/
def Follows (protocol : Protocol I φ) (ends : φ → α → Prop) : φ → Program I α → Prop
  | phase, done a => ends phase a
  | phase, ask request next =>
    protocol.allows phase request ∧
      ∀ answer, (next answer).Follows protocol ends (protocol.next phase request answer)

section Laws

variable {protocol : Protocol I φ} {phase : φ}

theorem follows_bind {ends : φ → β → Prop} {program : Program I α} {f : α → Program I β} :
    (program >>= f).Follows protocol ends phase ↔
      program.Follows protocol (fun phase a => (f a).Follows protocol ends phase) phase := by
  induction program generalizing phase with
  | done a => exact Iff.rfl
  | ask request next ih =>
    show _ ∧ (∀ answer, (next answer >>= f).Follows protocol ends _) ↔ _ ∧ _
    simp only [ih]

theorem Follows.mono {ends weaker : φ → α → Prop} {program : Program I α}
    (follows : program.Follows protocol ends phase)
    (implies : ∀ phase a, ends phase a → weaker phase a) :
    program.Follows protocol weaker phase := by
  induction program generalizing phase with
  | done a => exact implies phase a follows
  | ask request next ih => exact ⟨follows.1, fun answer => ih answer (follows.2 answer)⟩

end Laws

/-- Every request that a program can come to ask is of a kind. -/
def Asks (kind : I.Request → Prop) : Program I α → Prop
  | done _ => True
  | ask request next => kind request ∧ ∀ answer, (next answer).Asks kind

section Kinds

variable {kind : I.Request → Prop}

theorem asks_bind {program : Program I α} {f : α → Program I β}
    (first : program.Asks kind) (rest : ∀ a, (f a).Asks kind) : (program >>= f).Asks kind := by
  induction program with
  | done a => exact rest a
  | ask request next ih => exact ⟨first.1, fun answer => ih answer (first.2 answer)⟩

theorem Asks.mono {wider : I.Request → Prop} {program : Program I α} (asks : program.Asks kind)
    (implies : ∀ request, kind request → wider request) : program.Asks wider := by
  induction program with
  | done a => trivial
  | ask request next ih => exact ⟨implies request asks.1, fun answer => ih answer (asks.2 answer)⟩

theorem Follows.asks {protocol : Protocol I φ} {ends : φ → α → Prop} {program : Program I α}
    {phase : φ} (follows : program.Follows protocol ends phase)
    (implies : ∀ phase request, protocol.allows phase request → kind request) :
    program.Asks kind := by
  induction program generalizing phase with
  | done a => trivial
  | ask request next ih =>
    exact ⟨implies phase request follows.1, fun answer => ih answer (follows.2 answer)⟩

end Kinds

inductive MayAsk (kind : I.Request → Prop) : Program I α → Prop where
  | now {request : I.Request} {next : I.Answer request → Program I α} :
      kind request → MayAsk kind (ask request next)
  | later {request : I.Request} {next : I.Answer request → Program I α} (answer : I.Answer request) :
      MayAsk kind (next answer) → MayAsk kind (ask request next)

def Ends : Program I α → List (Exchange I) → α → Prop
  | done a, exchanges, value => exchanges = [] ∧ value = a
  | ask request next, exchanges, value =>
    ∃ answer rest, exchanges = ⟨request, answer⟩ :: rest ∧ (next answer).Ends rest value

/-- Whatever a program is answered, its value has a property. -/
def Gives (property : α → Prop) : Program I α → Prop
  | done a => property a
  | ask _ next => ∀ answer, (next answer).Gives property

section Values

variable {property : α → Prop} {other : β → Prop} {program : Program I α}

theorem gives_bind {f : α → Program I β} (first : program.Gives property)
    (rest : ∀ a, property a → (f a).Gives other) : (program >>= f).Gives other := by
  induction program with
  | done a => exact rest a first
  | ask request next ih => exact fun answer => ih answer (first answer)

theorem gives_of_rest {f : α → Program I β} (rest : ∀ a, (f a).Gives other) :
    (program >>= f).Gives other := by
  induction program with
  | done a => exact rest a
  | ask request next ih => exact ih

theorem Gives.of_ends (gives : program.Gives property) {exchanges : List (Exchange I)} {a : α}
    (ends : program.Ends exchanges a) : property a := by
  induction program generalizing exchanges with
  | done value =>
    obtain ⟨-, rfl⟩ := ends
    exact gives
  | ask request next ih =>
    obtain ⟨answer, rest, -, later⟩ := ends
    exact ih answer (gives answer) later

theorem gives_of_forall (always : ∀ a, property a) : program.Gives property := by
  rw [← bind_done program]
  exact gives_of_rest always

-- What follows a program has to ask properly only after the values that the program gives.
theorem asks_bind_of_gives {kind : I.Request → Prop} {f : α → Program I β} (first : program.Asks kind)
    (gives : program.Gives property) (rest : ∀ a, property a → (f a).Asks kind) : (program >>= f).Asks kind := by
  induction program with
  | done a => exact rest a gives
  | ask request next ih => exact ⟨first.1, fun answer => ih answer (first.2 answer) (gives answer)⟩

theorem Gives.run {σ : Type} (gives : program.Gives property)
    (serve : (request : I.Request) → σ → I.Answer request × σ) (state : σ) :
    property (program.run serve state).1 := by
  induction program generalizing state with
  | done a => exact gives
  | ask request next ih => exact ih _ (gives _) _

end Values

-- Requests that are allowed whatever was asked, and that a phase only keeps a record of.
theorem Asks.follows {kind : I.Request → Prop} {protocol : Protocol I φ} {ends : φ → α → Prop}
    {program : Program I α} (asks : program.Asks kind) (phase : List (Exchange I) → φ)
    (allowed : ∀ events request, kind request → protocol.allows (phase events) request)
    (recorded : ∀ events request answer, kind request →
      protocol.next (phase events) request answer = phase (events ++ [⟨request, answer⟩]))
    (events : List (Exchange I))
    (suits : ∀ more a, program.Ends more a → ends (phase (events ++ more)) a) :
    program.Follows protocol ends (phase events) := by
  induction program generalizing events with
  | done a =>
    have here := suits [] a ⟨rfl, rfl⟩
    rwa [List.append_nil] at here
  | ask request next ih =>
    refine ⟨allowed events request asks.1, fun answer => ?_⟩
    rw [recorded events request answer asks.1]
    refine ih answer (asks.2 answer) _ fun more a finished => ?_
    rw [List.append_assoc]
    exact suits _ a ⟨answer, more, rfl, finished⟩

-- In phases that allow no request of a kind, a program cannot come to ask one.
theorem Follows.not_mayAsk {kind : I.Request → Prop} {protocol : Protocol I φ}
    {ends : φ → α → Prop} {program : Program I α} {phase : φ} (closed : φ → Prop)
    (never : ∀ phase request, closed phase → protocol.allows phase request → ¬ kind request)
    (stays : ∀ phase request answer, closed phase → protocol.allows phase request →
      closed (protocol.next phase request answer))
    (here : closed phase) (follows : program.Follows protocol ends phase) :
    ¬ program.MayAsk kind := by
  intro may
  induction may generalizing phase with
  | now asked => exact never _ _ here follows.1 asked
  | later answer _ ih => exact ih (stays _ _ answer here follows.1) (follows.2 answer)

end Program

namespace Attempt

variable {I : Interface} {φ ε α β : Type}

def Outcome (good : φ → α → Prop) (bad : φ → ε → Prop) (phase : φ) : Except ε α → Prop
  | .ok a => good phase a
  | .error e => bad phase e

section Laws

variable {protocol : Protocol I φ} {phase : φ}

-- A failed attempt keeps what follows it from happening.
theorem follows_bind {attempt : Attempt I ε α} {next : α → Attempt I ε β} {good : φ → α → Prop}
    {bad : φ → ε → Prop} {ends : φ → Except ε β → Prop}
    (first : attempt.run.Follows protocol (Outcome good bad) phase)
    (rest : ∀ phase a, good phase a → (next a).run.Follows protocol ends phase)
    (skip : ∀ phase e, bad phase e → ends phase (.error e)) :
    (attempt >>= next).run.Follows protocol ends phase := by
  rw [ExceptT.run_bind, Program.follows_bind]
  refine first.mono fun phase outcome suits => ?_
  cases outcome with
  | ok a => exact rest phase a suits
  | error e => exact skip phase e suits

end Laws

section Kinds

variable {kind : I.Request → Prop}

theorem asks_bind {attempt : Attempt I ε α} {next : α → Attempt I ε β}
    (first : attempt.run.Asks kind) (rest : ∀ a, (next a).run.Asks kind) :
    (attempt >>= next).run.Asks kind := by
  rw [ExceptT.run_bind]
  refine Program.asks_bind first fun outcome => ?_
  cases outcome with
  | ok a => exact rest a
  | error e => trivial

theorem asks_lift {request : I.Request} (asked : kind request) :
    (lift (.request request) : Attempt I ε _).run.Asks kind :=
  ⟨asked, fun _ => trivial⟩

end Kinds

section Values

variable {good : α → Prop} {better : β → Prop} {attempt : Attempt I ε α}

def Gives (good : α → Prop) (attempt : Attempt I ε α) : Prop :=
  attempt.run.Gives fun outcome => ∀ a, outcome = .ok a → good a

theorem gives_bind {next : α → Attempt I ε β} (first : attempt.Gives good)
    (rest : ∀ a, good a → (next a).Gives better) : (attempt >>= next).Gives better := by
  unfold Attempt.Gives
  rw [ExceptT.run_bind]
  refine Program.gives_bind first fun outcome holds => ?_
  cases outcome with
  | ok a => exact rest a (holds a rfl)
  | error e => nofun

theorem gives_pure {a : α} (holds : good a) : (pure a : Attempt I ε α).Gives good := by
  rintro _ ⟨⟩
  exact holds

theorem gives_of_rest {next : α → Attempt I ε β} (rest : ∀ a, (next a).Gives better) :
    (attempt >>= next).Gives better := by
  unfold Attempt.Gives
  rw [ExceptT.run_bind]
  refine Program.gives_of_rest fun outcome => ?_
  cases outcome with
  | ok a => exact rest a
  | error e => nofun

end Values

end Attempt

end GpuShare
