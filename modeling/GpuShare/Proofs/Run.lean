/-!
Runs of several parties. A step is made by one party, or by nobody among them; a run is one step after
another.
-/

set_option autoImplicit false

namespace GpuShare

structure Transition (σ ι : Type) where
  before : σ
  actor : Option ι
  after : σ

variable {σ ι : Type} {step : σ → Option ι → σ → Prop} {start state after : σ}
  {trace later earlier : List (Transition σ ι)}

/-- The steps from a state to another, the latest first. -/
inductive Run (step : σ → Option ι → σ → Prop) (start : σ) : List (Transition σ ι) → σ → Prop where
  | start : Run step start [] start
  | step {trace : List (Transition σ ι)} {state after : σ} {actor : Option ι} :
      Run step start trace state → step state actor after →
      Run step start (⟨state, actor, after⟩ :: trace) after

namespace Run

-- The run up to one of its steps.
theorem upTo {transition : Transition σ ι} (run : Run step start trace state)
    (split : trace = later ++ transition :: earlier) :
    Run step start earlier transition.before ∧
      step transition.before transition.actor transition.after := by
  induction run generalizing later with
  | start => simp at split
  | step run made ih =>
    cases later with
    | cons latest later => exact ih (List.cons.inj split).2
    | nil =>
      obtain ⟨rfl, rfl⟩ := List.cons.inj split
      exact ⟨run, made⟩

end Run

end GpuShare
