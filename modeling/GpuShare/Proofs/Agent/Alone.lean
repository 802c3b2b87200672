import GpuShare.Agent.World
import GpuShare.Proofs.Agent.Requests

/-!
Activities that run alone in a world, one part after another, and the calls of one on a cluster that nobody
disturbs.
-/

set_option autoImplicit false

namespace GpuShare.Agent.World

variable {ε δ α β : Type} {world middle after : World}

theorem run_program_bind {program : Program interface α} {a : α}
    (first : program.run serve world = (a, middle)) (next : α → Program interface β) :
    Program.run (I := interface) serve (program >>= next) world =
      Program.run (I := interface) serve (next a) middle := by
  have shape : program >>= next = program.bind next := rfl
  rw [shape, Program.run_bind, first]

theorem run_bind_ok {action : Action ε α} {a : α} (first : world.run action = (.ok a, middle))
    (next : α → Action ε β) : world.run (action >>= next) = middle.run (next a) := by
  unfold World.run at first ⊢
  rw [ExceptT.run_bind]
  exact run_program_bind first _

theorem run_bind_error {action : Action ε α} {e : ε} (first : world.run action = (.error e, middle))
    (next : α → Action ε β) : world.run (action >>= next) = (.error e, middle) := by
  unfold World.run at first ⊢
  rw [ExceptT.run_bind]
  exact run_program_bind first _

theorem run_ask_bind (world : World) (request : Request) (next : Answer request → Action ε β) :
    world.run (ask request >>= next) =
      (serve request world).2.run (next (serve request world).1) := rfl

theorem run_orFail_bind (world : World) (f : ε → δ) {outcome : Except ε α} {a : α}
    (done : outcome = .ok a) (next : α → Action δ β) :
    world.run (orFail f outcome >>= next) = world.run (next a) := by
  rw [done]
  rfl

-- Looks at the devices change nothing, and depend on nothing else.
theorem run_of_looks {action : Action ε α} (looks : action.run.Asks Request.IsLook)
    (same : after.inventory = world.inventory) :
    after.run action = ((world.run action).1, after) := by
  unfold World.run
  generalize action.run = program at looks
  -- Both worlds give a look the same answer and stay as they are, so the rest can be compared again.
  induction program with
  | done outcome => rfl
  | ask request next ih =>
    obtain ⟨look, rest⟩ := looks
    have unchanged : serve request world = ((serve request world).1, world) ∧
        serve request after = ((serve request world).1, after) := by
      cases request with
      | gpus => exact ⟨rfl, by simp only [serve, same]⟩
      | migInstances => exact ⟨rfl, by simp only [serve, same]⟩
      | _ => exact absurd look id
    rw [Program.run, Program.run, unchanged.1, unchanged.2]
    exact ih _ (rest _)

end GpuShare.Agent.World
