import GpuShare.Feedback.Controller

/-! Carriers that behave like a plain record. Whatever a tick does to carriers of this kind, it does
to the records they show; so what is proved of records holds of every such carrier.
-/

set_option autoImplicit false

namespace GpuShare.Feedback

variable {σ α β : Type}

theorem firstPass_cons [Signals σ] (container : σ) (rest : List σ) :
    firstPass (container :: rest) = age container :: firstPass rest := rfl

theorem access_bind (access : Access σ α) (next : α → Access σ β) (carrier : σ) :
    (access >>= next) carrier =
      match access carrier with
      | (.ok a, after) => next a after
      | (.error error, after) => (.error error, after) := by
  simp only [Bind.bind, ExceptT.bind, ExceptT.mk, StateT.bind]
  cases outcome : access carrier with
  | mk answer after => cases answer <;> rfl

/-- An access does on a reliable carrier what another does on the record that the carrier shows: the
answer is the same, and the carrier shows the record afterwards and is still reliable. -/
def Mirrors (view : σ → Plain) (Reliable : σ → Prop) (access : Access σ α) (plain : Access Plain α) :
    Prop :=
  ∀ carrier, Reliable carrier →
    (access carrier).1 = (plain (view carrier)).1 ∧
      view (access carrier).2 = (plain (view carrier)).2 ∧ Reliable (access carrier).2

namespace Mirrors

variable {view : σ → Plain} {Reliable : σ → Prop}

theorem outcome {access : Access σ α} {plain : Access Plain α} {carrier : σ}
    (mirrors : Mirrors view Reliable access plain) (reliable : Reliable carrier) :
    ((access carrier).1, view (access carrier).2) = plain (view carrier) :=
  Prod.ext (mirrors carrier reliable).1 (mirrors carrier reliable).2.1

theorem pure (a : α) :
    Mirrors view Reliable (Pure.pure a : Access σ α) (Pure.pure a : Access Plain α) :=
  fun _ reliable => ⟨rfl, rfl, reliable⟩

theorem failure (error : StorageFailure) :
    Mirrors view Reliable (throw error : Access σ α) (throw error : Access Plain α) :=
  fun _ reliable => ⟨rfl, rfl, reliable⟩

theorem bind {access : Access σ α} {plain : Access Plain α} {f : α → Access σ β}
    {g : α → Access Plain β} (first : Mirrors view Reliable access plain)
    (rest : ∀ a, Mirrors view Reliable (f a) (g a)) :
    Mirrors view Reliable (access >>= f) (plain >>= g) := by
  intro carrier reliable
  obtain ⟨answer, shown, kept⟩ := first carrier reliable
  rw [access_bind, access_bind, ← Prod.eta (access carrier), ← Prod.eta (plain (view carrier)),
    answer, ← shown]
  cases (plain (view carrier)).1 with
  | ok a => exact rest a _ kept
  | error e => exact ⟨rfl, rfl, kept⟩

theorem ite {p : Prop} [Decidable p] {access other : Access σ α} {plain else_ : Access Plain α}
    (yes : Mirrors view Reliable access plain) (no : Mirrors view Reliable other else_) :
    Mirrors view Reliable (if p then access else other) (if p then plain else else_) := by
  split
  · exact yes
  · exact no

end Mirrors

/-- A kind of carrier whose accesses do not fail as long as a carrier is reliable. -/
class Faithful (σ : Type) [Signals σ] where
  view : σ → Plain
  Reliable : σ → Prop
  priority : Mirrors view Reliable Signals.priority Signals.priority
  deviceUuids : Mirrors view Reliable Signals.deviceUuids Signals.deviceUuids
  recentKernel : Mirrors view Reliable Signals.recentKernel Signals.recentKernel
  setRecentKernel : ∀ value,
    Mirrors view Reliable (Signals.setRecentKernel value) (Signals.setRecentKernel value)
  utilizationSwitch : Mirrors view Reliable Signals.utilizationSwitch Signals.utilizationSwitch
  setUtilizationSwitch : ∀ value,
    Mirrors view Reliable (Signals.setUtilizationSwitch value) (Signals.setUtilizationSwitch value)

namespace Faithful

instance : Faithful Plain where
  view := id
  Reliable _ := True
  priority _ _ := ⟨rfl, rfl, trivial⟩
  deviceUuids _ _ := ⟨rfl, rfl, trivial⟩
  recentKernel _ _ := ⟨rfl, rfl, trivial⟩
  setRecentKernel _ _ _ := ⟨rfl, rfl, trivial⟩
  utilizationSwitch _ _ := ⟨rfl, rfl, trivial⟩
  setUtilizationSwitch _ _ _ := ⟨rfl, rfl, trivial⟩

end Faithful

namespace Faulty

variable [Signals σ] [Faithful σ]

def NeverFails (carrier : Faulty σ) : Prop :=
  (∀ method number, carrier.fails method number = false) ∧ Faithful.Reliable carrier.inner

theorem mirrors_call {method : Method} {access : Access σ α} {plain : Access Plain α}
    (inner : Mirrors Faithful.view Faithful.Reliable access plain) :
    Mirrors (fun carrier => Faithful.view carrier.inner) NeverFails (call method access) plain := by
  intro carrier ⟨passes, reliable⟩
  obtain ⟨answer, shown, kept⟩ := inner carrier.inner reliable
  simp only [call, passes, Bool.false_eq_true, if_false]
  exact ⟨answer, shown, passes, kept⟩

theorem mirrors_write {method : Method} {value : Int32} {access : Access σ Unit}
    {plain : Access Plain Unit} (inner : Mirrors Faithful.view Faithful.Reliable access plain) :
    Mirrors (fun carrier => Faithful.view carrier.inner) NeverFails (write method value access)
      plain := by
  have noted : Mirrors (fun carrier : Faulty σ => Faithful.view carrier.inner) NeverFails
      (modify fun carrier => { carrier with writes := (method, value) :: carrier.writes })
      (Pure.pure ()) := fun _ sound => ⟨rfl, rfl, sound⟩
  rw [← show (plain >>= fun _ => Pure.pure ()) = plain from bind_pure plain]
  exact (mirrors_call inner).bind fun _ => noted

end Faulty

namespace Faithful

variable [Signals σ] [Faithful σ]

/-- A carrier with injected failures is reliable if none is injected. -/
instance : Faithful (Faulty σ) where
  view carrier := view carrier.inner
  Reliable := Faulty.NeverFails
  priority := Faulty.mirrors_call priority
  deviceUuids := Faulty.mirrors_call deviceUuids
  recentKernel := Faulty.mirrors_call recentKernel
  setRecentKernel value := Faulty.mirrors_write (setRecentKernel value)
  utilizationSwitch := Faulty.mirrors_call utilizationSwitch
  setUtilizationSwitch value := Faulty.mirrors_write (setUtilizationSwitch value)

theorem mirrors_age : Mirrors (view (σ := σ)) Reliable age age := by
  refine priority.bind fun _ => deviceUuids.bind fun _ => recentKernel.bind fun _ => ?_
  exact .ite ((setRecentKernel _).bind fun _ => .pure _) (.pure _)

theorem mirrors_applyBlock (blocked : Bool) :
    Mirrors (view (σ := σ)) Reliable (applyBlock blocked) (applyBlock blocked) := by
  refine recentKernel.bind fun _ => ?_
  exact .ite ((setRecentKernel _).bind fun _ => .pure _)
    (.ite ((setRecentKernel _).bind fun _ => .pure _) (.pure _))

theorem mirrors_applyContention (contended : Bool) :
    Mirrors (view (σ := σ)) Reliable (applyContention contended) (applyContention contended) := by
  refine utilizationSwitch.bind fun _ => ?_
  exact .ite ((setUtilizationSwitch _).bind fun _ => .pure _) (.pure _)

theorem mirrors_settle (activity : Activity) (observed : Except StorageFailure Observation) :
    Mirrors (view (σ := σ)) Reliable (settle activity observed) (settle activity observed) := by
  cases observed with
  | ok observation =>
    exact (mirrors_applyBlock _).bind fun _ => (mirrors_applyContention _).bind fun _ => .pure _
  | error failure => exact .failure failure

variable {containers : List σ}

theorem firstPass_view (reliable : ∀ container ∈ containers, Reliable container) :
    (firstPass containers).map (fun aged => (aged.1, view aged.2)) =
      firstPass (containers.map view) := by
  induction containers with
  | nil => rfl
  | cons container rest ih =>
    have first := mirrors_age.outcome (reliable container List.mem_cons_self)
    have others := ih fun other member => reliable other (List.mem_cons_of_mem _ member)
    rw [List.map_cons, firstPass_cons, firstPass_cons, List.map_cons, first, others]

theorem firstPass_reliable (reliable : ∀ container ∈ containers, Reliable container) :
    ∀ aged ∈ firstPass containers, Reliable aged.2 := by
  intro aged fromOne
  obtain ⟨container, member, rfl⟩ := List.mem_map.1 fromOne
  exact (mirrors_age container (reliable container member)).2.2

theorem secondPass_view (activity : Activity) {aged : List (Except StorageFailure Observation × σ)}
    (reliable : ∀ observed ∈ aged, Reliable observed.2) :
    (secondPass activity aged).map (fun settled => (settled.1, view settled.2)) =
      secondPass activity (aged.map fun observed => (observed.1, view observed.2)) := by
  simp only [secondPass, List.map_map]
  refine List.map_congr_left fun observed member => ?_
  exact (mirrors_settle activity observed.1).outcome (reliable observed member)

theorem tick_reliable (reliable : ∀ container ∈ containers, Reliable container) :
    ∀ container ∈ (tick containers).2, Reliable container := by
  intro container fromOne
  simp only [tick, secondPass, List.map_map] at fromOne
  obtain ⟨observed, member, rfl⟩ := List.mem_map.1 fromOne
  exact (mirrors_settle _ observed.1 observed.2 (firstPass_reliable reliable observed member)).2.2

-- A tick over reliable carriers reports and leaves what a tick over their records does.
theorem tick_view (reliable : ∀ container ∈ containers, Reliable container) :
    (tick containers).1 = (tick (containers.map view)).1 ∧
      (tick containers).2.map view = (tick (containers.map view)).2 := by
  have observed : (firstPass containers).map (·.1) =
      (firstPass (containers.map view)).map (·.1) := by
    rw [← firstPass_view reliable, List.map_map]; rfl
  have settled := secondPass_view (activityOf ((firstPass containers).map (·.1)))
    (firstPass_reliable reliable)
  rw [firstPass_view reliable, observed] at settled
  simp only [tick, observed, ← settled, List.map_map]
  exact ⟨rfl, rfl⟩

end Faithful

end GpuShare.Feedback
