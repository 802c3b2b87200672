import GpuShare.Proofs.Feedback.Observed

/-!
Ticks over places of one memory. Where the places do not overlap, a tick over them is the tick over what lies
in them. What every access keeps of the memory, a tick keeps, also where places overlap.
-/

set_option autoImplicit false

namespace GpuShare.Feedback

variable {μ σ α β ι : Type} {memory : μ} {places : List (Place μ σ)} {entries : List ι}

theorem mapM_cons_run (f : ι → StateM μ β) (entry : ι) (entries : List ι) (memory : μ) :
    ((entry :: entries).mapM f) memory =
      ((f entry memory).1 :: (entries.mapM f (f entry memory).2).1,
        (entries.mapM f (f entry memory).2).2) := by
  rw [List.mapM_cons]
  rfl

section Invariants

variable {Inv : μ → Prop} {f : ι → StateM μ β}

-- An invariant of the memory that each step keeps, and what each step answers under it.
theorem mapM_keeps (Good : β → Prop)
    (step : ∀ entry ∈ entries, ∀ memory, Inv memory → Inv (f entry memory).2 ∧ Good (f entry memory).1)
    (start : Inv memory) :
    Inv (entries.mapM f memory).2 ∧ (∀ answer ∈ (entries.mapM f memory).1, Good answer) ∧
      (entries.mapM f memory).1.length = entries.length := by
  induction entries generalizing memory with
  | nil => exact ⟨start, nofun, rfl⟩
  | cons entry entries ih =>
    obtain ⟨kept, good⟩ := step entry List.mem_cons_self memory start
    obtain ⟨later, all, length⟩ :=
      ih (fun other member => step other (List.mem_cons_of_mem _ member)) kept
    rw [mapM_cons_run]
    refine ⟨later, List.forall_mem_cons.2 ⟨good, all⟩, ?_⟩
    rw [List.length_cons, List.length_cons, length]

variable [Signals σ]

theorem skipped_of_isOk {activity : Activity} {outcomes : List (Except StorageFailure (List Change))}
    (all : ∀ outcome ∈ outcomes, outcome.isOk = true) :
    (reportOf activity outcomes).skipped = 0 ∧
      (reportOf activity outcomes).observed = outcomes.length := by
  constructor
  · refine List.countP_eq_zero.2 fun outcome member => ?_
    cases outcome with
    | ok changes => nofun
    | error failure => cases all _ member
  · refine List.countP_eq_length.2 fun outcome member => ?_
    cases outcome with
    | ok changes => rfl
    | error failure => cases all _ member

/-- As long as no access fails under an invariant, and each keeps it, a tick keeps it and skips nobody. -/
theorem tickIn_keeps
    (ages : ∀ place ∈ places, ∀ memory, Inv memory →
      Inv (place.access age memory).2 ∧ (place.access age memory).1.isOk = true)
    (settles : ∀ place ∈ places, ∀ activity observation memory, Inv memory →
      Inv (place.access (settle activity (.ok observation)) memory).2 ∧
        (place.access (settle activity (.ok observation)) memory).1.isOk = true)
    (start : Inv memory) :
    Inv (tickIn places memory).2 ∧ (tickIn places memory).1.skipped = 0 ∧
      (tickIn places memory).1.observed = places.length := by
  obtain ⟨aged, learnt, length⟩ :=
    mapM_keeps (fun answer : Except StorageFailure Observation => answer.isOk = true) ages start
  have second : ∀ activity, ∀ entry ∈ places.zip (places.mapM (fun place => place.access age) memory).1,
      ∀ memory, Inv memory → Inv (entry.1.access (settle activity entry.2) memory).2 ∧
        (entry.1.access (settle activity entry.2) memory).1.isOk = true := by
    rintro activity ⟨place, observation⟩ member memory holds
    obtain ⟨here, known⟩ := List.of_mem_zip member
    have ok := learnt observation known
    cases observation with
    | ok observation => exact settles place here activity observation memory holds
    | error failure => cases ok
  obtain ⟨kept, outcomes, count⟩ :=
    mapM_keeps (fun answer : Except StorageFailure (List Change) => answer.isOk = true) (second _) aged
  obtain ⟨skipped, observed⟩ := skipped_of_isOk outcomes
  refine ⟨kept, skipped, observed.trans (count.trans ?_)⟩
  rw [List.length_zip, length, Nat.min_self]

end Invariants

/-! ## Places that do not overlap -/

def Place.IsApart (Good : μ → Prop) (place : Place μ σ) (others : List (Place μ σ)) : Prop :=
  ∀ other ∈ others, ∀ memory container, Good memory →
    place.load (other.store memory container) = place.load memory

/-- Places that do not overlap while the memory is in good shape, which writing to them keeps. -/
structure AreApart (Good : μ → Prop) (places : List (Place μ σ)) : Prop where
  good : ∀ place ∈ places, ∀ memory container, Good memory → Good (place.store memory container)
  own : ∀ place ∈ places, ∀ memory container, Good memory →
    place.load (place.store memory container) = container
  apart : places.Pairwise fun first second =>
    first.IsApart Good [second] ∧ second.IsApart Good [first]

section Apart

variable {Good : μ → Prop}

theorem mapM_access (accesses : Place μ σ → Access σ α) (apart : AreApart Good places)
    (good : Good memory) :
    (places.mapM (fun place => place.access (accesses place)) memory).1 =
        places.map (fun place => (accesses place (place.load memory)).1) ∧
      (∀ place ∈ places,
        place.load (places.mapM (fun place => place.access (accesses place)) memory).2 =
          (accesses place (place.load memory)).2) ∧
      Good (places.mapM (fun place => place.access (accesses place)) memory).2 ∧
      ∀ other : Place μ σ, other.IsApart Good places →
        other.load (places.mapM (fun place => place.access (accesses place)) memory).2 =
          other.load memory := by
  induction places generalizing memory with
  | nil => exact ⟨rfl, nofun, good, fun _ _ => rfl⟩
  | cons place places ih =>
    obtain ⟨beside, later⟩ := List.pairwise_cons.1 apart.apart
    have rest : AreApart Good places :=
      ⟨fun other member => apart.good other (List.mem_cons_of_mem _ member),
        fun other member => apart.own other (List.mem_cons_of_mem _ member), later⟩
    rw [mapM_cons_run]
    -- The first access leaves the other places as they were.
    generalize first : (place.access (accesses place) memory).2 = middle
    have stored : place.store memory (accesses place (place.load memory)).2 = middle := first
    have goodMiddle : Good middle := by
      rw [← stored]
      exact apart.good place List.mem_cons_self memory _ good
    have same : ∀ other ∈ places, other.load middle = other.load memory := by
      intro other member
      rw [← stored]
      exact (beside other member).2 place List.mem_cons_self memory _ good
    obtain ⟨answers, loads, goodAfter, others⟩ := ih rest goodMiddle
    refine ⟨?_, List.forall_mem_cons.2 ⟨?_, fun other member => ?_⟩, goodAfter, fun other isApart => ?_⟩
    · rw [answers, List.map_cons]
      refine congrArg₂ List.cons rfl (List.map_congr_left fun other member => ?_)
      rw [same other member]
    · have alone : place.IsApart Good places := fun other member =>
        (beside other member).1 other List.mem_cons_self
      rw [others place alone, ← stored]
      exact apart.own place List.mem_cons_self memory _ good
    · rw [loads other member, same other member]
    · obtain ⟨here, there⟩ := List.forall_mem_cons.1 isApart
      rw [others other there, ← stored]
      exact here memory _ good

variable [Signals σ]

theorem tickIn_run (places : List (Place μ σ)) (memory : μ) :
    let aged := places.mapM (m := StateM μ) (fun place => place.access age) memory
    let settled := (places.zip aged.1).mapM (m := StateM μ)
      (fun entry => entry.1.access (settle (activityOf aged.1) entry.2)) aged.2
    tickIn places memory = (reportOf (activityOf aged.1) settled.1, settled.2) := rfl

/-- A tick over places that do not overlap is the tick over what lies in them. -/
theorem tickIn_eq_tick (apart : AreApart Good places) (good : Good memory) :
    ((tickIn places memory).1, places.map fun place => place.load (tickIn places memory).2) =
      tick (places.map fun place => place.load memory) := by
  obtain ⟨learnt, aged, goodAged, -⟩ := mapM_access (fun _ => age) apart good
  have run := tickIn_run places memory
  have observed : observations (places.map fun place => place.load memory) =
      places.map fun place => (age (place.load memory)).1 := List.map_map
  have pairs : places.zip (places.map fun place => (age (place.load memory)).1) =
      places.map fun place => (place, (age (place.load memory)).1) := by
    have zipped := List.zip_map' (l := places) (f := id) (g := fun place => (age (place.load memory)).1)
    rwa [List.map_id] at zipped
  dsimp only at run
  rw [learnt, pairs, List.mapM_map, ← observed] at run
  generalize (places.mapM (fun place => place.access age) memory).2 = middle at run aged goodAged
  generalize activityIs : activityOf (observations (places.map fun place => place.load memory)) =
    activity at run
  obtain ⟨outcomes, settled, -, -⟩ :=
    mapM_access (fun place => settle activity (age (place.load memory)).1) apart goodAged
  have finished : ∀ place ∈ places,
      settle activity (age (place.load memory)).1 (place.load middle) =
        finish activity (place.load memory) := by
    intro place member
    rw [aged place member]
    rfl
  rw [run, tick_eq, activityIs, List.map_map, List.map_map]
  refine Prod.ext (congrArg (reportOf activity) ?_) ?_
  · refine outcomes.trans (List.map_congr_left fun place member => ?_)
    rw [finished place member]
    rfl
  · refine List.map_congr_left fun place member => ?_
    refine (settled place member).trans ?_
    rw [finished place member]
    rfl

end Apart

end GpuShare.Feedback
