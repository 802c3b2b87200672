import Mathlib.Data.List.Forall2

/-!
Outcomes, and lists whose entries give an outcome each. Such a list gives all results in their order, or the
error of the first entry that fails.
-/

set_option autoImplicit false

namespace GpuShare

variable {α β ε : Type}

section Outcomes

variable {outcome : Except ε α} {next : α → Except ε β} {a : α} {b : β} {error : ε}

theorem ok_of_toOption (some : outcome.toOption = some a) : outcome = .ok a := by
  cases outcome with
  | error error => cases some
  | ok b => exact congrArg Except.ok (Option.some.inj some)

theorem bind_eq_ok : (outcome >>= next) = .ok b ↔ ∃ a, outcome = .ok a ∧ next a = .ok b := by
  cases outcome <;> simp [bind, Except.bind]

theorem bind_eq_error :
    (outcome >>= next) = .error error ↔ outcome = .error error ∨ ∃ a, outcome = .ok a ∧ next a = .error error := by
  cases outcome <;> simp [bind, Except.bind]

end Outcomes

section Traversals

variable {f : α → Except ε β} {inputs : List α} {results : List β} {error : ε}

theorem mapM_cons_eq_ok {input : α} : (input :: inputs).mapM f = .ok results ↔
    ∃ result others, f input = .ok result ∧ inputs.mapM f = .ok others ∧ results = result :: others := by
  rw [List.mapM_cons]
  cases f input with
  | error e => simp [bind, Except.bind]
  | ok result =>
    cases inputs.mapM f with
    | error e => simp [bind, Except.bind]
    | ok others => simp [bind, Except.bind, pure, Except.pure, eq_comm]

theorem mapM_eq_ok :
    inputs.mapM f = .ok results ↔ List.Forall₂ (fun input result => f input = .ok result) inputs results := by
  induction inputs generalizing results with
  | nil => simp [pure, Except.pure, eq_comm]
  | cons input inputs ih =>
    rw [mapM_cons_eq_ok, List.forall₂_cons_left_iff]
    simp only [ih, exists_and_left]

theorem exists_mapM_eq_ok :
    (∃ results, inputs.mapM f = .ok results) ↔ ∀ input ∈ inputs, ∃ result, f input = .ok result := by
  induction inputs with
  | nil => simp [pure, Except.pure]
  | cons input inputs ih =>
    rw [List.forall_mem_cons, ← ih]
    simp only [mapM_cons_eq_ok]
    constructor
    · rintro ⟨_, result, others, here, later, -⟩
      exact ⟨⟨result, here⟩, others, later⟩
    · rintro ⟨⟨result, here⟩, others, later⟩
      exact ⟨_, result, others, here, later, rfl⟩

-- Every result of a traversal comes of one of its inputs.
theorem mem_of_mapM (mapped : inputs.mapM f = .ok results) {result : β} (member : result ∈ results) :
    ∃ input ∈ inputs, f input = .ok result := by
  have pairs := mapM_eq_ok.1 mapped
  clear mapped
  induction pairs with
  | nil => cases member
  | cons first _ ih =>
    rcases List.mem_cons.1 member with rfl | later
    · exact ⟨_, List.mem_cons_self, first⟩
    · obtain ⟨other, inside, made⟩ := ih later
      exact ⟨other, List.mem_cons_of_mem _ inside, made⟩

theorem mapM_ok {g : α → β} (each : ∀ input ∈ inputs, f input = .ok (g input)) :
    inputs.mapM f = .ok (inputs.map g) := by
  rw [mapM_eq_ok, List.forall₂_map_right_iff, List.forall₂_same]
  exact each

theorem mapM_cons_eq_error {input : α} : (input :: inputs).mapM f = .error error ↔
    f input = .error error ∨ (∃ result, f input = .ok result) ∧ inputs.mapM f = .error error := by
  rw [List.mapM_cons]
  cases f input with
  | error e => simp [bind, Except.bind]
  | ok result =>
    cases inputs.mapM f with
    | error e => simp [bind, Except.bind]
    | ok others => simp [bind, Except.bind, pure, Except.pure]

-- The error is that of the first input that fails.
theorem mapM_eq_error : inputs.mapM f = .error error ↔ ∃ before input after,
    inputs = before ++ input :: after ∧ (∀ earlier ∈ before, ∃ result, f earlier = .ok result) ∧
      f input = .error error := by
  induction inputs with
  | nil => simp [pure, Except.pure]
  | cons first inputs ih =>
    rw [mapM_cons_eq_error, ih]
    constructor
    · rintro (fails | ⟨succeeds, before, input, after, rfl, earlier, fails⟩)
      · exact ⟨[], first, inputs, rfl, nofun, fails⟩
      · exact ⟨first :: before, input, after, rfl, List.forall_mem_cons.2 ⟨succeeds, earlier⟩, fails⟩
    · rintro ⟨before, input, after, cut, earlier, fails⟩
      cases before with
      | nil =>
        cases cut
        exact .inl fails
      | cons _ before =>
        cases cut
        obtain ⟨succeeds, earlier⟩ := List.forall_mem_cons.1 earlier
        exact .inr ⟨succeeds, before, input, after, rfl, earlier, fails⟩

theorem mapM_flatten (groups : List (List α)) :
    groups.flatten.mapM f = (groups.mapM (List.mapM f)).map List.flatten := by
  induction groups with
  | nil => rfl
  | cons group groups ih =>
    rw [List.flatten_cons, List.mapM_append, List.mapM_cons, ih]
    cases group.mapM f with
    | error e => rfl
    | ok results =>
      cases groups.mapM (List.mapM f) with
      | error e => rfl
      | ok others => rfl

end Traversals

end GpuShare
