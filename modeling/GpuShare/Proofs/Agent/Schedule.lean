import Mathlib.Data.Prod.Lex
import Mathlib.Data.List.Sort
import GpuShare.Proofs.Agent.ClaimEffects

/-!
The order in which requests are served: by the time at which the pod was assigned, then by the place of the
pod in the list, then by the container.
-/

set_option autoImplicit false

namespace GpuShare.Agent.Serving

open Cluster Wire Claiming

structure Turn where
  time : UInt64
  pod : Nat
  container : Nat
  request : List Grant
  deriving Repr, DecidableEq

def Turn.place (turn : Turn) : ℕ ×ₗ ℕ := toLex (turn.pod, turn.container)

/-- What decides when a request is served. -/
def Turn.key (turn : Turn) : ℕ ×ₗ ℕ ×ₗ ℕ := toLex (turn.time.toNat, turn.place)

def requestAt (pod : Pod) (container : Nat) : List Grant :=
  (grantsAt pod container).filter (·.isOf nvidia)

abbrev HasRequest (pod : Pod) : Prop := ∃ container, requestAt pod container ≠ []

/-- All that is left to hand out to a pod; nothing if it cannot be read. -/
def podGrants (pod : Pod) : Grants :=
  match Grants.decode ((pod.annotation? devicesToAllocate).getD "") with
  | .ok grants => grants
  | .error _ => []

def turn? (index : Nat) (pod : Pod) (container : Nat) : Option Turn :=
  match requestAt pod container with
  | [] => none
  | request => some ⟨pod.assignedTime, index, container, request⟩

def turnsOf (listed : Pod × Nat) : List Turn :=
  (List.range (podGrants listed.1).length).filterMap (turn? listed.2 listed.1)

def turns (pods : List Pod) : List Turn := pods.zipIdx.flatMap turnsOf

def schedule (pods : List Pod) : List Turn := (turns pods).mergeSort fun a b => a.key ≤ b.key

variable {pods : List Pod} {pod : Pod} {index container : Nat} {turn : Turn} {rest : List Turn}

theorem grantsAt_eq (pod : Pod) (container : Nat) :
    grantsAt pod container = (podGrants pod).atContainer container := by
  unfold grantsAt podGrants
  cases Grants.decode ((pod.annotation? devicesToAllocate).getD "") with
  | ok grants => rfl
  | error cause => rfl

theorem turn?_eq_some : turn? index pod container = some turn ↔
    turn = ⟨pod.assignedTime, index, container, requestAt pod container⟩ ∧ turn.request ≠ [] := by
  rw [turn?]
  cases request : requestAt pod container with
  | nil =>
    constructor
    · nofun
    · rintro ⟨rfl, some_grant⟩
      exact absurd rfl some_grant
  | cons grant grants =>
    constructor
    · rintro ⟨⟩
      exact ⟨rfl, List.cons_ne_nil _ _⟩
    · rintro ⟨rfl, -⟩
      rfl

-- A container with a request is one of those that are written down.
theorem lt_length_of_requestAt (some_grant : requestAt pod container ≠ []) :
    container < (podGrants pod).length := by
  refine Nat.lt_of_not_le fun beyond => some_grant ?_
  rw [requestAt, grantsAt_eq, Grants.atContainer, List.getElem?_eq_none beyond]
  rfl

theorem mem_flatten_of_requestAt {grant : Grant} (wanted : grant ∈ requestAt pod container) :
    grant ∈ (podGrants pod).flatten := by
  have inside := (List.mem_filter.1 wanted).1
  rw [grantsAt_eq, Grants.atContainer] at inside
  cases held : (podGrants pod)[container]? with
  | none =>
    rw [held] at inside
    cases inside
  | some grants =>
    rw [held] at inside
    exact List.mem_flatten.2 ⟨grants, List.mem_of_getElem? held, inside⟩

theorem mem_turnsOf : turn ∈ turnsOf (pod, index) ↔ ∃ container,
    turn = ⟨pod.assignedTime, index, container, requestAt pod container⟩ ∧ turn.request ≠ [] := by
  rw [turnsOf, List.mem_filterMap]
  constructor
  · rintro ⟨container, -, is⟩
    exact ⟨container, turn?_eq_some.1 is⟩
  · rintro ⟨container, rfl, some_grant⟩
    exact ⟨container, List.mem_range.2 (lt_length_of_requestAt some_grant),
      turn?_eq_some.2 ⟨rfl, some_grant⟩⟩

theorem mem_turns : turn ∈ turns pods ↔ ∃ pod, pods[turn.pod]? = some pod ∧
    turn.time = pod.assignedTime ∧ turn.request = requestAt pod turn.container ∧
      turn.request ≠ [] := by
  rw [turns, List.mem_flatMap]
  constructor
  · rintro ⟨⟨pod, index⟩, listed, member⟩
    obtain ⟨container, rfl, some_grant⟩ := mem_turnsOf.1 member
    exact ⟨pod, List.mk_mem_zipIdx_iff_getElem?.1 listed, rfl, rfl, some_grant⟩
  · rintro ⟨pod, held, time, request, some_grant⟩
    refine ⟨(pod, turn.pod), List.mk_mem_zipIdx_iff_getElem?.2 held,
      mem_turnsOf.2 ⟨turn.container, ?_, some_grant⟩⟩
    rw [← time, ← request]

theorem pairwise_turnsOf (listed : Pod × Nat) :
    (turnsOf listed).Pairwise fun a b => a.place < b.place := by
  rw [turnsOf, List.pairwise_filterMap]
  refine List.pairwise_lt_range.imp fun {first second} before a left b right => ?_
  obtain ⟨rfl, -⟩ := turn?_eq_some.1 left
  obtain ⟨rfl, -⟩ := turn?_eq_some.1 right
  exact Prod.Lex.toLex_lt_toLex.2 (.inr ⟨rfl, before⟩)

theorem pairwise_turns (pods : List Pod) : (turns pods).Pairwise fun a b => a.place < b.place := by
  rw [turns, List.pairwise_flatMap]
  refine ⟨fun listed _ => pairwise_turnsOf listed, ?_⟩
  refine (pairwise_zipIdx pods 0).imp fun {first second} before a left b right => ?_
  obtain ⟨_, rfl, -⟩ := mem_turnsOf.1 left
  obtain ⟨_, rfl, -⟩ := mem_turnsOf.1 right
  exact Prod.Lex.toLex_lt_toLex.2 (.inl before)

theorem key_le_iff {first second : Turn} : first.key ≤ second.key ↔
    first.time < second.time ∨ first.time = second.time ∧
      (first.pod < second.pod ∨ first.pod = second.pod ∧ first.container ≤ second.container) := by
  rw [Turn.key, Turn.key, Prod.Lex.toLex_le_toLex, Turn.place, Turn.place, Prod.Lex.toLex_le_toLex,
    UInt64.lt_iff_toNat_lt, ← UInt64.toNat_inj]

theorem place_eq_of_key {first second : Turn} (same : first.key = second.key) :
    first.place = second.place := by
  have pairs := congrArg ofLex same
  exact (Prod.mk.inj pairs).2

theorem mem_schedule : turn ∈ schedule pods ↔ turn ∈ turns pods := List.mem_mergeSort

theorem pairwise_schedule (pods : List Pod) :
    (schedule pods).Pairwise fun a b => a.key < b.key := by
  have ordered : (schedule pods).Pairwise fun a b => decide (a.key ≤ b.key) = true := by
    refine List.pairwise_mergeSort (fun a b c first second => ?_) (fun a b => ?_) _
    · simp only [decide_eq_true_eq] at first second ⊢
      exact first.trans second
    · simp only [Bool.or_eq_true, decide_eq_true_eq]
      exact le_total a.key b.key
  have sorted : (schedule pods).Pairwise fun a b => a.key ≤ b.key :=
    ordered.imp fun before => of_decide_eq_true before
  -- No two requests are at one place, so no two have one key.
  have distinct : (schedule pods).Pairwise fun a b => a.place ≠ b.place := by
    refine (List.mergeSort_perm _ _).symm.pairwise ?_ fun {a b} differ => Ne.symm differ
    exact (pairwise_turns pods).imp fun before => ne_of_lt before
  exact sorted.imp₂ (fun a b before differ =>
    lt_of_le_of_ne before fun same => differ (place_eq_of_key same)) distinct

-- Requests in ascending order that are those of some pods are their schedule.
theorem eq_schedule (sorted : rest.Pairwise fun a b => a.key < b.key)
    (same : ∀ turn, turn ∈ rest ↔ turn ∈ turns pods) : rest = schedule pods := by
  have irrefl : Std.Irrefl fun a b : Turn => a.key < b.key := ⟨fun a => lt_irrefl a.key⟩
  have antisymm : Std.Antisymm fun a b : Turn => a.key < b.key :=
    ⟨fun a b before after => absurd (before.trans after) (lt_irrefl a.key)⟩
  refine List.Pairwise.eq_of_mem_iff sorted (pairwise_schedule pods) fun turn => ?_
  rw [same, mem_schedule]

-- What is left of a schedule once its first request is served.
theorem schedule_of_served (first : schedule pods = turn :: rest) {after : List Pod}
    (served : ∀ other, other ∈ turns after ↔ other ∈ turns pods ∧ other ≠ turn) :
    schedule after = rest := by
  have sorted := pairwise_schedule pods
  rw [first] at sorted
  obtain ⟨before, tail⟩ := List.pairwise_cons.1 sorted
  refine (eq_schedule tail fun other => ?_).symm
  rw [served, ← mem_schedule, first, List.mem_cons]
  constructor
  · intro member
    refine ⟨.inr member, ?_⟩
    rintro rfl
    exact lt_irrefl _ (before other member)
  · rintro ⟨rfl | member, differs⟩
    · exact absurd rfl differs
    · exact member

theorem key_le_of_schedule (first : schedule pods = turn :: rest) {other : Turn}
    (member : other ∈ turns pods) : turn.key ≤ other.key := by
  have sorted := pairwise_schedule pods
  rw [← mem_schedule, first] at member
  rw [first] at sorted
  rcases List.mem_cons.1 member with rfl | later
  · exact le_refl _
  · exact le_of_lt ((List.pairwise_cons.1 sorted).1 other later)

end GpuShare.Agent.Serving
