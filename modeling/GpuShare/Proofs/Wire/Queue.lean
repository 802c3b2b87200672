import GpuShare.Proofs.Lists
import GpuShare.Proofs.Wire.Grants

/-!
The queue of a pod. However erasures are ordered and repeated, they take away the grants that one of them names,
and no other. Main statements: that, and how a queue is drained of a type: each container that has grants of it is
served once, in order, and then none is left.
-/

set_option autoImplicit false

namespace GpuShare.Wire

theorem Grant.isOf_eq (deviceType : String) (grant : Grant) :
    grant.isOf deviceType = decide (grant.deviceType = deviceType) := beq_eq_decide _ _

namespace Grants

variable {grants left : Grants} {deviceType : String} {position : Nat} {request : List Grant}
  {served : List (Nat × List Grant)}

/-! ## Erasures -/

section Erasures

variable {erasures others : List (Nat × String)}

def eraseAll (grants : Grants) (erasures : List (Nat × String)) : Grants :=
  erasures.foldl (fun grants erasure => grants.erase erasure.1 erasure.2) grants

/-- All grants but those that are named by their container and their type. -/
def without (grants : Grants) (erasures : List (Nat × String)) : Grants :=
  grants.mapIdx fun position container =>
    container.filter fun grant => (position, grant.deviceType) ∉ erasures

theorem getElem?_without (grants : Grants) (erasures : List (Nat × String)) (position : Nat) :
    (grants.without erasures)[position]? = grants[position]?.map fun container =>
      container.filter fun grant => (position, grant.deviceType) ∉ erasures :=
  List.getElem?_mapIdx

theorem without_nil (grants : Grants) : grants.without [] = grants := by
  apply List.ext_getElem?
  intro position
  simp [getElem?_without]

theorem without_without (grants : Grants) (erasures others : List (Nat × String)) :
    (grants.without erasures).without others = grants.without (erasures ++ others) := by
  apply List.ext_getElem?
  intro position
  simp only [getElem?_without, Option.map_map, Function.comp_def, List.filter_filter, List.mem_append,
    not_or, Bool.decide_and]
  simp only [Bool.and_comm]

theorem without_congr (same : ∀ erasure, erasure ∈ erasures ↔ erasure ∈ others) :
    grants.without erasures = grants.without others := by
  simp only [without, same]

-- An erasure takes away what it names; one beyond the last container names nothing.
theorem erase_eq_without (grants : Grants) (position : Nat) (deviceType : String) :
    grants.erase position deviceType = grants.without [(position, deviceType)] := by
  apply List.ext_getElem?
  intro other
  rw [erase, List.getElem?_modify, getElem?_without]
  by_cases here : position = other
  · simp [here, Grant.isOf_eq]
  · simp [here, Ne.symm here]

theorem eraseAll_eq_without (grants : Grants) (erasures : List (Nat × String)) :
    grants.eraseAll erasures = grants.without erasures := by
  induction erasures generalizing grants with
  | nil => exact (without_nil grants).symm
  | cons erasure erasures ih =>
    calc grants.eraseAll (erasure :: erasures)
        = (grants.erase erasure.1 erasure.2).eraseAll erasures := rfl
      _ = (grants.without [erasure]).without erasures := by rw [ih, erase_eq_without]
      _ = grants.without (erasure :: erasures) := without_without grants [erasure] erasures

/-- Whatever is erased, in whatever order and however often, takes away the grants that it names and no other; the
containers and the other grants stay in their order. So an erasure may be tried again, and two may be swapped. -/
theorem eraseAll_removes_named (grants : Grants) (erasures : List (Nat × String)) :
    (grants.eraseAll erasures).length = grants.length ∧
    (∀ position : Nat, (grants.eraseAll erasures)[position]? = grants[position]?.map fun container =>
      container.filter fun grant => (position, grant.deviceType) ∉ erasures) ∧
    (∀ others, (∀ erasure, erasure ∈ erasures ↔ erasure ∈ others) →
      grants.eraseAll erasures = grants.eraseAll others) ∧
    (∀ position deviceType, (grants.erase position deviceType).erase position deviceType =
      grants.erase position deviceType) ∧
    ∀ position deviceType other otherType, (grants.erase position deviceType).erase other otherType =
      (grants.erase other otherType).erase position deviceType := by
  refine ⟨?_, fun position => ?_, fun others same => ?_, fun position deviceType => ?_,
    fun position deviceType other otherType => ?_⟩
  · rw [eraseAll_eq_without]
    exact List.length_mapIdx
  · rw [eraseAll_eq_without]
    exact getElem?_without grants erasures position
  · rw [eraseAll_eq_without, eraseAll_eq_without]
    exact without_congr same
  · simp only [erase_eq_without, without_without]
    exact without_congr fun erasure => by simp
  · simp only [erase_eq_without, without_without]
    exact without_congr fun erasure => by simp [or_comm]

def twoTypes : Grants :=
  [[⟨"GPU-0", "NVIDIA", 1024, 30⟩, ⟨"ASCEND-0", "Ascend", 1024, 30⟩, ⟨"GPU-1", "NVIDIA", 1024, 30⟩], [],
    [⟨"GPU-2", "NVIDIA", 1024, 30⟩, ⟨"ASCEND-1", "Ascend", 1024, 30⟩]]

-- One container is emptied between others; what is beyond them, or has no type, is not missed.
theorem eraseAll_removes_named_repeated :
    twoTypes.eraseAll [(2, "Ascend"), (7, "NVIDIA"), (2, "NVIDIA"), (0, ""), (2, "NVIDIA")] =
      [[⟨"GPU-0", "NVIDIA", 1024, 30⟩, ⟨"ASCEND-0", "Ascend", 1024, 30⟩, ⟨"GPU-1", "NVIDIA", 1024, 30⟩], [], []] ∧
    twoTypes.eraseAll [(2, "NVIDIA"), (0, ""), (7, "NVIDIA"), (2, "Ascend")] =
      twoTypes.eraseAll [(2, "Ascend"), (7, "NVIDIA"), (2, "NVIDIA"), (0, ""), (2, "NVIDIA")] := by
  refine ⟨by decide, ?_⟩
  refine (eraseAll_removes_named twoTypes _).2.2.1 _ fun erasure => ?_
  simp only [List.mem_cons, List.not_mem_nil, or_false]
  tauto

end Erasures

/-! ## Rounds -/

section Rounds

def request? (deviceType : String) (listed : List Grant × Nat) : Option (Nat × List Grant) :=
  match listed.1.filter (·.isOf deviceType) with
  | [] => none
  | request => some (listed.2, request)

def requestsFrom (deviceType : String) (start : Nat) (grants : Grants) : List (Nat × List Grant) :=
  (grants.zipIdx start).filterMap (request? deviceType)

def requests (grants : Grants) (deviceType : String) : List (Nat × List Grant) :=
  requestsFrom deviceType 0 grants

/-- Rounds of serving a type: each takes the next request, and erases it. -/
inductive Rounds (deviceType : String) : Grants → List (Nat × List Grant) → Grants → Prop where
  | nil (grants : Grants) : Rounds deviceType grants [] grants
  | round {grants left : Grants} {position : Nat} {request : List Grant} {served : List (Nat × List Grant)} :
      grants.next? deviceType = some (position, request) →
      Rounds deviceType (grants.erase position deviceType) served left →
      Rounds deviceType grants ((position, request) :: served) left

variable {start : Nat} {container : List Grant} {containers : Grants}

theorem request?_eq_none : request? deviceType (container, position) = none ↔
    container.filter (·.isOf deviceType) = [] := by
  unfold request?
  split
  · next nothing => exact ⟨fun _ => nothing, fun _ => rfl⟩
  · next some_grant => exact ⟨nofun, fun nothing => absurd nothing some_grant⟩

theorem request?_eq_some {place : Nat} : request? deviceType (container, place) = some (position, request) ↔
    position = place ∧ request = container.filter (·.isOf deviceType) ∧ request ≠ [] := by
  unfold request?
  split
  · next nothing =>
    refine ⟨nofun, ?_⟩
    rintro ⟨-, rfl, some_grant⟩
    exact absurd nothing some_grant
  · next some_grant =>
    constructor
    · rintro ⟨⟩
      exact ⟨rfl, rfl, some_grant⟩
    · rintro ⟨rfl, rfl, -⟩
      rfl

theorem requestsFrom_of_nil (nothing : container.filter (·.isOf deviceType) = []) :
    requestsFrom deviceType start (container :: containers) =
      requestsFrom deviceType (start + 1) containers := by
  rw [requestsFrom, List.zipIdx_cons, List.filterMap_cons_none (request?_eq_none.2 nothing), requestsFrom]

theorem requestsFrom_of_ne_nil (some_grant : container.filter (·.isOf deviceType) ≠ []) :
    requestsFrom deviceType start (container :: containers) =
      (start, container.filter (·.isOf deviceType)) :: requestsFrom deviceType (start + 1) containers := by
  rw [requestsFrom, List.zipIdx_cons, List.filterMap_cons_some (request?_eq_some.2 ⟨rfl, rfl, some_grant⟩),
    requestsFrom]

theorem nextFrom?_eq_head? (deviceType : String) (start : Nat) (grants : Grants) :
    nextFrom? deviceType start grants = (requestsFrom deviceType start grants).head? := by
  induction grants generalizing start with
  | nil => rfl
  | cons container containers ih =>
    rw [nextFrom?]
    split
    · next nothing => rw [requestsFrom_of_nil nothing, ih]
    · next some_grant =>
      rw [requestsFrom_of_ne_nil some_grant]
      rfl

theorem next?_eq_head? (deviceType : String) (grants : Grants) :
    grants.next? deviceType = (grants.requests deviceType).head? := nextFrom?_eq_head? deviceType 0 grants

-- The container that is next has no grants of the type once it is erased; the others keep theirs.
theorem requestsFrom_of_next (next : nextFrom? deviceType start grants = some (position, request)) :
    ∃ offset, position = start + offset ∧ requestsFrom deviceType start grants =
      (position, request) :: requestsFrom deviceType start (grants.erase offset deviceType) := by
  induction grants generalizing start with
  | nil => cases next
  | cons container containers ih =>
    rw [nextFrom?] at next
    split at next
    · next nothing =>
      obtain ⟨offset, rfl, same⟩ := ih next
      have later : erase (container :: containers) (offset + 1) deviceType =
          container :: erase containers offset deviceType := rfl
      refine ⟨offset + 1, by omega, ?_⟩
      rw [later, requestsFrom_of_nil nothing, requestsFrom_of_nil nothing, same]
    · next some_grant =>
      cases next
      have here : erase (container :: containers) 0 deviceType =
          container.filter (!·.isOf deviceType) :: containers := rfl
      have emptied : (container.filter (!·.isOf deviceType)).filter (·.isOf deviceType) = [] := by simp
      refine ⟨0, rfl, ?_⟩
      rw [here, requestsFrom_of_ne_nil some_grant, requestsFrom_of_nil emptied]

theorem requests_of_next (next : grants.next? deviceType = some (position, request)) :
    grants.requests deviceType =
      (position, request) :: (grants.erase position deviceType).requests deviceType := by
  obtain ⟨offset, same, shorter⟩ := requestsFrom_of_next next
  rw [Nat.zero_add] at same
  subst same
  exact shorter

theorem mem_requests : (position, request) ∈ grants.requests deviceType ↔ request ≠ [] ∧
    ∃ container, grants[position]? = some container ∧ request = container.filter (·.isOf deviceType) := by
  rw [requests, requestsFrom, List.mem_filterMap]
  constructor
  · rintro ⟨⟨container, place⟩, listed, is⟩
    obtain ⟨rfl, same, some_grant⟩ := request?_eq_some.1 is
    exact ⟨some_grant, container, List.mk_mem_zipIdx_iff_getElem?.1 listed, same⟩
  · rintro ⟨some_grant, container, held, same⟩
    exact ⟨(container, position), List.mk_mem_zipIdx_iff_getElem?.2 held,
      request?_eq_some.2 ⟨rfl, same, some_grant⟩⟩

theorem pairwise_requests (grants : Grants) (deviceType : String) :
    ((grants.requests deviceType).map (·.1)).Pairwise (· < ·) := by
  rw [List.pairwise_map, requests, requestsFrom, List.pairwise_filterMap]
  refine (pairwise_zipIdx grants 0).imp fun {first second} before a left b right => ?_
  obtain ⟨same, -⟩ := request?_eq_some.1 left
  obtain ⟨also, -⟩ := request?_eq_some.1 right
  rwa [same, also]

theorem length_requestsFrom (deviceType : String) (start : Nat) (grants : Grants) :
    (requestsFrom deviceType start grants).length =
      grants.countP fun container => container.any (·.isOf deviceType) := by
  induction grants generalizing start with
  | nil => rfl
  | cons container containers ih =>
    rw [List.countP_cons, ← ih (start + 1)]
    by_cases nothing : container.filter (·.isOf deviceType) = []
    · rw [requestsFrom_of_nil nothing, if_neg]
      · rfl
      · simpa using nothing
    · rw [requestsFrom_of_ne_nil nothing, if_pos]
      · rfl
      · simpa using nothing

theorem flatMap_requestsFrom (deviceType : String) (start : Nat) (grants : Grants) :
    (requestsFrom deviceType start grants).flatMap (·.2) = grants.flatten.filter (·.isOf deviceType) := by
  induction grants generalizing start with
  | nil => rfl
  | cons container containers ih =>
    rw [List.flatten_cons, List.filter_append, ← ih (start + 1)]
    by_cases nothing : container.filter (·.isOf deviceType) = []
    · rw [requestsFrom_of_nil nothing, nothing, List.nil_append]
    · rw [requestsFrom_of_ne_nil nothing, List.flatMap_cons]

theorem hasPending_eq_false_iff : grants.hasPending [deviceType] = false ↔
    ∀ container ∈ grants, ∀ grant ∈ container, grant.isOf deviceType = false := by
  simp [hasPending, Grant.isOf]

theorem next?_eq_none_iff : grants.next? deviceType = none ↔ grants.hasPending [deviceType] = false := by
  rw [next?_eq_head?, List.head?_eq_none_iff, ← List.length_eq_zero_iff, requests, length_requestsFrom,
    List.countP_eq_zero, hasPending_eq_false_iff]
  simp

-- What is not of the type is not touched by a round.
theorem map_others_erase (grants : Grants) (position : Nat) (deviceType : String) :
    (grants.erase position deviceType).map (·.filter (!·.isOf deviceType)) =
      grants.map (·.filter (!·.isOf deviceType)) := by
  apply List.ext_getElem?
  intro other
  rw [erase, List.getElem?_map, List.getElem?_modify, List.getElem?_map]
  by_cases here : position = other
  · simp [here, Function.comp_def]
  · simp [here]

theorem map_others_of_next?_eq_none (stopped : grants.next? deviceType = none) :
    grants.map (·.filter (!·.isOf deviceType)) = grants := by
  have free := hasPending_eq_false_iff.1 (next?_eq_none_iff.1 stopped)
  refine (List.map_congr_left fun container member => ?_).trans (List.map_id grants)
  exact List.filter_eq_self.2 fun grant inside => by rw [free container member grant inside]; rfl

namespace Rounds

theorem requests_eq (rounds : Rounds deviceType grants served left) :
    grants.requests deviceType = served ++ left.requests deviceType := by
  induction rounds with
  | nil grants => rfl
  | round next _ ih => rw [requests_of_next next, ih, List.cons_append]

theorem map_others (rounds : Rounds deviceType grants served left) :
    left.map (·.filter (!·.isOf deviceType)) = grants.map (·.filter (!·.isOf deviceType)) := by
  induction rounds with
  | nil grants => rfl
  | round _ _ ih => exact ih.trans (map_others_erase _ _ _)

-- Each round takes one request away, so there is a last one.
theorem exists_last (deviceType : String) (grants : Grants) :
    ∃ served left, Rounds deviceType grants served left ∧ left.next? deviceType = none := by
  generalize pending : grants.requests deviceType = requests
  induction requests generalizing grants with
  | nil => exact ⟨[], grants, .nil grants, by rw [next?_eq_head?, pending]; rfl⟩
  | cons first rest ih =>
    have next : grants.next? deviceType = some first := by rw [next?_eq_head?, pending]; rfl
    have shorter := requests_of_next next
    rw [pending] at shorter
    obtain ⟨served, left, rounds, stopped⟩ := ih _ (List.cons.inj shorter).2.symm
    exact ⟨first :: served, left, .round next rounds, stopped⟩

end Rounds

structure IsDrained (deviceType : String) (grants : Grants) (served : List (Nat × List Grant))
    (left : Grants) : Prop where
  -- Each container with grants of the type is served, with all of them.
  requests : ∀ position request, (position, request) ∈ served ↔ request ≠ [] ∧
    ∃ container, grants[position]? = some container ∧
      request = container.filter fun grant => grant.deviceType = deviceType
  ascending : (served.map (·.1)).Pairwise (· < ·)
  concatenated : served.flatMap (·.2) = grants.flatten.filter fun grant => grant.deviceType = deviceType
  left : left = grants.map fun container => container.filter fun grant => grant.deviceType ≠ deviceType

theorem Rounds.isDrained (rounds : Rounds deviceType grants served left)
    (stopped : left.next? deviceType = none) : IsDrained deviceType grants served left := by
  have none_left : left.requests deviceType = [] := by
    rwa [← List.head?_eq_none_iff, ← next?_eq_head?]
  have all : grants.requests deviceType = served := by
    rw [rounds.requests_eq, none_left, List.append_nil]
  constructor
  case requests =>
    intro position request
    rw [← all, mem_requests]
    simp only [Grant.isOf_eq]
  case ascending =>
    rw [← all]
    exact pairwise_requests grants deviceType
  case concatenated =>
    rw [← all, requests, flatMap_requestsFrom]
    simp only [Grant.isOf_eq]
  case left =>
    rw [← map_others_of_next?_eq_none stopped, rounds.map_others]
    simp only [Grant.isOf_eq, decide_not]

/-- Serving a type in rounds comes to an end after just as many rounds as there are containers with grants of the
type, and then the queue is drained of it. There is a next request just as long as some grant is pending. -/
theorem rounds_drain_type (grants : Grants) (deviceType : String) :
    (∃ served left, Rounds deviceType grants served left ∧ left.next? deviceType = none) ∧
    (∀ served left, Rounds deviceType grants served left →
      served.length ≤ (grants.countP fun container => container.any fun grant => grant.deviceType = deviceType) ∧
      (left.next? deviceType = none ↔ served.length =
        grants.countP fun container => container.any fun grant => grant.deviceType = deviceType) ∧
      (left.next? deviceType = none → IsDrained deviceType grants served left)) ∧
    (grants.next? deviceType = none ↔ grants.hasPending [deviceType] = false) := by
  refine ⟨Rounds.exists_last deviceType grants, fun served left rounds => ?_, next?_eq_none_iff⟩
  have counted : served.length + (left.requests deviceType).length =
      grants.countP fun container => container.any fun grant => grant.deviceType = deviceType := by
    rw [← List.length_append, ← rounds.requests_eq, requests, length_requestsFrom]
    simp only [Grant.isOf_eq]
  refine ⟨by omega, ?_, rounds.isDrained⟩
  rw [next?_eq_head?, List.head?_eq_none_iff, ← List.length_eq_zero_iff]
  omega

-- The container without grants is passed over, and the other type stays.
theorem rounds_drain_type_twoTypes : ∃ left,
    Rounds "NVIDIA" twoTypes [(0, [⟨"GPU-0", "NVIDIA", 1024, 30⟩, ⟨"GPU-1", "NVIDIA", 1024, 30⟩]),
      (2, [⟨"GPU-2", "NVIDIA", 1024, 30⟩])] left ∧
    left = [[⟨"ASCEND-0", "Ascend", 1024, 30⟩], [], [⟨"ASCEND-1", "Ascend", 1024, 30⟩]] ∧
    left.hasPending ["NVIDIA"] = false ∧ left.hasPending ["Ascend"] = true := by
  have first : twoTypes.next? "NVIDIA" =
      some (0, [⟨"GPU-0", "NVIDIA", 1024, 30⟩, ⟨"GPU-1", "NVIDIA", 1024, 30⟩]) := by decide
  have second : (twoTypes.erase 0 "NVIDIA").next? "NVIDIA" =
      some (2, [⟨"GPU-2", "NVIDIA", 1024, 30⟩]) := by decide
  have rounds := Rounds.round first (.round second (.nil _))
  have drains := (rounds_drain_type twoTypes "NVIDIA").2.1 _ _ rounds
  have stopped := drains.2.1.2 (by decide)
  refine ⟨_, rounds, (drains.2.2 stopped).left, ?_, by decide⟩
  exact (rounds_drain_type _ "NVIDIA").2.2.1 stopped

end Rounds

end Grants

end GpuShare.Wire
