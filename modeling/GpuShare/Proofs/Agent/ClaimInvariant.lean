import GpuShare.Proofs.Agent.ClaimEffects

/-!
The invariant of calls that serve the same pods. While a call holds a pod the pod is marked as claimed, and
only an unmarked pod is claimed; so a claim, which is guarded, comes when nobody holds the pod, and the last
write, which is not, comes from the one who does. A request is erased under the version that the claim left,
so what is erased is what was read.
-/

set_option autoImplicit false

namespace GpuShare.Agent.Claiming

open Cluster Wire Program

variable {ι : Type} {scene after : Scene ι} {key : Key} {pod changed : Pod}

def Stage.HasClaimed (key : Key) : Stage → Prop
  | .searching _ => False
  | .claimed service | .erased service => service.key = key
  | .settled _ => True

def Stage.served? : Stage → Option Service
  | .erased service => some service
  | .settled served => served
  | .searching _ | .claimed _ => none

def IsMarked (scene : Scene ι) (key : Key) : Prop :=
  ∃ pod, scene.current key = some pod ∧ pod.isClaimed = true

def Fits (scene : Scene ι) (asked : List (Exchange interface)) : Stage → Prop
  | .searching seen => ∀ pod ∈ seen, pod ∈ scene.history (keyOf pod)
  | .claimed service => service.pod ∈ scene.history service.key ∧ service.events <:+ asked ∧
    ∃ exchange ∈ asked, Claims service.key exchange
  | .erased service => service.events <:+: asked ∧ ∃ exchange ∈ asked, Claims service.key exchange
  | .settled served => ∀ service, served = some service → service.events <:+: asked

def ErasedBy (transition : Transition (Scene ι) ι) (i : ι) (service : Service) : Prop :=
  ∃ demand, Wants service.pod demand ∧ Erases transition i service.key demand.position ∧
    transition.before.current service.key = some service.pod ∧
    transition.before.entries service.key demand.position = demand.request

/-- What holds at any time of calls that serve the same pods, and of how far each has come. -/
structure Steady (orders : ι → Order) (scene : Scene ι) (stages : ι → Stage) : Prop where
  recorded : ∀ key, Recorded key (scene.history key)
  follows : ∀ i, (scene.calls i).rest.Follows (protocol (orders i)) (Ended (orders i)) (stages i)
  fits : ∀ i, Fits scene (scene.calls i).asked (stages i)
  marked : ∀ i key, (stages i).Holds key → IsMarked scene key
  alone : ∀ i j key, (stages i).Holds key → (stages j).Holds key → i = j
  claims : ∀ i key, ∀ exchange ∈ (scene.calls i).asked, Claims key exchange → (stages i).HasClaimed key

structure Traced (trace : List (Transition (Scene ι) ι)) (scene : Scene ι) (stages : ι → Stage) :
    Prop where
  kept : ∀ transition ∈ trace, transition.after.grants = transition.before.grants ∨
    ∃ i key position, Erases transition i key position ∧ Holds transition.before i key
  once : trace.Pairwise fun later earlier => ∀ i j key position,
    Erases later i key position → ¬ Erases earlier j key position
  erased : ∀ transition ∈ trace, ∀ i key position, Erases transition i key position →
    scene.entries key position = [] ∧
      ∃ service, (stages i).served? = some service ∧ ErasedBy transition i service
  served : ∀ i service, (stages i).served? = some service →
    ∃ transition ∈ trace, ErasedBy transition i service

/-- A step that leaves the grants alone, or in which a call that holds a pod erases its request. -/
def Changes (scene : Scene ι) (actor : Option ι) (after : Scene ι) (stages stages' : ι → Stage) :
    Prop :=
  (after.grants = scene.grants ∧ ∀ j, (stages' j).served? = (stages j).served?) ∨
    ∃ i service, ErasedBy ⟨scene, actor, after⟩ i service ∧ Holds scene i service.key ∧
      (stages i).served? = none ∧ (stages' i).served? = some service ∧
        ∀ j, j ≠ i → (stages' j).served? = (stages j).served?

section Traces

variable {trace : List (Transition (Scene ι) ι)} {stages stages' : ι → Stage} {actor : Option ι}
  {i : ι} {position : Nat}

theorem Erases.entries_after {transition : Transition (Scene ι) ι}
    (erases : Erases transition i key position) : transition.after.entries key position = [] := by
  have all := erases.rest key position
  rw [if_pos ⟨rfl, rfl⟩] at all
  rw [Scene.entries, all, List.filter_filter]
  exact List.filter_eq_nil_iff.2 fun grant _ => by simp

theorem Erases.unique {transition : Transition (Scene ι) ι} {j : ι} {other : Key} {place : Nat}
    (erases : Erases transition i key position) (also : Erases transition j other place) :
    i = j ∧ key = other ∧ position = place := by
  refine ⟨Option.some.inj (erases.actor.symm.trans also.actor), ?_⟩
  by_contra differs
  have same := also.rest key position
  rw [if_neg differs] at same
  have gone := erases.entries_after
  rw [Scene.entries, same] at gone
  exact erases.entries gone

-- Entries that are gone do not come back.
theorem entries_stay_erased (change : Changes scene actor after stages stages')
    (gone : scene.entries key position = []) : after.entries key position = [] := by
  rcases change with ⟨same, -⟩ | ⟨i, service, ⟨demand, -, erases, -⟩, -⟩
  · rw [Scene.entries, same]
    exact gone
  · have left := erases.rest key position
    rw [Scene.entries, left]
    split
    · rw [List.filter_filter]
      exact List.filter_eq_nil_iff.2 fun grant _ => by simp
    · exact gone

theorem Traced.extend (traced : Traced trace scene stages)
    (change : Changes scene actor after stages stages') :
    Traced (⟨scene, actor, after⟩ :: trace) after stages' := by
  -- A service that was there before is there still.
  have carried : ∀ j service, (stages j).served? = some service →
      (stages' j).served? = some service := by
    intro j service before
    rcases change with ⟨-, same⟩ | ⟨i, erased, -, -, none, -, same⟩
    · rw [same]
      exact before
    · by_cases here : j = i
      · subst here
        rw [none] at before
        cases before
      · rw [same j here]
        exact before
  refine ⟨List.forall_mem_cons.2 ⟨?_, traced.kept⟩, List.pairwise_cons.2 ⟨?_, traced.once⟩,
    List.forall_mem_cons.2 ⟨?_, ?_⟩, ?_⟩
  · rcases change with ⟨same, -⟩ | ⟨i, service, ⟨demand, -, erases, -⟩, holds, -⟩
    · exact .inl same
    · exact .inr ⟨i, service.key, demand.position, erases, holds⟩
  · intro earlier member i j key position now before
    exact now.entries (traced.erased earlier member j key position before).1
  · intro j key position erases
    refine ⟨erases.entries_after, ?_⟩
    rcases change with ⟨same, -⟩ | ⟨i, service, by_, -, -, served, -⟩
    · have gone := erases.entries_after
      rw [Scene.entries, same] at gone
      exact absurd gone erases.entries
    · obtain ⟨demand, -, also, -⟩ := id by_
      obtain ⟨rfl, -⟩ := erases.unique also
      exact ⟨service, served, by_⟩
  · intro earlier member j key position erases
    obtain ⟨gone, service, served, by_⟩ := traced.erased earlier member j key position erases
    exact ⟨entries_stay_erased change gone, service, carried j service served, by_⟩
  · intro j service served
    rcases change with ⟨-, same⟩ | ⟨i, erased, by_, -, -, now, same⟩
    · rw [same] at served
      obtain ⟨earlier, member, before⟩ := traced.served j service served
      exact ⟨earlier, List.mem_cons_of_mem _ member, before⟩
    · by_cases here : j = i
      · subst here
        obtain rfl := Option.some.inj (now.symm.trans served)
        exact ⟨_, List.mem_cons_self, by_⟩
      · rw [same j here] at served
        obtain ⟨earlier, member, before⟩ := traced.served j service served
        exact ⟨earlier, List.mem_cons_of_mem _ member, before⟩

end Traces

section Writes

variable {order : Order} {stage : Stage} {patch : Patch} {guard : Option String}
  {asked : List (Exchange interface)}

-- A guard that holds is the version of what was read, so that is what the pod is.
theorem eq_of_guardHolds (recorded : Recorded key (scene.history key))
    (current : scene.current key = some pod) {read : Pod} (member : read ∈ scene.history key)
    (holds : Store.guardHolds pod.metadata read.metadata.resourceVersion = true) : pod = read := by
  obtain ⟨version, has⟩ := recorded.versioned read member
  refine recorded.eq_of_version current member ?_
  rw [has] at holds ⊢
  simpa [Store.guardHolds] using holds

-- A write that goes through claims a pod that nobody has marked, or erases what its call has read, or is the
-- last one.
theorem write_cases (recorded : Recorded key (scene.history key)) (fits : Fits scene asked stage)
    (current : scene.current key = some pod) (holds : Store.guardHolds pod.metadata guard = true)
    (may : stage.MayWrite order key patch guard) (written : Pod) :
    (patch = claimPatch ∧ pod.isClaimed = false ∧ (∃ seen, stage = .searching seen) ∧
      stage.learn (.cluster (.patchPod key.1 key.2 patch guard)) (.ok written) =
        .claimed ⟨key, written, []⟩) ∨
    (∃ demand events, stage = .claimed ⟨key, pod, events⟩ ∧ Wants pod demand ∧
      patch = erasePatch demand ∧
      stage.learn (.cluster (.patchPod key.1 key.2 patch guard)) (.ok written) =
        .erased ⟨key, pod, events⟩) ∨
    (stage.Holds key ∧ LeavesGrants patch ∧
      stage.learn (.cluster (.patchPod key.1 key.2 patch guard)) (.ok written) =
        .settled stage.served?) := by
  cases stage with
  | searching seen =>
    obtain ⟨rfl, read, member, rfl, unclaimed, rfl⟩ := may
    obtain rfl := eq_of_guardHolds recorded current (fits read member) holds
    exact .inl ⟨rfl, unclaimed, ⟨seen, rfl⟩, rfl⟩
  | claimed service =>
    obtain ⟨rfl, leaves | ⟨demand, ids, wants, -, rfl, rfl⟩⟩ := may
    · refine .inr (.inr ⟨rfl, leaves, if_neg ?_⟩)
      rw [show patch.get? devicesToAllocate = none from leaves]
      exact Bool.false_ne_true
    · obtain rfl := eq_of_guardHolds recorded current fits.1 holds
      refine .inr (.inl ⟨demand, service.events, rfl, wants, rfl, ?_⟩)
      have names : ((erasePatch demand).get? devicesToAllocate).isSome = true := by
        rw [erasePatch, Patch.get?_one, if_pos rfl]
        rfl
      exact if_pos (e := Stage.settled none) names
  | erased service =>
    obtain ⟨rfl, leaves⟩ := may
    exact .inr (.inr ⟨rfl, leaves, rfl⟩)
  | settled served => exact absurd may id

structure Unmoved (scene : Scene ι) (asked : List (Exchange interface)) (stage stage' : Stage) :
    Prop where
  fits : Fits scene asked stage'
  holds : ∀ key, stage'.Holds key ↔ stage.Holds key
  claimed : ∀ key, stage'.HasClaimed key ↔ stage.HasClaimed key
  served : stage'.served? = stage.served?

def Stage.record (stage : Stage) (exchange : Exchange interface) : Stage :=
  match stage with
  | .claimed service => .claimed { service with events := service.events ++ [exchange] }
  | _ => stage

theorem unmoved_record (fits : Fits scene asked stage) (exchange : Exchange interface) :
    Unmoved scene (asked ++ [exchange]) stage (stage.record exchange) := by
  cases stage with
  | searching seen => exact ⟨fits, fun _ => Iff.rfl, fun _ => Iff.rfl, rfl⟩
  | claimed service =>
    obtain ⟨member, suffix, claim, inside, claims⟩ := fits
    refine ⟨⟨member, ?_, claim, List.mem_append_left _ inside, claims⟩, fun _ => Iff.rfl,
      fun _ => Iff.rfl, rfl⟩
    obtain ⟨front, rfl⟩ := suffix
    exact ⟨front, (List.append_assoc ..).symm⟩
  | erased service =>
    obtain ⟨infix_, claim, inside, claims⟩ := fits
    exact ⟨⟨infix_.trans (List.prefix_append ..).isInfix, claim, List.mem_append_left _ inside, claims⟩,
      fun _ => Iff.rfl, fun _ => Iff.rfl, rfl⟩
  | settled served =>
    exact ⟨fun service same => (fits service same).trans (List.prefix_append ..).isInfix,
      fun _ => Iff.rfl, fun _ => Iff.rfl, rfl⟩

theorem learn_failed (stage : Stage) (call : Call) (error : ClusterError) :
    stage.learn (.cluster call) (.error error) = stage.record ⟨.cluster call, .error error⟩ := by
  cases stage with
  | searching seen => cases call <;> rfl
  | claimed service => cases call <;> rfl
  | erased service => cases call <;> rfl
  | settled served => cases call <;> rfl

theorem learn_got (stage : Stage) (key : Key) (pod : Pod) :
    stage.learn (.cluster (.getPod key.1 key.2)) (.ok pod) =
      stage.record ⟨.cluster (.getPod key.1 key.2), .ok pod⟩ := by
  cases stage <;> rfl

theorem learn_quiet (stage : Stage) {request : Request} (other : request.IsQuiet)
    (answer : Answer request) : stage.learn request answer = stage.record ⟨request, answer⟩ := by
  cases stage with
  | claimed service => exact learn_claimed other answer
  | searching seen => exact learn_of_isQuiet (fun _ same => by cases same) other answer
  | erased service => exact learn_of_isQuiet (fun _ same => by cases same) other answer
  | settled served => exact learn_of_isQuiet (fun _ same => by cases same) other answer

theorem unmoved_listed (recorded : ∀ key, Recorded key (scene.history key))
    (fits : Fits scene asked stage) {pods : List Pod}
    (present : ∀ pod ∈ pods, ∃ key, scene.current key = some pod) :
    Unmoved scene (asked ++ [⟨.cluster .listPods, .ok pods⟩]) stage
      (stage.learn (.cluster .listPods) (.ok pods)) := by
  cases stage with
  | searching seen =>
    refine ⟨fun pod member => ?_, fun _ => Iff.rfl, fun _ => Iff.rfl, rfl⟩
    obtain ⟨key, current⟩ := present pod member
    have known := mem_of_current current
    rw [(recorded key).named pod known]
    exact known
  | claimed service => exact unmoved_record fits _
  | erased service => exact unmoved_record fits _
  | settled served => exact unmoved_record fits _

end Writes

theorem Fits.mono {asked : List (Exchange interface)} {stage : Stage} (fits : Fits scene asked stage)
    (history : ∀ key, scene.history key ⊆ after.history key) : Fits after asked stage := by
  cases stage with
  | searching seen => exact fun pod member => history _ (fits pod member)
  | claimed service => exact ⟨history _ fits.1, fits.2⟩
  | erased service => exact fits
  | settled served => exact fits

theorem IsMarked.write {other : Key} (marked : IsMarked scene other)
    (kept : other = key → changed.isClaimed = true) : IsMarked (scene.write key changed) other := by
  obtain ⟨pod, current, claimed⟩ := marked
  by_cases here : other = key
  · refine ⟨changed, ?_, kept here⟩
    rw [current_write, if_pos here]
  · refine ⟨pod, ?_, claimed⟩
    rw [current_write, if_neg here]
    exact current

-- The write that erases a request takes its entries, and nothing else.
theorem Wants.erasedBy {demand : Demand} {events : List (Exchange interface)} {i : ι}
    {calls : ι → Progress} (wants : Wants pod demand) (current : scene.current key = some pod)
    (version : String) :
    ErasedBy ⟨scene, some i,
      { scene.write key (patchedPod pod (erasePatch demand) version) with calls := calls }⟩ i
        ⟨key, pod, events⟩ := by
  have grants : scene.grants key = grantsAt pod := grants_of_current current rfl
  have entries : scene.entries key demand.position = demand.request := by
    rw [Scene.entries, grants]
    exact wants.request_eq.1.symm
  refine ⟨demand, wants, ⟨rfl, ?_, fun other place => ?_⟩, current, entries⟩
  · show scene.entries key demand.position ≠ []
    rw [entries]
    exact wants.request_eq.2
  · show (scene.write key (patchedPod pod (erasePatch demand) version)).grants other place = _
    rw [Scene.grants, current_write]
    by_cases here : other = key
    · subst here
      rw [if_pos rfl]
      show grantsAt (patchedPod pod (erasePatch demand) version) place = _
      rw [wants.grantsAt_erased, grants]
      by_cases same : place = demand.position
      · rw [if_pos same, if_pos ⟨rfl, same⟩, same]
      · rw [if_neg same, if_neg fun both => same both.2]
    · rw [if_neg here, if_neg fun both => here both.1]
      rfl

section Calls

variable [DecidableEq ι] {orders : ι → Order} {stages : ι → Stage} {i : ι}
  {exchange : Exchange interface} {rest : Program interface Result} {stage' : Stage}

-- A call goes on and the others stay where they are.
theorem Steady.advance (steady : Steady orders scene stages) (calls : after.calls = scene.calls)
    (history : ∀ key, scene.history key ⊆ after.history key)
    (recorded : ∀ key, Recorded key (after.history key))
    (follows : rest.Follows (protocol (orders i)) (Ended (orders i)) stage')
    (fits : Fits after ((scene.calls i).asked ++ [exchange]) stage')
    (marked : ∀ j key, (Function.update stages i stage' j).Holds key → IsMarked after key)
    (holds : ∀ key, stage'.Holds key → (stages i).Holds key ∨ ∀ j, ¬ (stages j).Holds key)
    (claimed : ∀ key, (stages i).HasClaimed key ∨ Claims key exchange → stage'.HasClaimed key) :
    Steady orders (after.setCall i ⟨(scene.calls i).asked ++ [exchange], rest⟩)
      (Function.update stages i stage') := by
  have self : (after.setCall i ⟨(scene.calls i).asked ++ [exchange], rest⟩).calls i =
      ⟨(scene.calls i).asked ++ [exchange], rest⟩ := Function.update_self ..
  have others : ∀ j, j ≠ i →
      (after.setCall i ⟨(scene.calls i).asked ++ [exchange], rest⟩).calls j = scene.calls j := by
    intro j other
    rw [← calls]
    exact Function.update_of_ne other ..
  refine ⟨recorded, fun j => ?_, fun j => ?_, marked, fun j k key first second => ?_, fun j => ?_⟩
  · by_cases same : j = i
    · subst same
      rw [self, Function.update_self]
      exact follows
    · rw [others j same, Function.update_of_ne same]
      exact steady.follows j
  · by_cases same : j = i
    · subst same
      rw [self, Function.update_self]
      exact fits
    · rw [others j same, Function.update_of_ne same]
      exact (steady.fits j).mono history
  · -- The call itself holds only what it held before, or what nobody held.
    by_cases left : j = i
    · by_cases right : k = i
      · rw [left, right]
      · subst left
        rw [Function.update_self] at first
        rw [Function.update_of_ne right] at second
        rcases holds key first with before | nobody
        · exact steady.alone j k key before second
        · exact absurd second (nobody k)
    · rw [Function.update_of_ne left] at first
      by_cases right : k = i
      · subst right
        rw [Function.update_self] at second
        rcases holds key second with before | nobody
        · exact steady.alone j k key first before
        · exact absurd first (nobody j)
      · rw [Function.update_of_ne right] at second
        exact steady.alone j k key first second
  · by_cases same : j = i
    · subst same
      rw [self, Function.update_self]
      intro key asked member claims
      rcases List.mem_append.1 member with before | now
      · exact claimed key (.inl (steady.claims j key asked before claims))
      · rw [List.mem_singleton] at now
        exact claimed key (.inr (now ▸ claims))
    · rw [others j same, Function.update_of_ne same]
      exact steady.claims j

theorem Steady.unmoved (steady : Steady orders scene stages)
    (follows : rest.Follows (protocol (orders i)) (Ended (orders i)) stage')
    (unmoved : Unmoved scene ((scene.calls i).asked ++ [exchange]) (stages i) stage')
    (reads : ∀ key, ¬ Claims key exchange) :
    Steady orders (scene.setCall i ⟨(scene.calls i).asked ++ [exchange], rest⟩)
      (Function.update stages i stage') := by
  refine steady.advance rfl (fun key => List.Subset.refl _) steady.recorded follows unmoved.fits
    (fun j key held => ?_) (fun key held => .inl ((unmoved.holds key).1 held))
    fun key either => (unmoved.claimed key).2 (either.resolve_right (reads key))
  by_cases same : j = i
  · subst same
    rw [Function.update_self] at held
    exact steady.marked j key ((unmoved.holds key).1 held)
  · rw [Function.update_of_ne same] at held
    exact steady.marked j key held

-- A write of a pod that no other call holds.
theorem Steady.written {version : String} (steady : Steady orders scene stages)
    (named : keyOf changed = key) (has : changed.metadata.resourceVersion = some version)
    (new : IsNew (scene.history key) version)
    (follows : rest.Follows (protocol (orders i)) (Ended (orders i)) stage')
    (fits : Fits (scene.write key changed) ((scene.calls i).asked ++ [exchange]) stage')
    (only : ∀ other, stage'.Holds other → other = key)
    (marks : stage'.Holds key → changed.isClaimed = true)
    (alone : ∀ j, j ≠ i → ¬ (stages j).Holds key)
    (claimed : ∀ key, (stages i).HasClaimed key ∨ Claims key exchange → stage'.HasClaimed key) :
    Steady orders ((scene.write key changed).setCall i
      ⟨(scene.calls i).asked ++ [exchange], rest⟩) (Function.update stages i stage') := by
  refine steady.advance rfl (history_subset_write scene key changed)
    (Recorded.write steady.recorded named has new) follows fits (fun j other held => ?_)
    (fun other held => ?_) claimed
  · by_cases same : j = i
    · subst same
      rw [Function.update_self] at held
      obtain rfl := only other held
      refine ⟨changed, ?_, marks held⟩
      rw [current_write, if_pos rfl]
    · rw [Function.update_of_ne same] at held
      exact (steady.marked j other held).write fun here => absurd (here ▸ held) (alone j same)
  · obtain rfl := only other held
    by_cases before : (stages i).Holds other
    · exact .inl before
    · refine .inr fun j => ?_
      by_cases same : j = i
      · rw [same]
        exact before
      · exact alone j same

theorem served?_update (same : stage'.served? = (stages i).served?) (j : ι) :
    (Function.update stages i stage' j).served? = (stages j).served? := by
  by_cases here : j = i
  · subst here
    rw [Function.update_self]
    exact same
  · rw [Function.update_of_ne here]

variable {trace : List (Transition (Scene ι) ι)}

def Sound (orders : ι → Order) (trace : List (Transition (Scene ι) ι)) (scene : Scene ι)
    (stages : ι → Stage) : Prop := Steady orders scene stages ∧ Traced trace scene stages

theorem Sound.unmoved (sound : Sound orders trace scene stages)
    (follows : rest.Follows (protocol (orders i)) (Ended (orders i)) stage')
    (unmoved : Unmoved scene ((scene.calls i).asked ++ [exchange]) (stages i) stage')
    (reads : ∀ key, ¬ Claims key exchange) :
    Sound orders (⟨scene, some i, scene.setCall i ⟨(scene.calls i).asked ++ [exchange], rest⟩⟩ :: trace)
      (scene.setCall i ⟨(scene.calls i).asked ++ [exchange], rest⟩)
      (Function.update stages i stage') :=
  ⟨sound.1.unmoved follows unmoved reads,
    sound.2.extend (.inl ⟨rfl, served?_update unmoved.served⟩)⟩

-- A write of a call, of a pod that is as it was when the call read it.
theorem Sound.written {patch : Patch} {guard : Option String} {version : String}
    (sound : Sound orders trace scene stages)
    {next : Answer (.cluster (.patchPod key.1 key.2 patch guard)) → Program interface Result}
    (busy : (scene.calls i).rest = .ask (.cluster (.patchPod key.1 key.2 patch guard)) next)
    (current : scene.current key = some pod) (holds : Store.guardHolds pod.metadata guard = true)
    (new : IsNew (scene.history key) version) :
    ∃ stages', Sound orders
      (⟨scene, some i, (scene.write key (patchedPod pod patch version)).setCall i
        ⟨(scene.calls i).asked ++ [⟨.cluster (.patchPod key.1 key.2 patch guard),
          .ok (patchedPod pod patch version)⟩], next (.ok (patchedPod pod patch version))⟩⟩ :: trace)
      ((scene.write key (patchedPod pod patch version)).setCall i
        ⟨(scene.calls i).asked ++ [⟨.cluster (.patchPod key.1 key.2 patch guard),
          .ok (patchedPod pod patch version)⟩], next (.ok (patchedPod pod patch version))⟩) stages' := by
  obtain ⟨steady, traced⟩ := sound
  have follows := steady.follows i
  rw [busy] at follows
  obtain ⟨may, goes⟩ := follows
  have rest := goes (.ok (patchedPod pod patch version))
  rw [protocol_next] at rest
  have recorded := steady.recorded key
  have named : keyOf (patchedPod pod patch version) = key :=
    recorded.named pod (mem_of_current current)
  have fits := steady.fits i
  have here : patchedPod pod patch version ∈
      (scene.write key (patchedPod pod patch version)).history key := by
    rw [history_write, if_pos rfl]
    exact List.mem_cons_self
  have asked : (⟨.cluster (.patchPod key.1 key.2 patch guard), .ok (patchedPod pod patch version)⟩ :
      Exchange interface) ∈ (scene.calls i).asked ++ [⟨.cluster (.patchPod key.1 key.2 patch guard),
        .ok (patchedPod pod patch version)⟩] := List.mem_append_right _ List.mem_cons_self
  -- Nobody else holds a pod that is not marked, or that this call holds.
  have alone : (stages i).Holds key → ∀ j, j ≠ i → ¬ (stages j).Holds key :=
    fun held j other also => other (steady.alone j i key also held)
  rcases write_cases recorded fits current holds may (patchedPod pod patch version) with
    ⟨rfl, unclaimed, ⟨seen, at_⟩, learned⟩ | ⟨demand, events, at_, wants, rfl, learned⟩ |
      ⟨held, leaves, learned⟩
  · rw [learned] at rest
    have unmarked : ∀ j, ¬ (stages j).Holds key := by
      intro j held
      obtain ⟨marked, also, claimed⟩ := steady.marked j key held
      obtain rfl := Option.some.inj (current.symm.trans also)
      rw [unclaimed] at claimed
      cases claimed
    refine ⟨_, steady.written named rfl new rest ⟨here, List.nil_suffix, _, asked, guard, _, rfl⟩
      (fun _ held => Eq.symm held) (fun _ => isClaimed_claimPatch) (fun j _ => unmarked j) ?_,
      traced.extend (.inl ⟨grants_write current (grantsAt_of_leaves leavesGrants_claimPatch),
        served?_update ?_⟩)⟩
    · rintro other (before | claims)
      · rw [at_] at before
        exact absurd before id
      · exact claims.key_eq.symm
    · rw [at_]
      rfl
  · rw [learned] at rest
    rw [at_] at fits
    obtain ⟨-, suffix, claim, inside, claims⟩ := fits
    have held : (stages i).Holds key := by
      rw [at_]
      rfl
    obtain ⟨marked, also, claimed⟩ := steady.marked i key held
    obtain rfl := Option.some.inj (current.symm.trans also)
    refine ⟨_, steady.written named rfl new rest
      ⟨suffix.isInfix.trans (List.prefix_append ..).isInfix, claim, List.mem_append_left _ inside, claims⟩
      (fun _ held => Eq.symm held) (fun _ => isClaimed_erasePatch.trans claimed) (alone held) ?_,
      traced.extend (.inr ⟨i, ⟨key, pod, events⟩,
        wants.erasedBy current version, ⟨⟨claim, inside, claims⟩, ?_⟩, ?_, ?_, ?_⟩)⟩
    · rintro other (before | claims)
      · rw [at_] at before
        exact before
      · exact claims.key_eq.symm
    · rw [busy]
      exact .now ⟨_, _, rfl⟩
    · rw [at_]
      rfl
    · rw [Function.update_self]
      rfl
    · intro j other
      rw [Function.update_of_ne other]
  · rw [learned] at rest
    refine ⟨_, steady.written named rfl new rest ?_ (fun _ => False.elim) False.elim (alone held)
      (fun _ _ => trivial), traced.extend (.inl ⟨grants_write current (grantsAt_of_leaves leaves),
        served?_update rfl⟩)⟩
    intro service served
    cases stage : stages i with
    | searching seen =>
      rw [stage] at served
      cases served
    | claimed service =>
      rw [stage] at served
      cases served
    | erased erased =>
      rw [stage] at served fits
      cases served
      exact fits.1.trans (List.prefix_append ..).isInfix
    | settled settled =>
      rw [stage] at held
      exact absurd held id

omit [DecidableEq ι] in
theorem annotation?_congr (same : changed.metadata.annotations = pod.metadata.annotations)
    (key : String) : changed.annotation? key = pod.annotation? key := by
  rw [Pod.annotation?, Pod.annotation?, Metadata.annotation?, Metadata.annotation?, same]

omit [DecidableEq ι] in
-- A change of a pod that leaves its annotations alone.
theorem Sound.foreign {version : String} (sound : Sound orders trace scene stages)
    (current : scene.current key = some pod) (named : keyOf changed = key)
    (annotations : changed.metadata.annotations = pod.metadata.annotations)
    (has : changed.metadata.resourceVersion = some version)
    (new : IsNew (scene.history key) version) :
    Sound orders (⟨scene, none, scene.write key changed⟩ :: trace) (scene.write key changed)
      stages := by
  obtain ⟨steady, traced⟩ := sound
  have same := annotation?_congr annotations
  refine ⟨⟨Recorded.write steady.recorded named has new, steady.follows,
    fun i => (steady.fits i).mono (history_subset_write scene key changed),
    fun i other held => ?_, steady.alone, steady.claims⟩,
    traced.extend (.inl ⟨grants_write current (grantsAt_congr (same _)), fun _ => rfl⟩)⟩
  have marked := steady.marked i other held
  refine marked.write fun here => ?_
  obtain ⟨last, also, claimed⟩ := marked
  rw [here] at also
  obtain rfl := Option.some.inj (current.symm.trans also)
  exact (isClaimed_congr (same _)).trans claimed

theorem Sound.step {actor : Option ι} (sound : Sound orders trace scene stages)
    (step : Step scene actor after) :
    ∃ stages', Sound orders (⟨scene, actor, after⟩ :: trace) after stages' := by
  cases step with
  | foreign key pod changed version current named annotations has new =>
    exact ⟨stages, sound.foreign current named annotations has new⟩
  | call i request next answer answered busy reply =>
    have follows := sound.1.follows i
    rw [busy] at follows
    have goes := follows.2 answer
    rw [protocol_next] at goes
    have fits := sound.1.fits i
    cases reply with
    | written key pod patch guard version current holds new =>
      exact sound.written busy current holds new
    | listed pods present =>
      refine ⟨_, sound.unmoved goes (unmoved_listed sound.1.recorded fits present) ?_⟩
      rintro key ⟨_, _, same⟩
      cases same
    | got key pod current =>
      rw [learn_got] at goes
      refine ⟨_, sound.unmoved goes (unmoved_record fits _) ?_⟩
      rintro key ⟨_, _, same⟩
      cases same
    | failed call error =>
      rw [learn_failed] at goes
      refine ⟨_, sound.unmoved goes (unmoved_record fits _) ?_⟩
      rintro key ⟨_, _, same⟩
      cases same
    | other _ _ quiet =>
      rw [learn_quiet _ quiet] at goes
      refine ⟨_, sound.unmoved goes (unmoved_record fits _) ?_⟩
      rintro key ⟨_, _, same⟩
      cases same
      exact quiet trivial

theorem sound_of_run {start : Scene ι} (run : Run Step start trace scene)
    (initial : start.IsInitial orders) : ∃ stages, Sound orders trace scene stages := by
  induction run with
  | start =>
    refine ⟨fun _ => .searching [], ⟨initial.recorded, fun i => ?_, fun i pod => nofun,
      fun i key => False.elim, fun i j key => False.elim, fun i key exchange member => ?_⟩,
      ⟨nofun, .nil, nofun, fun i service => nofun⟩⟩
    · rw [initial.calls]
      exact program_follows (orders i)
    · rw [initial.calls] at member
      cases member
  | step run step ih =>
    obtain ⟨stages, sound⟩ := ih
    exact sound.step step

omit [DecidableEq ι] in
theorem Steady.holds (steady : Steady orders scene stages) (held : Holds scene i key) :
    (stages i).Holds key := by
  obtain ⟨⟨exchange, member, claims⟩, may⟩ := held
  have claimed := steady.claims i key exchange member claims
  have follows := steady.follows i
  cases stage : stages i with
  | searching seen =>
    rw [stage] at claimed
    exact absurd claimed id
  | claimed service =>
    rw [stage] at claimed
    exact claimed
  | erased service =>
    rw [stage] at claimed
    exact claimed
  | settled served =>
    rw [stage] at follows
    refine absurd may (follows.not_mayAsk (fun stage => ∃ served, stage = .settled served) ?_ ?_
      ⟨served, rfl⟩)
    · rintro _ request ⟨served, rfl⟩ allowed ⟨patch, guard, rfl⟩
      exact allowed
    · rintro _ request answer ⟨served, rfl⟩ -
      exact ⟨served, by cases request <;> rfl⟩

end Calls

end GpuShare.Agent.Claiming
