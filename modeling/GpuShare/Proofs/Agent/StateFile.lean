import GpuShare.Proofs.File.Below
import GpuShare.Proofs.Agent.CallWrites
import GpuShare.Proofs.Agent.Departure
import GpuShare.Proofs.Agent.Serving

/-!
Where a container keeps the file through which its processes share what they use. The environment names a path
in the container, and the mounts lead it to a file on the host. The file is in a directory that is named for
the pod and the container, where a lister looks for it.
-/

set_option autoImplicit false

namespace GpuShare.Agent

open Cluster Wire Claiming Program Attempt Text Unreliable

variable {config : AgentConfig} {pod : Pod} {container : Container} {exchanges : List (Exchange interface)}
  {response : ContainerResponse} {uid name file id : String} {ids : List String}

/-! ## Mounts -/

/-- What is below the place of a mount in a container is below its source on the host. -/
def Mount.Maps (mount : Mount) (inside host : Path) : Prop :=
  ∃ below, inside.components = (Path.mk mount.containerPath).components ++ below ∧
    host = below.foldl Path.join ⟨mount.hostPath⟩

structure MapTo (mounts : List Mount) (inside host : Path) : Prop where
  mapped : ∃ mount ∈ mounts, mount.Maps inside host
  only : ∀ mount ∈ mounts, ∀ other, mount.Maps inside other → other = host

/-- A container keeps its state in a file of its directory, where a lister looks for region files. -/
structure KeepsStateIn (config : AgentConfig) (response : ContainerResponse) (uid name file : String) :
    Prop where
  mapped : ∃ inside, response.environment.get? sharedCacheName = some inside ∧
    MapTo response.mounts ⟨inside⟩ ((config.paths.containers.join (uid ++ "_" ++ name)).join file)
  owner : ownerOf? (uid ++ "_" ++ name) = some (uid, name)
  isEntry : IsEntryName file
  isRegion : Lister.isRegionName file = true

structure IsIdentifier (id : String) : Prop where
  length : id.length = 36
  digits : ∀ c ∈ id.toList, c = '-' ∨ c.isDigit = true ∨ 'a' ≤ c ∧ c ≤ 'f'

section Files

theorem isName_append {a b : String} (first : IsName a) (second : IsName b) : IsName (a ++ b) := by
  unfold IsName at first second ⊢
  rw [String.toList_append, List.mem_append, not_or]
  exact ⟨first, second⟩

theorem IsIdentifier.isName (is : IsIdentifier id) : IsName id := by
  intro slash
  rcases is.digits '/' slash with dash | digit | letter
  · exact absurd dash (by decide)
  · exact absurd digit (by decide)
  · exact absurd letter (by decide)

def stateFile (id : String) : String := id ++ ".cache"

theorem IsIdentifier.isEntryName (is : IsIdentifier id) : IsEntryName (stateFile id) := by
  have long : (stateFile id).length = 42 := by
    rw [stateFile, String.length_append, is.length]
    rfl
  refine ⟨isName_append is.isName (by decide), ?_, ?_, ?_⟩
  all_goals
    intro same
    rw [same] at long
    exact absurd long (by decide)

theorem IsIdentifier.isRegionName (is : IsIdentifier id) : Lister.isRegionName (stateFile id) = true := by
  have chars : (stateFile id).toList = id.toList ++ '.' :: "cache".toList := by
    rw [stateFile, String.toList_append]
    rfl
  have front : id.toList ≠ [] := by
    intro empty
    have length := is.length
    rw [← String.length_toList, empty] at length
    cases length
  obtain ⟨c, cs, first⟩ := List.exists_cons_of_ne_nil front
  rw [Lister.isRegionName, Path.extension?, chars, splitLast?_append (by decide), first]
  rfl

theorem length_hexDigits (n value : Nat) : (hexDigits n value).length = n := by
  induction n generalizing value with
  | zero => rfl
  | succ n ih => rw [hexDigits, List.length_append, ih, List.length_singleton]

theorem hexDigit_digits : ∀ n < 16, (hexDigit n).isDigit = true ∨ 'a' ≤ hexDigit n ∧ hexDigit n ≤ 'f' := by
  decide

theorem hexDigits_digits {c : Char} (n value : Nat) (member : c ∈ hexDigits n value) :
    c.isDigit = true ∨ 'a' ≤ c ∧ c ≤ 'f' := by
  induction n generalizing value with
  | zero => cases member
  | succ n ih =>
    rw [hexDigits, List.mem_append, List.mem_singleton] at member
    obtain higher | rfl := member
    · exact ih _ higher
    · exact hexDigit_digits _ (Nat.mod_lt _ (by decide))

-- The identifiers that the world gives are identifiers.
theorem isIdentifier_identifier (n : Nat) : IsIdentifier (World.identifier n) := by
  have front : ∀ c ∈ "00000000-0000-4000-8000-".toList, c = '-' ∨ c.isDigit = true := by simp
  have chars : (World.identifier n).toList = "00000000-0000-4000-8000-".toList ++ hexDigits 12 n :=
    String.toList_ofList
  have fixed : "00000000-0000-4000-8000-".toList.length = 24 := by decide
  refine ⟨?_, fun c member => ?_⟩
  · rw [← String.length_toList, chars, List.length_append, length_hexDigits, fixed]
  · rw [chars, List.mem_append] at member
    obtain fixed | counted := member
    · exact (front c fixed).imp_right .inl
    · exact .inr (hexDigits_digits 12 n counted)

theorem components_sharedCache (is : IsEntryName (stateFile id)) :
    Path.components ⟨sharedCache id⟩ = ["tmp", "vgpu", stateFile id] := by
  have text : sharedCache id = "/tmp/vgpu" ++ "/" ++ stateFile id := by
    simp [sharedCache, stateFile, stateInContainer, String.append_assoc]
  have top : Path.components ⟨"/tmp/vgpu"⟩ = ["tmp", "vgpu"] := by decide +kernel
  rw [text, Path.components_slash, Path.components_ofName is, top]
  rfl

end Files

/-! ## The answer to a call -/

section Answers

theorem mapTo_shareMounts (config : AgentConfig) (pod : Pod) (container : Container)
    (is : IsEntryName (stateFile id)) : MapTo (shareMounts config pod container) ⟨sharedCache id⟩
      ((stateDirectory config pod container).join (stateFile id)) := by
  have inside := components_sharedCache is
  have library : Path.components ⟨libraryInContainer⟩ = ["usr", "local", "vgpu", "libvgpu.so"] := by
    decide +kernel
  have state : Path.components ⟨stateInContainer⟩ = ["tmp", "vgpu"] := by decide +kernel
  have lock : Path.components ⟨lockInContainer⟩ = ["tmp", "vgpulock"] := by decide +kernel
  have preload : Path.components ⟨preloadInContainer⟩ = ["etc", "ld.so.preload"] := by decide +kernel
  constructor
  · refine ⟨⟨stateInContainer, (stateDirectory config pod container).text, false⟩, ?_, [stateFile id], ?_, rfl⟩
    · simp [shareMounts]
    · rw [inside, state]
      rfl
  · rintro mount member other ⟨below, along, rfl⟩
    rw [inside] at along
    have among : mount = ⟨libraryInContainer, (config.paths.hook.join libraryFile).text, true⟩ ∨
        mount = ⟨stateInContainer, (stateDirectory config pod container).text, false⟩ ∨
        mount = ⟨lockInContainer, config.paths.lock.text, false⟩ ∨
        mount = ⟨preloadInContainer, (config.paths.hook.join preloadFile).text, true⟩ := by
      simp only [shareMounts, List.mem_append, List.mem_cons, List.not_mem_nil, or_false] at member
      rcases member with (first | second | third) | last
      · exact .inl first
      · exact .inr (.inl second)
      · exact .inr (.inr (.inl third))
      · refine .inr (.inr (.inr ?_))
        split at last
        · cases last
        · exact List.mem_singleton.1 last
    rcases among with rfl | rfl | rfl | rfl
    · simp [library] at along
    · rw [state] at along
      obtain rfl : below = [stateFile id] := by simpa using along.symm
      rfl
    · simp [lock] at along
    · simp [preload] at along

theorem keepsStateIn_shareMounts {request : List Grant} {resolved : List String} (is : IsIdentifier id)
    (uidIs : pod.metadata.uid = some uid) (named : NamesContainer uid container.name) :
    KeepsStateIn config ⟨shareEnvironment config container request resolved id, shareMounts config pod container⟩
      uid container.name (stateFile id) := by
  refine ⟨⟨sharedCache id, get?_shareEnvironment_iff.2 .sharedCache, ?_⟩, named.owner, is.isEntryName, is.isRegionName⟩
  have directory : config.paths.containers.join (uid ++ "_" ++ container.name) =
      stateDirectory config pod container := by
    rw [stateDirectory, uidIs]
    rfl
  rw [directory]
  exact mapTo_shareMounts config pod container is.isEntryName

inductive HandsOut (config : AgentConfig) (ids : List String) (exchanges : List (Exchange interface)) :
    Pod → Container → ContainerResponse → Prop where
  | answered {claim : Claim} {demand : Demand} {resolved : List String} {response : ContainerResponse}
      {claiming answering : List (Exchange interface)} :
      claiming ⊆ exchanges → Takes config.node claim claiming → claim.demand ids = .ok demand →
      answering ⊆ exchanges →
      (containerResponse config claim.pod demand.container demand.request resolved).run.Ends answering
        (.ok response) →
      HandsOut config ids exchanges claim.pod demand.container response

theorem HandsOut.mono {more : List (Exchange interface)} (hands : HandsOut config ids exchanges pod container response)
    (among : exchanges ⊆ more) : HandsOut config ids more pod container response := by
  obtain ⟨claiming, takes, fits, answering, ends⟩ := hands
  exact .answered (List.Subset.trans claiming among) takes fits (List.Subset.trans answering among) ends

def written? : Exchange interface → Option Pod
  | ⟨.cluster (.patchPod ..), .ok pod⟩ => some pod
  | _ => none

-- The pod is as it was claimed, and the container is one of its own.
theorem HandsOut.told (hands : HandsOut config ids exchanges pod container response) :
    (∃ exchange ∈ exchanges, written? exchange = some pod) ∧ container ∈ pod.containers := by
  obtain ⟨among, ⟨before, -, -⟩, fits, -, -⟩ := hands
  refine ⟨⟨_, among (List.mem_append_right _ (List.mem_cons_of_mem _ List.mem_cons_self)), rfl⟩, ?_⟩
  exact List.mem_of_getElem? (wants_of_demand fits).container

theorem HandsOut.keepsState (hands : HandsOut config ids exchanges pod container response)
    (mode : config.mode = .hamiCore) (fresh : ∀ id, ⟨.freshId, id⟩ ∈ exchanges → IsIdentifier id)
    (uidIs : pod.metadata.uid = some uid) (named : NamesContainer uid container.name) :
    ∃ id, ⟨.freshId, id⟩ ∈ exchanges ∧ KeepsStateIn config response uid container.name (stateFile id) := by
  obtain ⟨-, -, -, among, answers⟩ := hands
  obtain ⟨path, -, error, -, failed⟩ | ⟨id, given, same⟩ := containerResponse_ends mode answers
  · cases failed
  cases same
  exact ⟨id, among given, keepsStateIn_shareMounts (fresh id (among given)) uidIs named⟩

theorem settle_answers {claim : Claim} {demand : Demand} {resolved : List String}
    (ends : (claim.settle config demand resolved).run.Ends exchanges (.ok response)) :
    ∃ answering, answering ⊆ exchanges ∧ (containerResponse config claim.pod demand.container demand.request
      resolved).run.Ends answering (.ok response) := by
  obtain ⟨e, ⟨⟩, -⟩ | ⟨-, erasing, rest, rfl, -, ends⟩ := Attempt.ends_bind.1 ends
  obtain ⟨e, ⟨⟩, -⟩ | ⟨answered, answering, rest, rfl, answers, ends⟩ := Attempt.ends_bind.1 ends
  obtain ⟨e, ⟨⟩, -⟩ | ⟨-, finishing, rest, rfl, -, -, same⟩ := Attempt.ends_bind.1 ends
  obtain rfl := Except.ok.inj same
  exact ⟨answering, by simp, answers⟩

theorem consume_answers {claim : Claim} {remembered now : Option Mig.Partition}
    (ends : (claim.consume config remembered ids).Ends exchanges (.ok response, now)) :
    ∃ demand resolved answering, claim.demand ids = .ok demand ∧ answering ⊆ exchanges ∧
      (containerResponse config claim.pod demand.container demand.request resolved).run.Ends answering
        (.ok response) := by
  unfold Claim.consume at ends
  split at ends
  · cases ends.2
  · next demand fits =>
    obtain ⟨⟨resolved, later⟩, resolving, rest, rfl, -, ends⟩ := Program.ends_bind.1 ends
    cases resolved with
    | error e => cases ends.2
    | ok resolved =>
      obtain ⟨outcome, settling, rest, rfl, settles, -, same⟩ := Program.ends_bind.1 ends
      cases same
      obtain ⟨answering, among, answers⟩ := settle_answers settles
      exact ⟨demand, resolved, answering, fits, fun exchange member => by simp [among member], answers⟩

theorem serveQueue_answers {remembered now : Option Mig.Partition}
    (ends : (serveQueue config remembered ids).Ends exchanges (.ok response, now)) :
    ∃ pod container, HandsOut config ids exchanges pod container response := by
  obtain ⟨claimed, claiming, rest, rfl, begins, ends⟩ := Program.ends_bind.1 ends
  obtain ⟨⟨e, rfl⟩, -⟩ | ⟨claim, rfl, takes⟩ := claimIn_ends begins
  · cases ends.2
  obtain ⟨⟨outcome, later⟩, consuming, rest, rfl, consumes, ends⟩ := Program.ends_bind.1 ends
  cases outcome with
  | error e =>
    obtain ⟨-, abandoning, rest, rfl, -, -, same⟩ := Program.ends_bind.1 ends
    cases same
  | ok answered =>
    cases ends.2
    obtain ⟨demand, resolved, answering, fits, among, answers⟩ := consume_answers consumes
    exact ⟨_, _, .answered (List.subset_append_left _ _) takes fits
      (fun exchange member => by simp [among member]) answers⟩

-- A call for shares that succeeds answers for the one container that it serves.
theorem handsOut_of_allocate {remembered now : Option Mig.Partition} {resource : Resource}
    {request : AllocateRequest} {answer : AllocateResponse} (uses : UsesQueue resource request ids)
    (ends : (allocate config remembered resource request).Ends exchanges (.ok answer, now)) :
    ∃ pod container response, answer = ⟨[response]⟩ ∧
      HandsOut config ids exchanges pod container response := by
  obtain ⟨others, served, also, serves, same⟩ | ⟨unused, -⟩ := allocate_ends ends
  · obtain rfl := uses.unique also
    cases served with
    | error e => cases same
    | ok response =>
      obtain ⟨cause, ⟨⟩, -⟩ | ⟨taking, serving, releasing, stamp, freed, rfl, -, queued, -⟩ :=
        serveLocked_ends serves
      obtain ⟨pod, container, hands⟩ := serveQueue_answers queued
      exact ⟨pod, container, response, Except.ok.inj same,
        hands.mono (List.subset_append_of_subset_right _ (List.subset_append_left _ _))⟩
  · exact absurd uses (unused ids)

end Answers

end GpuShare.Agent
