import GpuShare.Proofs.Feedback.Places
import GpuShare.Proofs.Feedback.Regions
import GpuShare.Proofs.Agent.ListerUpdate

/-!
A tick over mapped regions. It is preceded by a check of all headers; a tick keeps the headers, so none of the
regions is skipped, and what it writes are the signals of the mapped regions and nothing else.
-/

set_option autoImplicit false

namespace GpuShare

open Feedback

namespace Feedback

variable {region : Region}

theorem age_isOk (valid : region.HasValidHeader) : (age region).1.isOk = true := by
  have observed := isObserved_region region
  rw [decide_eq_true valid] at observed
  exact observed

theorem settle_isOk (valid : region.HasValidHeader) (activity : Activity) (observation : Observation) :
    (settle activity (.ok observation) region).1.isOk = true := by
  rw [(Faithful.mirrors_settle activity (.ok observation) region valid).1, settle, applySignals,
    access_bind, applyBlock_plain]
  dsimp only
  rw [access_bind, applyContention_plain]
  rfl

end Feedback

namespace Disk

variable {disk : Disk} {content other : Nat} {bytes : ByteArray}

theorem bytes_setBytes_self (inside : content < disk.contents.size) (bytes : ByteArray) :
    (disk.setBytes content bytes).bytes content = bytes := by
  simp [Disk.bytes, setBytes, inside]

theorem bytes_setBytes_of_ne (differ : content ≠ other) (bytes : ByteArray) :
    (disk.setBytes content bytes).bytes other = disk.bytes other := by
  simp [Disk.bytes, setBytes, differ]

theorem size_setBytes (disk : Disk) (content : Nat) (bytes : ByteArray) :
    (disk.setBytes content bytes).contents.size = disk.contents.size := by
  simp [setBytes]

end Disk

namespace Agent

variable {disk before after : Disk} {content : Nat} {mapped : Mapped}

theorem IsSound.inside (sound : IsSound disk content) : content < disk.contents.size := by
  by_contra outside
  have none : disk.bytes content = .empty := by
    simp [Disk.bytes, Array.getElem?_eq_none (Nat.le_of_not_lt outside)]
  have fits := sound.1
  rw [none] at fits
  exact absurd fits (by decide)

/-- Nothing is written but the signals of some contents, which stay sound regions. -/
structure WritesSignals (contents : List Nat) (before after : Disk) : Prop where
  entries : after.entries = before.entries
  size : after.contents.size = before.contents.size
  others : ∀ content ∉ contents, after.bytes content = before.bytes content
  sound : ∀ content ∈ contents, IsSound after content
  regions : ∀ content ∈ contents,
    (Region.view (before.bytes content)).SameBesidesSignals (Region.view (after.bytes content))

namespace WritesSignals

variable {written : List Nat}

theorem refl (sound : ∀ content ∈ written, IsSound disk content) : WritesSignals written disk disk :=
  ⟨rfl, rfl, fun _ _ => rfl, sound, fun _ _ => .refl _⟩

theorem access {α : Type} {access : Access Region α} (writes : WritesSignals written before after)
    (keeps : Keeps access) (member : content ∈ written) :
    WritesSignals written before ((contentPlace content).access access after).2 := by
  have sound := writes.sound content member
  have same := keeps (Region.view (after.bytes content))
  show WritesSignals written before
    (after.setBytes content (access (Region.view (after.bytes content))).2.bytes)
  generalize (access (Region.view (after.bytes content))).2 = region at same
  have here : Region.view ((after.setBytes content region.bytes).bytes content) = region := by
    rw [Disk.bytes_setBytes_self sound.inside, Region.view_of_fits region.fits]
  refine ⟨writes.entries, ?_, fun other outside => ?_, fun other inside => ?_, fun other inside => ?_⟩
  · rw [Disk.size_setBytes, writes.size]
  · have differ : content ≠ other := fun equal => outside (equal ▸ member)
    rw [Disk.bytes_setBytes_of_ne differ, writes.others other outside]
  · by_cases equal : content = other
    · subst equal
      refine ⟨?_, ?_⟩
      · rw [Disk.bytes_setBytes_self sound.inside]
        exact region.fits
      · rw [here, ← same.hasValidHeader]
        exact sound.2
    · rw [IsSound, Disk.bytes_setBytes_of_ne equal]
      exact writes.sound other inside
  · by_cases equal : content = other
    · subst equal
      rw [here]
      exact (writes.regions content inside).trans same
    · rw [Disk.bytes_setBytes_of_ne equal]
      exact writes.regions other inside

end WritesSignals

def Mapped.contents (mapped : Mapped) : List Nat := mapped.map (·.2)

def Mapped.places (mapped : Mapped) : List (Place Disk Region) :=
  mapped.map fun entry => contentPlace entry.2

def Mapped.regions (mapped : Mapped) (disk : Disk) : List Region :=
  mapped.map fun entry => Region.view (disk.bytes entry.2)

theorem access_contentPlace {α : Type} (content : Nat) (access : Access Region α) (disk : Disk) :
    ((contentPlace content).access access disk).1 = (access (Region.view (disk.bytes content))).1 := rfl

theorem tickIn_writesSignals (sound : ∀ content ∈ mapped.contents, IsSound disk content) :
    WritesSignals mapped.contents disk (tickIn mapped.places disk).2 ∧
      (tickIn mapped.places disk).1.skipped = 0 ∧
      (tickIn mapped.places disk).1.observed = mapped.length := by
  have length : mapped.places.length = mapped.length := List.length_map _
  rw [← length]
  refine tickIn_keeps ?_ ?_ (WritesSignals.refl sound)
  · intro place member memory writes
    obtain ⟨entry, held, rfl⟩ := List.mem_map.1 member
    have inside : entry.2 ∈ mapped.contents := List.mem_map_of_mem held
    refine ⟨writes.access .age inside, ?_⟩
    rw [access_contentPlace]
    exact age_isOk (writes.sound _ inside).2
  · intro place member activity observation memory writes
    obtain ⟨entry, held, rfl⟩ := List.mem_map.1 member
    have inside : entry.2 ∈ mapped.contents := List.mem_map_of_mem held
    refine ⟨writes.access (.settle activity _) inside, ?_⟩
    rw [access_contentPlace]
    exact settle_isOk (writes.sound _ inside).2 activity observation

-- Files are told apart by their contents.
theorem areApart_places (nodup : mapped.contents.Nodup) :
    AreApart (fun memory => ∀ content ∈ mapped.contents, content < memory.contents.size)
      mapped.places := by
  refine ⟨?_, ?_, ?_⟩
  · intro place member memory region inside
    obtain ⟨entry, -, rfl⟩ := List.mem_map.1 member
    show ∀ content ∈ mapped.contents, content < (memory.setBytes entry.2 region.bytes).contents.size
    rwa [Disk.size_setBytes]
  · intro place member memory region inside
    obtain ⟨entry, held, rfl⟩ := List.mem_map.1 member
    show Region.view ((memory.setBytes entry.2 region.bytes).bytes entry.2) = region
    rw [Disk.bytes_setBytes_self (inside entry.2 (List.mem_map_of_mem held)),
      Region.view_of_fits region.fits]
  · have apart {first second : Nat} (differ : first ≠ second)
        (Good : Disk → Prop) : (contentPlace first).IsApart Good [contentPlace second] := by
      intro place member memory region _
      obtain rfl := List.mem_singleton.1 member
      show Region.view ((memory.setBytes second region.bytes).bytes first) = _
      rw [Disk.bytes_setBytes_of_ne differ.symm]
      rfl
    refine List.pairwise_map.2 ((List.pairwise_map.1 nodup).imp fun differ => ?_)
    exact ⟨apart differ _, apart (Ne.symm differ) _⟩

theorem tickIn_regions (nodup : mapped.contents.Nodup)
    (sound : ∀ content ∈ mapped.contents, IsSound disk content) :
    ((tickIn mapped.places disk).1, mapped.regions (tickIn mapped.places disk).2) =
      tick (mapped.regions disk) := by
  have ticked := tickIn_eq_tick (areApart_places nodup) fun content member => (sound content member).inside
  rw [Mapped.places, List.map_map, List.map_map] at ticked
  exact ticked

/-! ## The check -/

def isBroken (disk : Disk) (entry : Path × Nat) : Bool :=
  ¬ (Region.view (disk.bytes entry.2)).HasValidHeader

theorem firstViolation_of_valid (valid : (Region.view (disk.bytes content)).HasValidHeader) (path : Path)
    (mapped : Mapped) : firstViolation disk ((path, content) :: mapped) = firstViolation disk mapped := by
  rw [firstViolation, Region.validate_of_valid valid]

theorem firstViolation_of_sound (sound : mapped.find? (isBroken disk) = none) :
    firstViolation disk mapped = none := by
  induction mapped with
  | nil => rfl
  | cons entry mapped ih =>
    obtain ⟨path, content⟩ := entry
    rw [List.find?_eq_none] at sound
    obtain ⟨here, later⟩ := List.forall_mem_cons.1 sound
    have valid : (Region.view (disk.bytes content)).HasValidHeader := by simpa [isBroken] using here
    rw [firstViolation_of_valid valid]
    exact ih (List.find?_eq_none.2 later)

theorem firstViolation_of_some {entry : Path × Nat} (first : mapped.find? (isBroken disk) = some entry) :
    ∃ reason, (Region.view (disk.bytes entry.2)).validate = .error (.layoutViolation reason) ∧
      firstViolation disk mapped = some (entry.1.text, reason) := by
  induction mapped with
  | nil => cases first
  | cons head mapped ih =>
    obtain ⟨path, content⟩ := head
    by_cases valid : (Region.view (disk.bytes content)).HasValidHeader
    · have sound : ¬ isBroken disk (path, content) = true := by simpa [isBroken] using valid
      rw [List.find?_cons_of_neg sound] at first
      rw [firstViolation_of_valid valid]
      exact ih first
    · have broken : isBroken disk (path, content) = true := by simpa [isBroken] using valid
      rw [List.find?_cons_of_pos broken] at first
      obtain rfl := Option.some.inj first
      obtain ⟨reason, refused⟩ := Region.validate_of_not_valid valid
      refine ⟨reason, refused, ?_⟩
      rw [firstViolation, refused]

end Agent

end GpuShare
