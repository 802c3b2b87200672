import GpuShare.Device.Probe
import GpuShare.Proofs.Device.Blocks
import GpuShare.Proofs.Text.Markers
import GpuShare.Proofs.Text.Numeral
import GpuShare.Proofs.Text.Utf8

/-!
Reading a printed listing. GPUs and their instances are printed one to a line, with blanks around each field and each
line and with other lines between them. Fields are found by the markers around them, so a field must not look like a
marker that is searched for; then what was printed is read back, and an instance is found by the position it was
printed with.
-/

set_option autoImplicit false

namespace GpuShare.Device.Listing

open Text

variable {gpu : ListedGpu} {listed : ListedInstance} {line core field : List Char}

-- What holds of the characters of a text is decided along the text, not over all characters there are.
local instance decidableForallText (cs : List Char) (holds : Char → Prop) [DecidablePred holds] :
    Decidable (∀ c ∈ cs, holds c) :=
  List.decidableBAll holds cs

def IsPadding (cs : List Char) : Prop := ∀ c ∈ cs, isBlank c = true ∧ c ≠ '\n'

instance (cs : List Char) : Decidable (IsPadding cs) := inferInstanceAs (Decidable (∀ c ∈ cs, _))

def Pads (core field : List Char) : Prop :=
  ∃ front back, IsPadding front ∧ IsPadding back ∧ field = front ++ core ++ back

/-! ## How GPUs and instances are printed -/

def gpuLine (index name uuid : List Char) : List Char :=
  "GPU ".toList ++ (index ++ (": ".toList ++ (name ++ (" (UUID: ".toList ++ (uuid ++ ")".toList)))))

def instanceLine (profile position gap uuid : List Char) : List Char :=
  "MIG ".toList ++ (profile ++ (" Device ".toList ++ (position ++ (": ".toList ++
    (gap ++ ("(UUID: ".toList ++ (uuid ++ ")".toList)))))))

inductive PrintsGpu (gpu : ListedGpu) : List Char → Prop where
  | intro {index name uuid line : List Char} : Pads (digits gpu.index.toNat) index → Pads gpu.name.toList name →
      Pads gpu.uuid.toList uuid → Pads (gpuLine index name uuid) line → PrintsGpu gpu line

inductive PrintsInstance (listed : ListedInstance) : List Char → Prop where
  | intro {profile position gap uuid line : List Char} : Pads listed.profile.toList profile →
      Pads (digits listed.position.toNat) position → IsPadding gap → Pads listed.uuid.toList uuid →
      Pads (instanceLine profile position gap uuid) line → PrintsInstance listed line

structure IsNoise (line : List Char) : Prop where
  single : '\n' ∉ line
  noGpu : opensGpu line = false
  noInstance : opensInstance line = false

inductive PrintsInstances : List ListedInstance → List (List Char) → Prop where
  | nil : PrintsInstances [] []
  | noise {listed : List ListedInstance} {line : List Char} {lines : List (List Char)} : IsNoise line →
      PrintsInstances listed lines → PrintsInstances listed (line :: lines)
  | cons {first : ListedInstance} {listed : List ListedInstance} {line : List Char} {lines : List (List Char)} :
      PrintsInstance first line → PrintsInstances listed lines → PrintsInstances (first :: listed) (line :: lines)

structure PrintsBlock (gpu : ListedGpu) (block : Block) : Prop where
  head : PrintsGpu gpu block.head
  body : PrintsInstances gpu.instances block.body

inductive Prints (gpus : List ListedGpu) : List (List Char) → Prop where
  | intro {front : List (List Char)} {blocks : List Block} : (∀ line ∈ front, IsNoise line) →
      List.Forall₂ PrintsBlock gpus blocks →
      Prints gpus (front ++ blocks.flatMap fun block => block.head :: block.body)

structure IsUuidText (uuid : List Char) : Prop where
  unclosed : ')' ∉ uuid
  single : '\n' ∉ uuid
  trimmed : IsTrimmed uuid

structure IsNameText (name : List Char) : Prop where
  unmarked : ¬ "(UUID:".toList <:+: name
  single : '\n' ∉ name
  trimmed : IsTrimmed name

structure IsProfileText (profile : List Char) : Prop where
  some_char : profile ≠ []
  solid : ∀ c ∈ profile, isBlank c = false
  unmarked : ¬ "Device".toList <:+: profile

structure IsPrintableInstance (listed : ListedInstance) : Prop where
  profile : IsProfileText listed.profile.toList
  uuid : IsUuidText listed.uuid.toList

structure IsPrintableGpu (gpu : ListedGpu) : Prop where
  name : IsNameText gpu.name.toList
  uuid : IsUuidText gpu.uuid.toList
  instances : ∀ listed ∈ gpu.instances, IsPrintableInstance listed

/-- The profile cannot be taken for the marker of a UUID. -/
def IsUnmarked (listed : ListedInstance) : Prop := ¬ "(UUID:".toList <:+ listed.profile.toList

instance (listed : ListedInstance) : Decidable (IsUnmarked listed) := inferInstanceAs (Decidable (¬ _))

/-! ## Padded fields -/

section Padding

variable {c : Char} {cs front back more : List Char}

theorem IsPadding.blank (padding : IsPadding cs) : IsBlankText cs := fun c member => (padding c member).1

theorem Pads.refl (core : List Char) : Pads core core := ⟨[], [], nofun, nofun, (List.append_nil core).symm⟩

theorem Pads.trim (pads : Pads core field) (trimmed : IsTrimmed core) : Text.trim field = core := by
  obtain ⟨front, back, before, behind, rfl⟩ := pads
  exact trim_eq_iff.2 ⟨⟨front, back, before.blank, behind.blank, rfl⟩, trimmed⟩

theorem IsPadding.not_mem (padding : IsPadding cs) (other : isBlank c = true → c = '\n') : c ∉ cs := fun member =>
  (padding c member).2 (other (padding c member).1)

theorem Pads.not_mem (pads : Pads core field) (other : isBlank c = true → c = '\n') (absent : c ∉ core) :
    c ∉ field := by
  obtain ⟨front, back, before, behind, rfl⟩ := pads
  simp only [List.mem_append, not_or]
  exact ⟨⟨before.not_mem other, absent⟩, behind.not_mem other⟩

-- Padding adds no occurrence of a marker without blanks at its edges.
theorem Pads.lacks {marker : List Char} (pads : Pads core field) (some_marker : marker ≠ [])
    (trimmed : IsTrimmed marker) (blank : IsBlankText more) (absent : ¬ marker <:+: core) :
    ¬ marker <:+: field ++ more := by
  obtain ⟨front, back, before, behind, rfl⟩ := pads
  rw [List.append_assoc]
  intro occurs
  refine absent (infix_of_padded some_marker trimmed before.blank ?_ occurs)
  exact fun c member => (List.mem_append.1 member).elim (behind.blank c) (blank c)

theorem head_blank (blank : IsBlankText back) : ∀ c ∈ (back ++ ' ' :: more).head?, isBlank c = true := by
  cases back with
  | nil => exact fun c first => Option.some.inj first ▸ (by decide : isBlank ' ' = true)
  | cons d back => exact fun c first => Option.some.inj first ▸ blank d List.mem_cons_self

theorem Pads.readUInt32? {n : UInt32} (pads : Pads (digits n.toNat) field) :
    readUInt32? (Text.trim field) = some n := by
  rw [pads.trim (isTrimmed_digits _), readUInt32?_digits]

end Padding

/-! ## Reading one line -/

theorem field?_eq {opening closing : String} {front inner back : List Char} (opens : IsMarker opening.toList)
    (closes : IsMarker closing.toList) (absent : ¬ opening.toList <:+: front)
    (closeAbsent : ¬ closing.toList <:+: inner)
    (shape : line = front ++ (opening.toList ++ (inner ++ (closing.toList ++ back)))) :
    field? opening closing line = some (trim inner) := by
  rw [field?, shape, between?_append opens closes absent closeAbsent, Option.map_some]

theorem not_infix_of_not_mem {c : Char} {marker cs : List Char} (member : c ∈ marker) (absent : c ∉ cs) :
    ¬ marker <:+: cs := fun occurs => absent (occurs.subset member)

theorem isMarker_uuid : IsMarker "(UUID: ".toList := ⟨'(', _, rfl, by decide⟩

theorem isMarker_colon : IsMarker ":".toList := ⟨':', _, rfl, by decide⟩

theorem isMarker_closing : IsMarker ")".toList := ⟨')', _, rfl, by decide⟩

section Gpu

variable {index name uuid : List Char} (padsIndex : Pads (digits gpu.index.toNat) index)
  (padsName : Pads gpu.name.toList name) (padsUuid : Pads gpu.uuid.toList uuid)
include padsIndex padsName padsUuid

theorem readGpu?_gpuLine (printable : IsPrintableGpu gpu) :
    readGpu? (gpuLine index name uuid) = some { gpu with instances := [] } := by
  have colon : ':' ∉ index := padsIndex.not_mem (by decide) (not_mem_digits (by decide) _)
  have bracket : '(' ∉ "GPU ".toList ++ (index ++ ": ".toList) := by
    have absent : '(' ∉ index := padsIndex.not_mem (by decide) (not_mem_digits (by decide) _)
    simp only [List.mem_append, not_or]
    exact ⟨by decide, absent, by decide⟩
  have unmarked : ¬ "(UUID:".toList <:+: name ++ " ".toList :=
    padsName.lacks (by decide) (by decide) (by decide) printable.name.unmarked
  have readsIndex : field? "GPU " ":" (gpuLine index name uuid) = some (trim index) := by
    have absent : ¬ "GPU ".toList <:+: [] := by decide
    have closeAbsent : ¬ ":".toList <:+: index := not_infix_of_not_mem List.mem_cons_self colon
    exact field?_eq ⟨'G', _, rfl, by decide⟩ isMarker_colon absent closeAbsent rfl
  have readsName : field? ": " " (UUID:" (gpuLine index name uuid) = some (trim name) := by
    have absent : ¬ ": ".toList <:+: "GPU ".toList ++ index := by
      refine not_infix_of_not_mem List.mem_cons_self fun member => ?_
      exact (List.mem_append.1 member).elim (by decide) colon
    have closeAbsent : ¬ " (UUID:".toList <:+: name := fun occurs => by
      have within : "(UUID:".toList <:+: " (UUID:".toList := by decide
      exact unmarked (within.trans (occurs.trans (List.prefix_append _ _).isInfix))
    exact field?_eq ⟨':', _, rfl, by decide⟩ ⟨' ', _, rfl, by decide⟩ absent closeAbsent
      (List.append_assoc _ _ _).symm
  have readsUuid : field? "(UUID: " ")" (gpuLine index name uuid) = some (trim uuid) := by
    have absent : ¬ "(UUID: ".toList <:+: "GPU ".toList ++ (index ++ ": ".toList) ++ (name ++ " ".toList) := by
      intro occurs
      have within : "(UUID:".toList <:+: "(UUID: ".toList := by decide
      exact unmarked (infix_of_head_not_mem bracket (within.trans occurs))
    have closeAbsent : ¬ ")".toList <:+: uuid :=
      not_infix_of_not_mem List.mem_cons_self (padsUuid.not_mem (by decide) printable.uuid.unclosed)
    have shape : gpuLine index name uuid = "GPU ".toList ++ (index ++ ": ".toList) ++ (name ++ " ".toList) ++
        ("(UUID: ".toList ++ (uuid ++ (")".toList ++ []))) := by
      simp only [gpuLine, List.append_assoc, List.append_nil]
      rfl
    exact field?_eq isMarker_uuid isMarker_closing absent closeAbsent shape
  rw [readGpu?, readsIndex, readsName, readsUuid, Option.bind_some, padsIndex.readUInt32?,
    padsName.trim printable.name.trimmed, padsUuid.trim printable.uuid.trimmed]
  simp

end Gpu

section Instance

variable {profile position gap uuid : List Char}

theorem words_instanceLine (padsProfile : Pads listed.profile.toList profile)
    (printable : IsProfileText listed.profile.toList) :
    (words (instanceLine profile position gap uuid))[1]? = some listed.profile.toList := by
  obtain ⟨front, back, before, behind, rfl⟩ := padsProfile
  have shape : instanceLine (front ++ listed.profile.toList ++ back) position gap uuid =
      "MIG".toList ++ ((' ' :: front) ++ (listed.profile.toList ++ (back ++ (' ' :: ("Device ".toList ++
        (position ++ (": ".toList ++ (gap ++ ("(UUID: ".toList ++ (uuid ++ ")".toList)))))))))) := by
    simp only [instanceLine, List.append_assoc]
    rfl
  have first (rest : List Char) : words ("MIG".toList ++ ' ' :: rest) = "MIG".toList :: words rest := by
    have starts : ∀ c ∈ (' ' :: rest).head?, isBlank c = true := head_blank (nofun : IsBlankText [])
    rw [words_append (by decide) (by decide) starts, words_cons_of_blank (by decide)]
  rw [shape, List.cons_append, first, words_blanks_append before.blank,
    words_append printable.some_char printable.solid (head_blank behind.blank)]
  rfl

variable (padsProfile : Pads listed.profile.toList profile)
  (padsPosition : Pads (digits listed.position.toNat) position)
include padsProfile padsPosition

theorem position_instanceLine (printable : IsProfileText listed.profile.toList) :
    field? "Device" ":" (instanceLine profile position gap uuid) = some (trim position) := by
  have absent : ¬ "Device".toList <:+: "MIG ".toList ++ (profile ++ " ".toList) := fun occurs =>
    padsProfile.lacks (by decide) (by decide) (by decide) printable.unmarked
      (infix_of_head_not_mem (by decide) occurs)
  have closeAbsent : ¬ ":".toList <:+: " ".toList ++ position := by
    refine not_infix_of_not_mem List.mem_cons_self fun member => ?_
    have colon : ':' ∉ position := padsPosition.not_mem (by decide) (not_mem_digits (by decide) _)
    exact (List.mem_append.1 member).elim (by decide) colon
  have shape : instanceLine profile position gap uuid = "MIG ".toList ++ (profile ++ " ".toList) ++
      ("Device".toList ++ (" ".toList ++ position ++ (":".toList ++ (" ".toList ++
        (gap ++ ("(UUID: ".toList ++ (uuid ++ ")".toList))))))) := by
    simp only [instanceLine, List.append_assoc]
    rfl
  rw [field?_eq ⟨'D', _, rfl, by decide⟩ isMarker_colon absent closeAbsent shape, trim_append_left (by decide)]

-- The marker of the UUID has a blank at its end, so it could only begin in the profile by ending behind it.
theorem uuid_instanceLine (padding : IsPadding gap) (padsUuid : Pads listed.uuid.toList uuid)
    (printable : IsPrintableInstance listed) (unmarked : IsUnmarked listed) :
    field? "(UUID: " ")" (instanceLine profile position gap uuid) = some (trim uuid) := by
  obtain ⟨front, back, before, behind, rfl⟩ := padsProfile
  have absent : ¬ "(UUID: ".toList <:+: ("MIG ".toList ++ front) ++ (listed.profile.toList ++
      (back ++ (" Device ".toList ++ (position ++ (": ".toList ++ gap))))) := by
    intro occurs
    have outside : '(' ∉ "MIG ".toList ++ front := fun member =>
      (List.mem_append.1 member).elim (by decide) (before.not_mem (by decide))
    have behindIt : '(' ∉ back ++ (" Device ".toList ++ (position ++ (": ".toList ++ gap))) := by
      have absent : '(' ∉ position := padsPosition.not_mem (by decide) (not_mem_digits (by decide) _)
      simp only [List.mem_append, not_or]
      exact ⟨behind.not_mem (by decide), by decide, absent, by decide, padding.not_mem (by decide)⟩
    exact unmarked (suffix_of_infix_word (c := ' ') printable.profile.solid (by decide) (by decide)
      (head_blank behind.blank) behindIt (infix_of_head_not_mem outside occurs))
  have closeAbsent : ¬ ")".toList <:+: uuid :=
    not_infix_of_not_mem List.mem_cons_self (padsUuid.not_mem (by decide) printable.uuid.unclosed)
  have shape : instanceLine (front ++ listed.profile.toList ++ back) position gap uuid =
      ("MIG ".toList ++ front) ++ (listed.profile.toList ++ (back ++ (" Device ".toList ++ (position ++
        (": ".toList ++ gap))))) ++ ("(UUID: ".toList ++ (uuid ++ (")".toList ++ []))) := by
    simp only [instanceLine, List.append_assoc, List.append_nil]
  exact field?_eq isMarker_uuid isMarker_closing absent closeAbsent shape

theorem readInstance?_instanceLine (padding : IsPadding gap) (padsUuid : Pads listed.uuid.toList uuid)
    (printable : IsPrintableInstance listed) (unmarked : IsUnmarked listed) :
    readInstance? (instanceLine profile position gap uuid) = some listed := by
  rw [readInstance?, words_instanceLine padsProfile printable.profile,
    position_instanceLine padsProfile padsPosition printable.profile,
    uuid_instanceLine padsProfile padsPosition padding padsUuid printable unmarked, Option.bind_some,
    padsPosition.readUInt32?, padsUuid.trim printable.uuid.trimmed]
  simp

end Instance

/-! ## Reading lines -/

section Lines

variable {gpus : List ListedGpu} {lines : List (List Char)} {block : Block}

theorem isTrimmed_gpuLine (index name uuid : List Char) : IsTrimmed (gpuLine index name uuid) := by
  refine ⟨fun c first => Option.some.inj first ▸ (by decide : isBlank 'G' = false), fun c last => ?_⟩
  simp only [gpuLine, ← List.append_assoc] at last
  rw [List.getLast?_append] at last
  exact Option.some.inj last ▸ (by decide : isBlank ')' = false)

theorem isTrimmed_instanceLine (profile position gap uuid : List Char) :
    IsTrimmed (instanceLine profile position gap uuid) := by
  refine ⟨fun c first => Option.some.inj first ▸ (by decide : isBlank 'M' = false), fun c last => ?_⟩
  simp only [instanceLine, ← List.append_assoc] at last
  rw [List.getLast?_append] at last
  exact Option.some.inj last ▸ (by decide : isBlank ')' = false)

theorem gpuOf?_of_prints (prints : PrintsGpu gpu line) (printable : IsPrintableGpu gpu) :
    gpuOf? line = some { gpu with instances := [] } := by
  obtain ⟨index, name, uuid, pads⟩ := prints
  have trims := pads.trim (isTrimmed_gpuLine _ _ _)
  have opens : opensGpu line = true := by
    rw [opensGpu, trims]
    exact isSome_stripStart?.2 (List.prefix_append _ _)
  rw [gpuOf?, if_pos opens, trims, readGpu?_gpuLine index name uuid printable]

theorem instanceOf?_of_prints (prints : PrintsInstance listed line) (printable : IsPrintableInstance listed)
    (unmarked : IsUnmarked listed) : opensInstance line = true ∧ instanceOf? line = some listed := by
  obtain ⟨profile, position, gap, uuid, pads⟩ := prints
  have trims := pads.trim (isTrimmed_instanceLine _ _ _ _)
  have opens : opensInstance line = true := by
    rw [opensInstance, trims]
    exact isSome_stripStart?.2 (List.prefix_append _ _)
  refine ⟨opens, ?_⟩
  rw [instanceOf?, if_pos opens, trims, readInstance?_instanceLine profile position gap uuid printable unmarked]

theorem showsGpu_of_opensInstance (opens : opensInstance line = true) : showsGpu line = false := by
  have other : opensGpu line = false := Bool.eq_false_iff.2 fun also => by
    simp [opensInstance_of_opensGpu also] at opens
  rw [showsGpu, gpuOf?, other]
  rfl

theorem IsNoise.showsGpu (noise : IsNoise line) : showsGpu line = false := by
  rw [Listing.showsGpu, gpuOf?, noise.noGpu]
  rfl

theorem instancesIn_of_prints {printed : List ListedInstance} (prints : PrintsInstances printed lines)
    (printable : ∀ listed ∈ printed, IsPrintableInstance listed) (unmarked : ∀ listed ∈ printed, IsUnmarked listed) :
    instancesIn lines = printed ∧ ∀ line ∈ lines, showsGpu line = false := by
  induction prints with
  | nil => exact ⟨rfl, nofun⟩
  | noise noise prints ih =>
    obtain ⟨same, plain⟩ := ih printable unmarked
    have nothing : instanceOf? _ = none := if_neg (Bool.eq_false_iff.1 noise.noInstance)
    exact ⟨by rw [instancesIn, List.filterMap_cons_none nothing]; exact same,
      List.forall_mem_cons.2 ⟨noise.showsGpu, plain⟩⟩
  | cons first prints ih =>
    obtain ⟨printableFirst, printable⟩ := List.forall_mem_cons.1 printable
    obtain ⟨unmarkedFirst, unmarked⟩ := List.forall_mem_cons.1 unmarked
    obtain ⟨same, plain⟩ := ih printable unmarked
    obtain ⟨opens, reads⟩ := instanceOf?_of_prints first printableFirst unmarkedFirst
    exact ⟨by rw [instancesIn, List.filterMap_cons_some reads]; exact congrArg _ same,
      List.forall_mem_cons.2 ⟨showsGpu_of_opensInstance opens, plain⟩⟩

theorem gpu?_of_prints (prints : PrintsBlock gpu block) (printable : IsPrintableGpu gpu)
    (unmarked : ∀ listed ∈ gpu.instances, IsUnmarked listed) : block.gpu? = some gpu ∧
      showsGpu block.head = true ∧ ∀ line ∈ block.body, showsGpu line = false := by
  have head := gpuOf?_of_prints prints.head printable
  obtain ⟨body, plain⟩ := instancesIn_of_prints prints.body printable.instances unmarked
  refine ⟨?_, ?_, plain⟩
  · rw [Block.gpu?, head, body]
    rfl
  · rw [showsGpu, head]
    rfl

theorem areBlocks_of_prints {front : List (List Char)} {blocks : List Block} (noise : ∀ line ∈ front, IsNoise line)
    (prints : List.Forall₂ PrintsBlock gpus blocks) (printable : ∀ gpu ∈ gpus, IsPrintableGpu gpu)
    (unmarked : ∀ gpu ∈ gpus, ∀ listed ∈ gpu.instances, IsUnmarked listed) :
    AreBlocks showsGpu (front ++ blocks.flatMap fun block => block.head :: block.body) front blocks ∧
      blocks.filterMap Block.gpu? = gpus := by
  suffices each : (∀ block ∈ blocks, showsGpu block.head = true ∧ ∀ line ∈ block.body, showsGpu line = false) ∧
      blocks.filterMap Block.gpu? = gpus from
    ⟨⟨rfl, fun line member => (noise line member).showsGpu, fun block member => (each.1 block member).1,
      fun block member => (each.1 block member).2⟩, each.2⟩
  induction prints with
  | nil => exact ⟨nofun, rfl⟩
  | cons first prints ih =>
    obtain ⟨printableFirst, printable⟩ := List.forall_mem_cons.1 printable
    obtain ⟨unmarkedFirst, unmarked⟩ := List.forall_mem_cons.1 unmarked
    obtain ⟨plain, same⟩ := ih printable unmarked
    obtain ⟨reads, shape⟩ := gpu?_of_prints first printableFirst unmarkedFirst
    exact ⟨List.forall_mem_cons.2 ⟨shape, plain⟩, by rw [List.filterMap_cons_some reads, same]⟩

/-! ## Printed lines are single lines -/

theorem PrintsGpu.single (prints : PrintsGpu gpu line) (printable : IsPrintableGpu gpu) : '\n' ∉ line := by
  obtain ⟨index, name, uuid, pads⟩ := prints
  have index := index.not_mem (fun _ => rfl) (not_mem_digits (by decide) _)
  have name := name.not_mem (fun _ => rfl) printable.name.single
  have uuid := uuid.not_mem (fun _ => rfl) printable.uuid.single
  refine pads.not_mem (fun _ => rfl) ?_
  simp only [gpuLine, List.mem_append, not_or]
  exact ⟨by decide, index, by decide, name, by decide, uuid, by decide⟩

theorem PrintsInstance.single (prints : PrintsInstance listed line) (printable : IsPrintableInstance listed) :
    '\n' ∉ line := by
  obtain ⟨profile, position, gap, uuid, pads⟩ := prints
  have solid : '\n' ∉ listed.profile.toList := fun member =>
    absurd (printable.profile.solid _ member) (by decide)
  have profile := profile.not_mem (fun _ => rfl) solid
  have position := position.not_mem (fun _ => rfl) (not_mem_digits (by decide) _)
  have gap := gap.not_mem (c := '\n') (fun _ => rfl)
  have uuid := uuid.not_mem (fun _ => rfl) printable.uuid.single
  refine pads.not_mem (fun _ => rfl) ?_
  simp only [instanceLine, List.mem_append, not_or]
  exact ⟨by decide, profile, by decide, position, by decide, gap, by decide, uuid, by decide⟩

theorem PrintsInstances.single {printed : List ListedInstance} (prints : PrintsInstances printed lines)
    (printable : ∀ listed ∈ printed, IsPrintableInstance listed) : ∀ line ∈ lines, '\n' ∉ line := by
  induction prints with
  | nil => exact nofun
  | noise noise prints ih => exact List.forall_mem_cons.2 ⟨noise.single, ih printable⟩
  | cons first prints ih =>
    obtain ⟨printableFirst, printable⟩ := List.forall_mem_cons.1 printable
    exact List.forall_mem_cons.2 ⟨first.single printableFirst, ih printable⟩

theorem Prints.single (prints : Prints gpus lines) (printable : ∀ gpu ∈ gpus, IsPrintableGpu gpu) :
    ∀ line ∈ lines, '\n' ∉ line := by
  cases prints with
  | intro noise printed =>
    refine List.forall_mem_append.2 ⟨fun line member => (noise line member).single, ?_⟩
    clear noise
    induction printed with
    | nil => exact nofun
    | cons first printed ih =>
      obtain ⟨printableFirst, printable⟩ := List.forall_mem_cons.1 printable
      rw [List.flatMap_cons]
      refine List.forall_mem_append.2 ⟨List.forall_mem_cons.2 ⟨first.head.single printableFirst, ?_⟩, ih printable⟩
      exact first.body.single printableFirst.instances

theorem readLine_trim (gpus : List ListedGpu) (line : List Char) : readLine gpus (trim line) = readLine gpus line := by
  rw [readLine, trim_of_trimmed (trim_eq_iff.1 rfl).trimmed, readLine]

theorem foldl_readLine_map_trim (lines : List (List Char)) (gpus : List ListedGpu) :
    (lines.map trim).foldl readLine gpus = lines.foldl readLine gpus := by
  rw [List.foldl_map]
  simp only [readLine_trim]

-- A line without characters shows nothing.
theorem foldl_readLine_of_empty (empty : ∀ line ∈ lines, line = []) (gpus : List ListedGpu) :
    lines.foldl readLine gpus = gpus := by
  induction lines with
  | nil => rfl
  | cons line lines ih =>
    obtain ⟨rfl, others⟩ := List.forall_mem_cons.1 empty
    exact ih others

theorem read_joinWith (single : ∀ line ∈ lines, '\n' ∉ line) :
    read (String.ofList (joinWith '\n' lines)) = lines.foldl readLine [] := by
  obtain ⟨rest, same, empty⟩ := map_trim_lines (joinWith '\n' lines)
  have pieces : read (String.ofList (joinWith '\n' lines)) =
      (splitOn '\n' (joinWith '\n' lines)).foldl readLine [] := by
    rw [← foldl_readLine_map_trim, same, List.foldl_append, foldl_readLine_of_empty empty, foldl_readLine_map_trim,
      read, String.toList_ofList]
  rw [pieces]
  cases lines with
  | nil => rfl
  | cons line lines => rw [splitOn_joinWith (List.cons_ne_nil line lines) single]

end Lines

/-! ## Looking up what was printed -/

/-- The instances with a position below the GPUs with an index, in the order they are printed. -/
def instancesBelow (gpus : List ListedGpu) (index position : UInt32) : List ListedInstance :=
  (gpus.filter (·.index == index)).flatMap (·.instances.filter (·.position == position))

theorem uuids_instances (gpus : List ListedGpu) (index position : UInt32) :
    ((instances gpus).filter fun mig => mig.parentIndex == index && mig.position == position).map (·.uuid) =
      (instancesBelow gpus index position).map (·.uuid) := by
  unfold instancesBelow
  induction gpus with
  | nil => rfl
  | cons gpu gpus ih =>
    have cons : instances (gpu :: gpus) = gpu.instances.map
        (fun mig => ⟨gpu.index, gpu.uuid, mig.position, mig.uuid, mig.profile⟩) ++ instances gpus := rfl
    rw [cons, List.filter_append, List.map_append, ih, List.filter_map, List.map_map]
    cases same : gpu.index == index with
    | true => simp [same, Function.comp_def]
    | false => simp [same, Function.comp_def]

theorem instanceAt_instances (gpus : List ListedGpu) (index position : UInt32) :
    instanceAt (instances gpus) index position = (instancesBelow gpus index position).head?.map (·.uuid) := by
  rw [instanceAt, ← List.head?_filter, ← List.head?_map, uuids_instances, List.head?_map]

def foundBy : Option Tool.Output → Except InventoryError (List MigInstance)
  | none => .error (.command (Tool.commandLine listingProgram ["-L"]) none)
  | some output =>
    if output.exitCode = 0 then .ok (instances (read (utf8Lossy output.stdout)))
    else .error (.command (Tool.commandLine listingProgram ["-L"]) (some (utf8Lossy output.stderr)))

theorem run_probeInstances : ExceptT.run probeInstances =
    .ask (I := Tool.interface) (.run listingProgram ["-L"]) fun answer => .done (foundBy answer) := by
  refine congrArg (Program.ask (I := Tool.interface) (.run listingProgram ["-L"])) (funext fun answer => ?_)
  cases answer with
  | none => rfl
  | some output =>
    obtain ⟨exitCode, stdout, stderr⟩ := output
    cases exitCode with
    | zero => rfl
    | succ code => rfl

theorem probeInstances_listing {workshop : Tool.Workshop} {text : String} {stderr : List UInt8}
    (prints : workshop.output ["-L"] = some ⟨0, utf8Bytes text, stderr⟩) :
    (workshop.run probeInstances).1 = .ok (instances (read text)) := by
  rw [Tool.Workshop.run, run_probeInstances]
  simp only [Program.run, Tool.Workshop.serve, prints, foundBy, if_true, utf8Lossy_utf8Bytes]

/-- A listing is read as it was printed, so that the instance found at a position of a GPU is the first that was
printed with it. -/
theorem read_inverts_prints {gpus : List ListedGpu} {lines : List (List Char)} (prints : Prints gpus lines)
    (printable : ∀ gpu ∈ gpus, IsPrintableGpu gpu)
    (unmarked : ∀ gpu ∈ gpus, ∀ listed ∈ gpu.instances, IsUnmarked listed) :
    let text := String.ofList (joinWith '\n' lines)
    read text = gpus ∧
      ∀ (workshop : Tool.Workshop) (stderr : List UInt8),
        workshop.output ["-L"] = some ⟨0, utf8Bytes text, stderr⟩ →
        ∃ found, (workshop.run probeInstances).1 = .ok found ∧ ∀ index position, instanceAt found index position =
          (instancesBelow gpus index position).head?.map (·.uuid) := by
  intro text
  have reads : read text = gpus := by
    rw [read_joinWith (prints.single printable)]
    cases prints with
    | intro noise printed =>
      obtain ⟨are, same⟩ := areBlocks_of_prints noise printed printable unmarked
      rw [are.foldl_readLine, same]
  refine ⟨reads, fun workshop stderr answers => ⟨_, probeInstances_listing answers, fun index position => ?_⟩⟩
  rw [reads, instanceAt_instances]

-- A listing with noise around its lines, a name that looks like other fields, and padded columns.
theorem read_inverts_prints_padded :
    let listed : ListedInstance := ⟨0, "1g.6gb", "MIG-a"⟩
    let gpus : List ListedGpu := [⟨7, "GPU: (MIG) (UUID", "GPU-a", [listed]⟩]
    let lines := ["NVIDIA".toList, "  GPU 7: GPU: (MIG) (UUID (UUID: GPU-a)\r".toList, [],
      "\tMIG   1g.6gb     Device  0:  (UUID: MIG-a)".toList]
    let text := String.ofList (joinWith '\n' lines)
    let workshop : Tool.Workshop := ⟨.empty, fun _ => some ⟨0, utf8Bytes text, []⟩, []⟩
    Prints gpus lines ∧ read text = gpus ∧
      ∃ found, (workshop.run probeInstances).1 = .ok found ∧ instanceAt found 7 0 = some "MIG-a" := by
  intro listed gpus lines text workshop
  have index : Pads (digits (7 : UInt32).toNat) "7".toList := by
    rw [show digits (7 : UInt32).toNat = "7".toList by decide +kernel]
    exact Pads.refl _
  have position : Pads (digits (0 : UInt32).toNat) " 0".toList := by
    rw [show digits (0 : UInt32).toNat = "0".toList by decide +kernel]
    exact ⟨" ".toList, [], by decide, by decide, by decide⟩
  have profile : Pads "1g.6gb".toList "  1g.6gb    ".toList :=
    ⟨"  ".toList, "    ".toList, by decide, by decide, by decide⟩
  have gap : IsPadding " ".toList := by decide
  have block : PrintsBlock ⟨7, "GPU: (MIG) (UUID", "GPU-a", [listed]⟩
      ⟨"  GPU 7: GPU: (MIG) (UUID (UUID: GPU-a)\r".toList,
        [[], "\tMIG   1g.6gb     Device  0:  (UUID: MIG-a)".toList]⟩ :=
    ⟨.intro index (Pads.refl _) (Pads.refl _) ⟨"  ".toList, "\r".toList, by decide, by decide, by decide⟩,
      .noise ⟨by decide, by decide, by decide⟩ (.cons (.intro profile position gap (Pads.refl _)
        ⟨"\t".toList, [], by decide, by decide, by decide⟩) .nil)⟩
  have noise : ∀ line ∈ ["NVIDIA".toList], IsNoise line :=
    List.forall_mem_singleton.2 ⟨by decide, by decide, by decide⟩
  have prints : Prints gpus lines := .intro noise (.cons block .nil)
  have printable : ∀ gpu ∈ gpus, IsPrintableGpu gpu := List.forall_mem_singleton.2
    ⟨⟨by decide, by decide, by decide⟩, ⟨by decide, by decide, by decide⟩,
      List.forall_mem_singleton.2 ⟨⟨by decide, by decide, by decide⟩, ⟨by decide, by decide, by decide⟩⟩⟩
  obtain ⟨reads, finds⟩ := read_inverts_prints prints printable (by decide)
  obtain ⟨found, probes, positions⟩ := finds workshop [] rfl
  refine ⟨prints, reads, found, probes, ?_⟩
  rw [positions]
  decide

/-- A profile that ends like the marker of a UUID is taken for it, and the instance gets another UUID. -/
theorem marked_profile_is_misread :
    let listed : ListedInstance := ⟨0, "(UUID:", "MIG-a"⟩
    let gpus : List ListedGpu := [⟨0, "A30", "GPU-a", [listed]⟩]
    let lines := ["GPU 0: A30 (UUID: GPU-a)".toList, "MIG (UUID: Device 0: (UUID: MIG-a)".toList]
    let text := String.ofList (joinWith '\n' lines)
    Prints gpus lines ∧ (∀ gpu ∈ gpus, IsPrintableGpu gpu) ∧ read text ≠ gpus ∧
      read text = [⟨0, "A30", "GPU-a", [⟨0, "(UUID:", "Device 0: (UUID: MIG-a"⟩]⟩] := by
  intro listed gpus lines text
  have zero : Pads (digits (0 : UInt32).toNat) "0".toList := by
    rw [show digits (0 : UInt32).toNat = "0".toList by decide +kernel]
    exact Pads.refl _
  have block : PrintsBlock ⟨0, "A30", "GPU-a", [listed]⟩
      ⟨"GPU 0: A30 (UUID: GPU-a)".toList, ["MIG (UUID: Device 0: (UUID: MIG-a)".toList]⟩ :=
    ⟨.intro zero (Pads.refl _) (Pads.refl _) ⟨[], [], by decide, by decide, by decide⟩,
      .cons (.intro (Pads.refl _) zero (List.forall_mem_nil _ : IsPadding []) (Pads.refl _)
        ⟨[], [], by decide, by decide, by decide⟩) .nil⟩
  refine ⟨.intro (List.forall_mem_nil _) (.cons block .nil), ?_, by decide, by decide⟩
  exact List.forall_mem_singleton.2 ⟨⟨by decide, by decide, by decide⟩, ⟨by decide, by decide, by decide⟩,
    List.forall_mem_singleton.2 ⟨⟨by decide, by decide, by decide⟩, ⟨by decide, by decide, by decide⟩⟩⟩

end GpuShare.Device.Listing
