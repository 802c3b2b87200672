import Mathlib.Data.List.Infix
import GpuShare.Device.Listing
import GpuShare.Proofs.Text.Split

/-!
To which GPU the instances of a listing are given. A listing is cut into blocks, a line for a GPU with the lines up
to the next such line. The reader cuts it at those GPU lines that it can read, so one that it cannot read ends no
block, and the instances below that line are given to the last GPU that was read above it.
-/

set_option autoImplicit false

namespace GpuShare.Device.Listing

open Text

def opensGpu (line : List Char) : Bool := (stripStart? "GPU ".toList (trim line)).isSome

def opensInstance (line : List Char) : Bool := (stripStart? "MIG ".toList (trim line)).isSome

def gpuOf? (line : List Char) : Option ListedGpu := if opensGpu line then readGpu? (trim line) else none

def instanceOf? (line : List Char) : Option ListedInstance :=
  if opensInstance line then readInstance? (trim line) else none

def showsGpu (line : List Char) : Bool := (gpuOf? line).isSome

def instancesIn (lines : List (List Char)) : List ListedInstance := lines.filterMap instanceOf?

structure Block where
  head : List Char
  body : List (List Char)
  deriving Repr, DecidableEq

def Block.gpu? (block : Block) : Option ListedGpu :=
  (gpuOf? block.head).map fun gpu => { gpu with instances := instancesIn block.body }

/-- Lines are those before the first one that opens a block, followed by blocks of one line each that opens it. -/
structure AreBlocks (opens : List Char → Bool) (lines front : List (List Char)) (blocks : List Block) : Prop where
  joined : lines = front ++ blocks.flatMap fun block => block.head :: block.body
  front : ∀ line ∈ front, opens line = false
  heads : ∀ block ∈ blocks, opens block.head = true
  bodies : ∀ block ∈ blocks, ∀ line ∈ block.body, opens line = false

def cut (opens : List Char → Bool) : List (List Char) → List (List Char) × List Block
  | [] => ([], [])
  | line :: lines =>
    if opens line then ([], ⟨line, (cut opens lines).1⟩ :: (cut opens lines).2)
    else (line :: (cut opens lines).1, (cut opens lines).2)

section Cut

variable {opens narrow : List Char → Bool} {line : List Char} {lines front : List (List Char)} {blocks : List Block}

theorem cut_of_opens (opening : opens line = true) (lines : List (List Char)) :
    cut opens (line :: lines) = ([], ⟨line, (cut opens lines).1⟩ :: (cut opens lines).2) := by rw [cut, if_pos opening]

theorem cut_of_plain (plain : opens line = false) (lines : List (List Char)) :
    cut opens (line :: lines) = (line :: (cut opens lines).1, (cut opens lines).2) := by
  rw [cut, if_neg (Bool.not_eq_true _ ▸ plain)]

theorem cut_append (plain : ∀ line ∈ front, opens line = false) (lines : List (List Char)) :
    cut opens (front ++ lines) = (front ++ (cut opens lines).1, (cut opens lines).2) := by
  induction front with
  | nil => rfl
  | cons line front ih =>
    obtain ⟨first, plain⟩ := List.forall_mem_cons.1 plain
    rw [List.cons_append, cut_of_plain first, ih plain]
    rfl

theorem areBlocks_cut (opens : List Char → Bool) (lines : List (List Char)) :
    AreBlocks opens lines (cut opens lines).1 (cut opens lines).2 := by
  induction lines with
  | nil => exact ⟨rfl, nofun, nofun, nofun⟩
  | cons line lines ih =>
    cases opening : opens line with
    | true =>
      rw [cut_of_opens opening]
      refine ⟨?_, nofun, List.forall_mem_cons.2 ⟨opening, ih.heads⟩, List.forall_mem_cons.2 ⟨ih.front, ih.bodies⟩⟩
      conv_lhs => rw [ih.joined]
      rfl
    | false =>
      rw [cut_of_plain opening]
      exact ⟨congrArg (line :: ·) ih.joined, List.forall_mem_cons.2 ⟨opening, ih.front⟩, ih.heads, ih.bodies⟩

-- Lines can be cut in one way only.
theorem AreBlocks.cut_eq (are : AreBlocks opens lines front blocks) : cut opens lines = (front, blocks) := by
  obtain ⟨rfl, plain, heads, bodies⟩ := are
  suffices cuts : cut opens (blocks.flatMap fun block => block.head :: block.body) = ([], blocks) by
    rw [cut_append plain, cuts, List.append_nil]
  induction blocks with
  | nil => rfl
  | cons block blocks ih =>
    obtain ⟨head, heads⟩ := List.forall_mem_cons.1 heads
    obtain ⟨body, bodies⟩ := List.forall_mem_cons.1 bodies
    rw [List.flatMap_cons, List.cons_append, cut_of_opens head, cut_append body, ih heads bodies, List.append_nil]

theorem areBlocks_iff : AreBlocks opens lines front blocks ↔ cut opens lines = (front, blocks) := by
  refine ⟨AreBlocks.cut_eq, fun cuts => ?_⟩
  have are := areBlocks_cut opens lines
  rwa [cuts] at are

instance : Decidable (AreBlocks opens lines front blocks) := decidable_of_iff _ areBlocks_iff.symm

-- The fewer lines open a block, the later is the first one that does.
theorem cut_front_of_less (less : ∀ line, narrow line = true → opens line = true) (lines : List (List Char)) :
    (cut opens lines).1 <+: (cut narrow lines).1 := by
  induction lines with
  | nil => exact List.prefix_rfl
  | cons line lines ih =>
    cases opening : opens line with
    | true =>
      rw [cut_of_opens opening]
      exact List.nil_prefix
    | false =>
      have plain : narrow line = false := Bool.eq_false_iff.2 fun also => by simp [less line also] at opening
      rw [cut_of_plain opening, cut_of_plain plain]
      exact List.cons_prefix_cons.2 ⟨rfl, ih⟩

end Cut

/-! ## The reader, block by block -/

section Reader

variable {line : List Char} {gpus : List ListedGpu} {gpu : ListedGpu}

/-- Adds instances to the last GPU; without one they are dropped. -/
def give (listed : List ListedInstance) (gpus : List ListedGpu) : List ListedGpu :=
  gpus.modify (gpus.length - 1) fun gpu => { gpu with instances := gpu.instances ++ listed }

@[simp] theorem give_none (listed : List ListedInstance) : give listed [] = [] := rfl

@[simp] theorem give_concat (listed : List ListedInstance) (gpus : List ListedGpu) (gpu : ListedGpu) :
    give listed (gpus ++ [gpu]) = gpus ++ [{ gpu with instances := gpu.instances ++ listed }] := by
  rw [give, List.length_append, List.length_singleton, Nat.add_sub_cancel, List.modify_eq_take_drop]
  simp

@[simp] theorem give_nil (gpus : List ListedGpu) : give [] gpus = gpus := by
  rcases List.eq_nil_or_concat gpus with rfl | ⟨before, last, rfl⟩
  · rfl
  · simp

theorem give_give (first second : List ListedInstance) (gpus : List ListedGpu) :
    give second (give first gpus) = give (first ++ second) gpus := by
  simp only [give, List.length_modify, List.modify_modify_eq, Function.comp_def, List.append_assoc]

theorem opensInstance_of_opensGpu (opens : opensGpu line = true) : opensInstance line = false := by
  unfold opensGpu at opens
  unfold opensInstance
  cases trimmed : trim line with
  | nil => rfl
  | cons c cs =>
    rw [trimmed] at opens
    obtain ⟨rest, starts⟩ := isSome_stripStart?.1 opens
    obtain ⟨rfl, -⟩ := List.cons.inj starts
    rfl

theorem opensGpu_of_showsGpu (line : List Char) (shows : showsGpu line = true) : opensGpu line = true := by
  by_contra other
  rw [showsGpu, gpuOf?, if_neg other] at shows
  cases shows

theorem instanceOf?_of_opensGpu (opens : opensGpu line = true) : instanceOf? line = none := by
  rw [instanceOf?, opensInstance_of_opensGpu opens]
  rfl

theorem readLine_eq (gpus : List ListedGpu) (line : List Char) : readLine gpus line =
    match gpuOf? line with
    | some gpu => gpus ++ [gpu]
    | none => give (instancesIn [line]) gpus := by
  rw [readLine]
  cases opens : opensGpu line with
  | true =>
    refine (if_pos opens).trans ?_
    rw [gpuOf?, if_pos opens]
    cases readGpu? (trim line) <;> simp [instancesIn, instanceOf?_of_opensGpu opens]
  | false =>
    refine (if_neg (Bool.eq_false_iff.1 opens)).trans ?_
    rw [gpuOf?, opens]
    cases also : opensInstance line with
    | true =>
      refine (if_pos also).trans ?_
      cases reads : readInstance? (trim line) with
      | none => simp [instancesIn, instanceOf?, also, reads]
      | some listed =>
        simp [instancesIn, instanceOf?, also, reads]
        rfl
    | false =>
      refine (if_neg (Bool.eq_false_iff.1 also)).trans ?_
      simp [instancesIn, instanceOf?, also]

-- A GPU line says nothing about instances.
theorem instances_of_gpuOf? (reads : gpuOf? line = some gpu) : gpu.instances = [] := by
  unfold gpuOf? readGpu? at reads
  split at reads
  · obtain ⟨_, -, reads⟩ := Option.bind_eq_some_iff.1 reads
    obtain ⟨_, -, reads⟩ := Option.bind_eq_some_iff.1 reads
    obtain ⟨_, -, reads⟩ := Option.bind_eq_some_iff.1 reads
    cases reads
    rfl
  · cases reads

/-- The reader gives the first lines to the GPUs listed before, and the rest block by block. -/
theorem foldl_readLine (lines : List (List Char)) (gpus : List ListedGpu) :
    lines.foldl readLine gpus =
      give (instancesIn (cut showsGpu lines).1) gpus ++ (cut showsGpu lines).2.filterMap Block.gpu? := by
  induction lines generalizing gpus with
  | nil => simp [cut, instancesIn]
  | cons line lines ih =>
    rw [List.foldl_cons, ih, readLine_eq]
    cases reads : gpuOf? line with
    | some gpu =>
      have shows : showsGpu line = true := by rw [showsGpu, reads]; rfl
      rw [cut_of_opens shows]
      simp [Block.gpu?, reads, instances_of_gpuOf? reads, instancesIn]
    | none =>
      have plain : showsGpu line = false := by rw [showsGpu, reads]; rfl
      rw [cut_of_plain plain, give_give, instancesIn, instancesIn, ← List.filterMap_append]
      rfl

theorem AreBlocks.foldl_readLine {lines front : List (List Char)} {blocks : List Block}
    (readable : AreBlocks showsGpu lines front blocks) : lines.foldl readLine [] = blocks.filterMap Block.gpu? := by
  rw [Listing.foldl_readLine, readable.cut_eq, give_none, List.nil_append]

end Reader

/-! ## Which GPU lines are passed over -/

section Attribution

variable {text : String} {line : List Char} {front readFront : List (List Char)} {blocks readBlocks : List Block}

/-- If the GPU of a block cannot be read, then the block shows no instance either. -/
def Block.IsHarmless (block : Block) : Prop := showsGpu block.head = false → instancesIn block.body = []

instance (block : Block) : Decidable block.IsHarmless := inferInstanceAs (Decidable (_ → _))

theorem gpu?_of_not_shows (unread : showsGpu line = false) (body : List (List Char)) :
    Block.gpu? ⟨line, body⟩ = none := by
  rw [Block.gpu?, Option.isNone_iff_eq_none.1 (Option.isSome_eq_false_iff.1 unread)]
  rfl

-- The lines before the first GPU line come before the first readable one.
theorem instancesIn_front (lines : List (List Char)) :
    instancesIn (cut opensGpu lines).1 <+: instancesIn (cut showsGpu lines).1 :=
  (cut_front_of_less opensGpu_of_showsGpu lines).filterMap instanceOf?

-- Below a GPU the two ways to cut come to the same exactly if no instance is shown below an unreadable line.
theorem cuts_agree_iff (lines : List (List Char)) :
    instancesIn (cut showsGpu lines).1 = instancesIn (cut opensGpu lines).1 ∧
      (cut showsGpu lines).2.filterMap Block.gpu? = (cut opensGpu lines).2.filterMap Block.gpu? ↔
    ∀ block ∈ (cut opensGpu lines).2, block.IsHarmless := by
  induction lines with
  | nil => simp [cut]
  | cons line lines ih =>
    cases opens : opensGpu line with
    | true =>
      rw [cut_of_opens opens, List.forall_mem_cons, ← ih]
      cases shows : showsGpu line with
      | true =>
        rw [cut_of_opens shows]
        obtain ⟨gpu, reads⟩ := Option.isSome_iff_exists.1 shows
        simp [Block.gpu?, reads, Block.IsHarmless, shows]
      | false =>
        rw [cut_of_plain shows, List.filterMap_cons, gpu?_of_not_shows shows]
        have nothing := instanceOf?_of_opensGpu opens
        have earlier := instancesIn_front lines
        simp only [Block.IsHarmless, shows, instancesIn, List.filterMap_cons, nothing, List.filterMap_nil,
          forall_const] at earlier ⊢
        constructor
        · rintro ⟨none, same⟩
          rw [none] at earlier
          exact ⟨List.prefix_nil.1 earlier, by rw [none, List.prefix_nil.1 earlier], same⟩
        · rintro ⟨none, equal, same⟩
          exact ⟨equal.trans none, same⟩
    | false =>
      have shows : showsGpu line = false := Bool.eq_false_iff.2 fun also => by
        simp [opensGpu_of_showsGpu line also] at opens
      rw [cut_of_plain opens, cut_of_plain shows, ← ih]
      simp only [instancesIn, List.filterMap_cons]
      cases instanceOf? line <;> simp

theorem gpus_agree_iff (lines : List (List Char)) :
    (cut showsGpu lines).2.filterMap Block.gpu? = (cut opensGpu lines).2.filterMap Block.gpu? ↔
      ∀ block ∈ (cut opensGpu lines).2.dropWhile (!showsGpu ·.head), block.IsHarmless := by
  induction lines with
  | nil => simp [cut]
  | cons line lines ih =>
    cases opens : opensGpu line with
    | true =>
      rw [cut_of_opens opens]
      cases shows : showsGpu line with
      | true =>
        rw [cut_of_opens shows, List.dropWhile_cons_of_neg (by simp [shows]), List.forall_mem_cons,
          ← cuts_agree_iff]
        obtain ⟨gpu, reads⟩ := Option.isSome_iff_exists.1 shows
        simp [Block.gpu?, reads, Block.IsHarmless, shows]
      | false =>
        rw [cut_of_plain shows, List.dropWhile_cons_of_pos (by simp [shows]), List.filterMap_cons,
          gpu?_of_not_shows shows]
        exact ih
    | false =>
      have shows : showsGpu line = false := Bool.eq_false_iff.2 fun also => by
        simp [opensGpu_of_showsGpu line also] at opens
      rw [cut_of_plain opens, cut_of_plain shows]
      exact ih

/-- Instances are given to the last readable GPU above them. They are given to the GPU of the last GPU line above
them, and dropped where that line cannot be read, exactly if behind the first readable GPU line no instance stands
below an unreadable one. -/
theorem read_gives_to_last_readable (all : AreBlocks opensGpu (lines text.toList) front blocks)
    (readable : AreBlocks showsGpu (lines text.toList) readFront readBlocks) :
    read text = readBlocks.filterMap Block.gpu? ∧
      (read text = blocks.filterMap Block.gpu? ↔
        ∀ block ∈ blocks.dropWhile (!showsGpu ·.head), block.IsHarmless) := by
  have reads : read text = readBlocks.filterMap Block.gpu? := readable.foldl_readLine
  have agree := gpus_agree_iff (lines text.toList)
  rw [readable.cut_eq, all.cut_eq] at agree
  exact ⟨reads, reads ▸ agree⟩

-- An instance before every GPU line, one below an unreadable line in front of the readable ones, and an unreadable
-- line with no instance below it.
theorem read_gives_to_last_readable_between_unreadable :
    let early := "  MIG 1g.6gb Device 0: (UUID: MIG-a)"
    let lost := "  MIG 1g.6gb Device 1: (UUID: MIG-b)"
    let read := "GPU 2: A30 (UUID: GPU-c)"
    let below := "  MIG 2g.12gb Device 0: (UUID: MIG-c)"
    let text := "\n".intercalate [early, "GPU x: broken", lost, read, below, "GPU y: broken"]
    let blocks : List Block :=
      [⟨"GPU x: broken".toList, [lost.toList]⟩, ⟨read.toList, [below.toList]⟩, ⟨"GPU y: broken".toList, []⟩]
    AreBlocks opensGpu (lines text.toList) [early.toList] blocks ∧
      Listing.read text = [⟨2, "A30", "GPU-c", [⟨0, "2g.12gb", "MIG-c"⟩]⟩] := by
  intro early lost read below text blocks
  have all : AreBlocks opensGpu (lines text.toList) [early.toList] blocks := by decide +kernel
  have harmless : ∀ block ∈ blocks.dropWhile (!showsGpu ·.head), block.IsHarmless := by decide +kernel
  refine ⟨all, ?_⟩
  rw [(read_gives_to_last_readable all (areBlocks_cut showsGpu _)).2.2 harmless]
  decide +kernel

/-- The GPU line right above an instance cannot be read; the instance is given to the GPU before that line, and found
as one of its instances. -/
theorem stray_instance_is_given_away :
    let first := "GPU 0: NVIDIA A30 (UUID: GPU-a)"
    let second := "GPU 1: NVIDIA A30"
    let below := "  MIG 1g.6gb Device 0: (UUID: MIG-b)"
    let text := first ++ "\n" ++ second ++ "\n" ++ below ++ "\n"
    let blocks : List Block := [⟨first.toList, []⟩, ⟨second.toList, [below.toList]⟩]
    AreBlocks opensGpu (lines text.toList) [] blocks ∧ gpuOf? second.toList = none ∧
      blocks.filterMap Block.gpu? = [⟨0, "NVIDIA A30", "GPU-a", []⟩] ∧
      read text = [⟨0, "NVIDIA A30", "GPU-a", [⟨0, "1g.6gb", "MIG-b"⟩]⟩] ∧
      instanceAt (instances (read text)) 0 0 = some "MIG-b" := by
  decide

end Attribution

end GpuShare.Device.Listing
