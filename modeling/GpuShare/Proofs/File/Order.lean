import GpuShare.Agent.Lister

/-!
Paths in path order. The order is strict and total on the names along the paths, and it is kept where a path,
or a mapping of one, is put at its place.
-/

set_option autoImplicit false

namespace GpuShare

namespace Path

variable {as bs cs : List String} {a b path : Path} {paths : List Path}

theorem before_irrefl (as : List String) : before as as = false := by
  induction as with
  | nil => rfl
  | cons a as ih => rw [before, if_pos rfl, ih]

theorem before_trans (first : before as bs = true) (second : before bs cs = true) :
    before as cs = true := by
  induction as generalizing bs cs with
  | nil =>
    cases cs with
    | nil => cases bs <;> cases second
    | cons => rfl
  | cons a as ih =>
    cases bs with
    | nil => cases first
    | cons b bs =>
      cases cs with
      | nil => cases second
      | cons c cs =>
        rw [before] at first second ⊢
        split at first <;> split at second
        · next same other => rw [if_pos (same.trans other), ih first second]
        · next same other =>
          rw [same, if_neg other]
          exact second
        · next differ same =>
          rw [← same, if_neg differ]
          exact first
        · have less : a < c := String.lt_trans (of_decide_eq_true first) (of_decide_eq_true second)
          have differ : a ≠ c := fun same => String.lt_irrefl c (same ▸ less)
          rw [if_neg differ, decide_eq_true less]

theorem before_total (as bs : List String) : before as bs = true ∨ as = bs ∨ before bs as = true := by
  induction as generalizing bs with
  | nil =>
    cases bs with
    | nil => exact .inr (.inl rfl)
    | cons => exact .inl rfl
  | cons a as ih =>
    cases bs with
    | nil => exact .inr (.inr rfl)
    | cons b bs =>
      rw [before, before]
      by_cases same : a = b
      · subst same
        simpa using ih bs
      · rw [if_neg same, if_neg (Ne.symm same)]
        rcases Classical.em (a < b) with less | least
        · exact .inl (decide_eq_true less)
        · have most : b ≤ a := String.not_lt.1 least
          refine .inr (.inr (decide_eq_true ?_))
          exact String.not_le.1 fun other => same (String.le_antisymm other most)

theorem ne_of_isBefore (less : a.isBefore b = true) : a ≠ b := by
  rintro rfl
  rw [isBefore, before_irrefl] at less
  cases less

/-- Paths in path order, each once. -/
def InOrder (paths : List Path) : Prop := paths.Pairwise fun a b => a.isBefore b = true

theorem InOrder.nodup (inOrder : InOrder paths) : paths.Nodup :=
  inOrder.imp ne_of_isBefore

end Path

namespace Agent

open GpuShare.Path

variable {path other : Path} {found : List Path} {mapped : Mapped} {content : Nat}

theorem mem_insertPath (member : other ∈ insertPath path found) : other = path ∨ other ∈ found := by
  induction found with
  | nil => exact .inl (List.mem_singleton.1 member)
  | cons head tail ih =>
    rw [insertPath] at member
    grind

theorem inOrder_insertPath (inOrder : InOrder found) (path : Path) : InOrder (insertPath path found) := by
  induction found with
  | nil => exact List.pairwise_singleton _ _
  | cons head tail ih =>
    obtain ⟨least, later⟩ := List.pairwise_cons.1 inOrder
    rw [insertPath]
    split
    · exact inOrder
    split
    · next first =>
      refine List.pairwise_cons.2 ⟨fun other member => ?_, inOrder⟩
      rcases List.mem_cons.1 member with rfl | behind
      · exact first
      · exact before_trans first (least other behind)
    · next differ behind =>
      have after : head.isBefore path = true := by
        rcases before_total head.components path.components with after | same | first
        · exact after
        · exact absurd same.symm differ
        · exact absurd first behind
      refine List.pairwise_cons.2 ⟨fun other member => ?_, ih later⟩
      rcases mem_insertPath member with rfl | old
      · exact after
      · exact least other old

def Mapped.paths (mapped : Mapped) : List Path := mapped.map (·.1)

theorem Mapped.contains_iff : mapped.contains path = true ↔ path ∈ mapped.paths := by
  simp [Mapped.contains, Mapped.paths]

theorem Mapped.contains_of_mem {entry : Path × Nat} (member : entry ∈ mapped) :
    mapped.contains entry.1 = true :=
  Mapped.contains_iff.2 (List.mem_map_of_mem member)

theorem Mapped.mem_insert {entry : Path × Nat} :
    entry ∈ mapped.insert path content ↔ entry = (path, content) ∨ entry ∈ mapped := by
  induction mapped with
  | nil => simp [Mapped.insert]
  | cons head tail ih =>
    rw [Mapped.insert]
    grind

theorem Mapped.inOrder_insert (inOrder : InOrder mapped.paths)
    (apart : ∀ other ∈ mapped.paths, path.components ≠ other.components) (content : Nat) :
    InOrder (mapped.insert path content).paths := by
  induction mapped with
  | nil => exact List.pairwise_singleton _ _
  | cons head tail ih =>
    obtain ⟨least, later⟩ := List.pairwise_cons.1 inOrder
    obtain ⟨differ, others⟩ := List.forall_mem_cons.1 apart
    rw [Mapped.insert]
    split
    · next first =>
      refine List.pairwise_cons.2 ⟨fun other member => ?_, inOrder⟩
      rcases List.mem_cons.1 member with rfl | behind
      · exact first
      · exact before_trans first (least other behind)
    · next behind =>
      have after : head.1.isBefore path = true := by
        rcases before_total head.1.components path.components with after | same | first
        · exact after
        · exact absurd same.symm differ
        · exact absurd first behind
      refine List.pairwise_cons.2 ⟨fun other member => ?_, ih later others⟩
      obtain ⟨entry, held, rfl⟩ := List.mem_map.1 member
      rcases Mapped.mem_insert.1 held with rfl | old
      · exact after
      · exact least entry.1 (List.mem_map_of_mem old)

end Agent

end GpuShare
