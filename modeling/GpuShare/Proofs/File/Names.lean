import GpuShare.Proofs.File.Directories
import GpuShare.Proofs.Text.Split

/-!
Names on a disk hold no slashes: making and removing directories keeps that, and so do the names that are
read from a directory. Names without slashes below one directory are told apart by their paths.
-/

set_option autoImplicit false

namespace GpuShare

open Text

def IsName (name : String) : Prop := '/' ∉ name.toList

instance (name : String) : Decidable (IsName name) := inferInstanceAs (Decidable (_ ∉ _))

namespace Path

variable {base path : Path} {a b name : String}

theorem isName_of_mem_components (member : name ∈ path.components) : IsName name := by
  obtain ⟨piece, cut, rfl⟩ := List.mem_map.1 (List.mem_filter.1 member).1
  intro slash
  rw [String.toList_ofList] at slash
  exact (mem_piece cut slash).1 rfl

theorem isAbsolute_of_isName (is : IsName name) : isAbsolute ⟨name⟩ = false := by
  unfold isAbsolute
  unfold IsName at is
  cases chars : name.toList with
  | nil => rfl
  | cons c cs =>
    rw [chars, List.mem_cons, not_or] at is
    simpa using Ne.symm is.1

theorem join_inj (first : IsName a) (second : IsName b) : base.join a = base.join b ↔ a = b := by
  refine ⟨fun same => ?_, fun same => by rw [same]⟩
  simp only [join, isAbsolute_of_isName first, isAbsolute_of_isName second, Bool.false_eq_true,
    false_or] at same
  split at same
  · exact Path.mk.inj same
  split at same
  · exact String.append_right_inj _ |>.1 (Path.mk.inj same)
  · exact String.append_right_inj _ |>.1 (Path.mk.inj same)

end Path

namespace Disk

variable {disk : Disk} {location : Location} {found : Option Entry} {path : Path} {follow : Bool}

def HasNames (disk : Disk) : Prop := ∀ entry ∈ disk.entries, ∀ name ∈ entry.1, IsName name

theorem isName_of_walk {fuel links : Nat} {here : Location} {names : List String}
    (walks : disk.walk follow fuel links here names = .ok (location, found))
    (before : ∀ name ∈ here, IsName name) (ahead : ∀ name ∈ names, IsName name) :
    ∀ name ∈ location, IsName name := by
  induction fuel generalizing links here names with
  | zero => cases walks
  | succ fuel ih =>
    cases names with
    | nil =>
      obtain ⟨rfl, -⟩ := Prod.mk.inj (Except.ok.inj walks)
      exact before
    | cons name rest =>
      rw [List.forall_mem_cons] at ahead
      have next : ∀ other ∈ here ++ [name], IsName other := by
        simpa [or_imp, forall_and] using ⟨before, ahead.1⟩
      rw [walk] at walks
      split at walks
      · exact ih walks (fun other member => before other (List.dropLast_subset _ member)) ahead.2
      split at walks
      · cases walks
      dsimp only at walks
      split at walks
      · split at walks
        · obtain ⟨rfl, -⟩ := Prod.mk.inj (Except.ok.inj walks)
          exact next
        · cases walks
      · exact ih walks next ahead.2
      · split at walks
        · obtain ⟨rfl, -⟩ := Prod.mk.inj (Except.ok.inj walks)
          exact next
        · cases walks
      · next target _ =>
        split at walks
        · obtain ⟨rfl, -⟩ := Prod.mk.inj (Except.ok.inj walks)
          exact next
        split at walks
        · cases walks
        · refine ih walks ?_ ?_
          · split
            · exact List.forall_mem_nil _
            · exact before
          · intro other member
            rcases List.mem_append.1 member with inside | later
            · exact Path.isName_of_mem_components inside
            · exact ahead.2 other later

theorem isName_of_resolve (leads : disk.resolve follow path = .ok (location, found)) :
    ∀ name ∈ location, IsName name :=
  isName_of_walk leads nofun fun _ => Path.isName_of_mem_components

theorem mem_insertEntry {entries : List (Location × Entry)} {entry : Entry}
    {other : Location × Entry} (member : other ∈ insertEntry location entry entries) :
    other = (location, entry) ∨ other ∈ entries := by
  induction entries with
  | nil => exact .inl (List.mem_singleton.1 member)
  | cons head tail ih =>
    rw [insertEntry] at member
    grind

theorem HasNames.put (names : disk.HasNames) (leads : disk.resolve follow path = .ok (location, found))
    (entry : Entry) : (disk.put location entry).HasNames := by
  intro other member
  rcases mem_insertEntry member with rfl | old
  · exact isName_of_resolve leads
  · exact names other old

theorem HasNames.makeDirectory (names : disk.HasNames) (path : Path) :
    (disk.makeDirectory path).2.HasNames := by
  rw [Disk.makeDirectory]
  split
  · exact names
  · exact names
  · next leads => exact names.put leads _

theorem HasNames.makeDirectories (names : disk.HasNames) (path : Path) :
    (disk.makeDirectories path).2.HasNames := by
  rw [makeDirectories_eq]
  generalize ancestors path = paths
  induction paths generalizing disk with
  | nil => exact names
  | cons path paths ih =>
    have next : (makeNext (.ok (), disk) path).2.HasNames := by
      rw [makeNext]
      split
      · exact names
      · exact names.makeDirectory path
    rw [List.foldl_cons]
    generalize makeNext (.ok (), disk) path = state at next ⊢
    obtain ⟨outcome, after⟩ := state
    cases outcome with
    | ok _ => exact ih next
    | error error =>
      rw [foldl_makeNext_error]
      exact next

theorem HasNames.setMode (names : disk.HasNames) (path : Path) (mode : Nat) :
    (disk.setMode path mode).HasNames := by
  rw [Disk.setMode]
  split
  · next leads => exact names.put leads _
  · exact names

theorem HasNames.removeTree (names : disk.HasNames) (path : Path) :
    (disk.removeTree path).2.HasNames := by
  rw [Disk.removeTree]
  split
  · exact names
  · exact names
  · exact names
  · exact fun entry member => names entry (List.mem_filter.1 member).1

theorem HasNames.readDirectory (names : disk.HasNames) {told : List String}
    (reads : disk.readDirectory path = .ok told) : ∀ name ∈ told, IsName name := by
  rw [Disk.readDirectory] at reads
  cases leads : disk.resolve true path with
  | error error =>
    rw [leads] at reads
    cases reads
  | ok place =>
    rw [leads] at reads
    obtain ⟨location, _ | _ | _ | _⟩ := place
    case some.directory mode =>
      obtain rfl := Except.ok.inj reads
      intro name member
      obtain ⟨entry, held, last⟩ := List.mem_filterMap.1 member
      split at last
      · exact names entry held name (List.mem_of_getLast? last)
      · cases last
    all_goals cases reads

end Disk

end GpuShare
