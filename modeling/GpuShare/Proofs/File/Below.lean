import Mathlib.Data.List.Find
import GpuShare.Proofs.File.Names

/-!
What lies below a directory. A path to a directory is followed by the names below it, one by one. Entries that
are removed from the directory take with them what lies below themselves, and nothing else.
-/

set_option autoImplicit false

namespace GpuShare

open Text

structure IsEntryName (name : String) : Prop where
  isName : IsName name
  some_name : name ≠ ""
  not_here : name ≠ "."
  not_up : name ≠ ".."

namespace Path

variable {base : Path} {name : String}

theorem components_ofName (is : IsEntryName name) : components ⟨name⟩ = [name] := by
  have plain : '/' ∉ name.toList := is.isName
  simp [components, splitOn_of_not_mem plain, is.some_name, is.not_here]

theorem components_slash (front back : String) :
    components ⟨front ++ "/" ++ back⟩ = components ⟨front⟩ ++ components ⟨back⟩ := by
  have chars : (front ++ "/" ++ back).toList = front.toList ++ '/' :: back.toList := by simp
  simp only [components, chars, splitOn_append_cons, List.map_append, List.filter_append]

theorem components_join (is : IsEntryName name) : (base.join name).components = base.components ++ [name] := by
  have relative := isAbsolute_of_isName is.isName
  simp only [join, relative, Bool.false_eq_true, false_or]
  split
  · next empty =>
    have nothing : base.components = [] := by simp [components, empty, splitOn]
    rw [nothing, components_ofName is, List.nil_append]
  split
  · next slash =>
    obtain ⟨front, chars⟩ := List.getLast?_eq_some_iff.1 slash
    have text : base.text = String.ofList front ++ "/" := by
      rw [← String.ofList_toList (s := base.text), chars, String.ofList_append]
    have above : base.components = components ⟨String.ofList front⟩ := by
      have under := components_slash (String.ofList front) ""
      rw [String.append_empty, ← text] at under
      exact under.trans (List.append_nil _)
    rw [text, components_slash, components_ofName is, above]
  · rw [components_slash, components_ofName is]

end Path

namespace Disk

variable {disk after : Disk} {root here : Location} {path : Path} {name other : String} {follow : Bool}
  {mode : Nat}

-- The names that follow a path to a directory are walked from there.
theorem walk_append {fuel enough links extra : Nat} {names rest : List String}
    (walks : disk.walk true fuel links here names = .ok (root, some (.directory mode))) (further : rest ≠ [])
    (sufficient : names.length + extra + links * disk.longestLink + 1 ≤ enough) :
    ∃ left remaining, extra + 1 ≤ left ∧
      disk.walk follow enough links here (names ++ rest) = disk.walk follow left remaining root rest := by
  induction fuel generalizing enough links here names with
  | zero => cases walks
  | succ fuel ih =>
    cases names with
    | nil =>
      obtain ⟨rfl, -⟩ := Prod.mk.inj (Except.ok.inj walks)
      rw [List.length_nil] at sufficient
      exact ⟨enough, links, by omega, rfl⟩
    | cons name names =>
      obtain ⟨enough, rfl⟩ : ∃ less, enough = less + 1 := ⟨enough - 1, by omega⟩
      rw [List.length_cons] at sufficient
      rw [walk] at walks
      rw [List.cons_append, walk]
      split at walks
      · next up =>
        rw [if_pos up]
        exact ih walks (by omega)
      next down =>
      rw [if_neg down]
      split at walks
      · cases walks
      next short =>
      rw [if_neg short]
      dsimp only at walks ⊢
      split at walks
      · split at walks
        · cases walks
        · cases walks
      · exact ih walks (by omega)
      · split at walks
        · cases walks
        · cases walks
      · next target link =>
        rw [if_neg (by simp)] at walks
        rw [if_neg (by simp [further])]
        split at walks
        · cases walks
        next some_left =>
        rw [if_neg some_left, ← List.append_assoc]
        refine ih walks ?_
        rw [List.length_append]
        have enough_left := enough_after_link (length_le_longestLink link) some_left
          (show names.length + extra + 1 + links * disk.longestLink + 1 ≤ enough + 1 by omega)
        omega

-- A path below a directory is walked from there.
theorem resolve_below {names : List String}
    (leads : disk.resolve true path = .ok (root, some (.directory mode))) (further : names ≠ []) {below : Path}
    (along : below.components = path.components ++ names) (follow : Bool) :
    ∃ left remaining, names.length + 1 ≤ left ∧
      disk.resolve follow below = disk.walk follow left remaining root names := by
  unfold resolve at leads ⊢
  rw [along]
  refine walk_append leads further ?_
  rw [walkFuel_eq, along, List.length_append, maxLinks]
  omega

/-! ## A file in a directory -/

def IsBelow (root location : Location) : Prop := root <+: location ∧ location ≠ root

def LeadsTo (disk : Disk) (path : Path) (root : Location) : Prop :=
  ∀ after : Disk, (∀ location, ¬ IsBelow root location → after.entry? location = disk.entry? location) →
    ∃ mode, after.resolve true path = .ok (root, some (.directory mode))

theorem LeadsTo.resolve (leads : disk.LeadsTo path root) :
    ∃ mode, disk.resolve true path = .ok (root, some (.directory mode)) :=
  leads disk fun _ _ => rfl

theorem LeadsTo.change (leads : disk.LeadsTo path root)
    (same : ∀ location, ¬ IsBelow root location → after.entry? location = disk.entry? location) :
    after.LeadsTo path root :=
  fun later kept => leads later fun location above => (kept location above).trans (same location above)

structure HoldsFile (disk : Disk) (path : Path) (name file : String) (content : Nat) (root : Location) :
    Prop where
  leads : disk.LeadsTo path root
  directory : ∃ mode, disk.entry? (root ++ [name]) = some (.directory mode)
  held : disk.entry? (root ++ [name] ++ [file]) = some (.file content)
  name_fits : name.utf8ByteSize ≤ maxName
  file_fits : file.utf8ByteSize ≤ maxName

theorem walk_directory {fuel links : Nat} {rest : List String} (down : name ≠ "..")
    (fits : name.utf8ByteSize ≤ maxName) (held : disk.entry? (here ++ [name]) = some (.directory mode)) :
    disk.walk follow (fuel + 1) links here (name :: rest) =
      disk.walk follow fuel links (here ++ [name]) rest := by
  rw [walk, if_neg down, if_neg (Nat.not_lt.2 fits)]
  simp only [held]

theorem walk_file {fuel links content : Nat} (down : name ≠ "..") (fits : name.utf8ByteSize ≤ maxName)
    (held : disk.entry? (here ++ [name]) = some (.file content)) :
    disk.walk follow (fuel + 1) links here [name] = .ok (here ++ [name], some (.file content)) := by
  rw [walk, if_neg down, if_neg (Nat.not_lt.2 fits)]
  simp [held]

theorem walk_directories {fuel links : Nat} {names : List String}
    (plain : ∀ name ∈ names, name ≠ ".." ∧ name.utf8ByteSize ≤ maxName)
    (made : ∀ front, front ≠ [] → front <+: names → ∃ mode, disk.entry? (here ++ front) = some (.directory mode))
    (start : here = [] ∨ ∃ mode, disk.entry? here = some (.directory mode)) (enough : names.length < fuel) :
    ∃ mode, disk.walk follow fuel links here names = .ok (here ++ names, some (.directory mode)) := by
  induction names generalizing fuel here with
  | nil =>
    obtain ⟨fuel, rfl⟩ := Nat.exists_eq_add_of_lt enough
    rw [List.append_nil]
    obtain rfl | ⟨mode, held⟩ := start
    · exact ⟨_, rfl⟩
    · refine ⟨if here = [] then 0o755 else mode, ?_⟩
      by_cases top : here = [] <;> simp [walk, top, held]
  | cons name names ih =>
    obtain ⟨fuel, rfl⟩ := Nat.exists_eq_add_of_lt enough
    obtain ⟨⟨down, fits⟩, plain⟩ := List.forall_mem_cons.1 plain
    obtain ⟨mode, held⟩ := made [name] (List.cons_ne_nil _ _) ⟨names, rfl⟩
    rw [walk_directory down fits held, List.append_cons here name names]
    have longer : names.length < (name :: names).length + fuel := by
      rw [List.length_cons]
      omega
    refine ih plain (fun front some_name along => ?_) (.inr ⟨mode, held⟩) longer
    rw [List.append_assoc]
    exact made (name :: front) (List.cons_ne_nil _ _) (List.cons_prefix_cons.2 ⟨rfl, along⟩)

-- Ordinarily there are directories only on the way to a directory.
theorem leadsTo_of_directories
    (plain : ∀ name ∈ path.components, name ≠ ".." ∧ name.utf8ByteSize ≤ maxName)
    (made : ∀ front, front ≠ [] → front <+: path.components →
      ∃ mode, disk.entry? front = some (.directory mode)) : disk.LeadsTo path path.components := by
  intro after same
  have kept : ∀ front, front ≠ [] → front <+: path.components →
      ∃ mode, after.entry? ([] ++ front) = some (.directory mode) := by
    intro front some_name along
    rw [List.nil_append, same front fun below => ?_]
    · exact made front some_name along
    · exact below.2 (below.1.eq_of_length_le along.length_le).symm
  have enough : path.components.length < after.walkFuel path := by
    rw [walkFuel_eq]
    omega
  exact walk_directories plain kept (.inl rfl) enough

theorem mem_namesBelow {entry : Entry} (held : disk.entry? (root ++ [name]) = some entry) :
    name ∈ disk.namesBelow root := by
  obtain ⟨found, first, -⟩ := Option.map_eq_some_iff.1 held
  have place : found.1 = root ++ [name] := by simpa using List.find?_some first
  refine List.mem_filterMap.2 ⟨found, List.mem_of_find?_eq_some first, ?_⟩
  simp [place]

theorem entry?_removeBelow {location : Location} (outside : ¬ root <+: location) :
    Disk.entry? (disk.removeBelow root) location = disk.entry? location := by
  unfold entry? removeBelow
  rw [List.find?_filter]
  refine congrArg _ (List.find?_congr fun entry _ => ?_)
  by_cases same : entry.1 = location
  · subst same
    have kept : root.isPrefixOf entry.1 = false := by
      rwa [Bool.eq_false_iff, Ne, List.isPrefixOf_iff_prefix]
    simp [kept]
  · simp [same]

-- The last name of a path is not followed when it is removed.
theorem resolve_last (leads : disk.resolve true path = .ok (root, some (.directory mode)))
    (is : IsEntryName other) {location : Location} {found : Option Entry}
    (last : disk.resolve false (path.join other) = .ok (location, found)) : location = root ++ [other] := by
  obtain ⟨left, remaining, enough, walks⟩ := resolve_below leads (by simp) (Path.components_join is) false
  obtain ⟨less, rfl⟩ := Nat.exists_eq_add_of_le' enough
  rw [walks] at last
  simp only [List.length_singleton] at last
  rw [walk, if_neg is.not_up] at last
  split at last
  · cases last
  dsimp only at last
  split at last
  · cases last
    rfl
  · cases last
    rfl
  · cases last
    rfl
  · cases last
    rfl

theorem entry?_removeTree (leads : disk.resolve true path = .ok (root, some (.directory mode)))
    (is : IsEntryName other) {location : Location} (outside : ¬ root ++ [other] <+: location) :
    Disk.entry? (disk.removeTree (path.join other)).2 location = disk.entry? location := by
  rw [removeTree]
  split
  · rfl
  · rfl
  · rfl
  · next last =>
    obtain rfl := resolve_last leads is last
    exact entry?_removeBelow outside

namespace HoldsFile

variable {file : String} {content : Nat}

theorem resolve_directory (holds : disk.HoldsFile path name file content root) (is : IsEntryName name)
    (follow : Bool) : ∃ mode, disk.resolve follow (path.join name) =
      .ok (root ++ [name], some (.directory mode)) := by
  obtain ⟨mode, leads⟩ := holds.leads.resolve
  obtain ⟨inner, held⟩ := holds.directory
  obtain ⟨left, remaining, enough, walks⟩ := resolve_below leads (by simp) (Path.components_join is) follow
  obtain ⟨less, rfl⟩ := Nat.exists_eq_add_of_le' enough
  refine ⟨inner, ?_⟩
  rw [walks]
  exact (walk_directory is.not_up holds.name_fits held).trans (by simp [walk, held])

theorem content_eq (holds : disk.HoldsFile path name file content root) (is : IsEntryName name)
    (also : IsEntryName file) : disk.content? ((path.join name).join file) = .ok content := by
  obtain ⟨mode, leads⟩ := holds.leads.resolve
  obtain ⟨inner, held⟩ := holds.directory
  have along : ((path.join name).join file).components = path.components ++ [name, file] := by
    rw [Path.components_join also, Path.components_join is]
    simp
  obtain ⟨left, remaining, enough, walks⟩ := resolve_below leads (by simp) along true
  obtain ⟨less, rfl⟩ := Nat.exists_eq_add_of_le' enough
  have leads := walks.trans
    ((walk_directory is.not_up holds.name_fits held).trans (walk_file also.not_up holds.file_fits holds.held))
  rw [content?, leads]
  rfl

theorem pathExists (holds : disk.HoldsFile path name file content root) : disk.pathExists path = true := by
  obtain ⟨mode, leads⟩ := holds.leads.resolve
  rw [Disk.pathExists, leads]

theorem readDirectory (holds : disk.HoldsFile path name file content root) :
    ∃ names, disk.readDirectory path = .ok names ∧ name ∈ names := by
  obtain ⟨mode, leads⟩ := holds.leads.resolve
  obtain ⟨inner, held⟩ := holds.directory
  refine ⟨disk.namesBelow root, ?_, mem_namesBelow held⟩
  rw [Disk.readDirectory, leads]
  rfl

theorem isDirectory (holds : disk.HoldsFile path name file content root) (is : IsEntryName name) :
    disk.isDirectory (path.join name) = true := by
  obtain ⟨mode, leads⟩ := holds.resolve_directory is true
  rw [Disk.isDirectory, leads]

theorem readFiles (holds : disk.HoldsFile path name file content root) (is : IsEntryName name) :
    ∃ files, disk.readDirectory (path.join name) = .ok files ∧ file ∈ files := by
  obtain ⟨mode, leads⟩ := holds.resolve_directory is true
  refine ⟨disk.namesBelow (root ++ [name]), ?_, mem_namesBelow holds.held⟩
  rw [Disk.readDirectory, leads]
  rfl

theorem change (holds : disk.HoldsFile path name file content root)
    (above : ∀ location, ¬ IsBelow root location → after.entry? location = disk.entry? location)
    (within : ∀ location, root ++ [name] <+: location → after.entry? location = disk.entry? location) :
    after.HoldsFile path name file content root := by
  obtain ⟨mode, held⟩ := holds.directory
  exact ⟨holds.leads.change above, ⟨mode, (within _ (List.prefix_refl _)).trans held⟩,
    (within _ (List.prefix_append _ _)).trans holds.held, holds.name_fits, holds.file_fits⟩

-- Another entry of the directory is removed.
theorem removeTree (holds : disk.HoldsFile path name file content root) (is : IsEntryName other)
    (differs : other ≠ name) :
    (disk.removeTree (path.join other)).2.HoldsFile path name file content root := by
  obtain ⟨mode, leads⟩ := holds.leads.resolve
  refine holds.change (fun location above => ?_) fun location within => ?_
  · refine entry?_removeTree leads is fun inside => above ⟨(List.prefix_append _ _).trans inside, ?_⟩
    rintro rfl
    have longer := inside.length_le
    rw [List.length_append, List.length_singleton] at longer
    omega
  · refine entry?_removeTree leads is fun inside => differs ?_
    -- Both names are the one that follows the directory.
    obtain ⟨after, rfl⟩ := inside
    obtain ⟨later, same⟩ := within
    simpa using congrArg (·[root.length]?) same.symm

end HoldsFile

end Disk

end GpuShare
