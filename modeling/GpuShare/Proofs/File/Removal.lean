import Mathlib.Data.List.Basic
import GpuShare.Proofs.File.Below

/-!
Entries that are removed from a directory. What can be reached afterwards could be reached before, in the same
way, so nothing becomes a directory by a removal, and no directory comes to list more. The way to an entry of a
directory is the way to the directory and one name more.
-/

set_option autoImplicit false

namespace GpuShare

namespace Disk

variable {disk after : Disk} {follow : Bool} {fuel links mode : Nat} {root here location : Location}
  {names front : List String} {name : String} {entry : Entry} {path base : Path}

/-! ## Walks -/

/-- A walk along names that ends where something is, by the links that may be followed on the way. -/
inductive Walks (disk : Disk) (follow : Bool) : Nat → Location → List String → Location → Entry → Prop where
  | root {links : Nat} : Walks disk follow links [] [] [] (.directory 0o755)
  | here {links : Nat} {here : Location} {entry : Entry} : here ≠ [] → disk.entry? here = some entry →
      Walks disk follow links here [] here entry
  | up {links : Nat} {here location : Location} {rest : List String} {entry : Entry} :
      Walks disk follow links here.dropLast rest location entry →
      Walks disk follow links here (".." :: rest) location entry
  | down {links mode : Nat} {here location : Location} {name : String} {rest : List String} {entry : Entry} :
      name ≠ ".." → name.utf8ByteSize ≤ maxName → disk.entry? (here ++ [name]) = some (.directory mode) →
      Walks disk follow links (here ++ [name]) rest location entry →
      Walks disk follow links here (name :: rest) location entry
  | file {links content : Nat} {here : Location} {name : String} :
      name ≠ ".." → name.utf8ByteSize ≤ maxName → disk.entry? (here ++ [name]) = some (.file content) →
      Walks disk follow links here [name] (here ++ [name]) (.file content)
  | unfollowed {links : Nat} {here : Location} {name : String} {target : Path} : follow = false →
      name ≠ ".." → name.utf8ByteSize ≤ maxName → disk.entry? (here ++ [name]) = some (.link target) →
      Walks disk follow links here [name] (here ++ [name]) (.link target)
  | link {links : Nat} {here location : Location} {name : String} {rest : List String} {target : Path}
      {entry : Entry} : (rest = [] → follow = true) →
      name ≠ ".." → name.utf8ByteSize ≤ maxName → disk.entry? (here ++ [name]) = some (.link target) →
      Walks disk follow links (if target.isAbsolute then [] else here) (target.components ++ rest) location entry →
      Walks disk follow (links + 1) here (name :: rest) location entry

theorem walks_of_walk (walks : disk.walk follow fuel links here names = .ok (location, some entry)) :
    Walks disk follow links here names location entry := by
  induction fuel generalizing links here names with
  | zero => cases walks
  | succ fuel ih =>
    cases names with
    | nil =>
      rw [walk] at walks
      obtain ⟨rfl, is⟩ := Prod.mk.inj (Except.ok.inj walks)
      cases here with
      | nil =>
        obtain rfl := Option.some.inj is
        exact .root
      | cons first others => exact .here (List.cons_ne_nil _ _) is
    | cons name rest =>
      rw [walk] at walks
      split at walks
      · next up =>
        subst up
        exact .up (ih walks)
      next down =>
      split at walks
      · cases walks
      next short =>
      have fits := Nat.le_of_not_lt short
      dsimp only at walks
      split at walks
      · split at walks <;> cases walks
      · next mode held => exact .down down fits held (ih walks)
      · next content held =>
        split at walks
        · next last =>
          obtain rfl := List.isEmpty_iff.1 last
          obtain ⟨rfl, is⟩ := Prod.mk.inj (Except.ok.inj walks)
          obtain rfl := Option.some.inj is
          exact .file down fits held
        · cases walks
      · next target held =>
        split at walks
        · next last =>
          obtain rfl := List.isEmpty_iff.1 last.1
          obtain ⟨rfl, is⟩ := Prod.mk.inj (Except.ok.inj walks)
          obtain rfl := Option.some.inj is
          exact .unfollowed (by simpa using last.2) down fits held
        next follows =>
        split at walks
        · cases walks
        next some_left =>
        obtain ⟨fewer, rfl⟩ := Nat.exists_eq_succ_of_ne_zero some_left
        exact .link (by simpa using follows) down fits held (ih walks)

theorem Walks.walk (walks : Walks disk follow links here names location entry)
    (enough : names.length + links * disk.longestLink + 1 ≤ fuel) :
    disk.walk follow fuel links here names = .ok (location, some entry) := by
  induction walks generalizing fuel with
  | root =>
    obtain ⟨fuel, rfl⟩ : ∃ less, fuel = less + 1 := ⟨fuel - 1, by omega⟩
    rfl
  | here below held =>
    obtain ⟨fuel, rfl⟩ : ∃ less, fuel = less + 1 := ⟨fuel - 1, by omega⟩
    rw [Disk.walk, held, if_neg (by simpa using below)]
  | up _ ih =>
    obtain ⟨fuel, rfl⟩ : ∃ less, fuel = less + 1 := ⟨fuel - 1, by omega⟩
    rw [List.length_cons] at enough
    rw [Disk.walk, if_pos rfl]
    exact ih (by omega)
  | down down fits held _ ih =>
    obtain ⟨fuel, rfl⟩ : ∃ less, fuel = less + 1 := ⟨fuel - 1, by omega⟩
    rw [List.length_cons] at enough
    rw [walk_directory down fits held]
    exact ih (by omega)
  | file down fits held =>
    obtain ⟨fuel, rfl⟩ : ∃ less, fuel = less + 1 := ⟨fuel - 1, by omega⟩
    exact walk_file down fits held
  | unfollowed stays down fits held =>
    obtain ⟨fuel, rfl⟩ : ∃ less, fuel = less + 1 := ⟨fuel - 1, by omega⟩
    rw [Disk.walk, if_neg down, if_neg (Nat.not_lt.2 fits)]
    simp [held, stays]
  | link follows down fits held _ ih =>
    obtain ⟨fuel, rfl⟩ : ∃ less, fuel = less + 1 := ⟨fuel - 1, by omega⟩
    rw [List.length_cons] at enough
    have goesOn := enough_after_link (length_le_longestLink held) (Nat.succ_ne_zero _) enough
    rw [Disk.walk, if_neg down, if_neg (Nat.not_lt.2 fits)]
    simp only [held, List.isEmpty_iff, Nat.add_one_ne_zero, if_false]
    rw [if_neg (by simpa using follows)]
    refine ih ?_
    rwa [List.length_append]

theorem resolve_iff : disk.resolve follow path = .ok (location, some entry) ↔
    Walks disk follow maxLinks [] path.components location entry := by
  refine ⟨walks_of_walk, fun walks => walks.walk ?_⟩
  rw [walkFuel_eq, maxLinks]
  omega

-- Where the last name is no link, it makes no difference whether it is followed.
theorem Walks.followed (walks : Walks disk false links here names location entry)
    (plain : ∀ target, entry ≠ .link target) : Walks disk true links here names location entry := by
  induction walks with
  | root => exact .root
  | here below held => exact .here below held
  | up _ ih => exact .up (ih plain)
  | down down fits held _ ih => exact .down down fits held (ih plain)
  | file down fits held => exact .file down fits held
  | unfollowed _ _ _ _ => exact absurd rfl (plain _)
  | link _ down fits held _ ih => exact .link (fun _ => rfl) down fits held (ih plain)

theorem resolve_follow (leads : disk.resolve false path = .ok (location, some entry))
    (plain : ∀ target, entry ≠ .link target) : disk.resolve true path = .ok (location, some entry) :=
  resolve_iff.2 ((resolve_iff.1 leads).followed plain)

/-! ## Less than before -/

def Within (after disk : Disk) : Prop :=
  ∀ location entry, after.entry? location = some entry → disk.entry? location = some entry

theorem Walks.within (within : after.Within disk) (walks : Walks after follow links here names location entry) :
    Walks disk follow links here names location entry := by
  induction walks with
  | root => exact .root
  | here below held => exact .here below (within _ _ held)
  | up _ ih => exact .up ih
  | down down fits held _ ih => exact .down down fits (within _ _ held) ih
  | file down fits held => exact .file down fits (within _ _ held)
  | unfollowed stays down fits held => exact .unfollowed stays down fits (within _ _ held)
  | link follows down fits held _ ih => exact .link follows down fits (within _ _ held) ih

theorem Within.refl (disk : Disk) : disk.Within disk := fun _ _ => id

theorem Within.trans {last : Disk} (second : last.Within after) (first : after.Within disk) :
    last.Within disk :=
  fun location entry held => first location entry (second location entry held)

theorem resolve_within (within : after.Within disk)
    (leads : after.resolve follow path = .ok (location, some entry)) :
    disk.resolve follow path = .ok (location, some entry) :=
  resolve_iff.2 ((resolve_iff.1 leads).within within)

theorem isDirectory_within (within : after.Within disk) (is : after.isDirectory path = true) :
    disk.isDirectory path = true := by
  obtain ⟨location, mode, leads⟩ := isDirectory_iff.1 is
  exact isDirectory_iff.2 ⟨location, mode, resolve_within within leads⟩

theorem pathExists_iff : disk.pathExists path = true ↔
    ∃ location entry, disk.resolve true path = .ok (location, some entry) := by
  rw [pathExists]
  split
  · next location entry leads => exact iff_of_true rfl ⟨location, entry, leads⟩
  · next nothing =>
    refine iff_of_false Bool.false_ne_true ?_
    rintro ⟨location, entry, leads⟩
    exact nothing location entry leads

theorem isDirectory_of_missing (missing : disk.pathExists path = false) : disk.isDirectory path = false := by
  refine Bool.eq_false_iff.2 fun is => Bool.eq_false_iff.1 missing ?_
  obtain ⟨location, mode, leads⟩ := isDirectory_iff.1 is
  exact pathExists_iff.2 ⟨location, _, leads⟩

theorem pathExists_within (within : after.Within disk) (there : after.pathExists path = true) :
    disk.pathExists path = true := by
  obtain ⟨location, entry, leads⟩ := pathExists_iff.1 there
  exact pathExists_iff.2 ⟨location, entry, resolve_within within leads⟩

-- A path that still leads somewhere leads to a directory if it led to one.
theorem isDirectory_of_pathExists (within : after.Within disk) (is : disk.isDirectory path = true)
    (there : after.pathExists path = true) : after.isDirectory path = true := by
  obtain ⟨location, entry, leads⟩ := pathExists_iff.1 there
  obtain ⟨place, mode, found⟩ := isDirectory_iff.1 is
  cases (resolve_within within leads).symm.trans found
  exact isDirectory_iff.2 ⟨location, mode, leads⟩

theorem readDirectory_iff : disk.readDirectory path = .ok names ↔
    ∃ root mode, disk.resolve true path = .ok (root, some (.directory mode)) ∧ disk.namesBelow root = names := by
  rw [readDirectory]
  generalize disk.resolve true path = found
  rcases found with error | ⟨root, _ | _ | mode | _⟩
  all_goals simp [bind, Except.bind]

theorem mem_namesBelow_iff : name ∈ disk.namesBelow root ↔ ∃ entry, disk.entry? (root ++ [name]) = some entry := by
  refine ⟨fun member => ?_, fun ⟨_, held⟩ => mem_namesBelow held⟩
  obtain ⟨found, held, last⟩ := List.mem_filterMap.1 member
  split at last
  · next above =>
    have place : found.1 = root ++ [name] := by
      rw [← above]
      exact (List.dropLast_append_getLast? name last).symm
    rw [← place, entry?]
    cases first : disk.entries.find? (·.1 == found.1) with
    | none => simpa using List.find?_eq_none.1 first found held
    | some other => exact ⟨other.2, rfl⟩
  · cases last

theorem readDirectory_within (within : after.Within disk) (reads : after.readDirectory path = .ok names) :
    ∃ more, disk.readDirectory path = .ok more ∧ names ⊆ more := by
  obtain ⟨root, mode, leads, rfl⟩ := readDirectory_iff.1 reads
  refine ⟨_, readDirectory_iff.2 ⟨root, mode, resolve_within within leads, rfl⟩, fun name member => ?_⟩
  obtain ⟨entry, held⟩ := mem_namesBelow_iff.1 member
  exact mem_namesBelow_iff.2 ⟨entry, within _ _ held⟩

/-! ## The way to an entry of a directory -/

/-- A walk has come down to a place, so it and all places above it are directories. -/
def Stands (disk : Disk) (here : Location) : Prop :=
  ∀ front, front ≠ [] → front <+: here → ∃ mode, disk.entry? front = some (.directory mode)

theorem stands_root (disk : Disk) : disk.Stands [] :=
  fun _ some_name above => absurd (List.prefix_nil.1 above) some_name

theorem Stands.dropLast (stands : disk.Stands here) : disk.Stands here.dropLast :=
  fun front some_name above => stands front some_name (above.trans (List.dropLast_prefix here))

theorem Stands.down (stands : disk.Stands here) (held : disk.entry? (here ++ [name]) = some (.directory mode)) :
    disk.Stands (here ++ [name]) := by
  intro front some_name above
  obtain rfl | higher := List.prefix_concat_iff.1 above
  · exact ⟨mode, held⟩
  · exact stands front some_name higher

theorem Stands.link (stands : disk.Stands here) (target : Path) :
    disk.Stands (if target.isAbsolute then [] else here) := by
  split
  · exact disk.stands_root
  · exact stands

theorem Stands.walks (stands : disk.Stands here) : ∃ mode, Walks disk follow links here [] here (.directory mode) := by
  cases here with
  | nil => exact ⟨_, .root⟩
  | cons first others =>
    obtain ⟨mode, held⟩ := stands _ (List.cons_ne_nil first others) (List.prefix_refl _)
    exact ⟨mode, .here (List.cons_ne_nil _ _) held⟩

structure Has (disk : Disk) (links : Nat) (here : Location) (front : List String) (name : String)
    (root : Location) : Prop where
  walks : ∃ mode, Walks disk true links here front root (.directory mode)
  fits : name.utf8ByteSize ≤ maxName
  held : ∃ entry, disk.entry? (root ++ [name]) = some entry

-- The last name is met where the walk along the others ends.
theorem Walks.has (walks : Walks disk follow links here names location entry) (split : names = front ++ [name])
    (down : name ≠ "..") (stands : disk.Stands here) : ∃ root, Has disk links here front name root := by
  induction walks generalizing front with
  | root | here => simp at split
  | up walks ih =>
    cases front with
    | nil => simp [down.symm] at split
    | cons first front =>
      obtain ⟨rfl, rfl⟩ := List.cons.inj split
      obtain ⟨root, ⟨mode, along⟩, fits, held⟩ := ih rfl stands.dropLast
      exact ⟨root, ⟨mode, .up along⟩, fits, held⟩
  | down onward fits held walks ih =>
    cases front with
    | nil =>
      obtain ⟨rfl, -⟩ := List.cons.inj split
      exact ⟨_, stands.walks, fits, _, held⟩
    | cons first front =>
      obtain ⟨rfl, rfl⟩ := List.cons.inj split
      obtain ⟨root, ⟨mode, along⟩, short, inside⟩ := ih rfl (stands.down held)
      exact ⟨root, ⟨mode, .down onward fits held along⟩, short, inside⟩
  | file _ fits held | unfollowed _ _ fits held =>
    cases front with
    | nil =>
      obtain ⟨rfl, -⟩ := List.cons.inj split
      exact ⟨_, stands.walks, fits, _, held⟩
    | cons first front => simp at split
  | link follows onward fits held walks ih =>
    cases front with
    | nil =>
      obtain ⟨rfl, -⟩ := List.cons.inj split
      exact ⟨_, stands.walks, fits, _, held⟩
    | cons first front =>
      obtain ⟨rfl, rfl⟩ := List.cons.inj split
      obtain ⟨root, ⟨mode, along⟩, short, inside⟩ := ih (List.append_assoc ..).symm (stands.link _)
      exact ⟨root, ⟨mode, .link (fun _ => rfl) onward fits held along⟩, short, inside⟩

/-- What is found below a directory is an entry of it. -/
theorem resolve_join (is : IsEntryName name)
    (leads : disk.resolve follow (base.join name) = .ok (location, some entry)) :
    ∃ root mode, disk.resolve true base = .ok (root, some (.directory mode)) ∧
      name.utf8ByteSize ≤ maxName ∧ ∃ entry, disk.entry? (root ++ [name]) = some entry := by
  obtain ⟨root, ⟨mode, along⟩, fits, held⟩ :=
    (resolve_iff.1 leads).has (Path.components_join is) is.not_up disk.stands_root
  exact ⟨root, mode, resolve_iff.2 along, fits, held⟩

/-! ## Removing entries of a directory -/

/-- The disk without some entries of a directory and all that is below them. -/
def without (disk : Disk) (root : Location) (gone : List String) : Disk :=
  { disk with entries := disk.entries.filter fun entry =>
      !gone.any fun name => (root ++ [name]).isPrefixOf entry.1 }

theorem without_nil (disk : Disk) (root : Location) : disk.without root [] = disk := by
  simp [without]

theorem without_without (disk : Disk) (root : Location) (first later : List String) :
    (disk.without root first).without root later = disk.without root (first ++ later) := by
  simp [without, List.filter_filter, Bool.and_comm]

theorem removeBelow_eq (disk : Disk) (root : Location) (name : String) :
    disk.removeBelow (root ++ [name]) = disk.without root [name] := by
  simp [removeBelow, without]

theorem entry?_without (disk : Disk) (root : Location) (gone : List String) (location : Location) :
    Disk.entry? (disk.without root gone) location =
      if ∃ name ∈ gone, root ++ [name] <+: location then none else disk.entry? location := by
  unfold entry? without
  rw [List.find?_filter]
  split
  · next below =>
    refine Option.map_eq_none_iff.2 (List.find?_eq_none.2 fun entry _ => ?_)
    by_cases same : entry.1 = location
    · simpa [same] using below
    · simp [same]
  · next outside =>
    refine congrArg _ (List.find?_congr fun entry _ => ?_)
    by_cases same : entry.1 = location
    · simpa [same] using outside
    · simp [same]

theorem within_without (disk : Disk) (root : Location) (gone : List String) :
    (disk.without root gone).Within disk := by
  intro location entry held
  rw [entry?_without] at held
  split at held
  · cases held
  · exact held

-- What a path below a directory leads to, if the last name is not followed.
theorem resolve_entry (is : IsEntryName name) (fits : name.utf8ByteSize ≤ maxName)
    (above : disk.resolve true base = .ok (root, some (.directory mode)))
    (held : disk.entry? (root ++ [name]) = some entry) :
    disk.resolve false (base.join name) = .ok (root ++ [name], some entry) := by
  obtain ⟨left, links, enough, last⟩ := resolve_below above (by simp) (Path.components_join is) false
  obtain ⟨fuel, rfl⟩ := Nat.exists_eq_add_of_le' enough
  rw [last, List.length_singleton]
  cases entry with
  | file content => exact walk_file is.not_up fits held
  | directory mode =>
    rw [walk_directory is.not_up fits held]
    simp [walk, held]
  | link target =>
    rw [walk, if_neg is.not_up, if_neg (Nat.not_lt.2 fits)]
    simp [held]

-- What leads to a directory is removed from the directory that its path is in.
theorem removeTree_join (is : IsEntryName name) (leads : disk.isDirectory (base.join name) = true) :
    ∃ root mode, disk.resolve true base = .ok (root, some (.directory mode)) ∧
      (disk.removeTree (base.join name)).2 = disk.without root [name] := by
  obtain ⟨location, inner, found⟩ := isDirectory_iff.1 leads
  obtain ⟨root, mode, above, fits, entry, held⟩ := resolve_join is found
  refine ⟨root, mode, above, ?_⟩
  have here := resolve_entry is fits above held
  rw [removeTree, here]
  cases entry with
  | file content =>
    have plain : ∀ target, Entry.file content ≠ .link target := by
      intro target other
      cases other
    cases found.symm.trans (resolve_follow here plain)
  | directory mode => exact removeBelow_eq disk root name
  | link target => exact removeBelow_eq disk root name

-- A removed entry leads nowhere.
theorem isDirectory_without (is : IsEntryName name) {gone : List String} (among : name ∈ gone)
    (base_leads : disk.resolve true base = .ok (root, some (.directory mode))) :
    (disk.without root gone).isDirectory (base.join name) = false := by
  refine Bool.eq_false_iff.2 fun leads => ?_
  obtain ⟨location, inner, found⟩ := isDirectory_iff.1 leads
  obtain ⟨place, mode, above, fits, entry, held⟩ := resolve_join is found
  have same := (resolve_within (within_without disk root gone) above).symm.trans base_leads
  obtain ⟨rfl, -⟩ := Prod.mk.inj (Except.ok.inj same)
  rw [entry?_without, if_pos ⟨name, among, List.prefix_refl _⟩] at held
  cases held

end Disk

end GpuShare
