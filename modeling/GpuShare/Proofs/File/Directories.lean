import GpuShare.File.Disk

/-! Making directories is in nobody's way: what could be made before others were made can be made after. -/

set_option autoImplicit false

namespace GpuShare

inductive Entry.Becomes : Option Entry → Option Entry → Prop where
  | same (entry : Option Entry) : Becomes entry entry
  | made (mode : Nat) : Becomes none (some (.directory mode))
  | changed (old mode : Nat) : Becomes (some (.directory old)) (some (.directory mode))

/-- A directory is at a place, or nothing is. -/
inductive Entry.IsOpen : Option Entry → Prop where
  | nothing : IsOpen none
  | directory (mode : Nat) : IsOpen (some (.directory mode))

namespace Disk

open Entry

variable {disk after : Disk} {location : Location} {entry found : Option Entry} {path : Path}

theorem entry?_put (disk : Disk) (location other : Location) (entry : Entry) :
    Disk.entry? (disk.put location entry) other =
      if other = location then some entry else disk.entry? other := by
  unfold entry? put
  dsimp only
  induction disk.entries with
  | nil =>
    by_cases same : other = location
    · simp [insertEntry, same]
    · simp [insertEntry, same, Ne.symm same]
  | cons head tail ih =>
    simp only [insertEntry]
    grind

/-- One disk comes of another by making directories. The root is a directory in any case. -/
def Becomes (disk after : Disk) : Prop :=
  ∀ location, location ≠ [] → Entry.Becomes (disk.entry? location) (after.entry? location)

theorem Becomes.refl (disk : Disk) : disk.Becomes disk := fun _ _ => .same _

theorem Becomes.trans {next : Disk} (first : disk.Becomes after) (second : after.Becomes next) :
    disk.Becomes next := by
  intro location below
  have left := first location below
  have right := second location below
  generalize disk.entry? location = old at left
  generalize after.entry? location = middle at left right
  generalize next.entry? location = new at right
  cases left with
  | same => exact right
  | made mode =>
    cases right with
    | same => exact .made mode
    | changed _ mode => exact .made mode
  | changed old mode =>
    cases right with
    | same => exact .changed old mode
    | changed _ mode => exact .changed old mode

theorem becomes_put (isOpen : location ≠ [] → IsOpen (disk.entry? location)) (mode : Nat) :
    disk.Becomes (disk.put location (.directory mode)) := by
  intro other below
  rw [entry?_put]
  split
  · next here =>
    subst here
    have isOpen := isOpen below
    generalize disk.entry? other = old at isOpen
    cases isOpen with
    | nothing => exact .made mode
    | directory old => exact .changed old mode
  · exact .same _

theorem Becomes.put (becomes : disk.Becomes after) (location : Location) (entry : Entry) :
    (disk.put location entry).Becomes (after.put location entry) := by
  intro other below
  rw [entry?_put, entry?_put]
  split
  · exact .same _
  · exact becomes other below

def longestLink (disk : Disk) : Nat :=
  disk.entries.foldl
    (fun most entry => match entry.2 with
      | .link target => max most target.components.length
      | _ => most) 0

theorem walkFuel_eq (disk : Disk) (path : Path) :
    disk.walkFuel path = path.components.length + (maxLinks + 1) * (disk.longestLink + 1) + 1 := rfl

theorem length_le_longestLink {target : Path} (link : disk.entry? location = some (.link target)) :
    target.components.length ≤ disk.longestLink := by
  -- The longest link so far is never given up.
  have bound : ∀ (entries : List (Location × Entry)) (most : Nat),
      let longest := entries.foldl
        (fun most entry => match entry.2 with
          | .link target => max most target.components.length
          | _ => most) most
      most ≤ longest ∧ ∀ entry ∈ entries, entry.2 = .link target →
        target.components.length ≤ longest := by
    intro entries
    induction entries with
    | nil => exact fun most => ⟨Nat.le_refl _, nofun⟩
    | cons head tail ih =>
      intro most
      obtain ⟨grows, covers⟩ := ih (match head.2 with
        | .link target => max most target.components.length
        | _ => most)
      refine ⟨Nat.le_trans ?_ grows, fun entry member is => ?_⟩
      · split
        · exact Nat.le_max_left _ _
        · exact Nat.le_refl _
      · rcases List.mem_cons.1 member with rfl | later
        · refine Nat.le_trans ?_ grows
          rw [is]
          exact Nat.le_max_right _ _
        · exact covers entry later is
  obtain ⟨entry, found, is⟩ := Option.map_eq_some_iff.1 link
  exact (bound disk.entries 0).2 entry (List.mem_of_find?_eq_some found) is

-- A link trades one name and one of the links that are left for the names of its target.
theorem enough_after_link {rest target links longest enough : Nat} (covered : target ≤ longest)
    (some_left : links ≠ 0) (sufficient : rest + 1 + links * longest + 1 ≤ enough + 1) :
    target + rest + (links - 1) * longest + 1 ≤ enough := by
  obtain ⟨fewer, rfl⟩ : ∃ fewer, links = fewer + 1 := ⟨links - 1, by omega⟩
  rw [Nat.add_sub_cancel]
  rw [Nat.add_mul, Nat.one_mul] at sufficient
  omega

-- A walk that ends at a directory, or where nothing is, ends there also after directories were made.
theorem walk_becomes (becomes : disk.Becomes after) {follow : Bool} {fuel enough links : Nat}
    {here : Location} {names : List String}
    (walks : disk.walk follow fuel links here names = .ok (location, found)) (isOpen : IsOpen found)
    (sufficient : names.length + links * after.longestLink + 1 ≤ enough) :
    ∃ now, after.walk follow enough links here names = .ok (location, now) ∧
      Entry.Becomes found now := by
  induction fuel generalizing enough links here names with
  | zero => cases walks
  | succ fuel ih =>
    obtain ⟨enough, rfl⟩ : ∃ less, enough = less + 1 := ⟨enough - 1, by omega⟩
    cases names with
    | nil =>
      rw [walk] at walks ⊢
      obtain ⟨rfl, rfl⟩ := Prod.mk.inj (Except.ok.inj walks)
      refine ⟨_, rfl, ?_⟩
      split
      · exact .same _
      · next below => exact becomes _ fun root => below (List.isEmpty_iff.2 root)
    | cons name rest =>
      rw [List.length_cons] at sufficient
      rw [walk] at walks ⊢
      split
      · next up =>
        rw [if_pos up] at walks
        exact ih walks (by omega)
      next down =>
      rw [if_neg down] at walks
      split
      · next long =>
        rw [if_pos long] at walks
        cases walks
      next short =>
      rw [if_neg short] at walks
      have place := becomes (here ++ [name]) (by simp)
      dsimp only at walks ⊢
      -- The name leads to the same as before, or to a directory that was made since.
      generalize held : disk.entry? (here ++ [name]) = old at walks place
      generalize holds : after.entry? (here ++ [name]) = new at place ⊢
      cases place with
      | same =>
        cases old with
        | none =>
          dsimp only at walks ⊢
          split at walks
          · next last =>
            obtain ⟨rfl, rfl⟩ := Prod.mk.inj (Except.ok.inj walks)
            rw [if_pos last]
            exact ⟨_, rfl, .same _⟩
          · cases walks
        | some entry =>
          cases entry with
          | directory mode => exact ih walks (by omega)
          | file content =>
            dsimp only at walks
            split at walks
            · obtain ⟨rfl, rfl⟩ := Prod.mk.inj (Except.ok.inj walks)
              cases isOpen
            · cases walks
          | link target =>
            dsimp only at walks ⊢
            split at walks
            · obtain ⟨rfl, rfl⟩ := Prod.mk.inj (Except.ok.inj walks)
              cases isOpen
            next follows =>
            rw [if_neg follows]
            split at walks
            · cases walks
            next some_left =>
            rw [if_neg some_left]
            refine ih walks ?_
            rw [List.length_append]
            exact enough_after_link (length_le_longestLink holds) some_left sufficient
      | made mode =>
        dsimp only at walks ⊢
        split at walks
        · next last =>
          obtain ⟨rfl, rfl⟩ := Prod.mk.inj (Except.ok.inj walks)
          obtain rfl := List.isEmpty_iff.1 last
          obtain ⟨enough, rfl⟩ : ∃ less, enough = less + 1 := ⟨enough - 1, by omega⟩
          rw [walk, if_neg (by simp), holds]
          exact ⟨_, rfl, .made mode⟩
        · cases walks
      | changed old mode => exact ih walks (by omega)

-- Whether the last name is followed makes no difference where no link is.
theorem walk_follow {fuel links : Nat} {here : Location} {names : List String}
    (walks : disk.walk false fuel links here names = .ok (location, found)) (isOpen : IsOpen found) :
    disk.walk true fuel links here names = .ok (location, found) := by
  induction fuel generalizing links here names with
  | zero => cases walks
  | succ fuel ih =>
    cases names with
    | nil => exact walks
    | cons name rest =>
      rw [walk] at walks ⊢
      split at walks
      · next up =>
        rw [if_pos up]
        exact ih walks
      next down =>
      rw [if_neg down]
      split at walks
      · cases walks
      next short =>
      rw [if_neg short]
      dsimp only at walks ⊢
      split at walks
      · exact walks
      · exact ih walks
      · exact walks
      · next target _ =>
        split at walks
        · obtain ⟨rfl, rfl⟩ := Prod.mk.inj (Except.ok.inj walks)
          cases isOpen
        · rw [if_neg (by simp)]
          split at walks
          · cases walks
          · next some_left =>
            rw [if_neg some_left]
            exact ih walks

theorem resolve_becomes (becomes : disk.Becomes after) {follow : Bool}
    (leads : disk.resolve follow path = .ok (location, found)) (isOpen : IsOpen found) :
    ∃ now, after.resolve follow path = .ok (location, now) ∧ Entry.Becomes found now := by
  refine walk_becomes becomes leads isOpen ?_
  rw [walkFuel_eq, maxLinks]
  omega

theorem isDirectory_iff :
    disk.isDirectory path = true ↔
      ∃ location mode, disk.resolve true path = .ok (location, some (.directory mode)) := by
  rw [isDirectory]
  split
  · next location mode leads => exact ⟨fun _ => ⟨location, mode, leads⟩, fun _ => rfl⟩
  · next other =>
    constructor
    · nofun
    · rintro ⟨location, mode, leads⟩
      exact absurd leads (other location mode)

theorem isDirectory_becomes (becomes : disk.Becomes after) (is : disk.isDirectory path = true) :
    after.isDirectory path = true := by
  obtain ⟨location, mode, leads⟩ := isDirectory_iff.1 is
  obtain ⟨now, leads, change⟩ := resolve_becomes becomes leads (.directory mode)
  cases change with
  | same => exact isDirectory_iff.2 ⟨location, mode, leads⟩
  | changed _ mode => exact isDirectory_iff.2 ⟨location, mode, leads⟩

theorem makeDirectory_eq_ok (made : (disk.makeDirectory path).1 = .ok ()) :
    ∃ location, disk.resolve false path = .ok (location, none) ∧
      disk.makeDirectory path = (.ok (), disk.put location (.directory defaultMode)) := by
  rw [makeDirectory] at made ⊢
  split at made
  · cases made
  · cases made
  · next location leads =>
    rw [leads]
    exact ⟨location, rfl, rfl⟩

theorem walk_entry {follow : Bool} {fuel links : Nat} {here : Location} {names : List String}
    (walks : disk.walk follow fuel links here names = .ok (location, found)) (below : location ≠ []) :
    disk.entry? location = found := by
  induction fuel generalizing links here names with
  | zero => cases walks
  | succ fuel ih =>
    cases names with
    | nil =>
      rw [walk] at walks
      obtain ⟨rfl, is⟩ := Prod.mk.inj (Except.ok.inj walks)
      rwa [if_neg (by simpa using below)] at is
    | cons name rest =>
      rw [walk] at walks
      split at walks
      · exact ih walks
      split at walks
      · cases walks
      dsimp only at walks
      split at walks
      · next held =>
        split at walks
        · obtain ⟨rfl, rfl⟩ := Prod.mk.inj (Except.ok.inj walks)
          exact held
        · cases walks
      · exact ih walks
      · next held =>
        split at walks
        · obtain ⟨rfl, rfl⟩ := Prod.mk.inj (Except.ok.inj walks)
          exact held
        · cases walks
      · next held =>
        split at walks
        · obtain ⟨rfl, rfl⟩ := Prod.mk.inj (Except.ok.inj walks)
          exact held
        split at walks
        · cases walks
        · exact ih walks

theorem makeDirectory_becomes (disk : Disk) (path : Path) :
    disk.Becomes (disk.makeDirectory path).2 := by
  rw [makeDirectory]
  split
  · exact .refl disk
  · exact .refl disk
  · next location leads =>
    refine becomes_put (fun below => ?_) _
    rw [walk_entry leads below]
    exact .nothing

/-- Makes the next directory, unless one before it could not be made. -/
def makeNext (state : Except FileError Unit × Disk) (path : Path) : Except FileError Unit × Disk :=
  match state with
  | (.error error, disk) => (.error error, disk)
  | (.ok (), disk) => if disk.isDirectory path then (.ok (), disk) else disk.makeDirectory path

theorem makeDirectories_eq (disk : Disk) (path : Path) :
    disk.makeDirectories path = (ancestors path).foldl makeNext (.ok (), disk) := rfl

theorem foldl_makeNext_error (error : FileError) (disk : Disk) (paths : List Path) :
    paths.foldl makeNext (.error error, disk) = (.error error, disk) := by
  induction paths with
  | nil => rfl
  | cons path paths ih => exact ih

theorem foldl_makeNext_becomes (paths : List Path) (disk : Disk) :
    disk.Becomes (paths.foldl makeNext (.ok (), disk)).2 := by
  induction paths generalizing disk with
  | nil => exact .refl disk
  | cons path paths ih =>
    rw [List.foldl_cons, makeNext]
    split
    · exact ih disk
    · have made := makeDirectory_becomes disk path
      generalize disk.makeDirectory path = next at made ⊢
      obtain ⟨outcome, next⟩ := next
      cases outcome with
      | ok _ => exact made.trans (ih next)
      | error error =>
        rw [foldl_makeNext_error]
        exact made

theorem makeDirectories_becomes (disk : Disk) (path : Path) :
    disk.Becomes (disk.makeDirectories path).2 := by
  rw [makeDirectories_eq]
  exact foldl_makeNext_becomes _ disk

theorem setMode_becomes (disk : Disk) (path : Path) (mode : Nat) :
    disk.Becomes (disk.setMode path mode) := by
  rw [setMode]
  split
  · next location old leads =>
    refine becomes_put (fun below => ?_) mode
    rw [walk_entry leads below]
    exact .directory old
  · exact .refl disk

theorem makeNext_becomes (becomes : disk.Becomes after)
    (made : (makeNext (.ok (), disk) path).1 = .ok ()) :
    (makeNext (.ok (), after) path).1 = .ok () ∧
      (makeNext (.ok (), disk) path).2.Becomes (makeNext (.ok (), after) path).2 := by
  rw [makeNext] at made ⊢
  rw [makeNext]
  split at made
  · next is =>
    rw [if_pos is, if_pos (isDirectory_becomes becomes is)]
    exact ⟨rfl, becomes⟩
  · next other =>
    rw [if_neg other]
    obtain ⟨location, leads, makes⟩ := makeDirectory_eq_ok made
    rw [makes]
    obtain ⟨now, leadsNow, change⟩ := resolve_becomes becomes leads .nothing
    cases change with
    | same =>
      have still : ¬ after.isDirectory path = true := by
        intro is
        obtain ⟨place, mode, here⟩ := isDirectory_iff.1 is
        have nothing : after.resolve true path = .ok (location, none) := walk_follow leadsNow .nothing
        rw [nothing] at here
        cases here
      rw [if_neg still, makeDirectory, leadsNow]
      exact ⟨rfl, becomes.put location _⟩
    | made mode =>
      -- Another call has made this directory.
      have is : after.isDirectory path = true :=
        isDirectory_iff.2 ⟨location, mode, walk_follow leadsNow (.directory mode)⟩
      rw [if_pos is]
      refine ⟨rfl, fun other below => ?_⟩
      rw [entry?_put]
      split
      · next here =>
        subst here
        rw [walk_entry leadsNow below]
        exact .changed _ mode
      · exact becomes other below

def CanMake (disk : Disk) (path : Path) : Prop := (disk.makeDirectories path).1 = .ok ()

theorem CanMake.becomes (canMake : disk.CanMake path) (becomes : disk.Becomes after) :
    after.CanMake path := by
  rw [CanMake, makeDirectories_eq] at canMake ⊢
  generalize ancestors path = paths at canMake
  induction paths generalizing disk after becomes with
  | nil => rfl
  | cons path paths ih =>
    rw [List.foldl_cons] at canMake ⊢
    have done : (makeNext (.ok (), disk) path).1 = .ok () := by
      generalize makeNext (.ok (), disk) path = next at canMake
      obtain ⟨outcome, next⟩ := next
      cases outcome with
      | ok _ => rfl
      | error error =>
        rw [foldl_makeNext_error] at canMake
        cases canMake
    obtain ⟨doneAfter, becomesAfter⟩ := makeNext_becomes becomes done
    generalize makeNext (.ok (), disk) path = next at canMake done becomesAfter
    generalize makeNext (.ok (), after) path = nextAfter at doneAfter becomesAfter ⊢
    obtain ⟨outcome, next⟩ := next
    obtain ⟨outcomeAfter, nextAfter⟩ := nextAfter
    obtain rfl : outcome = .ok () := done
    obtain rfl : outcomeAfter = .ok () := doneAfter
    exact ih becomesAfter canMake

end Disk

end GpuShare
