/-!
Dictionaries from text: entries in strictly ascending key order, so a key has one entry and two
dictionaries with the same look-ups are equal.
-/

set_option autoImplicit false

namespace GpuShare

/-- Entries in strictly ascending key order. -/
structure Dictionary (α : Type) where
  entries : List (String × α)
  sorted : entries.Pairwise fun a b => a.1 < b.1

namespace Dictionary

variable {α β : Type}

def empty : Dictionary α := ⟨[], .nil⟩

instance : EmptyCollection (Dictionary α) := ⟨empty⟩
instance : Inhabited (Dictionary α) := ⟨empty⟩

instance [DecidableEq α] : DecidableEq (Dictionary α) := fun a b =>
  if same : a.entries = b.entries then
    isTrue (by cases a; cases b; simp only at same; subst same; rfl)
  else isFalse fun equal => same (by rw [equal])

instance [Repr α] : Repr (Dictionary α) := ⟨fun dictionary => reprPrec dictionary.entries⟩

def lookupEntry (key : String) : List (String × α) → Option α
  | [] => none
  | entry :: entries => if entry.1 = key then some entry.2 else lookupEntry key entries

def insertEntry (key : String) (value : α) : List (String × α) → List (String × α)
  | [] => [(key, value)]
  | entry :: entries =>
    if key < entry.1 then (key, value) :: entry :: entries
    else if key = entry.1 then (key, value) :: entries
    else entry :: insertEntry key value entries

theorem mem_insertEntry {key : String} {value : α} {entry : String × α}
    {entries : List (String × α)} (member : entry ∈ insertEntry key value entries) :
    entry = (key, value) ∨ entry ∈ entries := by
  induction entries with
  | nil => simpa [insertEntry] using member
  | cons head tail ih => simp only [insertEntry] at member; grind

theorem sorted_insertEntry (key : String) (value : α) (entries : List (String × α))
    (sorted : entries.Pairwise fun a b => a.1 < b.1) :
    (insertEntry key value entries).Pairwise fun a b => a.1 < b.1 := by
  induction entries with
  | nil => simp [insertEntry]
  | cons head tail ih =>
    obtain ⟨first, rest⟩ := List.pairwise_cons.1 sorted
    simp only [insertEntry]
    split
    · next before =>
      refine List.pairwise_cons.2 ⟨fun entry member => ?_, sorted⟩
      rcases List.mem_cons.1 member with rfl | member
      · exact before
      · exact String.lt_trans before (first entry member)
    · split
      · next before same =>
        refine List.pairwise_cons.2 ⟨fun entry member => ?_, rest⟩
        simp only [same]
        exact first entry member
      · next before other =>
        refine List.pairwise_cons.2 ⟨fun entry member => ?_, ih rest⟩
        rcases mem_insertEntry member with rfl | member
        · simp only; grind
        · exact first entry member

def get? (dictionary : Dictionary α) (key : String) : Option α := lookupEntry key dictionary.entries

def insert (dictionary : Dictionary α) (key : String) (value : α) : Dictionary α :=
  ⟨insertEntry key value dictionary.entries, sorted_insertEntry _ _ _ dictionary.sorted⟩

def erase (dictionary : Dictionary α) (key : String) : Dictionary α :=
  ⟨dictionary.entries.filter (·.1 ≠ key), dictionary.sorted.filter _⟩

/-- The dictionary of a list of entries; of entries with one key the last counts. -/
def ofList (entries : List (String × α)) : Dictionary α :=
  entries.foldl (fun dictionary entry => dictionary.insert entry.1 entry.2) empty

def map (f : α → β) (dictionary : Dictionary α) : Dictionary β :=
  ⟨dictionary.entries.map fun entry => (entry.1, f entry.2),
    List.pairwise_map.2 dictionary.sorted⟩

def contains (dictionary : Dictionary α) (key : String) : Bool := (dictionary.get? key).isSome

def keys (dictionary : Dictionary α) : List String := dictionary.entries.map (·.1)

theorem lookupEntry_insertEntry (key other : String) (value : α) (entries : List (String × α)) :
    lookupEntry other (insertEntry key value entries) =
      if other = key then some value else lookupEntry other entries := by
  induction entries with
  | nil => simp only [insertEntry, lookupEntry]; grind
  | cons head tail ih => simp only [insertEntry]; grind [lookupEntry]

theorem get?_insert (dictionary : Dictionary α) (key other : String) (value : α) :
    (dictionary.insert key value).get? other =
      if other = key then some value else dictionary.get? other :=
  lookupEntry_insertEntry key other value dictionary.entries

theorem get?_erase (dictionary : Dictionary α) (key other : String) :
    (dictionary.erase key).get? other =
      if other = key then none else dictionary.get? other := by
  simp only [get?, erase]
  induction dictionary.entries with
  | nil => simp [lookupEntry]
  | cons head tail ih => simp only [List.filter_cons, lookupEntry]; grind [lookupEntry]

theorem get?_empty (key : String) : (empty : Dictionary α).get? key = none := rfl

end Dictionary

end GpuShare
