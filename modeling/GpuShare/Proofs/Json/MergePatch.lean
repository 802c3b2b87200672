import GpuShare.Json.Value
import Mathlib.Data.List.Induction

/-!
Merge patches of JSON values. A patch that is an object changes the members that it names, one by one: null
removes a member, an object is merged into it, and any other value takes its place. Whatever a patch does
not name stays.
-/

set_option autoImplicit false

namespace GpuShare.Json

/-- The members of an object; any other value has none. -/
def Value.members : Value → List (Option String × Value)
  | .object members => members
  | _ => []

def Value.at? : Value → List String → Option Value
  | value, [] => some value
  | value, name :: path => (lookup? name value.members).bind (·.at? path)

def without (key : String) (members : List (Option String × Value)) : List (Option String × Value) :=
  members.filter fun member => member.1 ≠ some key

def setMember (key : String) (value : Value) (members : List (Option String × Value)) :
    List (Option String × Value) :=
  without key members ++ [(some key, value)]

mutual

def Value.merge (target : Value) : Value → Value
  | .object changes => .object (mergeMembers target.members changes)
  | patch => patch

/-- The members of an object after a merge patch; a name without text names no member. -/
def mergeMembers : List (Option String × Value) → List (Option String × Value) →
    List (Option String × Value)
  | target, [] => target
  | target, (none, _) :: changes => mergeMembers target changes
  | target, (some key, .null) :: changes => mergeMembers (without key target) changes
  | target, (some key, change) :: changes =>
    mergeMembers (setMember key (((lookup? key target).getD .null).merge change) target) changes

end

def changed (old : Option Value) : Option Value → Option Value
  | none => old
  | some .null => none
  | some change => some ((old.getD .null).merge change)

section Members

variable {key other : String} {members target changes : List (Option String × Value)}

theorem lookup?_concat (member : Option String × Value) :
    lookup? key (members ++ [member]) =
      if member.1 = some key then some member.2 else lookup? key members := by
  simp [lookup?]

theorem lookup?_cons (member : Option String × Value) :
    lookup? key (member :: members) =
      (lookup? key members).or (if member.1 = some key then some member.2 else none) := by
  induction members using List.reverseRecOn with
  | nil => simp [lookup?]
  | append_singleton members last ih =>
    rw [← List.cons_append, lookup?_concat, lookup?_concat, ih]
    split
    · rfl
    · rfl

theorem without_cons (member : Option String × Value) : without key (member :: members) =
    if member.1 = some key then without key members else member :: without key members := by
  by_cases same : member.1 = some key
  · simp [without, same]
  · simp [without, same]

theorem lookup?_without :
    lookup? other (without key members) = if other = key then none else lookup? other members := by
  induction members with
  | nil => simp [without, lookup?]
  | cons member members ih =>
    rw [without_cons, lookup?_cons]
    by_cases here : other = key
    · subst here
      by_cases same : member.1 = some other
      · simp [same, ih]
      · simp [same, ih, lookup?_cons]
    · by_cases same : member.1 = some key
      · simp [same, ih, here, Ne.symm here]
      · simp [same, ih, here, lookup?_cons]

theorem lookup?_setMember (value : Value) : lookup? other (setMember key value members) =
    if other = key then some value else lookup? other members := by
  rw [setMember, lookup?_concat, lookup?_without]
  by_cases here : other = key
  · simp [here]
  · simp [here, Ne.symm here]

theorem lookup?_eq_none (absent : ∀ member ∈ members, member.1 ≠ some key) :
    lookup? key members = none := by
  induction members with
  | nil => rfl
  | cons member members ih =>
    rw [lookup?_cons, ih fun other listed => absent other (List.mem_cons_of_mem _ listed),
      if_neg (absent member List.mem_cons_self)]
    rfl

-- What one change does.
theorem mergeMembers_cons (name : String) (change : Value) :
    ∃ next, mergeMembers target ((some name, change) :: changes) = mergeMembers next changes ∧
      ∀ key, lookup? key next =
        if key = name then changed (lookup? name target) (some change) else lookup? key target := by
  cases change with
  | null => exact ⟨without name target, by rw [mergeMembers], fun key => lookup?_without⟩
  | _ => exact ⟨_, by rw [mergeMembers]; nofun, fun key => lookup?_setMember _⟩

-- Every member after a patch whose names are distinct.
theorem lookup?_mergeMembers (distinct : (changes.map (·.1)).Nodup) :
    lookup? key (mergeMembers target changes) =
      changed (lookup? key target) (lookup? key changes) := by
  induction changes generalizing target with
  | nil => rw [mergeMembers]; rfl
  | cons change changes ih =>
    obtain ⟨fresh, others⟩ := List.nodup_cons.1 distinct
    obtain ⟨name, value⟩ := change
    cases name with
    | none => simp [mergeMembers, ih others, lookup?_cons]
    | some name =>
      have absent : lookup? name changes = none :=
        lookup?_eq_none fun other listed same => fresh (List.mem_map.2 ⟨other, listed, same⟩)
      obtain ⟨next, merged, members⟩ := mergeMembers_cons name value
      rw [merged, ih others, members, lookup?_cons]
      by_cases here : key = name
      · subst here
        simp [absent, changed]
      · simp [here, Ne.symm here]

end Members

end GpuShare.Json
