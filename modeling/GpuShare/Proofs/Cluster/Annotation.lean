import GpuShare.Cluster.Basic
import GpuShare.Proofs.Dictionary

/-!
Annotations after a patch: what the patch names has the value that it gives, and everything else is as it was.
-/

set_option autoImplicit false

namespace GpuShare.Cluster

open Dictionary

theorem get?_applyChange (labels : Labels) (change : String × Option String) (key : String) :
    (applyChange labels change).get? key = if key = change.1 then change.2 else labels.get? key := by
  obtain ⟨changed, value⟩ := change
  cases value with
  | some value => exact get?_insert labels changed key value
  | none => exact get?_erase labels changed key

theorem get?_applyChanges (changes : List (String × Option String)) (labels : Labels) (key : String)
    (sorted : changes.Pairwise fun a b => a.1 < b.1) :
    (changes.foldl applyChange labels).get? key =
      (lookupEntry key changes).getD (labels.get? key) := by
  induction changes generalizing labels with
  | nil => rfl
  | cons change others ih =>
    rw [List.foldl_cons, ih _ (List.pairwise_cons.1 sorted).2, get?_applyChange, lookupEntry]
    by_cases same : change.1 = key
    · rw [lookupEntry_tail sorted same, if_pos same.symm, if_pos same]
      rfl
    · rw [if_neg (Ne.symm same), if_neg same]

theorem annotation?_patched (metadata : Metadata) (patch : Patch) (version key : String) :
    (metadata.patched patch version).annotation? key =
      (patch.get? key).getD (metadata.annotation? key) := by
  show (patch.apply (metadata.annotations.getD .empty)).get? key = _
  rw [Patch.apply, get?_applyChanges _ _ _ patch.sorted]
  cases held : metadata.annotations with
  | none => simp only [Metadata.annotation?, held]; rfl
  | some labels => simp only [Metadata.annotation?, held]; rfl

theorem Patch.get?_one (key other : String) (value : Option String) :
    (Patch.one key value).get? other = if other = key then some value else none := by
  rw [Patch.one, get?_insert, get?_empty]

theorem Patch.one_injective {key : String} {first second : Option String}
    (same : Patch.one key first = Patch.one key second) : first = second := by
  have equal := congrArg (·.get? key) same
  simp only [Patch.get?_one, if_true] at equal
  exact Option.some.inj equal

theorem annotation?_patched_one (metadata : Metadata) (key : String) (value : Option String)
    (version other : String) :
    (metadata.patched (.one key value) version).annotation? other =
      if other = key then value else metadata.annotation? other := by
  rw [annotation?_patched, Patch.get?_one]
  split <;> rfl

end GpuShare.Cluster
