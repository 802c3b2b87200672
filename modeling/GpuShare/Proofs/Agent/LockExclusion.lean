import GpuShare.Proofs.Agent.LockInvariant

/-!
Mutual exclusion of a shared lock: whoever is let in while a stamp is owed comes when the stamp is old, and
a release takes away only what its own acquire has written.
-/

set_option autoImplicit false

namespace GpuShare.Agent.NodeLock

open Cluster Program Attempt Time

variable {ι : Type} [DecidableEq ι] {lock : NodeLock} {trace : List (Transition (Scene ι) ι)}
  {scene after : Scene ι}

omit [DecidableEq ι] in
/-- An acquire that returns a stamp while another is owed was late: by five minutes, as the stamps
tell. A release that changes the lock removes the value that the acquire of its stamp wrote. -/
structure Exclusive (lock : NodeLock) (earlier : List (Transition (Scene ι) ι))
    (transition : Transition (Scene ι) ι) : Prop where
  apart : ∀ i stamp, Acquires transition i stamp →
    ∀ j, ∀ old ∈ (transition.before.managers j).owed, ∃ taken now,
      Instant.ofRfc3339? old = some taken ∧ Instant.ofRfc3339? stamp = some now ∧
        taken + 5 * 60 * nanosPerSecond ≤ now
  own : ∀ i stamp, Releases transition i stamp →
    transition.after.value lock ≠ transition.before.value lock →
    transition.before.value lock = some stamp ∧ transition.after.value lock = none ∧
      Placed lock earlier i stamp

omit [DecidableEq ι] in
theorem Quiet.not_acquires {actor : Option ι} {i : ι} {stamp : String}
    (quiet : Quiet lock scene after) :
    ¬ Acquires ⟨scene, actor, after⟩ i stamp := by
  rintro ⟨-, grows⟩
  have shorter := (quiet.owed i).length_le
  change (after.managers i).owed = stamp :: (scene.managers i).owed at grows
  rw [grows, List.length_cons] at shorter
  omega

theorem Taking.exclusive {i : ι} (taking : Taking lock scene i after) :
    Exclusive lock trace ⟨scene, some i, after⟩ := by
  obtain ⟨now, version, rest, busy, past, readable, unused, changes, stale, rfl⟩ := taking
  refine ⟨?_, ?_⟩
  · rintro j stamp ⟨same, grows⟩ k old owed
    obtain rfl := Option.some.inj same
    obtain ⟨taken, reads, before⟩ := stale k old owed
    have gained : now.toRfc3339 :: (scene.managers i).owed = stamp :: (scene.managers i).owed :=
      ((owed_setManager ..).trans (if_pos rfl)).symm.trans grows
    have returned : now.toRfc3339 = stamp := (List.cons.inj gained).1
    exact ⟨taken, now, reads, returned ▸ readable, before⟩
  · rintro j stamp ⟨same, rest, releasing⟩
    obtain rfl := Option.some.inj same
    cases busy.symm.trans releasing

theorem Dropping.exclusive {i : ι} (sound : Sound lock trace scene)
    (dropping : Dropping lock scene i after) : Exclusive lock trace ⟨scene, some i, after⟩ := by
  obtain ⟨stamp, rest, version, busy, owed, held, unused, rfl⟩ := dropping
  refine ⟨?_, ?_⟩
  · rintro j new ⟨same, grows⟩
    obtain rfl := Option.some.inj same
    have shorter : ((scene.managers i).owed.erase stamp).length ≤ (scene.managers i).owed.length :=
      List.erase_sublist.length_le
    have gained : (scene.managers i).owed.erase stamp = new :: (scene.managers i).owed :=
      ((owed_setManager ..).trans (if_pos rfl)).symm.trans grows
    rw [gained, List.length_cons] at shorter
    omega
  · rintro j other ⟨same, others, releasing⟩ -
    obtain rfl := Option.some.inj same
    cases busy.symm.trans releasing
    rcases sound.standing i stamp owed with ⟨-, placed, -⟩ | ⟨gone, -⟩
    · exact ⟨held, value_written .., placed⟩
    · exact absurd held gone

/-- Every step of a run of managers that share a lock excludes the others. -/
theorem excludes {start : Scene ι} {later earlier : List (Transition (Scene ι) ι)}
    {transition : Transition (Scene ι) ι} (run : Run (Step lock) start trace scene)
    (initial : start.IsInitial) (readable : ∀ transition ∈ trace, Readable transition.before.clock)
    (split : trace = later ++ transition :: earlier) : Exclusive lock earlier transition := by
  subst split
  obtain ⟨before, step⟩ := run.upTo rfl
  have here : Readable transition.before.clock :=
    readable transition (List.mem_append_right _ List.mem_cons_self)
  have past : ∀ transition ∈ earlier, Readable transition.before.clock := fun transition member =>
    readable transition (List.mem_append_right _ (List.mem_cons_of_mem _ member))
  have sound := sound_of_run before initial past
  obtain ⟨scene, actor, after⟩ := transition
  rcases step_cases sound here step with quiet | ⟨i, rfl, taking | dropping⟩
  · exact ⟨fun i stamp acquires => absurd acquires quiet.not_acquires,
      fun i stamp _ changes => absurd quiet.value changes⟩
  · exact taking.exclusive
  · exact dropping.exclusive sound

def vacant : Scene Bool := ⟨⟨⟨none, some "node-a", none, some "1", none⟩⟩, ["1"], 0, fun _ => {}⟩

-- After five minutes a second manager takes over a lock that is still owed.
theorem excludes_at_takeover :
    ∃ (earlier : List (Transition (Scene Bool) Bool)) (transition : Transition (Scene Bool) Bool),
      Acquires transition true "1970-01-01T00:05:00+00:00" ∧
        "1970-01-01T00:00:00+00:00" ∈ (transition.before.managers false).owed ∧
          Exclusive (.ofDomain "node-a" "vgpu") earlier transition := by
  have zero : Readable 0 := by decide +kernel
  have fivePast : Readable (5 * 60 * nanosPerSecond) := by decide +kernel
  have stamped : Instant.toRfc3339 (5 * 60 * nanosPerSecond) = "1970-01-01T00:05:00+00:00" := by
    decide +kernel
  have run : Run (Step (ofDomain "node-a" "vgpu")) vacant [] vacant := .start
  obtain ⟨first, calls, run, -, soon, early⟩ :=
    takes run false "2" rfl (by decide) (fun _ _ => nofun)
  have run := run.step (.tick (5 * 60 * nanosPerSecond) (by decide))
  have abandoned : ∀ since taken,
      (vacant.taken (ofDomain "node-a" "vgpu") false "2").value (ofDomain "node-a" "vgpu") =
          some since →
        Instant.ofRfc3339? since = some taken → staleAge ≤ 5 * 60 * nanosPerSecond - taken := by
    intro since taken held reads
    have written := (value_written ..).symm.trans held
    obtain rfl := Option.some.inj written
    obtain rfl := Option.some.inj (zero.symm.trans reads)
    decide
  obtain ⟨second, others, run, owes, late, evening⟩ :=
    takes run true "3" rfl (by decide) abandoned
  refine ⟨_, _, ?acquires, ?owed, excludes run ⟨fun _ => rfl, "1", by decide, rfl⟩ ?readable
    (List.nil_append _).symm⟩
  case acquires =>
    refine ⟨rfl, ?_⟩
    rw [owes]
    exact congrArg (· :: []) stamped
  case owed =>
    show _ ∈ (second.managers false).owed
    rw [owes]
    decide +kernel
  case readable =>
    intro transition member
    simp only [List.mem_cons, List.mem_append, List.append_nil] at member
    rcases member with rfl | other | rfl | rfl | call
    · exact late ▸ fivePast
    · exact evening _ other ▸ fivePast
    · exact zero
    · exact soon ▸ zero
    · exact early _ call ▸ zero

end GpuShare.Agent.NodeLock
