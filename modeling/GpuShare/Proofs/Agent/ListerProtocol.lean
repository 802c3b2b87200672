import GpuShare.Agent.Lister
import GpuShare.Proofs.Protocol

/-!
How an update of a lister uses its surroundings. It asks for the pods at most once, and before it looks
at any entry of its directory. Having seen that an entry is a directory, it removes that directory at once
or never: at once if the entry is named for a pod that was not told to be on the node.
-/

set_option autoImplicit false

namespace GpuShare.Agent.Lister

open Program

def Surveys : Request → Prop
  | .cluster .listPods | .pathExists _ | .isDirectory _ | .readDirectory _ | .removeTree _
  | .mapRegion _ => True
  | _ => False

structure Knowledge where
  -- The UIDs of the pods on the node.
  live : Option (List String) := none
  -- The names in directories.
  names : List String := []
  -- The path that was just found to be a directory.
  seen : Option Path := none

namespace Knowledge

def learn (lister : Lister) (knowledge : Knowledge) :
    (request : Request) → Answer request → Knowledge
  | .cluster .listPods, .ok pods => ⟨some (lister.podUids pods), knowledge.names, none⟩
  | .readDirectory _, .ok names => ⟨knowledge.live, knowledge.names ++ names, none⟩
  | .isDirectory path, true => ⟨knowledge.live, knowledge.names, some path⟩
  | _, _ => ⟨knowledge.live, knowledge.names, none⟩

def Departed (knowledge : Knowledge) (name : String) : Prop :=
  ∃ uid container, ownerOf? name = some (uid, container) ∧ isDeparted knowledge.live uid = true

def IsSettled (lister : Lister) (knowledge : Knowledge) : Prop :=
  ∀ path, knowledge.seen = some path →
    ∃ name ∈ knowledge.names, path = lister.directory.join name ∧ ¬ knowledge.Departed name

/-- A request removes the entry that was just seen, exactly if it is to be removed. -/
def Handles (lister : Lister) (knowledge : Knowledge) (request : Request) : Prop :=
  match knowledge.seen with
  | none => ∀ path, request ≠ .removeTree path
  | some path => ∃ name ∈ knowledge.names, path = lister.directory.join name ∧
      ∀ other, request = .removeTree other ↔ other = path ∧ knowledge.Departed name

end Knowledge

def protocol (lister : Lister) : Protocol interface Knowledge where
  allows knowledge request := Surveys request ∧ knowledge.Handles lister request ∧
    (request = .cluster .listPods → knowledge.live = none)
  next := Knowledge.learn lister

variable {lister : Lister} {knowledge : Knowledge} {live : Option (List String)}

@[simp] theorem protocol_next : lister.protocol.next = Knowledge.learn lister := rfl

/-- Knowledge between two entries: the pods and some names, and nothing to be removed. -/
structure Between (lister : Lister) (live : Option (List String)) (names : List String)
    (knowledge : Knowledge) : Prop where
  live : knowledge.live = live
  names : names ⊆ knowledge.names
  settled : knowledge.IsSettled lister

theorem Knowledge.IsSettled.handles (settled : knowledge.IsSettled lister) {request : Request}
    (keeps : ∀ path, request ≠ .removeTree path) : knowledge.Handles lister request := by
  unfold Handles
  cases seen : knowledge.seen with
  | none => exact keeps
  | some path =>
    obtain ⟨name, told, here, lives⟩ := settled path seen
    exact ⟨name, told, here, fun other => ⟨fun same => absurd same (keeps other),
      fun departed => absurd departed.2 lives⟩⟩

theorem Knowledge.isSettled_of_unseen (unseen : knowledge.seen = none) :
    knowledge.IsSettled lister := by
  intro path seen
  rw [unseen] at seen
  cases seen

variable {names : List String}

theorem livePods?_follows (settled : knowledge.IsSettled lister) (first : knowledge.live = none) :
    lister.livePods?.Follows lister.protocol (fun knowledge live => Between lister live [] knowledge)
      knowledge := by
  rw [livePods?]
  split
  · refine ⟨⟨trivial, settled.handles nofun, fun _ => first⟩, fun answer => ?_⟩
    cases answer with
    | ok pods => exact ⟨rfl, List.nil_subset _, Knowledge.isSettled_of_unseen rfl⟩
    | error error => exact ⟨first, List.nil_subset _, Knowledge.isSettled_of_unseen rfl⟩
  · exact ⟨first, List.nil_subset _, settled⟩

theorem visit_follows (between : Between lister live names knowledge) {name : String}
    (told : name ∈ names) :
    (lister.visit live name).Follows lister.protocol
      (fun knowledge _ => Between lister live names knowledge) knowledge := by
  obtain ⟨rfl, within, settled⟩ := between
  have known : name ∈ knowledge.names := within told
  refine ⟨⟨trivial, settled.handles nofun, nofun⟩, fun answer => ?_⟩
  cases answer with
  | false => exact ⟨rfl, within, Knowledge.isSettled_of_unseen rfl⟩
  | true =>
    -- Whatever is seen here is the entry, so what is said of its name decides.
    have settles (lives : ¬ knowledge.Departed name) : Knowledge.IsSettled lister
        ⟨knowledge.live, knowledge.names, some (lister.directory.join name)⟩ := by
      rintro path ⟨⟩
      exact ⟨name, known, rfl, lives⟩
    dsimp only
    split
    · next nobody =>
      refine ⟨rfl, within, settles ?_⟩
      rintro ⟨uid, container, owner, -⟩
      rw [nobody] at owner
      cases owner
    · next uid container owner =>
      split
      · next departed =>
        refine ⟨⟨trivial, ⟨name, known, rfl, fun other => ⟨?_, ?_⟩⟩, nofun⟩, fun answer => ?_⟩
        · rintro ⟨⟩
          exact ⟨rfl, uid, container, owner, departed⟩
        · rintro ⟨rfl, -⟩
          rfl
        · exact ⟨rfl, within, Knowledge.isSettled_of_unseen rfl⟩
      · next lives =>
        refine ⟨⟨trivial, (settles ?_).handles nofun, nofun⟩, fun answer => ?_⟩
        · rintro ⟨other, others, owned, departed⟩
          obtain ⟨rfl, rfl⟩ := Prod.mk.inj (Option.some.inj (owner.symm.trans owned))
          exact lives departed
        · cases answer with
          | ok files =>
            exact ⟨rfl, List.subset_append_of_subset_left _ within,
              Knowledge.isSettled_of_unseen rfl⟩
          | error error => exact ⟨rfl, within, Knowledge.isSettled_of_unseen rfl⟩

theorem scan_follows (between : Between lister live names knowledge) {entries : List String}
    (told : entries ⊆ names) :
    (lister.scan live entries).Follows lister.protocol
      (fun knowledge _ => Between lister live names knowledge) knowledge := by
  induction entries generalizing knowledge with
  | nil => exact between
  | cons name entries ih =>
    rw [List.cons_subset] at told
    refine follows_bind.2 ((visit_follows between told.1).mono fun knowledge files between => ?_)
    refine follows_bind.2 ((ih between told.2).mono fun knowledge found between => ?_)
    exact between

theorem mapNew_follows (found : List Path) (mapped : Mapped) (settled : knowledge.IsSettled lister) :
    (mapNew found mapped).Follows lister.protocol
      (fun knowledge _ => knowledge.IsSettled lister) knowledge := by
  induction found generalizing mapped knowledge with
  | nil => exact settled
  | cons path found ih =>
    rw [mapNew]
    split
    · exact ih mapped settled
    · refine ⟨⟨trivial, settled.handles nofun, nofun⟩, fun answer => ?_⟩
      have next : Knowledge.IsSettled lister ⟨knowledge.live, knowledge.names, none⟩ :=
        Knowledge.isSettled_of_unseen rfl
      rcases answer with (_ | _ | _) | content
      all_goals first | exact next | exact ih _ next

/-- Whatever it is answered, an update handles every entry as its protocol says. -/
theorem update_follows (lister : Lister) (mapped : Mapped) :
    (lister.update mapped).Follows lister.protocol (fun knowledge _ => knowledge.IsSettled lister)
      {} := by
  have start : Knowledge.IsSettled lister {} := Knowledge.isSettled_of_unseen rfl
  refine ⟨⟨trivial, start.handles nofun, nofun⟩, fun answer => ?_⟩
  cases answer with
  | false => exact Knowledge.isSettled_of_unseen rfl
  | true =>
    show Follows lister.protocol _ ({} : Knowledge) (lister.livePods? >>= _)
    refine follows_bind.2 ((livePods?_follows start rfl).mono fun knowledge live between => ?_)
    refine ⟨⟨trivial, between.settled.handles nofun, nofun⟩, fun answer => ?_⟩
    cases answer with
    | error error => exact Knowledge.isSettled_of_unseen rfl
    | ok names =>
      have between : Between lister live names ⟨knowledge.live, knowledge.names ++ names, none⟩ :=
        ⟨between.live, List.subset_append_right _ _, Knowledge.isSettled_of_unseen rfl⟩
      show Follows lister.protocol _ _ (lister.scan live names >>= _)
      refine follows_bind.2 ((scan_follows between (List.Subset.refl _)).mono ?_)
      exact fun knowledge found between => mapNew_follows found _ between.settled

end GpuShare.Agent.Lister
