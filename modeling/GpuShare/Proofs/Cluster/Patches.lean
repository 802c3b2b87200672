import GpuShare.Cluster.Http
import GpuShare.Proofs.Agent.Unreliable
import GpuShare.Proofs.Cluster.Annotation
import GpuShare.Proofs.Json.MergePatch

/-!
A patch of annotations as it is sent to the API server, which merges the document into the object and
gives the object a version. That leaves what the store in memory makes of the patch, and whatever the agent
does not know of an object stays as it is.
-/

set_option autoImplicit false

namespace GpuShare.Cluster

open Json Http

variable {key : String} {members : List (Option String × Value)} {labels : Labels}
  {patch : Patch} {version : Option String}

/-! ## Annotations as members of an object -/

def readLabel? (member : Option String × Value) : Option (String × String) := do
  return (← member.1, ← member.2.string?)

theorem labels?_object (members : List (Option String × Value)) :
    labels? (.object members) = (members.mapM readLabel?).map Dictionary.ofList := rfl

def AreLabels (members : List (Option String × Value)) : Prop :=
  ∀ member ∈ members, ∃ label, readLabel? member = some label

theorem readLabel?_eq_some {member : Option String × Value} {label : String × String}
    (reads : readLabel? member = some label) :
    member.1 = some label.1 ∧ member.2.string? = some label.2 := by
  obtain ⟨name, value⟩ := member
  cases name with
  | none => cases reads
  | some name =>
    simp only [readLabel?, Option.bind_eq_bind, Option.bind_some, Option.bind_eq_some_iff] at reads
    obtain ⟨text, held, same⟩ := reads
    cases same
    exact ⟨rfl, held⟩

theorem mapM_concat (member : Option String × Value) :
    (members ++ [member]).mapM readLabel? =
      (members.mapM readLabel?).bind fun labels =>
        (readLabel? member).map fun label => labels ++ [label] := by
  cases reads : readLabel? member with
  | none => simp [List.mapM_append, reads]
  | some label => simp [List.mapM_append, reads]

-- Of members with one name the last counts, in the object as in the dictionary.
theorem labels?_of_areLabels (readable : AreLabels members) :
    ∃ labels, labels? (.object members) = some labels ∧
      ∀ key, labels.get? key = (lookup? key members).bind Value.string? := by
  induction members using List.reverseRecOn with
  | nil => exact ⟨.empty, rfl, fun key => rfl⟩
  | append_singleton members member ih =>
    obtain ⟨labels, reads, values⟩ := ih fun other listed => readable other (by simp [listed])
    obtain ⟨label, read⟩ := readable member (by simp)
    rw [labels?_object] at reads
    obtain ⟨entries, mapped, rfl⟩ := Option.map_eq_some_iff.1 reads
    refine ⟨(Dictionary.ofList entries).insert label.1 label.2, ?_, fun key => ?_⟩
    · rw [labels?_object, mapM_concat, mapped, read, ← Dictionary.ofList_concat]
      rfl
    · obtain ⟨named, text⟩ := readLabel?_eq_some read
      rw [Dictionary.get?_insert, lookup?_concat, named, values]
      by_cases same : key = label.1
      · simp [same, text]
      · simp [same, Ne.symm same]

theorem areLabels_of_labels? (reads : labels? (.object members) = some labels) : AreLabels members := by
  rw [labels?_object] at reads
  induction members generalizing labels with
  | nil => simp [AreLabels]
  | cons member members ih =>
    cases read : readLabel? member with
    | none => simp [read] at reads
    | some label =>
      cases rest : members.mapM readLabel? with
      | none => simp [read, rest] at reads
      | some entries =>
        have others : (members.mapM readLabel?).map Dictionary.ofList = some (.ofList entries) := by
          rw [rest]
          rfl
        exact List.forall_mem_cons.2 ⟨⟨label, read⟩, ih others⟩

theorem get?_of_labels? (reads : labels? (.object members) = some labels) (key : String) :
    labels.get? key = (lookup? key members).bind Value.string? := by
  obtain ⟨held, found, values⟩ := labels?_of_areLabels (areLabels_of_labels? reads)
  cases reads.symm.trans found
  exact values key

/-! ## The document of a patch -/

def changeMembers (changes : List (String × Option String)) : List (Option String × Value) :=
  changes.map fun change => (some change.1, Value.option .str change.2)

theorem changeMembers_distinct {changes : List (String × Option String)}
    (sorted : changes.Pairwise fun a b => a.1 < b.1) : ((changeMembers changes).map (·.1)).Nodup := by
  rw [changeMembers, List.map_map, List.Nodup, List.pairwise_map]
  refine sorted.imp fun before same => ?_
  simp only [Function.comp_apply, Option.some.injEq] at same
  exact String.lt_irrefl _ (same ▸ before)

theorem changeMembers_cons (change : String × Option String) (changes : List (String × Option String)) :
    changeMembers (change :: changes) =
      (some change.1, Value.option .str change.2) :: changeMembers changes := rfl

theorem lookup?_changeMembers {changes : List (String × Option String)}
    (sorted : changes.Pairwise fun a b => a.1 < b.1) :
    lookup? key (changeMembers changes) =
      (Dictionary.lookupEntry key changes).map (Value.option .str) := by
  induction changes with
  | nil => rfl
  | cons change changes ih =>
    rw [changeMembers_cons, lookup?_cons, ih (List.pairwise_cons.1 sorted).2, Dictionary.lookupEntry]
    by_cases same : change.1 = key
    · simp [same, Dictionary.lookupEntry_tail sorted same]
    · simp [same]

theorem areLabels_merge (readable : AreLabels members) (changes : List (String × Option String)) :
    AreLabels (mergeMembers members (changeMembers changes)) := by
  induction changes generalizing members with
  | nil => simpa [changeMembers, mergeMembers] using readable
  | cons change changes ih =>
    obtain ⟨name, value⟩ := change
    have kept : AreLabels (without name members) := fun member listed =>
      readable member (List.mem_filter.1 listed).1
    cases value with
    | none =>
      simpa [changeMembers, Value.option, mergeMembers] using ih kept
    | some text =>
      have set : AreLabels (setMember name (.str text) members) := by
        intro member listed
        rcases List.mem_append.1 listed with listed | listed
        · exact kept member listed
        · exact ⟨(name, text), by rw [List.mem_singleton.1 listed]; rfl⟩
      simpa [changeMembers, Value.option, Value.str, mergeMembers, Value.merge] using ih set

/-- The annotations that are read from an object after a patch are those of the patch applied. -/
theorem labels?_merge (reads : labels? (.object members) = some labels) (patch : Patch) :
    labels? (.object (mergeMembers members (changeMembers patch.entries))) =
      some (patch.apply labels) := by
  obtain ⟨after, found, values⟩ := labels?_of_areLabels
    (areLabels_merge (areLabels_of_labels? reads) patch.entries)
  rw [found]
  congr 1
  apply Dictionary.ext_get?
  intro key
  rw [values, lookup?_mergeMembers (changeMembers_distinct patch.sorted),
    lookup?_changeMembers patch.sorted, Patch.apply, get?_applyChanges _ _ _ patch.sorted,
    get?_of_labels? reads]
  cases Dictionary.lookupEntry key patch.entries with
  | none => rfl
  | some change =>
    cases change with
    | none => rfl
    | some text => rfl

/-- The annotations of metadata after a patch, whatever annotations there were. -/
theorem labels?_annotations {held : Option Labels} (reads : member? labels? "annotations" members = some held)
    (patch : Patch) :
    labels? (((lookup? "annotations" members).getD .null).merge (.object (changeMembers patch.entries))) =
      some (patch.apply (held.getD .empty)) := by
  have blank : labels? (.object (mergeMembers [] (changeMembers patch.entries))) =
      some (patch.apply .empty) := labels?_merge rfl patch
  cases found : lookup? "annotations" members with
  | none =>
    simp only [member?, found, Option.some.injEq] at reads
    subst reads
    simpa [Value.merge, Value.members] using blank
  | some value =>
    cases value with
    | null =>
      simp only [member?, found, Value.nullable?, Option.some.injEq] at reads
      subst reads
      simpa [Value.merge, Value.members] using blank
    | object members =>
      simp only [member?, found, Value.nullable?, Option.map_eq_some_iff] at reads
      obtain ⟨labels, read, rfl⟩ := reads
      simpa [Value.merge, Value.members] using labels?_merge read patch
    | _ => simp [member?, found, Value.nullable?, labels?, Value.map?] at reads

def metadataChanges (patch : Patch) (version : Option String) : List (Option String × Value) :=
  (some "annotations", .object (changeMembers patch.entries)) ::
    (written "resourceVersion" .str version).map fun member => (some member.1, member.2)

theorem Patch.toJson_eq : patch.toJson version =
    .object [(some "metadata", .object (metadataChanges patch version))] := by
  simp [Patch.toJson, Value.obj, metadataChanges, changeMembers]

theorem lookup?_metadataChanges : lookup? key (metadataChanges patch version) =
    if key = "annotations" then some (.object (changeMembers patch.entries))
    else if key = "resourceVersion" then version.map .str else none := by
  cases version with
  | none =>
    rw [metadataChanges, lookup?_cons]
    simp [written, lookup?, eq_comm]
  | some version =>
    rw [metadataChanges, lookup?_cons]
    by_cases annotations : key = "annotations"
    · simp [written, lookup?, annotations]
    · by_cases guarded : key = "resourceVersion"
      · simp [written, lookup?, guarded]
      · simp [written, lookup?, Ne.symm annotations, Ne.symm guarded, annotations, guarded]

theorem metadataChanges_distinct : ((metadataChanges patch version).map (·.1)).Nodup := by
  cases version with
  | none => simp [metadataChanges, written]
  | some version => simp [metadataChanges, written]

/-- Every member of metadata after a patch. -/
theorem lookup?_metadata : lookup? key (mergeMembers members (metadataChanges patch version)) =
    if key = "annotations" then
      some (((lookup? "annotations" members).getD .null).merge (.object (changeMembers patch.entries)))
    else if key = "resourceVersion" then (version.map .str).or (lookup? "resourceVersion" members)
    else lookup? key members := by
  rw [lookup?_mergeMembers metadataChanges_distinct, lookup?_metadataChanges]
  by_cases annotations : key = "annotations"
  · simp [annotations, changed]
  · by_cases guarded : key = "resourceVersion"
    · cases version with
      | none => simp [guarded, changed]
      | some version => simp [guarded, changed, Value.str, Value.merge]
    · simp [annotations, guarded, changed]

/-- Every member of an object after a patch. -/
theorem lookup?_document {changes : List (Option String × Value)} :
    lookup? key (mergeMembers members [(some "metadata", .object changes)]) =
      if key = "metadata" then
        some (.object (mergeMembers ((lookup? "metadata" members).getD .null).members changes))
      else lookup? key members := by
  rw [lookup?_mergeMembers (by simp)]
  by_cases here : key = "metadata"
  · simp [here, lookup?, changed, Value.merge]
  · simp [here, Ne.symm here, lookup?, changed]

/-! ## The object after a patch -/

/-- What a patch makes of an object of the server: the annotations that it names have the values that it
gives or are gone, a guard is the version, and nothing else has changed. -/
structure Annotates (patch : Patch) (version : Option String) (before after : Value) : Prop where
  annotation : ∀ key, after.at? ["metadata", "annotations", key] =
    ((patch.get? key).map fun change => change.map .str).getD (before.at? ["metadata", "annotations", key])
  resourceVersion : after.at? ["metadata", "resourceVersion"] =
    (version.map .str).or (before.at? ["metadata", "resourceVersion"])
  metadata : ∀ name, name ≠ "annotations" → name ≠ "resourceVersion" →
    after.at? ["metadata", name] = before.at? ["metadata", name]
  member : ∀ name, name ≠ "metadata" → after.at? [name] = before.at? [name]

/-- The members of a member; one that is absent has none, and neither has null. -/
def below (name : String) (members : List (Option String × Value)) : List (Option String × Value) :=
  ((lookup? name members).getD .null).members

theorem at?_one (value : Value) (name : String) : value.at? [name] = lookup? name value.members := by
  cases found : lookup? name value.members with
  | none => rw [Value.at?, found]; rfl
  | some value => rw [Value.at?, found]; rfl

theorem at?_two (value : Value) (first second : String) :
    value.at? [first, second] = lookup? second (below first value.members) := by
  rw [Value.at?, below]
  cases lookup? first value.members with
  | none => rfl
  | some held => exact at?_one held second

theorem at?_three (value : Value) (first second third : String) :
    value.at? [first, second, third] = lookup? third (below second (below first value.members)) := by
  rw [Value.at?]
  cases found : lookup? first value.members with
  | none =>
    have absent : below first value.members = [] := by rw [below, found]; rfl
    rw [absent]
    rfl
  | some held => simp [below, found, at?_two]

theorem below_document {changes : List (Option String × Value)} :
    below "metadata" (mergeMembers members [(some "metadata", .object changes)]) =
      mergeMembers (below "metadata" members) changes := by
  rw [below, lookup?_document, if_pos rfl]
  rfl

theorem below_metadata : below "annotations" (mergeMembers members (metadataChanges patch version)) =
    mergeMembers (below "annotations" members) (changeMembers patch.entries) := by
  rw [below, lookup?_metadata, if_pos rfl, Value.merge]
  rfl

theorem members_merge (before : Value) : (before.merge (patch.toJson version)).members =
    mergeMembers before.members [(some "metadata", .object (metadataChanges patch version))] := by
  rw [Patch.toJson_eq, Value.merge]
  rfl

theorem annotates_merge (before : Value) :
    Annotates patch version before (before.merge (patch.toJson version)) where
  annotation key := by
    rw [at?_three, at?_three, members_merge, below_document, below_metadata,
      lookup?_mergeMembers (changeMembers_distinct patch.sorted), lookup?_changeMembers patch.sorted,
      Dictionary.get?]
    cases Dictionary.lookupEntry key patch.entries with
    | none => rfl
    | some change =>
      cases change with
      | none => rfl
      | some text => rfl
  resourceVersion := by
    rw [at?_two, at?_two, members_merge, below_document, lookup?_metadata]
    simp
  metadata name plain unguarded := by
    rw [at?_two, at?_two, members_merge, below_document, lookup?_metadata, if_neg plain, if_neg unguarded]
  member name other := by
    rw [at?_one, at?_one, members_merge, lookup?_document, if_neg other]

/-! ## What is read from it -/

def Metadata.annotated (metadata : Metadata) (patch : Patch) (version : Option String) : Metadata :=
  { metadata with
    annotations := some (patch.apply (metadata.annotations.getD .empty))
    resourceVersion := version.or metadata.resourceVersion }

theorem Metadata.ofJson?_object {metadata : Metadata} :
    Metadata.ofJson? (.object members) = some metadata ↔
      member? Value.string? "namespace" members = some metadata.ns ∧
      member? Value.string? "name" members = some metadata.name ∧
      member? Value.string? "uid" members = some metadata.uid ∧
      member? Value.string? "resourceVersion" members = some metadata.resourceVersion ∧
      member? labels? "annotations" members = some metadata.annotations := by
  cases metadata
  simp [Metadata.ofJson?, members?, Option.bind_eq_some_iff]

theorem member?_congr {α : Type} {view : Value → Option α} {before after : List (Option String × Value)}
    (same : lookup? key after = lookup? key before) : member? view key after = member? view key before := by
  rw [member?, member?, same]

theorem Metadata.ofJson?_merge {metadata : Metadata}
    (reads : Metadata.ofJson? (.object members) = some metadata) (patch : Patch) (version : Option String) :
    Metadata.ofJson? (.object (mergeMembers members (metadataChanges patch version))) =
      some (metadata.annotated patch version) := by
  obtain ⟨ns, name, uid, guarded, annotations⟩ := ofJson?_object.1 reads
  rw [ofJson?_object]
  have kept {α : Type} {view : Value → Option α} {key : String} (plain : key ≠ "annotations")
      (unguarded : key ≠ "resourceVersion") :
      member? view key (mergeMembers members (metadataChanges patch version)) =
        member? view key members := by
    apply member?_congr
    rw [lookup?_metadata, if_neg plain, if_neg unguarded]
  refine ⟨?_, ?_, ?_, ?_, ?_⟩
  · exact (kept (by simp) (by simp)).trans ns
  · exact (kept (by simp) (by simp)).trans name
  · exact (kept (by simp) (by simp)).trans uid
  · cases version with
    | none => exact (member?_congr (by simp [lookup?_metadata])).trans guarded
    | some version => simp [member?, lookup?_metadata, Value.str, Value.nullable?, Value.string?, annotated]
  · have changed := labels?_annotations annotations patch
    rw [Value.merge] at changed
    simp [member?, lookup?_metadata, Value.merge, Value.nullable?, changed, annotated]

-- Absent metadata is read as if it were an object without members.
theorem metadata?_below {metadata : Metadata} (reads : metadata? members = some metadata) :
    Metadata.ofJson? (.object (below "metadata" members)) = some metadata := by
  have blank : Metadata.ofJson? (.object []) = some .blank := rfl
  cases found : lookup? "metadata" members with
  | none =>
    rw [below, found]
    exact blank.trans (by simpa [metadata?, member?, found] using reads)
  | some value =>
    rw [below, found]
    cases value with
    | null => exact blank.trans (by simpa [metadata?, member?, found, Value.nullable?] using reads)
    | object members =>
      cases read : Metadata.ofJson? (.object members) with
      | none => simp [metadata?, member?, found, Value.nullable?, read] at reads
      | some held => simpa [metadata?, member?, found, Value.nullable?, read, Value.members] using reads
    | _ => simp [metadata?, member?, found, Value.nullable?, Metadata.ofJson?, members?] at reads

theorem metadata?_merge {metadata : Metadata} (reads : metadata? members = some metadata) :
    metadata? (mergeMembers members [(some "metadata", .object (metadataChanges patch version))]) =
      some (metadata.annotated patch version) := by
  have after := Metadata.ofJson?_merge (metadata?_below reads) patch version
  rw [below] at after
  simp [metadata?, member?, lookup?_document, Value.nullable?, after]

theorem fits_congr {name text : String} {before after : List (Option String × Value)}
    (same : lookup? name after = lookup? name before) : fits name text after = fits name text before := by
  rw [fits, fits, same]

theorem document?_eq_some {kind : String} {value : Value} : document? kind value = some members ↔
    value = .object members ∧ fits "apiVersion" apiVersion members = some () ∧
      fits "kind" kind members = some () := by
  cases value with
  | object held => simp [document?, members?, Option.bind_eq_some_iff]; grind
  | _ => simp [document?, members?]

theorem document?_merge {kind : String} {before : Value} (reads : document? kind before = some members) :
    document? kind (before.merge (patch.toJson version)) =
      some (mergeMembers members [(some "metadata", .object (metadataChanges patch version))]) := by
  obtain ⟨rfl, fitting, kinds⟩ := document?_eq_some.1 reads
  refine document?_eq_some.2 ⟨?_, ?_, ?_⟩
  · rw [Patch.toJson_eq, Value.merge, Value.members]
  · exact (fits_congr (by simp [lookup?_document])).trans fitting
  · exact (fits_congr (by simp [lookup?_document])).trans kinds

/-- A node read from an object is, after the server's merge, read with the annotations that the store in
memory gives it. -/
theorem Node.ofJson?_merge {before : Value} {node : Node} (reads : Node.ofJson? before = some node) :
    Node.ofJson? (before.merge (patch.toJson version)) = some ⟨node.metadata.annotated patch version⟩ := by
  simp only [Node.ofJson?, Option.bind_eq_bind, Option.bind_eq_some_iff] at reads
  obtain ⟨members, document, metadata, held, same⟩ := reads
  cases same
  simp [Node.ofJson?, document?_merge document, metadata?_merge held]

theorem Pod.ofJson?_merge {before : Value} {pod : Pod} (reads : Pod.ofJson? before = some pod) :
    Pod.ofJson? (before.merge (patch.toJson version)) =
      some { pod with metadata := pod.metadata.annotated patch version } := by
  simp only [Pod.ofJson?, Option.bind_eq_bind, Option.bind_eq_some_iff] at reads
  obtain ⟨members, document, metadata, held, spec, read, same⟩ := reads
  cases same
  have kept : member? PodSpec.ofJson? "spec"
      (mergeMembers members [(some "metadata", .object (metadataChanges patch version))]) = some spec :=
    (member?_congr (by simp [lookup?_document])).trans read
  simp [Pod.ofJson?, document?_merge document, metadata?_merge held, kept]

/-! ## The two stores -/

def Metadata.renewed (metadata : Metadata) (fresh : String) : Metadata :=
  { metadata with resourceVersion := some fresh }

def Node.renewed (fresh : String) (node : Node) : Node := ⟨node.metadata.renewed fresh⟩

def Pod.renewed (fresh : String) (pod : Pod) : Pod := { pod with metadata := pod.metadata.renewed fresh }

/-- A document that is sent for a patch and merged into objects by a server, which gives every write a fresh
version. Whatever the object, it is changed as the patch says, and no more; a node or a pod that is read from
it is then read as the store in memory leaves it. -/
structure IsMergedAsStored (patch : Patch) (version : Option String) (document : Value) : Prop where
  -- The document has a version if and only if the patch has a guard.
  guarded : document.at? ["metadata", "resourceVersion"] = version.map .str
  object : ∀ before, Annotates patch version before (before.merge document)
  node : ∀ before node fresh, Node.ofJson? before = some node →
    (Node.ofJson? (before.merge document)).map (·.renewed fresh) =
      some ⟨node.metadata.patched patch fresh⟩
  pod : ∀ before pod fresh, Pod.ofJson? before = some pod →
    (Pod.ofJson? (before.merge document)).map (·.renewed fresh) =
      some { pod with metadata := pod.metadata.patched patch fresh }
  storedNode : ∀ (store : Store) name before node changed, store.nodes.get? name = some node →
    Node.ofJson? before = some node → (store.patchNode name patch version).1 = .ok changed →
      ∃ fresh, (Node.ofJson? (before.merge document)).map (·.renewed fresh) = some changed
  storedPod : ∀ (store : Store) ns name before pod changed, store.findPod? ns name = some pod →
    Pod.ofJson? before = some pod → (store.patchPod ns name patch version).1 = .ok changed →
      ∃ fresh, (Pod.ofJson? (before.merge document)).map (·.renewed fresh) = some changed

theorem renewed_node {before : Value} {node : Node} (reads : Node.ofJson? before = some node)
    (fresh : String) : (Node.ofJson? (before.merge (patch.toJson version))).map (·.renewed fresh) =
      some ⟨node.metadata.patched patch fresh⟩ := by
  rw [Node.ofJson?_merge reads]
  rfl

theorem renewed_pod {before : Value} {pod : Pod} (reads : Pod.ofJson? before = some pod)
    (fresh : String) : (Pod.ofJson? (before.merge (patch.toJson version))).map (·.renewed fresh) =
      some { pod with metadata := pod.metadata.patched patch fresh } := by
  rw [Pod.ofJson?_merge reads]
  rfl

theorem toJson_isMergedAsStored (patch : Patch) (version : Option String) :
    IsMergedAsStored patch version (patch.toJson version) where
  guarded := by
    have held : below "metadata" (patch.toJson version).members = metadataChanges patch version := by
      rw [Patch.toJson_eq]
      simp [below, lookup?, Value.members]
    rw [at?_two, held, lookup?_metadataChanges]
    simp
  object := annotates_merge
  node before node fresh reads := renewed_node reads fresh
  pod before pod fresh reads := renewed_pod reads fresh
  storedNode store name before node changed held reads stored := by
    rcases (Agent.Unreliable.serve_patchNode store name patch version).2 with failed | passed
    · simp [stored] at failed
    · obtain ⟨found, fresh, known, written, -⟩ := passed
      cases known.symm.trans held
      cases written.symm.trans stored
      exact ⟨fresh, renewed_node reads fresh⟩
  storedPod store ns name before pod changed held reads stored := by
    rcases (Agent.Unreliable.serve_patchPod store ns name patch version).2 with failed | passed
    · simp [stored] at failed
    · obtain ⟨found, fresh, known, written, -⟩ := passed
      cases known.symm.trans held
      cases written.symm.trans stored
      exact ⟨fresh, renewed_pod reads fresh⟩

/-- The API server and the store in memory make the same of a patch, which sets, removes and keeps
annotations as it says. -/
theorem stores_agree (patch : Patch) (version : Option String) :
    ∃ document, IsMergedAsStored patch version document ∧
      (∀ name, Request.ofCall (.patchNode name patch version) =
        ⟨"PATCH", nodesPath ++ name, some "application/merge-patch+json", some document⟩) ∧
      (∀ ns name, Request.ofCall (.patchPod ns name patch version) =
        ⟨"PATCH", podsPath ns ++ name, some "application/merge-patch+json", some document⟩) ∧
      ∀ (metadata : Metadata) fresh key, (metadata.patched patch fresh).annotation? key =
        (patch.get? key).getD (metadata.annotation? key) :=
  ⟨patch.toJson version, toJson_isMergedAsStored patch version, fun _ => rfl, fun _ _ => rfl,
    fun metadata fresh key => annotation?_patched metadata patch fresh key⟩

def labelledNode : Value :=
  .obj [("kind", .str "Node"), ("metadata", .obj [("name", .str "node-a"), ("resourceVersion", .str "42"),
    ("labels", .obj [("zone", .str "east")]),
    ("annotations", .obj [("a", .str "0"), ("b", .str "1"), ("c", .str "2")])])]

def settingAndRemoving : Patch := Dictionary.ofList [("a", some "1"), ("b", none)]

theorem stores_agree_on_labelled_node : ∃ document, IsMergedAsStored settingAndRemoving (some "42") document ∧
    ((Node.ofJson? (labelledNode.merge document)).map (·.renewed "43")).map
      (fun node => (node.metadata.annotations, node.metadata.resourceVersion)) =
        some (some (Dictionary.ofList [("a", "1"), ("c", "2")]), some "43") ∧
    (labelledNode.merge document).at? ["metadata", "labels"] = some (.obj [("zone", .str "east")]) := by
  obtain ⟨document, merged, -⟩ := stores_agree settingAndRemoving (some "42")
  have reads : Node.ofJson? labelledNode = some ⟨⟨none, some "node-a", none, some "42",
      some (Dictionary.ofList [("a", "0"), ("b", "1"), ("c", "2")])⟩⟩ := by rfl
  refine ⟨document, merged, ?_, ?_⟩
  · rw [merged.node _ _ "43" reads]
    decide
  · rw [(merged.object labelledNode).metadata "labels" (by decide) (by decide)]
    rfl

end GpuShare.Cluster
