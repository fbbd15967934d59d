import Mathlib.Data.List.Forall2
import TenantBroker.Proofs.Pipeline.Success
import TenantBroker.Proofs.Tenant.Frame
import TenantBroker.Proofs.Tenant.Outline

/-!
# Making a tenant without hindrance

Without injected failures the parts of a tenant are created one after the other where nothing of the
tenant is there, whatever others do aside from it: no two parts ask for one key. What comes of it is
exactly what is made of these parts, and no other user than the tenant's own is bound in it. Where
the namespace is there already, making the tenant fails at once and changes no object.
-/

namespace TenantBroker.Tenant

open Cluster (Key Kind Store namespaceKey)
open Cluster.Program
open Cluster.Store (handle)
open Pipeline (Step createdName runPipeline)

variable {ns username instanceId : String} {config : Config} {variant : Variant}
  {part : Kind × Json} {made : List (Kind × Json)} {s t : Store}

/-! ## What a tenant is composed of -/

/-- Nothing hinders the tenant, and it is composed of what is made of some parts, in their order. -/
structure Composed (ns : String) (made : List (Kind × Json)) (s : Store) : Prop where
  unhindered : s.failures = []
  lasting : .text ns ∉ s.terminating
  objects : List.Forall₂ (Made ns) made (owned ns s)

/-- The namespace of a tenant is taken, and no failure is injected. -/
structure Occupied (ns : String) (s : Store) : Prop where
  unhindered : s.failures = []
  present : s.has (namespaceKey (.text ns)) = true

/-- Others may do anything but touch the tenant or inject a failure. -/
structure Aside (ns : String) (s t : Store) : Prop where
  untouched : Untouched ns s t
  unhindered : s.failures = [] → t.failures = []

/-- What a tenant is composed of stays as it is whatever happens aside from the tenant. -/
theorem stable_composed (ns : String) (made : List (Kind × Json)) :
    Stable (Aside ns) (Composed ns made) := fun _ _ haside h ↦
  ⟨haside.unhindered h.unhindered, fun hmark ↦ h.lasting (haside.untouched.terminating.mp hmark),
    haside.untouched.objects ▸ h.objects⟩

/-- A namespace stays taken whatever happens aside from its tenant. -/
theorem stable_occupied (ns : String) : Stable (Aside ns) (Occupied ns) := fun _ _ haside h ↦ by
  refine ⟨haside.unhindered h.unhindered, ?_⟩
  rw [has_iff_owned (.inr (.inl rfl)), haside.untouched.objects, ← has_iff_owned (.inr (.inl rfl))]
  exact h.present

/-- The namespace is the first part of a tenant. -/
def namespacePart (ns : String) : Kind × Json := (Kind.namespaces, tenantNamespace ns)

/-- The parts of a tenant after its namespace. -/
def laterParts (ns username : String) (config : Config) (variant : Variant) : List (Kind × Json) :=
  (manifests ns username config variant).tail

/-- The parts of a tenant begin with its namespace. -/
theorem manifests_eq_cons (ns username : String) (config : Config) (variant : Variant) :
    manifests ns username config variant =
      namespacePart ns :: laterParts ns username config variant := by
  unfold laterParts
  rw [manifests_eq]
  rfl

/-- The namespace is one of the parts of a tenant. -/
theorem namespacePart_mem (ns username : String) (config : Config) (variant : Variant) :
    namespacePart ns ∈ manifests ns username config variant := by
  rw [manifests_eq_cons]
  exact List.mem_cons_self

/-- A tenant with a namespace among its parts occupies it. -/
theorem Composed.occupied (h : Composed ns made s) (hmade : namespacePart ns ∈ made) :
    Occupied ns s := by
  obtain ⟨o, ho, hnamespace⟩ := exists_made_of_mem h.objects hmade
  refine ⟨h.unhindered, (has_iff_owned (.inr (.inl rfl))).mpr ⟨o, ho, ?_⟩⟩
  cases hnamespace with
  | asGiven name hname =>
    obtain rfl : ns = name := Json.str.inj hname
    rfl
  | numbered stem number hopen => cases hopen

/-- A key is free for a part that is apart from all parts of the tenant. -/
theorem Composed.free (h : Composed ns made s) (hpart : IsPart ns part)
    (hapart : ∀ other ∈ made, Apart other part) {o : Key × Json} (ho : Made ns part o) :
    s.has o.1 = false := by
  rw [Bool.eq_false_iff, ne_eq, has_iff_owned (ho.owns hpart)]
  rintro ⟨o', ho', hkey⟩
  obtain ⟨other, hother, hmade⟩ := exists_part_of_mem h.objects ho'
  exact (hapart other hother).ne_key hmade ho hkey

/-- A part can be created if it is apart from all parts of the tenant and its namespace is there. -/
theorem Composed.create (h : Composed ns made s) (hns : ns ≠ "") (hpart : IsPart ns part)
    (hplace : part.1.namespaced = true → namespacePart ns ∈ made)
    (hapart : ∀ other ∈ made, Apart other part) :
    ∃ object name, (s.create part.1 part.2).1 = .ok object ∧
      createdName (createStep part) object = .ok name ∧
      Composed ns (made ++ [part]) (s.create part.1 part.2).2 := by
  obtain ⟨name, object, after, hdraft, hmade⟩ := hpart.draft hns s.generated
  have hfree : s.has (partKey ns part.1 name) = false := h.free hpart hapart hmade
  have hreceives : s.Receives part.1 (place ns part.1) := by
    intro hkind
    exact ⟨ns, if_pos hkind, hns, (h.occupied (hplace hkind)).present, h.lasting⟩
  have hcreate := Cluster.Store.create_unhindered
    (Cluster.Store.failure?_eq_none h.unhindered .create part.1) hdraft (keyOf_place ns name part.1)
    hreceives
  rw [hfree, if_neg Bool.false_ne_true] at hcreate
  refine ⟨object, .str name, congrArg Prod.fst hcreate,
    Pipeline.createdName_of_draft hdraft _, ?_⟩
  rw [hcreate]
  refine ⟨h.unhindered, h.lasting, ?_⟩
  have hobjects : owned ns (((s.noted after s.log).logged .create part.1 (.str name)).insert
      (partKey ns part.1 name) object) = owned ns s ++ [(partKey ns part.1 name, object)] := by
    have howned : Owns ns (partKey ns part.1 name) := hmade.owns hpart
    unfold owned Store.insert
    rw [List.filter_append, List.filter_singleton, decide_eq_true howned]
    rfl
  rw [hobjects]
  exact List.rel_append h.objects (.cons hmade .nil)

/-! ## One part after the other -/

/-- The metadata of a part are a record, which gives its namespace if its kind has one. -/
theorem IsPart.metadata (h : IsPart ns part) :
    ∃ fields, part.2.metadata = .ok (.obj fields) ∧
      (part.1.namespaced = true → Json.field? fields "namespace" = some (.str ns)) := by
  cases h with
  | clusterWide name body hkind =>
    refine ⟨_, rfl, fun hnamespaced ↦ ?_⟩
    rw [hkind] at hnamespaced
    cases hnamespaced
  | @named kind metadata name body hkind hname hplace =>
    cases metadata with
    | nil => cases hname
    | cons f rest => exact ⟨_, rfl, fun _ ↦ hplace⟩
  | generated stem body => exact ⟨_, rfl, fun _ ↦ rfl⟩

/-- The step that creates a part has a label. -/
theorem IsPart.label (h : IsPart ns part) : ∃ label, (createStep part).label = .ok label := by
  obtain ⟨fields, hfields, -⟩ := h.metadata
  exact Pipeline.label_of_manifest rfl hfields

/-- Parts that are apart are created one after the other, whatever happens aside from the tenant.
The induction is on the parts, and those made so far say which keys are taken. -/
theorem achieves_parts (hns : ns ≠ "") (instanceId : String) (parts made : List (Kind × Json))
    (hparts : ∀ part ∈ parts, IsPart ns part) (hapart : (made ++ parts).Pairwise Apart)
    (hmade : namespacePart ns ∈ made) :
    Achieves handle (Aside ns) (Occupied ns) (Composed ns made) (Composed ns (made ++ parts))
      (runPipeline instanceId (parts.map createStep)) := by
  have hI := stable_occupied ns
  induction parts generalizing made with
  | nil =>
    rw [List.append_nil]
    exact Pipeline.achieves_runPipeline_nil hI (stable_composed ns made) instanceId
  | cons part others ih =>
    have hfirst := hparts part List.mem_cons_self
    rw [List.append_cons] at hapart ⊢
    have hmade' : namespacePart ns ∈ made ++ [part] := List.mem_append_left _ hmade
    refine Pipeline.achieves_runPipeline_cons instanceId hfirst.label
      (B := Composed ns (made ++ [part])) ?_ (ih _ ?_ hapart hmade')
    · refine Pipeline.achieves_create hI (stable_composed ns _) (stable_composed ns _) part.2 rfl
        rfl fun s _ hs ↦ ?_
      obtain ⟨object, name, hreply, hname, ht⟩ := hs.create hns hfirst (fun _ ↦ hmade)
        fun other hother ↦ (List.pairwise_append.mp (List.pairwise_append.mp hapart).1).2.2 other
          hother part List.mem_cons_self
      exact ⟨object, name, hreply, hname, ht.occupied hmade', ht⟩
    · exact fun other hother ↦ hparts other (List.mem_cons_of_mem _ hother)

/-! ## The whole tenant -/

/-- How making a tenant fails whose namespace exists. -/
def conflict (instanceId ns : String) : Pipeline.StepFailure where
  kind := Kind.namespaces.name
  name := .str ns
  instanceId := instanceId
  action := .create
  cause := .command {
    summary := "kubectl failed"
    command := ["kubectl"]
    returncode := 1
    stdout := ""
    stderr := "Error from server (AlreadyExists): " ++
      Cluster.resourceText Kind.namespaces.plural (.str ns) ++ " already exists"
    category := .alreadyExists }

/-- Making a tenant begins with the creation of its namespace. Where this fails for an object that
is there the tenant cannot be made, and where it succeeds the later parts follow. -/
theorem runPipeline_provisionSteps (hns : ns ≠ "") (instanceId username : String)
    (config : Config) (variant : Variant) :
    ∃ next, runPipeline instanceId (provisionSteps ns username config variant) =
        .call (.create Kind.namespaces (tenantNamespace ns)) next ∧
      next (.error (Cluster.alreadyExistsFailure
          (Cluster.resourceText Kind.namespaces.plural (.str ns)))) =
        .done (.error (.step (conflict instanceId ns))) ∧
      ∀ created name, createdName (createStep (namespacePart ns)) created = .ok name →
        ∃ outcome, next (.ok created) = (runPipeline instanceId
          ((laterParts ns username config variant).map createStep)).map fun outcomes ↦
            outcomes.map (outcome :: ·) := by
  have hplain : Kind.namespaces ≠ Kind.roleBindings := by decide
  have htolerates : (createStep (namespacePart ns)).toleratesExisting = false :=
    decide_eq_false hplain
  have hlabel : (createStep (namespacePart ns)).label = .ok (.str ns) := by
    have htruthy : (Json.str ns).isTruthy = true := by simpa [Json.isTruthy] using hns
    exact if_pos htruthy
  obtain ⟨next, hnext, hcreated, -, hfailed⟩ := Pipeline.runPipeline_create instanceId hlabel rfl
    rfl ((laterParts ns username config variant).map createStep)
  refine ⟨next, ?_, ?_, fun created name hname ↦ ⟨_, hcreated created name hname⟩⟩
  · rw [provisionSteps_eq, manifests_eq_cons]
    exact hnext
  · rw [hfailed _ (by rw [htolerates, Bool.and_false])]
    simp only [Pipeline.failureOf, Cluster.alreadyExistsFailure, Cluster.serverFailure, hlabel]
    rfl

/-- A namespace that is there cannot be created, and the attempt changes no object. -/
theorem Occupied.create (h : Occupied ns s) (hns : ns ≠ "") :
    ∃ log, s.create Kind.namespaces (tenantNamespace ns) =
      (.error (Cluster.alreadyExistsFailure
        (Cluster.resourceText Kind.namespaces.plural (.str ns))), s.noted s.generated log) := by
  have hnone := Cluster.Store.failure?_eq_none h.unhindered .create Kind.namespaces
  have hdraft : Store.draft s.generated Kind.namespaces (tenantNamespace ns) =
      (.ok (.str ns, .null, tenantNamespace ns), s.generated) := draft_of_name rfl hns _
  have hkey : Cluster.keyOf Kind.namespaces (.str ns) .null =
      .ok (some (namespaceKey (.text ns))) := rfl
  have hcreate := Cluster.Store.create_unhindered hnone hdraft hkey fun h ↦ nomatch h
  rw [if_pos h.present] at hcreate
  exact ⟨_, hcreate⟩

/-- Making a tenant fails at once where its namespace exists, and leaves a trace only. -/
theorem Occupied.run_provisionSteps (h : Occupied ns s) (hns : ns ≠ "")
    (instanceId username : String) (config : Config) (variant : Variant) :
    ∃ log, (runPipeline instanceId (provisionSteps ns username config variant)).run handle s =
      (.error (.step (conflict instanceId ns)), s.noted s.generated log) := by
  obtain ⟨next, hnext, hfailed, -⟩ :=
    runPipeline_provisionSteps hns instanceId username config variant
  obtain ⟨log, hcreate⟩ := h.create hns
  refine ⟨log, ?_⟩
  rw [hnext, run_call, handle, hcreate, hfailed, run_done]

/-- Where nothing of the tenant is there its namespace can be created, and what then follows
composes the tenant of all its parts, whatever happens aside from it. -/
theorem Composed.safe_provisionSteps (h : Composed ns [] s) (hns : ns ≠ "") {username : String}
    {config : Config} {variant : Variant}
    {next : Except Cluster.Failure Json → Cluster.Program
      (Except Pipeline.PipelineFailure (List Pipeline.StepOutcome))}
    (hnext : runPipeline instanceId (provisionSteps ns username config variant) =
      .call (.create Kind.namespaces (tenantNamespace ns)) next) :
    (∃ object, (s.create Kind.namespaces (tenantNamespace ns)).1 = .ok object) ∧
    (next (s.create Kind.namespaces (tenantNamespace ns)).1).Safe handle (Aside ns) (Occupied ns)
      (fun outcome t ↦ (∃ value, outcome = .ok value) ∧
        Composed ns (manifests ns username config variant) t)
      (s.create Kind.namespaces (tenantNamespace ns)).2 := by
  obtain ⟨object, name, hreply, hname, ht⟩ := h.create hns
    (isPart_of_mem (namespacePart_mem ns username config variant))
    (fun hkind ↦ nomatch hkind) fun _ hother ↦ nomatch hother
  have hoccupied := ht.occupied (List.mem_singleton.mpr rfl)
  obtain ⟨next', hnext', -, hcreated⟩ :=
    runPipeline_provisionSteps hns instanceId username config variant
  obtain rfl : next = next' := by simpa using hnext.symm.trans hnext'
  obtain ⟨outcome, hthen⟩ := hcreated object name hname
  refine ⟨⟨object, hreply⟩, ?_⟩
  rw [show (s.create Kind.namespaces (tenantNamespace ns)).1 = .ok object from hreply, hthen]
  have hshapes : ∀ part ∈ laterParts ns username config variant, IsPart ns part := by
    intro part hpart
    have hmem : part ∈ manifests ns username config variant := by
      rw [manifests_eq_cons]
      exact List.mem_cons_of_mem _ hpart
    exact isPart_of_mem hmem
  have hapart : ([namespacePart ns] ++ laterParts ns username config variant).Pairwise Apart := by
    rw [List.singleton_append, ← manifests_eq_cons]
    exact apart_manifests _ _ _ _
  have hlater := achieves_parts hns instanceId _ _ hshapes hapart (List.mem_singleton.mpr rfl)
  rw [List.singleton_append, ← manifests_eq_cons] at hlater
  exact achieves_map hlater (fun outcomes ↦ ⟨outcome :: outcomes, rfl⟩) _ hoccupied ht

/-- Making a tenant succeeds where nothing of it is there, and composes it of all its parts. -/
theorem Composed.run_provisionSteps (h : Composed ns [] s) (hns : ns ≠ "")
    (instanceId username : String) (config : Config) (variant : Variant) :
    ∃ t, Succeeds handle (runPipeline instanceId (provisionSteps ns username config variant)) s t ∧
      Composed ns (manifests ns username config variant) t := by
  obtain ⟨next, hnext, -⟩ := runPipeline_provisionSteps hns instanceId username config variant
  obtain ⟨⟨value, hvalue⟩, ht⟩ := (h.safe_provisionSteps hns hnext).2.run
  refine ⟨_, ⟨value, ?_⟩, ht⟩
  rw [hnext, run_call]
  exact Prod.ext hvalue rfl

/-! ## Whom the bindings of a tenant name -/

/-- The name of a subject that is a user. -/
def subjectUser? : Json → Option Json
  | .obj fields =>
    if (Json.field? fields "kind").bind Json.text? = some "User" then Json.field? fields "name"
    else none
  | _ => none

/-- The users that are among the subjects of a binding. -/
def boundUsers : Json → List Json
  | .obj fields =>
    match Json.field? fields "subjects" with
    | some (.arr subjects) => subjects.filterMap subjectUser?
    | _ => []
  | _ => []

/-- A name that is filled in does not change who is bound. -/
theorem boundUsers_withName (name : String) (object : Json) :
    boundUsers (withName name object) = boundUsers object := by
  have hne : "subjects" ≠ "metadata" := by decide
  unfold withName
  split
  · split
    · simp only [boundUsers, Json.field?_setField_of_ne _ _ hne]
    · rfl
  · rfl

/-- The parts of a tenant bind no other user than its own. -/
theorem boundUsers_of_mem (h : part ∈ manifests ns username config variant) :
    boundUsers part.2 = [] ∨ boundUsers part.2 = [.str username] := by
  have h := mem_extended h
  simp only [manifests_eq, bindings, systemRoleBindings, if_true, List.map_append, List.map_cons,
    List.map_nil, List.mem_append, List.mem_cons, List.not_mem_nil, or_false, or_assoc] at h
  rcases h with rfl | rfl | rfl | rfl | rfl | rfl | rfl | rfl | rfl | rfl | rfl | rfl | rfl | rfl |
    rfl | rfl | rfl | rfl
  any_goals exact .inl rfl
  all_goals exact .inr rfl

/-- In a tenant that is composed of all its parts no other user than its own is bound. -/
theorem Composed.boundUsers (h : Composed ns (manifests ns username config variant) s)
    {o : Key × Json} (ho : o ∈ owned ns s) :
    ∀ user ∈ Tenant.boundUsers o.2, user = .str username := by
  obtain ⟨part, hpart, hmade⟩ := exists_part_of_mem h.objects ho
  have hsame : Tenant.boundUsers o.2 = Tenant.boundUsers part.2 := by
    cases hmade with
    | asGiven name => rfl
    | numbered stem number => exact boundUsers_withName _ _
  intro user huser
  rw [hsame] at huser
  rcases boundUsers_of_mem hpart with hnone | hone
  · rw [hnone] at huser
    cases huser
  · rw [hone] at huser
    exact List.mem_singleton.mp huser

end TenantBroker.Tenant
