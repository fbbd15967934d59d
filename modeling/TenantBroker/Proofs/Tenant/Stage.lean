import TenantBroker.Proofs.Tenant.Creation
import TenantBroker.Proofs.Tenant.Record
import TenantBroker.Proofs.Tenant.Removal

/-!
# The stages of a tenant

Seen from outside a tenant is absent, deployed with some phase, or terminating. Each stage says
which objects of the tenant are in the store. Making a tenant, removing it, setting its phase and
ending its termination move it from stage to stage.
-/

namespace TenantBroker.Tenant

open Cluster (Key Kind Name Store namespaceKey)
open Cluster.Program
open Cluster.Store (handle)

/-- Where a tenant is in its life. A deployed one has the phase that was set last, if one was. -/
inductive Stage where
  | absent
  | deployed (phase : Option Json)
  | terminating

namespace Stage

/-- A removal takes a tenant away, or leaves it terminating where deletions are held back. -/
def afterRemoval (holding : Bool) : Stage → Stage
  | .absent => .absent
  | .deployed _ | .terminating => if holding then .terminating else .absent

/-- Setting the phase makes a difference to a deployed tenant only. -/
def afterPhase (phase : Json) : Stage → Stage
  | .deployed _ => .deployed (some phase)
  | stage => stage

/-- The end of a termination makes a difference to a terminating tenant only. -/
def afterFinish : Stage → Stage
  | .terminating => .absent
  | stage => stage

end Stage

variable {ns : String} {config : Config} {s t : Store} {stage : Stage} {object : Json}
  {phase : Option Json}

/-! ## Records and their phases -/

/-- The keys of the record of the development environment. -/
def isRecord (ns : String) (key : Key) : Bool :=
  key.kind = Kind.developments.name ∧ key.ns = some (.text ns)

/-- The records of the development environment of a tenant. -/
def records (ns : String) (s : Store) : List (Key × Json) :=
  s.objects.filter fun o ↦ isRecord ns o.1

/-- Listing the kind of the records in a namespace gives the records of the tenant. -/
theorem listed_eq_records (ns : String) (s : Store) :
    s.listed Kind.developments (.str ns) =
      (records ns s).mergeSort fun a b ↦ a.1.name.le b.1.name := by
  have hnamespaced : Kind.developments.namespaced = true := rfl
  unfold Store.listed records
  congr 1
  apply List.filter_congr
  intro o _
  simp [Store.isListed, isRecord, Name.isNamedBy, hnamespaced]

/-- A record whose status holds this phase alone, or that has no status if there is no phase. -/
def HasPhase (object : Json) (phase : Option Json) : Prop :=
  ∃ fields metadata, object = .obj fields ∧
    Json.field? fields "metadata" = some (.obj metadata) ∧
    Json.field? fields "status" = phase.map fun value ↦ .obj [("phase", value)]

/-- A record has no phase when it is made. -/
theorem hasPhase_of_made {o : Key × Json}
    (h : Made ns (Kind.developments, development ns config) o) : HasPhase o.2 none := by
  cases h with
  | asGiven name => exact ⟨_, _, rfl, rfl, rfl⟩
  | numbered stem number => exact ⟨_, _, rfl, rfl, rfl⟩

/-- The phase of a record can be set, whichever it had before. -/
theorem HasPhase.withPhase (h : HasPhase object phase) (value : Json) :
    ∃ changed, Store.withPhase value object = .ok changed ∧ HasPhase changed (some value) := by
  obtain ⟨fields, metadata, rfl, hmetadata, hstatus⟩ := h
  have hset : ∃ status, (Json.field? fields "status").getD (.obj []) = .obj status ∧
      Json.setField status "phase" value = [("phase", value)] := by
    cases phase with
    | none => exact ⟨[], by rw [hstatus]; rfl, rfl⟩
    | some old => exact ⟨[("phase", old)], by rw [hstatus]; rfl, by simp [Json.setField]⟩
  obtain ⟨status, hget, hset⟩ := hset
  refine ⟨.obj (Json.setField fields "status" (.obj [("phase", value)])), ?_, _, metadata, rfl, ?_,
    Json.field?_setField_self _ _ _⟩
  · simp only [Store.withPhase, Json.fields, Bind.bind, Except.bind, hget, hset]
  · rw [Json.field?_setField_of_ne _ _ (by decide), hmetadata]

/-- The phase of a record is read off it if it is a text. -/
theorem HasPhase.read (h : HasPhase object phase) :
    ∃ record, Record.ofJson object = .ok record ∧ record.phase? = phase.bind Json.text? := by
  obtain ⟨fields, metadata, rfl, hmetadata, hstatus⟩ := h
  have hreadable : Readable (.obj fields) := by
    simp only [Readable, Json.metadata, Json.get, Json.getD, Json.fields, Except.map, hmetadata,
      Option.getD_some, Json.orElse]
    split
    · exact ⟨metadata, rfl⟩
    · exact ⟨[], rfl⟩
  obtain ⟨record, hread, hkept⟩ := Record.ofJson_ok hreadable
  refine ⟨record, hread, ?_⟩
  simp only [Record.phase?, hkept, hstatus]
  cases phase with
  | none => rfl
  | some value => rfl

/-! ## Stages in a store -/

/-- What the store holds of a tenant at a stage: nothing, or the namespace and one record with the
phase, or the namespace and nothing that a removal takes away one by one. -/
def IsAt (ns : String) (s : Store) : Stage → Prop
  | .absent => owned ns s = [] ∧ .text ns ∉ s.terminating
  | .deployed phase => s.has (namespaceKey (.text ns)) = true ∧ .text ns ∉ s.terminating ∧
      ∃ record, records ns s = [record] ∧ HasPhase record.2 phase
  | .terminating => s.has (namespaceKey (.text ns)) = true ∧ .text ns ∈ s.terminating ∧
      ∀ o ∈ s.objects, isCleared ns o.1 = false

/-- The records of a tenant are among its objects. -/
theorem records_eq_filter_owned (ns : String) (s : Store) :
    records ns s = (owned ns s).filter fun o ↦ isRecord ns o.1 := by
  unfold records owned
  rw [List.filter_filter]
  apply List.filter_congr
  intro o _
  cases hrecord : isRecord ns o.1 with
  | true => simp [show Owns ns o.1 from .inl (of_decide_eq_true hrecord).2]
  | false => rfl

/-- A record is cleared by a removal. -/
theorem isCleared_of_isRecord {key : Key} (h : isRecord ns key = true) :
    isCleared ns key = true := by
  obtain ⟨hkind, hin⟩ := of_decide_eq_true h
  refine decide_eq_true (.inl ⟨?_, hin⟩)
  rw [hkind]
  decide

private theorem mem_iff_of_untouched (h : Untouched ns s t) {o : Key × Json}
    (howned : Owns ns o.1) : o ∈ t.objects ↔ o ∈ s.objects := by
  have hiff (u : Store) : o ∈ owned ns u ↔ o ∈ u.objects := by simp [owned, howned]
  rw [← hiff, h.objects, hiff]

private theorem has_of_untouched (h : Untouched ns s t)
    (hns : s.has (namespaceKey (.text ns)) = true) : t.has (namespaceKey (.text ns)) = true := by
  obtain ⟨object, hmem⟩ := (Cluster.Store.has_iff s _).mp hns
  have howned : Owns ns (namespaceKey (.text ns)) := .inr (.inl rfl)
  exact Cluster.Store.has_of_mem ((mem_iff_of_untouched h howned).mpr hmem)

/-- A tenant that is not touched stays at its stage. -/
theorem IsAt.untouched (h : IsAt ns s stage) (hsame : Untouched ns s t) : IsAt ns t stage := by
  cases stage with
  | absent =>
    obtain ⟨hnone, hlasting⟩ := h
    exact ⟨hsame.objects.trans hnone, fun hmark ↦ hlasting (hsame.terminating.mp hmark)⟩
  | deployed phase =>
    obtain ⟨hns, hlasting, record, hrecords, hphase⟩ := h
    refine ⟨has_of_untouched hsame hns, fun hmark ↦ hlasting (hsame.terminating.mp hmark), record,
      ?_, hphase⟩
    rw [records_eq_filter_owned, hsame.objects, ← records_eq_filter_owned, hrecords]
  | terminating =>
    obtain ⟨hns, hmark, hcleared⟩ := h
    refine ⟨has_of_untouched hsame hns, hsame.terminating.mpr hmark, fun o ho ↦ ?_⟩
    cases hgone : isCleared ns o.1 with
    | false => rfl
    | true =>
      have howned : Owns ns o.1 := (owns_iff ns o.1).mpr (.inl hgone)
      rw [← hgone]
      exact hcleared o ((mem_iff_of_untouched hsame howned).mp ho)

/-- The stage does not depend on the counter and the log. -/
theorem IsAt.noted (h : IsAt ns s stage) (generated : Nat) (log : List Cluster.LogEntry) :
    IsAt ns (s.noted generated log) stage := h.untouched ⟨rfl, Iff.rfl⟩

/-- An absent tenant has no objects. -/
theorem IsAt.vacant (h : IsAt ns s .absent) : ∀ o ∈ s.objects, ¬ Owns ns o.1 := by
  intro o ho howned
  have hmem : o ∈ owned ns s := List.mem_filter.mpr ⟨ho, decide_eq_true howned⟩
  rw [h.1] at hmem
  cases hmem

/-- The namespace of a tenant is there unless the tenant is absent. -/
theorem IsAt.has_namespace (h : IsAt ns s stage) :
    s.has (namespaceKey (.text ns)) = true ↔ stage ≠ .absent := by
  cases stage with
  | absent =>
    refine ⟨fun hns ↦ ?_, fun hne ↦ absurd rfl hne⟩
    obtain ⟨object, hmem⟩ := (Cluster.Store.has_iff s _).mp hns
    exact absurd (.inr (.inl rfl)) (h.vacant _ hmem)
  | deployed phase => exact ⟨fun _ ↦ nofun, fun _ ↦ h.1⟩
  | terminating => exact ⟨fun _ ↦ nofun, fun _ ↦ h.1⟩

/-- An absent tenant has no record. -/
theorem IsAt.records_of_absent (h : IsAt ns s .absent) : records ns s = [] := by
  unfold records
  rw [List.filter_eq_nil_iff]
  intro o ho hrecord
  exact h.vacant o ho (.inl (of_decide_eq_true hrecord).2)

/-- A terminating tenant has no record. -/
theorem IsAt.records_of_terminating (h : IsAt ns s .terminating) : records ns s = [] := by
  unfold records
  rw [List.filter_eq_nil_iff]
  intro o ho hrecord
  have hkept := h.2.2 o ho
  rw [isCleared_of_isRecord hrecord] at hkept
  cases hkept

/-! ## From stage to stage -/

private theorem isRecord_of_made {part : Kind × Json} {o : Key × Json} (h : Made ns part o) :
    isRecord ns o.1 = decide (part.1.name = Kind.developments.name ∧ part.1.namespaced = true) := by
  have hkey (name : String) : isRecord ns (partKey ns part.1 name) =
      decide (part.1.name = Kind.developments.name ∧ part.1.namespaced = true) := by
    unfold isRecord partKey
    cases part.1.namespaced <;> simp
  cases h with
  | asGiven name => exact hkey name
  | numbered stem number => exact hkey _

private theorem filter_manifests (ns username : String) (config : Config) (variant : Variant) :
    (manifests ns username config variant).filter (fun part ↦
      decide (part.1.name = Kind.developments.name ∧ part.1.namespaced = true)) =
      [(Kind.developments, development ns config)] := by
  cases variant <;> rfl

/-- The only part of its kind is the record of the development environment. -/
theorem eq_development {username : String} {variant : Variant} {part : Kind × Json}
    (h : part ∈ manifests ns username config variant) (hkind : part.1 = Kind.developments) :
    part = (Kind.developments, development ns config) := by
  rw [← List.mem_singleton, ← filter_manifests ns username config variant]
  refine List.mem_filter.mpr ⟨h, decide_eq_true ?_⟩
  rw [hkind]
  exact ⟨rfl, rfl⟩

/-- A tenant that is composed of all its parts has one record, which is made of its manifest. -/
theorem Composed.one_record {username : String} {variant : Variant}
    (h : Composed ns (manifests ns username config variant) s) :
    ∃ record, records ns s = [record] ∧
      Made ns (Kind.developments, development ns config) record := by
  have hfiltered : List.Forall₂ (Made ns) [(Kind.developments, development ns config)]
      (records ns s) := by
    rw [records_eq_filter_owned, ← filter_manifests ns username config variant]
    refine List.rel_filter (fun part o hmade ↦ ?_) h.objects
    show _ ↔ isRecord ns o.1 = true
    rw [isRecord_of_made hmade]
  cases hrecords : records ns s with
  | nil => rw [hrecords] at hfiltered; cases hfiltered
  | cons record rest =>
    rw [hrecords] at hfiltered
    obtain ⟨hmade, hrest⟩ := List.forall₂_cons.mp hfiltered
    rw [List.forall₂_nil_left_iff.mp hrest]
    exact ⟨record, rfl, hmade⟩

/-- An absent tenant that nothing hinders is composed of nothing. -/
theorem IsAt.composed (h : IsAt ns s .absent) (hf : s.failures = []) : Composed ns [] s :=
  ⟨hf, h.2, by rw [h.1]; exact .nil⟩

/-- A tenant that is composed of all its parts is deployed without a phase. -/
theorem Composed.isAt {username : String} {variant : Variant}
    (h : Composed ns (manifests ns username config variant) s) : IsAt ns s (.deployed none) := by
  have hmem := namespacePart_mem ns username config variant
  obtain ⟨record, hrecords, hmade⟩ := h.one_record
  exact ⟨(h.occupied hmem).present, h.lasting, record, hrecords, hasPhase_of_made hmade⟩

/-- Making an absent tenant succeeds where nothing hinders it, and deploys it without a phase. -/
theorem IsAt.provision (h : IsAt ns s .absent) (hns : ns ≠ "") (hf : s.failures = [])
    (instanceId username : String) (config : Config) (variant : Variant) :
    ∃ t, Succeeds handle
        (Pipeline.runPipeline instanceId (provisionSteps ns username config variant)) s t ∧
      IsAt ns t (.deployed none) := by
  obtain ⟨t, hrun, ht⟩ := (h.composed hf).run_provisionSteps hns instanceId username config variant
  exact ⟨t, hrun, ht.isAt⟩

private theorem isAt_removed_dropped (hs : s.Steady false) : IsAt ns (removed ns s) .absent := by
  have hmarks : (removed ns s).terminating = s.terminating := by
    rcases removed_cases ns s with ⟨-, he⟩ | ⟨-, hheld, -⟩ | ⟨-, -, he⟩
    · exact he ▸ rfl
    · rw [hs.holds] at hheld
      cases hheld
    · exact he ▸ rfl
  constructor
  · rw [owned, objects_removed hs.housed hs.holds, List.filter_filter, List.filter_eq_nil_iff]
    intro o _
    simp
  · rw [hmarks, hs.lasting rfl]
    exact List.not_mem_nil

private theorem isAt_removed_held (h : IsAt ns s stage) (hs : s.Steady true) :
    IsAt ns (removed ns s) (stage.afterRemoval true) := by
  have hcleared {o : Key × Json} (ho : o ∈ (s.without (isCleared ns)).objects) :
      o ∈ s.objects ∧ isCleared ns o.1 = false := by
    obtain ⟨hmem, hkept⟩ := List.mem_filter.mp ho
    exact ⟨hmem, by simpa using hkept⟩
  -- Without its namespace the tenant was absent before, and with it there is now a mark.
  rcases removed_cases ns s with ⟨hnone, he⟩ | ⟨hns, -, he⟩ | ⟨-, hnot, -⟩
  · have hstage : stage = .absent := by
      apply Classical.byContradiction
      intro hne
      rw [h.has_namespace.mpr hne] at hnone
      cases hnone
    subst hstage
    rw [he]
    refine ⟨?_, h.2⟩
    unfold owned
    rw [List.filter_eq_nil_iff]
    intro o ho
    simpa using h.vacant o (hcleared ho).1
  · have hterminating : IsAt ns (removed ns s) .terminating := by
      rw [he]
      refine ⟨?_, ?_, fun o ho ↦ (hcleared ho).2⟩
      · rw [Cluster.Store.has_terminate, Cluster.Store.has_without]
        exact ⟨hns, isCleared_namespaceKey ns _⟩
      · exact (Cluster.Store.mem_terminating_terminate _ _ _).mpr (.inr rfl)
    cases stage with
    | absent => exact absurd rfl (h.has_namespace.mp hns)
    | deployed phase => exact hterminating
    | terminating => exact hterminating
  · rw [hs.holds] at hnot
    cases hnot

/-- What a removal makes of a tenant. -/
theorem isAt_removed {holding : Bool} (h : IsAt ns s stage) (hs : s.Steady holding) :
    IsAt ns (removed ns s) (stage.afterRemoval holding) := by
  cases holding with
  | false =>
    have habsent : stage.afterRemoval false = .absent := by cases stage <;> rfl
    rw [habsent]
    exact isAt_removed_dropped hs
  | true => exact isAt_removed_held h hs

private theorem isReached_iff (key : Key) :
    (key.kind = Kind.developments.name ∧ Name.isNamedBy key.ns (.str ns) = true) ↔
      isRecord ns key = true := by
  simp [isRecord, Name.isNamedBy]

/-- Setting the phase succeeds at every stage, and it makes a difference to a deployed tenant. -/
theorem IsAt.setPhase (h : IsAt ns s stage) (value : Json) :
    (s.setPhase Kind.developments.name (.str ns) value).1 = .ok () ∧
      IsAt ns (s.setPhase Kind.developments.name (.str ns) value).2 (stage.afterPhase value) := by
  have hrecords : Store.withPhases Kind.developments.name (.str ns) value (records ns s) =
      ((s.setPhase Kind.developments.name (.str ns) value).1,
        records ns (s.setPhase Kind.developments.name (.str ns) value).2) :=
    Cluster.Store.withPhases_filter (isRecord ns) (fun key ↦ (isReached_iff key).mp) s.objects
  have hhas := Cluster.Store.has_setPhase s Kind.developments.name (.str ns) value
  have hkeys (o : Key × Json)
      (ho : o ∈ (s.setPhase Kind.developments.name (.str ns) value).2.objects) :
      ∃ before ∈ s.objects, before.1 = o.1 := by
    obtain ⟨before, hmem, hkey, -⟩ := Cluster.Store.mem_withPhases ho
    exact ⟨before, hmem, hkey⟩
  cases stage with
  | absent =>
    rw [h.records_of_absent] at hrecords
    refine ⟨(congrArg Prod.fst hrecords).symm, ?_, h.2⟩
    unfold owned
    rw [List.filter_eq_nil_iff]
    intro o ho howned
    obtain ⟨before, hmem, hkey⟩ := hkeys o ho
    exact h.vacant before hmem (hkey ▸ of_decide_eq_true howned)
  | deployed phase =>
    obtain ⟨hns, hlasting, record, hrecord, hphase⟩ := h
    obtain ⟨changed, hchanged, hphase'⟩ := hphase.withPhase value
    have hisRecord : isRecord ns record.1 = true := by
      have hmem : record ∈ records ns s := hrecord ▸ List.mem_singleton_self record
      exact (List.mem_filter.mp hmem).2
    simp only [hrecord, Store.withPhases, (isReached_iff record.1).mpr hisRecord, and_self, if_true,
      hchanged, Prod.mk.injEq] at hrecords
    exact ⟨hrecords.1.symm, (hhas _).trans hns, hlasting, _, hrecords.2.symm, hphase'⟩
  | terminating =>
    rw [h.records_of_terminating] at hrecords
    refine ⟨(congrArg Prod.fst hrecords).symm, (hhas _).trans h.1, h.2.1, fun o ho ↦ ?_⟩
    obtain ⟨before, hmem, hkey⟩ := hkeys o ho
    exact hkey ▸ h.2.2 before hmem

/-- The end of a termination leaves nothing of the tenant. -/
theorem IsAt.finish (h : IsAt ns s .terminating) : IsAt ns (s.finish (.str ns)).2 .absent := by
  constructor
  · unfold owned
    rw [List.filter_eq_nil_iff]
    intro o ho howned
    obtain ⟨hmem, hkept⟩ := List.mem_filter.mp ho
    obtain ⟨houtside, hother⟩ := of_decide_eq_true hkept
    rcases (owns_iff ns o.1).mp (of_decide_eq_true howned) with hcleared | hin | hkey
    · rw [h.2.2 o hmem] at hcleared
      cases hcleared
    · exact houtside hin
    · exact hother hkey
  · simp [Store.finish]

end TenantBroker.Tenant
