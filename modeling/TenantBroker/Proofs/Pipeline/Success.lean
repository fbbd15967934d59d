import TenantBroker.Pipeline.Run
import TenantBroker.Proofs.Cluster.Conduct
import TenantBroker.Proofs.Cluster.Quiet

/-!
# Pipelines that succeed

A pipeline succeeds if its steps do one after the other. Without injected failures delete steps
succeed and take away what they name, whether or not that is there.
-/

namespace TenantBroker.Pipeline

open Cluster (Handler Key Kind Store keyOf)
open Cluster.Program
open Cluster.Store (Gone handle)

/-! ## Steps one after the other -/

variable {σ : Type} {handler : Handler σ} {s t u : σ}

/-- A pipeline without steps succeeds at once. -/
theorem succeeds_runPipeline_nil (instanceId : String) (s : σ) :
    Succeeds handler (runPipeline instanceId []) s s := ⟨[], rfl⟩

/-- A pipeline succeeds if its first step does and the others do after it. -/
theorem succeeds_runPipeline_cons {instanceId : String} {step : Step} {rest : List Step}
    {label : Json} (hlabel : step.label = .ok label) (hstep : Succeeds handler (runAction step) s t)
    (hrest : Succeeds handler (runPipeline instanceId rest) t u) :
    Succeeds handler (runPipeline instanceId (step :: rest)) s u := by
  unfold runPipeline
  rw [hlabel]
  exact Succeeds.andThen (hstep.map fun value ↦ ⟨value, rfl⟩) fun outcome ↦
    hrest.map fun outcomes ↦ ⟨outcome :: outcomes, rfl⟩

/-- A step without a manifest has a label. -/
theorem label_of_no_manifest (step : Step) (h : step.manifest = none) :
    ∃ label, step.label = .ok label := by
  unfold Step.label
  rw [h]
  split
  · exact ⟨_, rfl⟩
  · exact ⟨_, rfl⟩

/-- A step with a manifest has a label if the metadata are a record. -/
theorem label_of_manifest {step : Step} {manifest : Json} {fields : List (String × Json)}
    (hm : step.manifest = some manifest) (h : manifest.metadata = .ok (.obj fields)) :
    ∃ label, step.label = .ok label := by
  unfold Step.label
  split
  · exact ⟨_, rfl⟩
  · simp only [hm, Step.manifestLabel, h, Bind.bind, Except.bind, Json.get, Json.getD,
      Json.fields, Except.map]
    split
    · exact ⟨_, rfl⟩
    · exact ⟨_, rfl⟩

/-! ## Create steps -/

variable {store after : Store} {kind : Kind} {step : Step} {manifest object : Json}

/-- The name under which a draft is stored can be read off it. -/
theorem createdName_of_draft {generated count : Nat} {name ns : Json}
    (h : Store.draft generated kind manifest = (.ok (name, ns, object), count)) (step : Step) :
    createdName step object = .ok name := by
  obtain ⟨metadata, hmetadata, hname, htruthy⟩ := Cluster.Store.name_of_draft h
  simp only [createdName, hmetadata, hname, Except.bind, Bind.bind, if_pos htruthy]
  rfl

/-! ## Delete steps -/

variable {key : Key}

/-- A delete step succeeds where its call removes the object or finds none. -/
theorem succeeds_delete {name : String} {ns : Json}
    (hgone : Gone (store.delete kind (.str name) ns).1)
    (hafter : (store.delete kind (.str name) ns).2 = after) :
    Succeeds handle (runAction (Step.delete kind (.str name) ns)) store after := by
  unfold Succeeds
  simp only [runAction, Step.delete, runDelete, run_call, handle, hafter]
  rcases hgone with hok | ⟨f, herror, hf⟩
  · refine ⟨⟨Step.delete kind (.str name) ns, true, [.str name]⟩, ?_⟩
    rw [hok]
    rfl
  · refine ⟨⟨Step.delete kind (.str name) ns, false, [.str name]⟩, ?_⟩
    rw [herror]
    simp only [if_pos hf]
    rfl

/-! ## Deleting all objects of a kind -/

/-- An object that is listed under its own name. -/
def IsItem (kind : Kind) (text : String) (o : Key × Json) : Prop :=
  ∃ name : String, o.1 = ⟨kind.name, some (.text text), .text name⟩ ∧ name ≠ "" ∧
    listedName o.2 = .ok (.str name)

/-- Deleting listed objects takes all their keys away. -/
theorem succeeds_deleteItems {text : String} (hplain : kind ≠ Kind.namespaces)
    (hnamespaced : kind.namespaced = true) (store : Store) (items : List (Key × Json))
    (hitems : ∀ o ∈ items, IsItem kind text o) (hf : store.failure? .delete kind = none) :
    ∃ log, Succeeds handle (deleteItems kind (.str text) (items.map (·.2))) store
      ((store.without fun key ↦ key ∈ items.map (·.1)).noted store.generated log) := by
  induction items generalizing store with
  | nil =>
    refine ⟨store.log, [], ?_⟩
    have hnone : (store.without fun key ↦ key ∈ ([] : List (Key × Json)).map (·.1)) = store :=
      Cluster.Store.without_eq_self fun o _ ↦ by simp
    rw [hnone]
    rfl
  | cons item rest ih =>
    obtain ⟨name, hitem, hne, hlisted⟩ := hitems item List.mem_cons_self
    have hk : keyOf kind (.str name) (.str text) = .ok (some item.1) := by
      rw [hitem]
      simp only [keyOf, hnamespaced, if_pos]
      rfl
    have htruthy : (Json.str name).isTruthy = true := by simpa [Json.isTruthy] using hne
    obtain ⟨first, hgone, hafter⟩ := Cluster.Store.delete_plain hf hplain hk
    obtain ⟨log, names, hrest⟩ := ih ((store.without (· = item.1)).noted store.generated first)
      (fun o ho ↦ hitems o (List.mem_cons_of_mem _ ho)) hf
    have hkeys : (store.without (· = item.1)).without (fun key ↦ key ∈ rest.map (·.1)) =
        store.without fun key ↦ key ∈ (item :: rest).map (·.1) := by
      rw [Cluster.Store.without_without]
      simp only [List.map_cons, List.mem_cons, Bool.decide_or]
    refine ⟨log, ?_⟩
    unfold Succeeds
    simp only [List.map_cons, deleteItems, hlisted, if_pos htruthy, run_call, handle, hafter]
    rw [← List.map_cons (f := Prod.fst), ← hkeys]
    rcases hgone with hok | ⟨f, herror, hnotFound⟩
    · refine ⟨.str name :: names, ?_⟩
      rw [hok]
      simp only [run_map, hrest]
      rfl
    · refine ⟨names, ?_⟩
      rw [herror]
      simp only [if_pos hnotFound, hrest]
      rfl

/-- What a labelled store lists is listed under its own name. -/
theorem isItem_of_mem_listed {text : String} (h : store.Labelled)
    (hnamespaced : kind.namespaced = true) {o : Key × Json}
    (ho : o ∈ store.listed kind (.str text)) : IsItem kind text o := by
  obtain ⟨hmem, hkind, hns⟩ := (Cluster.Store.mem_listed hnamespaced).mp ho
  obtain ⟨name, hname, hne, hlisted⟩ := h o hmem
  refine ⟨name, ?_, hne, hlisted⟩
  rw [← hkind, ← hns, ← hname]

/-- Deleting all objects of a kind in a namespace takes away all keys of this kind and namespace. -/
theorem succeeds_deleteAll {text : String} (h : store.Labelled) (hplain : kind ≠ Kind.namespaces)
    (hnamespaced : kind.namespaced = true) (hlist : store.failure? .list kind = none)
    (hdelete : store.failure? .delete kind = none) :
    ∃ log, Succeeds handle (runAction (Step.deleteAll kind (.str text))) store
      ((store.without fun key ↦ key.kind = kind.name ∧ key.ns = some (.text text)).noted
        store.generated log) := by
  have hlisted := Cluster.Store.list_unhindered h hlist (.str text)
  obtain ⟨log, names, hrun⟩ := succeeds_deleteItems hplain hnamespaced
    (store.logged .list kind (.str text)) (store.listed kind (.str text))
    (fun o ho ↦ isItem_of_mem_listed h hnamespaced ho) hdelete
  have hkeys : (store.without fun key ↦ key ∈ (store.listed kind (.str text)).map (·.1)) =
      store.without fun key ↦ key.kind = kind.name ∧ key.ns = some (.text text) := by
    unfold Store.without
    congr 1
    apply List.filter_congr
    intro o ho
    have hiff : o.1 ∈ (store.listed kind (.str text)).map (·.1) ↔
        o.1.kind = kind.name ∧ o.1.ns = some (.text text) := by
      constructor
      · intro hmem
        obtain ⟨other, hother, hsame⟩ := List.mem_map.mp hmem
        exact hsame ▸ ((Cluster.Store.mem_listed hnamespaced).mp hother).2
      · intro hin
        exact List.mem_map_of_mem ((Cluster.Store.mem_listed hnamespaced).mpr ⟨ho, hin⟩)
    simp only [hiff]
  refine ⟨log, ⟨Step.deleteAll kind (.str text), !names.isEmpty, names⟩, ?_⟩
  simp only [runAction, Step.deleteAll, runDeleteAll, run_call, handle, hlisted, run_map, hrun]
  rw [← hkeys]
  rfl

end TenantBroker.Pipeline
