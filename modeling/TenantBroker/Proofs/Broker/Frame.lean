import TenantBroker.Proofs.Broker.Request
import TenantBroker.Proofs.Tenant.Frame

/-!
# What a request leaves alone

In every store, whatever fails on the way, a request changes nothing outside its own tenant. A
provision only adds objects, and each of them is one of the manifests of the tenant with at most a
name filled in. A deprovision only takes objects away, and asking for a status leaves a trace only.
-/

namespace TenantBroker.Broker

open Cluster (Call Kind Store)
open Cluster.Program
open Cluster.Store (handle)
open Tenant (Confined Made Owns manifests namespaceFor)

variable {config : Config} {ns : String} {s t : Store}

/-- All calls of a request concern the tenant of its instance. -/
theorem concerns_program (r : Request)
    (hns : namespaceFor config.namespacePrefix r.instanceId = .ok ns) :
    (r.program config).Only (Tenant.Concerns ns) := by
  have hne := Tenant.namespace_ne_empty hns
  refine only_program r (fun other username h ↦ ?_) (fun other h ↦ ?_) (fun _ _ _ ↦ trivial)
    (fun _ _ ↦ trivial)
  · obtain rfl : ns = other := Except.ok.inj (hns.symm.trans h)
    exact Tenant.concerns_provisionSteps hne
  · obtain rfl : ns = other := Except.ok.inj (hns.symm.trans h)
    exact Tenant.concerns_deprovisionSteps ns

/-- A request on an instance without a namespace makes no call. -/
theorem program_of_invalid {fault : Tenant.NameFault} (r : Request)
    (hns : namespaceFor config.namespacePrefix r.instanceId = .error fault) :
    ∃ answer, r.program config = .done answer := by
  cases r with
  | provision instanceId username service plan parameters =>
    replace hns : namespaceFor config.namespacePrefix instanceId = .error fault := hns
    simp only [Request.program, provision, provisionTenant, instanceNamespace, hns]
    cases checkRequestedPlan service plan parameters with
    | error f => exact ⟨_, rfl⟩
    | ok u =>
      by_cases huser : username = ""
      · simp only [if_pos huser]
        exact ⟨_, rfl⟩
      · simp only [if_neg huser]
        exact ⟨_, rfl⟩
  | deprovision instanceId =>
    replace hns : namespaceFor config.namespacePrefix instanceId = .error fault := hns
    simp only [Request.program, deprovision, instanceNamespace, hns]
    exact ⟨_, rfl⟩
  | lastOperation instanceId operation =>
    replace hns : namespaceFor config.namespacePrefix instanceId = .error fault := hns
    simp only [Request.program, lastOperation, instanceNamespace, hns]
    exact ⟨_, rfl⟩

/-! ## Calls that add, take away or look -/

/-- A call that creates one of some parts. -/
def Creates (parts : List (Kind × Json)) (c : Call) : Prop :=
  ∃ part ∈ parts, c = .create part.1 part.2

/-- Objects are added that are made of some parts, and all others stay. -/
def Adds (ns : String) (parts : List (Kind × Json)) (s t : Store) : Prop :=
  ∃ new, t.objects = s.objects ++ new ∧ ∀ o ∈ new, ∃ part ∈ parts, Made ns part o

/-- Creating a part adds what is made of it, or nothing. -/
theorem Adds.handle {parts : List (Kind × Json)} (h : Adds ns parts s t) (hns : ns ≠ "")
    (hparts : ∀ part ∈ parts, Tenant.IsPart ns part) {c : Call} (hc : Creates parts c) :
    Adds ns parts s (handle c t).2 := by
  obtain ⟨new, hobjects, hnew⟩ := h
  obtain ⟨part, hpart, rfl⟩ := hc
  rcases Cluster.Store.create_cases t part.1 part.2 with ⟨f, after, log, he⟩ |
    ⟨name, given, object, after, log, key, hd, hk, -, he⟩
  · exact ⟨new, by rw [Cluster.Store.handle, he]; exact hobjects, hnew⟩
  · refine ⟨new ++ [(key, object)], ?_, fun o ho ↦ ?_⟩
    · rw [Cluster.Store.handle, he, ← List.append_assoc, ← hobjects]
      rfl
    · rcases List.mem_append.mp ho with hold | hlast
      · exact hnew o hold
      · obtain rfl := List.mem_singleton.mp hlast
        exact ⟨part, hpart, (hparts part hpart).made_of_draft hns hd hk⟩

/-- A call that creates nothing. -/
def CreatesNothing : Call → Prop
  | .create _ _ => False
  | .get _ _ _ | .list _ _ | .delete _ _ _ => True

/-- What a call leaves that creates nothing was there before. -/
theorem sublist_handle {c : Call} (hc : CreatesNothing c) (s : Store) :
    (handle c s).2.objects.Sublist s.objects := by
  rcases Cluster.Store.handle_cases c s with ⟨after, log, he⟩ |
    ⟨kind, manifest, name, place, object, after, log, key, rfl, -⟩ |
    ⟨kind, name, place, log, key, rfl, -, -, he⟩
  · rw [he]
    exact List.Sublist.refl _
  · exact hc.elim
  · rw [he]
    unfold Store.remove
    split
    · split
      · exact List.Sublist.refl _
      · exact List.filter_sublist
    · exact List.filter_sublist

/-- A call that only looks at the cluster. -/
def Looks : Call → Prop
  | .get _ _ _ | .list _ _ => True
  | .create _ _ | .delete _ _ _ => False

/-- Only the log differs, by entries for calls that look. -/
def OnlyLooked (s t : Store) : Prop :=
  ∃ entries : List Cluster.LogEntry,
    (∀ entry ∈ entries, entry.action = .get ∨ entry.action = .list) ∧
      t = { s with log := s.log ++ entries }

/-- Looking leaves a trace only. -/
theorem OnlyLooked.handle (h : OnlyLooked s t) {c : Call} (hc : Looks c) :
    OnlyLooked s (handle c t).2 := by
  obtain ⟨entries, hentries, rfl⟩ := h
  have hmore (entry : Cluster.LogEntry) (haction : entry.action = .get ∨ entry.action = .list) :
      OnlyLooked s { s with log := s.log ++ entries ++ [entry] } := by
    refine ⟨entries ++ [entry], fun other hother ↦ ?_, by rw [List.append_assoc]⟩
    rcases List.mem_append.mp hother with hold | hlast
    · exact hentries other hold
    · rw [List.mem_singleton.mp hlast]
      exact haction
  cases c with
  | get kind name place =>
    rw [Cluster.Store.handle, Cluster.Store.get_snd]
    exact hmore _ (.inl rfl)
  | list kind place =>
    rw [Cluster.Store.handle, Cluster.Store.list_snd]
    exact hmore _ (.inr rfl)
  | create kind manifest => exact hc.elim
  | delete kind name place => exact hc.elim

/-! ## Requests -/

/-- What a request may do to the objects of its tenant. -/
def Request.Effect (config : Config) (ns : String) (s t : Store) : Request → Prop
  | .provision _ username _ _ _ => Adds ns (manifests ns username config config.variant) s t
  | .deprovision _ => t.objects.Sublist s.objects
  | .lastOperation _ _ => OnlyLooked s t

/-- A request on an instance does to the objects of its tenant no more than it may. -/
theorem effect_program (r : Request)
    (hns : namespaceFor config.namespacePrefix r.instanceId = .ok ns) (s : Store) :
    r.Effect config ns s ((r.program config).run handle s).2 := by
  cases r with
  | provision instanceId username service plan parameters =>
    have hne := Tenant.namespace_ne_empty hns
    refine run_of_only (I := Adds ns (manifests ns username config config.variant) s)
      (P := Creates (manifests ns username config config.variant))
      (fun c hc t ht ↦ ht.handle hne (fun part ↦ Tenant.isPart_of_mem) hc)
      (only_map (only_provision _ _ _ fun other hother ↦ ?_)) ⟨[], by simp, by simp⟩
    obtain rfl : ns = other := Except.ok.inj (hns.symm.trans hother)
    intro step hstep
    obtain ⟨part, hpart, rfl⟩ := Tenant.mem_provisionSteps.mp hstep
    intro manifest hm
    obtain rfl : part.2 = manifest := Option.some.inj hm
    exact ⟨part, hpart, rfl⟩
  | deprovision instanceId =>
    refine run_of_only (I := fun t ↦ t.objects.Sublist s.objects) (P := CreatesNothing)
      (fun c hc t ht ↦ (sublist_handle hc t).trans ht)
      (only_map (only_deprovision fun other _ ↦ ?_)) (List.Sublist.refl _)
    simp [Tenant.deprovisionSteps, Tenant.recordKinds, Pipeline.Step.Makes, Pipeline.Step.deleteAll,
      Pipeline.Step.delete, CreatesNothing]
  | lastOperation instanceId operation =>
    exact run_of_only (I := OnlyLooked s) (fun c hc t ht ↦ ht.handle hc)
      (only_map (only_lastOperation (fun _ _ _ ↦ trivial) (fun _ _ ↦ trivial) _ _))
      ⟨[], by simp, by simp⟩

/-- In every store a request changes nothing outside its tenant and does no more to the tenant than
it may, whichever calls fail; if its instance has no namespace it changes nothing at all. Asking for
a status makes calls only that look. No key belongs to the tenants of two instances. -/
theorem Request.frame (config : Config) (r : Request) (s : Store) :
    let t := ((r.program config).run handle s).2
    (∀ fault, namespaceFor config.namespacePrefix r.instanceId = .error fault → t = s) ∧
    (∀ instanceId operation, r = .lastOperation instanceId operation →
      (r.program config).Only Looks) ∧
    ∀ ns, namespaceFor config.namespacePrefix r.instanceId = .ok ns →
      Confined ns s t ∧ r.Effect config ns s t ∧
      ∀ instanceId other, instanceId ≠ r.instanceId →
        namespaceFor config.namespacePrefix instanceId = .ok other →
        ∀ key, Owns ns key → ¬ Owns other key := by
  refine ⟨fun fault hns ↦ ?_, ?_, fun ns hns ↦ ⟨?_, effect_program r hns s, ?_⟩⟩
  · obtain ⟨answer, hdone⟩ := program_of_invalid r hns
    rw [hdone, run_done]
  · rintro instanceId operation rfl
    exact only_map (only_lastOperation (fun _ _ _ ↦ trivial) (fun _ _ ↦ trivial) _ _)
  · exact Tenant.confined_run (concerns_program r hns) s
  · intro instanceId other hne hother key howned howned'
    obtain rfl : ns = other := Tenant.owns_unique howned howned'
    exact hne (Tenant.instance_unique hother hns)

/-- A provision breaks off when the role cannot be created, for a reason of the client's own. The
namespace and the account stay behind, and another tenant without a namespace, an object without a
namespace and a mark are as they were. -/
theorem Request.frame_abort :
    ∃ s t : Store,
      s.objects = [(⟨Kind.deployments.name, some (.text "rhpam-b"), .text "x"⟩, .null),
        (⟨"Route", none, .number (.int 7)⟩, .bool true)] ∧
      ((Request.provision "a" "u" .null .null .null).program {}).run handle s =
        (.provisioned (.error (.defect .aborted)), t) ∧
      t.has (Tenant.accountKey "rhpam-a") = true ∧ Confined "rhpam-a" s t ∧
      Adds "rhpam-a" (manifests "rhpam-a" "u" {} .standard) s t ∧
      ¬ Owns "rhpam-b" (Tenant.accountKey "rhpam-a") := by
  let s : Store := {
    objects := [(⟨Kind.deployments.name, some (.text "rhpam-b"), .text "x"⟩, .null),
      (⟨"Route", none, .number (.int 7)⟩, .bool true)]
    failures := [((.create, Kind.roles.name), .defect .aborted)]
    holding := true
    terminating := [.text "rhpam-b"] }
  obtain ⟨-, -, hframe⟩ := Request.frame {} (.provision "a" "u" .null .null .null) s
  obtain ⟨hconfined, hadds, hapart⟩ := hframe "rhpam-a" rfl
  exact ⟨s, _, rfl, rfl, rfl, hconfined, hadds, hapart "b" "rhpam-b" (by decide) rfl _ (.inl rfl)⟩

end TenantBroker.Broker
