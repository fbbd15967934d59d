import TenantBroker.Proofs.Tenant.Order

/-!
# The conduct of the two pipelines of a tenant

Whatever fair events happen between their calls, both pipelines keep the order among the parts of
all tenants. When a cluster-wide role is created its namespace lasts and has the operator's account,
and when its binding is created the role is there too. When a namespace is deleted its role and
binding are gone.
-/

namespace TenantBroker.Tenant

open Cluster (Call Event Key Kind Name Store namespaceKey)
open Cluster.Program
open Cluster.Store (handle)
open Pipeline (Step runAction runPipeline)

/-- What may happen between two calls. -/
def FairChange (s t : Store) : Prop := ∃ e, Fair s e ∧ t = e.apply s

/-- The order outlasts fair events. -/
theorem ordered_stable : Stable FairChange Ordered := by
  rintro s _ ⟨e, he, rfl⟩ h
  exact h.apply he

/-- Nothing is asked of the store. -/
theorem true_stable : Stable FairChange fun _ ↦ True := fun _ _ _ _ ↦ trivial

/-- The namespace lasts and has the operator's account. -/
structure Ready (ns : String) (s : Store) : Prop where
  present : s.has (namespaceKey (.text ns)) = true
  lasting : .text ns ∉ s.terminating
  account : s.has (accountKey ns) = true

/-- The namespace lasts and has the operator's account, and the cluster-wide role is there. -/
def RoleReady (ns : String) (s : Store) : Prop := Ready ns s ∧ s.has (clusterRoleKey ns) = true

/-- No binding rests on the cluster-wide role. -/
def Unbound (ns : String) (s : Store) : Prop := s.has (clusterRoleBindingKey ns) = false

/-- No cluster-wide role rests on the namespace. -/
def Unruled (ns : String) (s : Store) : Prop := s.has (clusterRoleKey ns) = false

/-! ## What outlasts events and neutral calls -/

variable {ns username : String} {config : Config} {variant : Variant}

private theorem absent_stable (key : Key) : Stable FairChange fun s ↦ s.has key = false := by
  rintro s _ ⟨e, -, rfl⟩ h
  cases hh : (e.apply s).has key with
  | false => rfl
  | true =>
    rw [((Event.has_apply e s key).mp hh).1] at h
    cases h

/-- Being ready outlasts fair events: they end no termination but one that is under way. -/
theorem ready_stable : Stable FairChange (Ready ns) := by
  rintro s _ ⟨e, he, rfl⟩ h
  refine ⟨has_of_fair he h.present fun other hother ↦ ⟨by simp [namespaceKey], fun hsame ↦ ?_⟩,
    fun hm ↦ h.lasting ((Event.mem_terminating_apply e s _).mp hm).1,
    has_of_fair he h.account fun other hother ↦ ⟨fun hin ↦ ?_, by simp⟩⟩
  · simp only [namespaceKey, Key.mk.injEq, Name.text.injEq, true_and] at hsame
    exact h.lasting (hsame ▸ hother)
  · simp only [accountKey, Option.some.injEq, Name.text.injEq] at hin
    exact h.lasting (hin ▸ hother)

/-- Being ready for a binding outlasts fair events. -/
theorem roleReady_stable : Stable FairChange (RoleReady ns) := by
  rintro s t ⟨e, he, rfl⟩ ⟨hready, hrole⟩
  refine ⟨ready_stable ⟨e, he, rfl⟩ hready, ?_⟩
  exact has_of_fair he hrole fun other _ ↦ ⟨by simp [clusterRoleKey], by simp⟩

/-- Being ready outlasts neutral calls. -/
theorem ready_lasting : Lasting (Ready ns) := fun s t hterminating hkeys h ↦
  ⟨hkeys _ (by simp [vitalKinds, namespaceKey]) h.present, by rw [hterminating]; exact h.lasting,
    hkeys _ (by simp [vitalKinds, accountKey]) h.account⟩

/-- Neutral steps lead nowhere else. -/
theorem leads_neutral {A : Store → Prop} (hstable : Stable FairChange A) (hlasting : Lasting A)
    {step : Step} (hstep : step.Makes IsNeutral) :
    Leads handle FairChange Ordered A A (runAction step) :=
  Pipeline.leads_of_makes ordered_stable hstable hstep fun _ hc _ hI hA ↦
    ⟨(hI.neutral hc).1, (hI.neutral hc).2 A hlasting hA⟩

/-! ## Making a tenant -/

private theorem makes_createStep {P : Call → Prop} {part : Kind × Json}
    (h : P (.create part.1 part.2)) : (createStep part).Makes P := by
  intro manifest hm
  obtain rfl : part.2 = manifest := Option.some.inj hm
  exact h

private theorem created_account {s : Store} {created : Json}
    (h : (s.create Kind.serviceAccounts (serviceAccount ns)).1 = .ok created) :
    Ready ns (s.create Kind.serviceAccounts (serviceAccount ns)).2 := by
  have hd : Store.draft s.generated Kind.serviceAccounts (serviceAccount ns) =
      (.ok (.str operatorName, .str ns, serviceAccount ns), s.generated) :=
    draft_of_name rfl (by decide) _
  have hk : Cluster.keyOf Kind.serviceAccounts (.str operatorName) (.str ns) =
    .ok (some (accountKey ns)) := rfl
  rcases Cluster.Store.create_of_draft hd hk with ⟨f, log, he⟩ | ⟨log, ha, he⟩
  · rw [he] at h
    cases h
  · obtain ⟨hpresent, hlasting⟩ := ha.inNamespace _ rfl
    rw [he]
    refine ⟨?_, hlasting, ?_⟩
    · rw [Cluster.Store.has_insert]
      exact .inl hpresent
    · rw [Cluster.Store.has_insert]
      exact .inr rfl

private theorem created_role {s : Store} (hI : Ordered s) (hA : Ready ns s) :
    Ordered (s.create Kind.clusterRoles (clusterRole ns)).2 ∧
      ∀ created, (s.create Kind.clusterRoles (clusterRole ns)).1 = .ok created →
        RoleReady ns (s.create Kind.clusterRoles (clusterRole ns)).2 := by
  have hd : Store.draft s.generated Kind.clusterRoles (clusterRole ns) =
      (.ok (.str (clusterScopedName ns), .null, clusterRole ns), s.generated) :=
    draft_of_name rfl (clusterScopedName_ne_empty ns) _
  have hk : Cluster.keyOf Kind.clusterRoles (.str (clusterScopedName ns)) .null =
    .ok (some (clusterRoleKey ns)) := rfl
  rcases Cluster.Store.create_of_draft hd hk with ⟨f, log, he⟩ | ⟨log, ha, he⟩
  · rw [he]
    exact ⟨hI.noted _ _, fun _ h ↦ nomatch h⟩
  · rw [he]
    refine ⟨(hI.noted _ log).insert (ha.noted _ log) _ (fun other hsame ↦ ?_) fun other hsame ↦ ?_,
      fun _ _ ↦ ⟨⟨?_, hA.lasting, ?_⟩, ?_⟩⟩
    · simp [clusterRoleKey, clusterRoleBindingKey, Kind.clusterRoles, Kind.clusterRoleBindings]
        at hsame
    · obtain rfl := clusterRoleKey_inj.mp hsame
      exact ⟨hA.present, hA.lasting⟩
    · rw [Cluster.Store.has_insert]
      exact .inl hA.present
    · rw [Cluster.Store.has_insert]
      exact .inl hA.account
    · rw [Cluster.Store.has_insert]
      exact .inr rfl

private theorem created_binding {s : Store} (hI : Ordered s) (hA : RoleReady ns s) :
    Ordered (s.create Kind.clusterRoleBindings (clusterRoleBinding ns)).2 := by
  have hd : Store.draft s.generated Kind.clusterRoleBindings (clusterRoleBinding ns) =
      (.ok (.str (clusterScopedName ns), .null, clusterRoleBinding ns), s.generated) :=
    draft_of_name rfl (clusterScopedName_ne_empty ns) _
  have hk : Cluster.keyOf Kind.clusterRoleBindings (.str (clusterScopedName ns)) .null =
    .ok (some (clusterRoleBindingKey ns)) := rfl
  rcases Cluster.Store.create_of_draft hd hk with ⟨f, log, he⟩ | ⟨log, ha, he⟩
  · rw [he]
    exact hI.noted _ _
  · rw [he]
    refine (hI.noted _ log).insert (ha.noted _ log) _ (fun other hsame ↦ ?_) fun other hsame ↦ ?_
    · obtain rfl := clusterRoleBindingKey_inj.mp hsame
      exact ⟨hA.2, hA.1.account⟩
    · simp [clusterRoleKey, clusterRoleBindingKey, Kind.clusterRoles, Kind.clusterRoleBindings]
        at hsame

private theorem neutral_create (kind : Kind) (manifest : Json)
    (h : kind ∈ [Kind.namespaces, Kind.serviceAccounts, Kind.roles, Kind.roleBindings,
      Kind.deployments, Kind.developments, Kind.users]) : IsNeutral (.create kind manifest) := by
  have hkinds : ∀ other ∈ [Kind.namespaces, Kind.serviceAccounts, Kind.roles, Kind.roleBindings,
      Kind.deployments, Kind.developments, Kind.users], other.name ≠ Kind.clusterRoles.name ∧
        other.name ≠ Kind.clusterRoleBindings.name := by decide
  exact hkinds kind h

/-- The parts between the account and the cluster-wide role. -/
private def innerParts (ns username : String) (variant : Variant) : List (Kind × Json) :=
  (Kind.roles, operatorRole ns) ::
    ((if variant = .extended then [(Kind.roles, userRole ns)] else []) ++
      (bindings ns username variant).map (Kind.roleBindings, ·))

/-- The parts after the binding of the cluster-wide role. -/
private def lastParts (ns : String) (config : Config) (variant : Variant) : List (Kind × Json) :=
  (Kind.deployments, operatorDeployment ns config) ::
    (Kind.developments, development ns config) ::
      if variant = .extended then [(Kind.users, users ns)] else []

private theorem manifests_split (ns username : String) (config : Config) (variant : Variant) :
    manifests ns username config variant =
      (Kind.namespaces, tenantNamespace ns) :: (Kind.serviceAccounts, serviceAccount ns) ::
        (innerParts ns username variant ++ (Kind.clusterRoles, clusterRole ns) ::
          (Kind.clusterRoleBindings, clusterRoleBinding ns) :: lastParts ns config variant) := by
  simp [manifests_eq, innerParts, lastParts]

private theorem neutral_innerParts {part : Kind × Json}
    (h : part ∈ innerParts ns username variant) : IsNeutral (.create part.1 part.2) := by
  unfold innerParts at h
  rcases List.mem_cons.mp h with rfl | h
  · exact neutral_create _ _ (by simp)
  rcases List.mem_append.mp h with h | h
  · split at h
    · obtain rfl := List.mem_singleton.mp h
      exact neutral_create _ _ (by simp)
    · cases h
  · obtain ⟨object, -, rfl⟩ := List.mem_map.mp h
    exact neutral_create _ _ (by simp)

private theorem neutral_lastParts {part : Kind × Json}
    (h : part ∈ lastParts ns config variant) : IsNeutral (.create part.1 part.2) := by
  unfold lastParts at h
  rcases List.mem_cons.mp h with rfl | h
  · exact neutral_create _ _ (by simp)
  rcases List.mem_cons.mp h with rfl | h
  · exact neutral_create _ _ (by simp)
  split at h
  · obtain rfl := List.mem_singleton.mp h
    exact neutral_create _ _ (by simp)
  · cases h

/-- Making a tenant keeps the order. -/
theorem leads_provisionSteps (instanceId : String) :
    Leads handle FairChange Ordered (fun _ ↦ True) (fun _ ↦ True)
      (runPipeline instanceId (provisionSteps ns username config variant)) := by
  have hnothing : Lasting fun _ ↦ True := fun _ _ _ _ _ ↦ trivial
  rw [provisionSteps_eq, manifests_split]
  simp only [List.map_cons, List.map_append]
  refine Pipeline.leads_runPipeline_cons ordered_stable instanceId
    (leads_neutral true_stable hnothing (makes_createStep (neutral_create _ _ (by simp)))) ?_
  refine Pipeline.leads_runPipeline_cons (B := Ready ns) ordered_stable instanceId ?_ ?_
  · refine Pipeline.leads_create ordered_stable true_stable ready_stable (serviceAccount ns) rfl rfl
      (fun s hI _ ↦ (hI.neutral (neutral_create Kind.serviceAccounts _ (by simp))).1)
      fun s _ _ hmade ↦ ?_
    rcases hmade with htolerates | ⟨created, hok⟩
    · cases htolerates
    · exact created_account hok
  refine Pipeline.leads_runPipeline_append ordered_stable instanceId (fun step hstep ↦ ?_) ?_
  · obtain ⟨part, hpart, rfl⟩ := List.mem_map.mp hstep
    exact leads_neutral ready_stable ready_lasting (makes_createStep (neutral_innerParts hpart))
  refine Pipeline.leads_runPipeline_cons (B := RoleReady ns) ordered_stable instanceId ?_ ?_
  · refine Pipeline.leads_create ordered_stable ready_stable roleReady_stable (clusterRole ns) rfl
      rfl (fun s hI hA ↦ (created_role hI hA).1) fun s hI hA hmade ↦ ?_
    rcases hmade with htolerates | ⟨created, hok⟩
    · cases htolerates
    · exact (created_role hI hA).2 created hok
  refine Pipeline.leads_runPipeline_cons (B := fun _ ↦ True) ordered_stable instanceId ?_ ?_
  · exact Pipeline.leads_create ordered_stable roleReady_stable true_stable (clusterRoleBinding ns)
      rfl rfl (fun s hI hA ↦ created_binding hI hA) fun _ _ _ _ ↦ trivial
  rw [← List.append_nil (List.map createStep _)]
  refine Pipeline.leads_runPipeline_append ordered_stable instanceId (fun step hstep ↦ ?_)
    (Pipeline.leads_runPipeline_nil ordered_stable true_stable instanceId)
  obtain ⟨part, hpart, rfl⟩ := List.mem_map.mp hstep
  exact leads_neutral true_stable hnothing (makes_createStep (neutral_lastParts hpart))

/-! ## Removing a tenant -/

/-- An object that can be erased is gone after a delete that finds it or finds nothing. -/
private theorem deleted {kind : Kind} {name place : Json} {key : Key} {s : Store} (hI : Ordered s)
    (hkind : kind = Kind.clusterRoles ∨ kind = Kind.clusterRoleBindings)
    (hk : Cluster.keyOf kind name place = .ok (some key))
    (hrole : ∀ ns, key = clusterRoleKey ns → s.has (clusterRoleBindingKey ns) = false) :
    Ordered (s.delete kind name place).2 ∧
      ((∀ f, (s.delete kind name place).1 = .error f → f.isNotFound = true) →
        (s.delete kind name place).2.has key = false) := by
  have hkey := (Cluster.Store.keyOf_eq_some hk).2.1
  have hevidence : IsEvidence .delete kind.name := by
    rcases hkind with rfl | rfl
    · exact .inl ⟨rfl, .inl rfl⟩
    · exact .inl ⟨rfl, .inr rfl⟩
  rcases Cluster.Store.delete_cases s kind name place with ⟨f, log, he, hwhy⟩ |
    ⟨other, log, hother, -, he⟩
  · rw [he]
    refine ⟨hI.noted _ log, fun hgone ↦ ?_⟩
    rcases hwhy with hmade | habsent
    · have htrue := hgone f rfl
      rw [hI.candid .delete kind f hevidence hmade] at htrue
      cases htrue
    · exact habsent key hk
  · rw [hk, Except.ok.injEq, Option.some.injEq] at hother
    subst hother
    have hplain : kind ≠ Kind.namespaces := by
      rcases hkind with rfl | rfl <;> decide
    have hnot {vital : String} (h : Kind.clusterRoles.name ≠ vital)
        (h' : Kind.clusterRoleBindings.name ≠ vital) : key.kind ≠ vital := by
      rw [hkey]
      rcases hkind with rfl | rfl
      · exact h
      · exact h'
    rw [he]
    simp only [Store.remove, if_neg hplain]
    refine ⟨(hI.noted _ log).erase (hnot (by decide) (by decide)) (hnot (by decide) (by decide))
      hrole, fun _ ↦ ?_⟩
    cases hh : ((s.noted s.generated log).erase key).has key with
    | false => rfl
    | true => exact absurd rfl ((Cluster.Store.has_erase _ _ _).mp hh).2

private theorem deleted_namespace {s : Store} (hI : Ordered s) (hA : Unruled ns s) :
    Ordered (s.delete Kind.namespaces (.str ns) .null).2 := by
  have hk : Cluster.keyOf Kind.namespaces (.str ns) .null =
    .ok (some (namespaceKey (.text ns))) := rfl
  rcases Cluster.Store.delete_cases s Kind.namespaces (.str ns) .null with ⟨f, log, he, -⟩ |
    ⟨other, log, hother, -, he⟩
  · rw [he]
    exact hI.noted _ log
  · rw [hk, Except.ok.injEq, Option.some.injEq] at hother
    subst hother
    rw [he]
    exact (hI.noted _ log).removeNamespace hA

/-- Removing a tenant keeps the order. -/
theorem leads_deprovisionSteps (instanceId : String) :
    Leads handle FairChange Ordered (fun _ ↦ True) (fun _ ↦ True)
      (runPipeline instanceId (deprovisionSteps ns)) := by
  have hnothing : Lasting fun _ ↦ True := fun _ _ _ _ _ ↦ trivial
  refine Pipeline.leads_runPipeline_append ordered_stable instanceId (fun step hstep ↦ ?_) ?_
  · obtain ⟨kind, hkind, rfl⟩ := List.mem_map.mp hstep
    have hkinds : ∀ kind ∈ recordKinds, kind.name ∉ vitalKinds := by decide
    exact leads_neutral true_stable hnothing ⟨trivial, fun _ ↦ hkinds kind hkind⟩
  refine Pipeline.leads_runPipeline_cons (B := Unbound ns) ordered_stable instanceId ?_ ?_
  · have hk : Cluster.keyOf Kind.clusterRoleBindings (.str (clusterScopedName ns)) .null =
      .ok (some (clusterRoleBindingKey ns)) := rfl
    have hdelete (s : Store) (hI : Ordered s) := deleted hI (.inr rfl) hk fun other hsame ↦ by
      simp [clusterRoleKey, clusterRoleBindingKey, Kind.clusterRoles, Kind.clusterRoleBindings]
        at hsame
    exact Pipeline.leads_delete ordered_stable true_stable (absent_stable _) rfl
      (fun s hI _ ↦ (hdelete s hI).1) fun s hI _ ↦ (hdelete s hI).2
  refine Pipeline.leads_runPipeline_cons (B := Unruled ns) ordered_stable instanceId ?_ ?_
  · have hk : Cluster.keyOf Kind.clusterRoles (.str (clusterScopedName ns)) .null =
      .ok (some (clusterRoleKey ns)) := rfl
    have hdelete (s : Store) (hI : Ordered s) (hA : Unbound ns s) := deleted hI (.inl rfl) hk
      fun other hsame ↦ clusterRoleKey_inj.mp hsame ▸ hA
    exact Pipeline.leads_delete ordered_stable (absent_stable _) (absent_stable _) rfl
      (fun s hI hA ↦ (hdelete s hI hA).1) fun s hI hA ↦ (hdelete s hI hA).2
  refine Pipeline.leads_runPipeline_cons (B := fun _ ↦ True) ordered_stable instanceId ?_
    (Pipeline.leads_runPipeline_nil ordered_stable true_stable instanceId)
  exact Pipeline.leads_delete ordered_stable (absent_stable _) true_stable rfl
    (fun s hI hA ↦ deleted_namespace hI hA) fun _ _ _ _ ↦ trivial

end TenantBroker.Tenant
