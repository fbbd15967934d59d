import TenantBroker.Proofs.Broker.Lifecycle
import TenantBroker.Proofs.Cluster.Calls
import TenantBroker.Proofs.Network.HostName

/-!
# The host of a dashboard

A provision gives out the address of the tenant's dashboard. Its host begins with a label that is
made of the namespace, and goes on with the route suffix where one is set. The namespace is a label
of its own, and the text in front of it uses up nine of the characters that a label may have. So the
host is the name of a host exactly as long as the namespace leaves room for them.
-/

namespace TenantBroker.Broker

open Cluster (Handler Store)
open Cluster.Program
open Network (Url hostCharacters hostLabels isHostName)
open Tenant (IsLabel dashboardHost dashboardUrl isDnsLabel isLabelInner isLabelInner_iff
  isLabelShape isLabelShape_iff maxLabelLength namespaceFor)

variable {config : Config} {ns instanceId username : String} {service plan parameters : Json}
  {routeSuffix : Option String}

/-! ## The labels of the host -/

/-- The first label of the host of a tenant's dashboard. -/
def dashboardLabel (ns : String) : String := "rhpam-bc-" ++ ns

/-- The labels that a route suffix adds to the host. -/
def suffixLabels (routeSuffix : Option String) : List String := routeSuffix.elim [] hostLabels

/-- A label after the text in front of it has the shape of a label, whatever its length. -/
theorem isLabelShape_dashboardLabel (h : IsLabel ns) :
    isLabelShape (dashboardLabel ns).toList = true := by
  have hcharacters : (dashboardLabel ns).toList = "rhpam-bc-".toList ++ ns.toList :=
    String.toList_append
  have hne : ns.toList ≠ [] := by
    rw [← List.length_pos_iff, String.length_toList]
    exact h.nonempty
  rw [hcharacters, isLabelShape_iff]
  refine ⟨List.append_ne_nil_of_right_ne_nil _ hne, ?_, nofun, ?_⟩
  · rw [List.forall_mem_append]
    exact ⟨List.all_eq_true.mp (by decide), fun c hc ↦ isLabelInner_iff.mpr (h.characters c hc)⟩
  · rw [List.getLast?_append_of_ne_nil _ hne]
    exact h.last

/-- The first label of the host has no other characters than those within labels. -/
theorem isLabelInner_of_mem_dashboardLabel (h : IsLabel ns) :
    ∀ c ∈ (dashboardLabel ns).toList, isLabelInner c = true :=
  (isLabelShape_iff.mp (isLabelShape_dashboardLabel h)).2.1

/-- The first label of the host is a DNS label exactly if the namespace has room for it. -/
theorem isDnsLabel_dashboardLabel (h : IsLabel ns) :
    isDnsLabel (dashboardLabel ns) = true ↔ ns.length ≤ 54 := by
  have hlength : (dashboardLabel ns).length = 9 + ns.length := by
    rw [dashboardLabel, String.length_append]
    rfl
  rw [isDnsLabel, isLabelShape_dashboardLabel h, Bool.and_true, decide_eq_true_iff, hlength,
    maxLabelLength]
  omega

/-- The host of a dashboard is its first label and those of the route suffix. -/
theorem hostLabels_dashboardHost (h : IsLabel ns) (routeSuffix : Option String) :
    hostLabels (dashboardHost ns routeSuffix) = dashboardLabel ns :: suffixLabels routeSuffix := by
  have hdot : '.' ∉ (dashboardLabel ns).toList := fun hdot ↦
    absurd (isLabelInner_of_mem_dashboardLabel h '.' hdot) (by decide)
  cases routeSuffix with
  | none => exact Network.hostLabels_of_not_mem hdot
  | some suffix =>
    have hjoined : dashboardHost ns (some suffix) = dashboardLabel ns ++ "." ++ suffix := by
      simp only [dashboardHost, dashboardLabel, String.append_assoc]
    rw [hjoined, Network.hostLabels_dotted, Network.hostLabels_of_not_mem hdot]
    rfl

/-- The labels of a route suffix that is the name of a host are DNS labels. -/
theorem isDnsLabel_of_mem_suffixLabels
    (hsuffix : ∀ suffix, routeSuffix = some suffix → isHostName suffix = true) :
    ∀ label ∈ suffixLabels routeSuffix, isDnsLabel label = true := by
  cases routeSuffix with
  | none => exact fun label hlabel ↦ nomatch hlabel
  | some suffix => exact List.all_eq_true.mp (hsuffix suffix rfl)

section

variable (h : IsLabel ns) (hsuffix : ∀ suffix, routeSuffix = some suffix → isHostName suffix = true)
include h hsuffix

/-- The host of a dashboard is the name of a host exactly if the namespace has room for the text in
front of it. -/
theorem isHostName_dashboardHost :
    isHostName (dashboardHost ns routeSuffix) = true ↔ ns.length ≤ 54 := by
  rw [isHostName, hostLabels_dashboardHost h, List.all_cons, Bool.and_eq_true, List.all_eq_true,
    isDnsLabel_dashboardLabel h]
  exact and_iff_left (isDnsLabel_of_mem_suffixLabels hsuffix)

/-- The address of a dashboard has nothing but a scheme and the host. -/
theorem split_dashboardUrl :
    Url.split (dashboardUrl ns routeSuffix) =
      .ok ⟨"https", dashboardHost ns routeSuffix, "", "", ""⟩ := by
  apply Network.split_https
  have hlabel : ∀ c ∈ (dashboardLabel ns).toList, c ∈ hostCharacters := fun c hc ↦
    List.mem_cons_of_mem _ (isLabelInner_iff.mp (isLabelInner_of_mem_dashboardLabel h c hc))
  cases routeSuffix with
  | none => exact hlabel
  | some suffix =>
    have hcharacters : (dashboardHost ns (some suffix)).toList =
        (dashboardLabel ns).toList ++ '.' :: suffix.toList := by
      simp [dashboardHost, dashboardLabel]
    rw [hcharacters, List.forall_mem_append, List.forall_mem_cons]
    exact ⟨hlabel, List.mem_cons_self, Network.characters_of_isHostName (hsuffix suffix rfl)⟩

end

/-! ## What a provision gives out -/

/-- A provision that succeeds gives out the namespace of the instance and the address of its
dashboard. -/
theorem yields_provision :
    (provision config instanceId username service plan parameters).Yields fun outcome ↦
      ∀ given, outcome = .ok given → namespaceFor config.namespacePrefix instanceId = .ok given.ns ∧
        given.dashboardUrl = dashboardUrl given.ns config.routeSuffix := by
  refine yields_orFail (fun _ _ ↦ ?_) fun f _ given h ↦ nomatch h
  unfold provisionTenant
  split
  · exact fun given h ↦ nomatch h
  refine yields_orFail (fun ns hns ↦ ?_) fun f _ given h ↦ nomatch h
  refine yields_map (yields_true _) fun outcomes _ given h ↦ ?_
  cases outcomes with
  | error f => cases h
  | ok outcomes =>
    obtain rfl := Except.ok.inj h
    exact ⟨mapError_eq_ok_iff.mp hns, rfl⟩

/-- The namespace of an instance is as long as its prefix, a hyphen and its id. -/
theorem length_of_namespaceFor {stem : String} (h : namespaceFor stem instanceId = .ok ns) :
    ns.length = stem.length + 1 + instanceId.length := by
  rw [Tenant.eq_joinedName h, Tenant.joinedName, String.length_append, String.length_append]
  rfl

/-- An absent instance is given out an address where nothing hinders its provision. -/
theorem exists_given (hns : namespaceFor config.namespacePrefix instanceId = .ok ns)
    (huser : username ≠ "") (hplan : checkRequestedPlan service plan parameters = .ok ()) :
    ((provision config instanceId username service plan parameters).run Store.handle
        Store.empty).1 =
      .ok ⟨deployOperation, dashboardUrl ns config.routeSuffix, ns⟩ := by
  have habsent : Tenant.IsAt ns Store.empty .absent := ⟨rfl, List.not_mem_nil⟩
  obtain ⟨t, hrun, -⟩ := run_provision_absent habsent (Cluster.Store.steady_empty false) hns rfl
    huser hplan
  rw [hrun]

/-- Let the route suffix be the name of a host, or unset. Whatever the cluster answers, a provision
that succeeds gives out an address with a scheme, a host and nothing else. The labels of the host
are one made of the prefix and the id, of the shape of a DNS label, and those of the route suffix,
which are DNS labels. The first one alone can be too long: the host is the name of a host exactly if
the prefix and the id have 53 characters together at most. Every instance that has a namespace can
be given out such an address, also where it is no name of a host. -/
theorem dashboard_host (config : Config)
    (hsuffix : ∀ suffix, config.routeSuffix = some suffix → isHostName suffix = true)
    (instanceId username : String) (service plan parameters : Json) :
    (∀ (σ : Type) (handle : Handler σ) (s : σ) given,
      ((provision config instanceId username service plan parameters).run handle s).1 = .ok given →
      ∃ host label, Url.split given.dashboardUrl = .ok ⟨"https", host, "", "", ""⟩ ∧
        label = "rhpam-bc-" ++ (config.namespacePrefix ++ "-" ++ instanceId) ∧
        hostLabels host = label :: suffixLabels config.routeSuffix ∧
        isLabelShape label.toList = true ∧
        (∀ other ∈ suffixLabels config.routeSuffix, isDnsLabel other = true) ∧
        (isHostName host = true ↔ config.namespacePrefix.length + instanceId.length ≤ 53)) ∧
    ∀ ns, namespaceFor config.namespacePrefix instanceId = .ok ns → username ≠ "" →
      checkRequestedPlan service plan parameters = .ok () →
      ∃ given, ((provision config instanceId username service plan parameters).run Store.handle
        Store.empty).1 = .ok given := by
  constructor
  · intro σ handle s given hgiven
    obtain ⟨hns, haddress⟩ := run_of_yields handle yields_provision s given hgiven
    have hlabel := Tenant.isLabel_of_namespaceFor hns
    refine ⟨dashboardHost given.ns config.routeSuffix, dashboardLabel given.ns, ?_, ?_,
      hostLabels_dashboardHost hlabel _, isLabelShape_dashboardLabel hlabel,
      isDnsLabel_of_mem_suffixLabels hsuffix, ?_⟩
    · rw [haddress]
      exact split_dashboardUrl hlabel hsuffix
    · rw [dashboardLabel, Tenant.eq_joinedName hns]
      rfl
    · rw [isHostName_dashboardHost hlabel hsuffix, length_of_namespaceFor hns]
      omega
  · intro ns hns huser hplan
    exact ⟨_, exists_given hns huser hplan⟩

/-- After the prefix `rhpam` there is room for 48 characters in the name of a host, but the
namespace takes one more as well. -/
theorem dashboard_host_boundary :
    let config : Config := { routeSuffix := some "apps.example.com" }
    let fits := String.ofList (List.replicate 48 'a')
    let answer (instanceId : String) :=
      ((provisionPlain config instanceId "u").run Store.handle Store.empty).1
    (∃ given host, answer fits = .ok given ∧
      Url.split given.dashboardUrl = .ok ⟨"https", host, "", "", ""⟩ ∧ isHostName host = true) ∧
    ∃ given host, answer (fits ++ "a") = .ok given ∧
      Url.split given.dashboardUrl = .ok ⟨"https", host, "", "", ""⟩ ∧
      ¬ isHostName host = true := by
  intro config fits answer
  have hsuffix : ∀ suffix, config.routeSuffix = some suffix → isHostName suffix = true := by
    rintro suffix ⟨⟩
    decide
  have hplan : checkRequestedPlan .null .null .null = .ok () := rfl
  have hfits : namespaceFor config.namespacePrefix fits = .ok ("rhpam-" ++ fits) := by decide
  have hlong : namespaceFor config.namespacePrefix (fits ++ "a") =
      .ok ("rhpam-" ++ (fits ++ "a")) := by decide
  obtain ⟨hhost, hgiven⟩ := dashboard_host config hsuffix fits "u" .null .null .null
  obtain ⟨hhost', hgiven'⟩ := dashboard_host config hsuffix (fits ++ "a") "u" .null .null .null
  obtain ⟨given, hgiven⟩ := hgiven _ hfits (by decide) hplan
  obtain ⟨given', hgiven'⟩ := hgiven' _ hlong (by decide) hplan
  obtain ⟨host, -, hsplit, -, -, -, -, hiff⟩ := hhost Store Store.handle Store.empty given hgiven
  obtain ⟨host', -, hsplit', -, -, -, -, hiff'⟩ :=
    hhost' Store Store.handle Store.empty given' hgiven'
  refine ⟨⟨given, host, hgiven, hsplit, hiff.mpr (by decide)⟩,
    given', host', hgiven', hsplit', fun h ↦ absurd (hiff'.mp h) (by decide)⟩

/-- Without a route suffix an instance with an id of 49 characters has a namespace, and its
provision on an empty cluster gives out an address whose host is one label of 64 characters. -/
theorem overlong_host_given_out :
    let instanceId := String.ofList (List.replicate 49 'a')
    let host := "rhpam-bc-rhpam-" ++ instanceId
    namespaceFor ({} : Config).namespacePrefix instanceId = .ok ("rhpam-" ++ instanceId) ∧
    ∃ given, ((provisionPlain {} instanceId "u").run Store.handle Store.empty).1 = .ok given ∧
      Url.split given.dashboardUrl = .ok ⟨"https", host, "", "", ""⟩ ∧
      hostLabels host = [host] ∧ host.length = 64 ∧ isHostName host = false := by
  intro instanceId host
  have hns : namespaceFor ({} : Config).namespacePrefix instanceId = .ok ("rhpam-" ++ instanceId) :=
    by decide
  refine ⟨hns, _, exists_given hns (by decide) rfl, ?_, by decide, by decide, by decide⟩
  exact split_dashboardUrl (Tenant.isLabel_of_namespaceFor hns) nofun

end TenantBroker.Broker
