import TenantBroker.Http.Service
import TenantBroker.Proofs.Broker.Frame
import TenantBroker.Proofs.Cluster.Calls
import TenantBroker.Proofs.Http.Routes
import TenantBroker.Proofs.Tenant.Creation

/-!
# The gate before the cluster

A request over HTTP changes the cluster only if it has passed every check that can be made without
the cluster. After that the answer is that the work has begun, or a failure of the broker, never a
fault of the caller. So a caller who is told of a fault of his own has changed nothing.
-/

namespace TenantBroker.Http

open Broker (Action CreatesNothing Failure Looks OnlyLooked only_lastOperation orFail)
open Cluster (Call Kind Program Store)
open Cluster.Program
open Cluster.Store (handle)
open Pipeline (runPipeline)
open Tenant (namespaceFor)

/-! ## The catalog -/

/-- Two ids name a service of the catalog and one of its plans. -/
def Offers (service plan : String) (found : Catalog.Plan) : Prop :=
  ∃ s ∈ Catalog.services, s.id = service ∧ found ∈ s.plans ∧ found.id = plan

private theorem isId_iff {value : Json} {id : String} :
    Catalog.isId value id = true ↔ value = .str id := by
  unfold Catalog.isId
  cases value <;> simp [Json.text?]

/-- A plan is found exactly under the ids of a service and of one of its plans. -/
theorem findPlan_eq_ok_iff {service plan : Json} {found : Catalog.Plan} :
    Catalog.findPlan service plan = .ok found ↔
      ∃ s p, service = .str s ∧ plan = .str p ∧ Offers s p found := by
  constructor
  · intro h
    unfold Catalog.findPlan at h
    split at h
    · cases h
    · next s hs =>
      split at h
      · cases h
      · next p hp =>
        obtain rfl := Except.ok.inj h
        have hservice := List.find?_some hs
        have hplan := List.find?_some hp
        exact ⟨s.id, p.id, isId_iff.mp hservice, isId_iff.mp hplan, s,
          List.mem_of_find?_eq_some hs, rfl, List.mem_of_find?_eq_some hp, rfl⟩
  · rintro ⟨_, _, rfl, rfl, s, hs, rfl, hfound, rfl⟩
    obtain rfl := List.mem_singleton.mp hs
    obtain rfl := List.mem_singleton.mp hfound
    rfl

/-- A plan that is asked for is in the catalog and takes the parameters. -/
theorem checkRequestedPlan_eq_ok_iff {service plan : String} {parameters : Json} :
    Broker.checkRequestedPlan (.str service) (.str plan) parameters = .ok () ↔
      ∃ found, Offers service plan found ∧
        Catalog.validateParameters found.toJson parameters = .ok () := by
  unfold Broker.checkRequestedPlan Broker.checkPlan
  cases hfind : Catalog.findPlan (.str service) (.str plan) with
  | error fault =>
    refine iff_of_false nofun ?_
    rintro ⟨found, hoffers, -⟩
    rw [findPlan_eq_ok_iff.mpr ⟨service, plan, rfl, rfl, hoffers⟩] at hfind
    cases hfind
  | ok found =>
    obtain ⟨_, _, hservice, hplan, hoffers⟩ := findPlan_eq_ok_iff.mp hfind
    obtain rfl := Json.str.inj hservice
    obtain rfl := Json.str.inj hplan
    constructor
    · intro h
      exact ⟨found, hoffers, mapError_eq_ok_iff.mp h⟩
    · rintro ⟨other, hother, hvalid⟩
      have hsame := findPlan_eq_ok_iff.mpr ⟨service, plan, rfl, rfl, hother⟩
      rw [hfind] at hsame
      obtain rfl := Except.ok.inj hsame
      exact mapError_eq_ok_iff.mpr hvalid

/-! ## The gate -/

/-- A request for an instance passes every check. -/
structure Admits (config : Config) (instanceId : String) (r : Request) (ns username : String)
    (wanted : ProvisionRequest) : Prop where
  body : ∃ value, readBody r = .ok value ∧ checkBody value = .ok wanted
  incomplete : acceptsIncomplete r = .ok true
  identity : Identity.read (r.header? Identity.headerName) = .ok username
  plan : ∃ found, Offers wanted.service wanted.plan found ∧
    Catalog.validateParameters found.toJson wanted.parameters = .ok ()
  name : namespaceFor config.namespacePrefix instanceId = .ok ns

/-- A request to remove an instance passes every check. -/
structure Releases (config : Config) (instanceId : String) (r : Request) (ns : String) : Prop where
  incomplete : acceptsIncomplete r = .ok true
  plan : r.parameter? "service_id" = none ∧ r.parameter? "plan_id" = none ∨
    ∃ service plan found, r.parameter? "service_id" = some service ∧
      r.parameter? "plan_id" = some plan ∧ Offers service plan found
  name : namespaceFor config.namespacePrefix instanceId = .ok ns

/-- An identity names a user. -/
theorem username_ne_empty {header : Option String} {username : String}
    (h : Identity.read header = .ok username) : username ≠ "" := by
  have hparts {platform encoded : List Char}
      (h : Identity.readParts platform encoded = .ok username) : username ≠ "" := by
    unfold Identity.readParts at h
    split at h
    · cases h
    · next payload _ =>
      split at h
      · cases h
      · next name hname =>
        obtain rfl := Except.ok.inj h
        unfold Identity.username? at hname
        split at hname
        · simpa using (Option.filter_eq_some_iff.mp hname).2
        · cases hname
  unfold Identity.read at h
  split at h
  · cases h
  · split at h
    · cases h
    · simp only at h
      split at h
      · cases h
      · exact hparts h

/-- Both parts of a request for an instance are read, or there are issues. -/
theorem readProvision_eq_ok_iff {r : Request} {body : Option Json} {accepted : Bool}
    {wanted : ProvisionRequest} :
    readProvision r body = .ok (accepted, wanted) ↔
      acceptsIncomplete r = .ok accepted ∧ checkBody body = .ok wanted := by
  unfold readProvision
  cases acceptsIncomplete r with
  | error issue => simp
  | ok first => cases checkBody body <;> simp

variable {config : Config} {instanceId : String} {r : Request}

/-- A request for an instance that can be read, accepts an early answer and names a user is a
provision by the broker. -/
theorem provision_eq {username : String} {body : Option Json} {wanted : ProvisionRequest}
    (hbody : readBody r = .ok body) (hwanted : checkBody body = .ok wanted)
    (haccepted : acceptsIncomplete r = .ok true)
    (hidentity : Identity.read (r.header? Identity.headerName) = .ok username) :
    provision config instanceId r =
      (Broker.provision config instanceId username (.str wanted.service) (.str wanted.plan)
        wanted.parameters).map (.ofOutcome 202 provisionedJson) := by
  simp only [provision, hbody, readProvision_eq_ok_iff.mpr ⟨haccepted, hwanted⟩, gatedProvision,
    requireIncomplete, requestUser, hidentity, mapError_ok, if_true, orFail]

/-- A request for an instance that passes every check is the pipeline that makes the tenant. -/
theorem provision_of_admits {ns username : String} {wanted : ProvisionRequest}
    (h : Admits config instanceId r ns username wanted) :
    provision config instanceId r = ((runPipeline instanceId
        (Tenant.provisionSteps ns username config config.variant)).map fun outcomes ↦
      match outcomes with
      | .error f => .error (.ofPipeline f)
      | .ok _ => .ok ⟨Broker.deployOperation, Tenant.dashboardUrl ns config.routeSuffix, ns⟩).map
      (.ofOutcome 202 provisionedJson) := by
  obtain ⟨body, hbody, hwanted⟩ := h.body
  rw [provision_eq hbody hwanted h.incomplete h.identity]
  exact congrArg (map _) (Broker.provision_eq h.name (username_ne_empty h.identity)
    (checkRequestedPlan_eq_ok_iff.mpr h.plan))

/-- A request for an instance passes every check, or it is answered without the broker. -/
theorem provision_cases (config : Config) (instanceId : String) (r : Request) :
    (∃ ns username wanted, Admits config instanceId r ns username wanted) ∨
      ∃ response, provision config instanceId r = .done response := by
  unfold provision
  cases hbody : readBody r with
  | error fault => cases fault <;> exact .inr ⟨_, rfl⟩
  | ok body =>
    dsimp only
    cases hread : readProvision r body with
    | error issues => exact .inr ⟨_, rfl⟩
    | ok given =>
      obtain ⟨accepted, wanted⟩ := given
      obtain ⟨haccepted, hwanted⟩ := readProvision_eq_ok_iff.mp hread
      cases accepted with
      | false => exact .inr ⟨_, rfl⟩
      | true =>
        dsimp only [gatedProvision, requireIncomplete, requestUser, orFail]
        cases hidentity : Identity.read (r.header? Identity.headerName) with
        | error fault => exact .inr ⟨_, rfl⟩
        | ok username =>
          simp only [mapError_ok, Broker.provision, orFail]
          cases hplan : Broker.checkRequestedPlan (.str wanted.service) (.str wanted.plan)
              wanted.parameters with
          | error f => exact .inr ⟨_, rfl⟩
          | ok _ =>
            simp only [Broker.provisionTenant, if_neg (username_ne_empty hidentity),
              Broker.instanceNamespace]
            cases hname : namespaceFor config.namespacePrefix instanceId with
            | error fault => exact .inr ⟨_, rfl⟩
            | ok ns =>
              exact .inl ⟨ns, username, wanted, ⟨body, hbody, hwanted⟩, haccepted, hidentity,
                checkRequestedPlan_eq_ok_iff.mp hplan, hname⟩

/-- An offer passes its check if no id is given, or if its plan is found. -/
theorem checkOffer_iff_findPlan {service plan : Json} :
    checkOffer service plan = .ok () ↔
      service = .null ∧ plan = .null ∨ ∃ found, Catalog.findPlan service plan = .ok found := by
  unfold checkOffer
  split
  · simp
  · next hnot =>
    rw [or_iff_right fun hnull ↦ hnot hnull.1 hnull.2]
    cases Catalog.findPlan service plan <;> simp

/-- An id that counts as null is not given. -/
theorem elim_eq_null_iff {id : Option String} : id.elim .null Json.str = .null ↔ id = none := by
  cases id <;> simp

/-- An id that counts as a text is that text. -/
theorem elim_eq_str_iff {id : Option String} {s : String} :
    id.elim .null Json.str = .str s ↔ id = some s := by
  cases id <;> simp

/-- An offer is checked unless no id is given. -/
theorem checkOffer_eq_ok_iff {service plan : Option String} :
    checkOffer (service.elim .null .str) (plan.elim .null .str) = .ok () ↔
      service = none ∧ plan = none ∨
        ∃ s p found, service = some s ∧ plan = some p ∧ Offers s p found := by
  rw [checkOffer_iff_findPlan, elim_eq_null_iff, elim_eq_null_iff]
  simp only [findPlan_eq_ok_iff, elim_eq_str_iff]
  refine or_congr_right ⟨?_, ?_⟩
  · rintro ⟨found, s, p, hoffers⟩
    exact ⟨s, p, found, hoffers⟩
  · rintro ⟨s, p, found, hoffers⟩
    exact ⟨found, s, p, hoffers⟩

/-- A request to remove an instance that accepts an early answer and names no plan but an offered
one is a deprovision by the broker. -/
theorem deprovision_eq (haccepted : acceptsIncomplete r = .ok true)
    (hoffer : checkOffer (idParameter r "service_id") (idParameter r "plan_id") = .ok ()) :
    deprovision config instanceId r = (Broker.deprovision config instanceId).map
      (.ofOutcome 202 fun operation ↦ .obj [("operation", .str operation)]) := by
  simp only [deprovision, haccepted, gatedDeprovision, requireIncomplete, hoffer, if_true, orFail]

/-- A request to remove an instance that passes every check is the pipeline that removes it. -/
theorem deprovision_of_releases {ns : String} (h : Releases config instanceId r ns) :
    deprovision config instanceId r =
      ((runPipeline instanceId (Tenant.deprovisionSteps ns)).map fun outcomes ↦
        match outcomes with
        | .error f => .error (.ofPipeline f)
        | .ok _ => .ok Broker.removeOperation).map
        (.ofOutcome 202 fun operation ↦ .obj [("operation", .str operation)]) := by
  rw [deprovision_eq h.incomplete (checkOffer_eq_ok_iff.mpr h.plan)]
  exact congrArg (map _) (Broker.deprovision_eq h.name)

/-- A request to remove an instance passes every check, or it is answered without the broker. -/
theorem deprovision_cases (config : Config) (instanceId : String) (r : Request) :
    (∃ ns, Releases config instanceId r ns) ∨
      ∃ response, deprovision config instanceId r = .done response := by
  unfold deprovision
  cases haccepted : acceptsIncomplete r with
  | error issue => exact .inr ⟨_, rfl⟩
  | ok accepted =>
    cases accepted with
    | false => exact .inr ⟨_, rfl⟩
    | true =>
      dsimp only [gatedDeprovision, requireIncomplete, orFail]
      cases hoffer : checkOffer (idParameter r "service_id") (idParameter r "plan_id") with
      | error f => exact .inr ⟨_, rfl⟩
      | ok _ =>
        dsimp only [Broker.deprovision, Broker.instanceNamespace, orFail]
        cases hname : namespaceFor config.namespacePrefix instanceId with
        | error fault => exact .inr ⟨_, rfl⟩
        | ok ns => exact .inl ⟨ns, haccepted, checkOffer_eq_ok_iff.mp hoffer, hname⟩

/-! ## The answers past the gate -/

/-- A failure that is not the caller's: what is asked for is not found, or the broker fails. -/
def IsLate (f : Failure) : Prop :=
  (Response.ofFailure f).status = 404 ∨ (Response.ofFailure f).status = 500

/-- A failure of the cluster is the broker's. -/
theorem isLate_ofCluster (f : Cluster.Failure) : IsLate (.ofCluster f) := by
  cases f <;> exact .inr rfl

/-- An operation that has begun ends well, or with a failure that is not the caller's. -/
def EndsLate {α : Type} (outcome : Except Failure α) : Prop := ∀ f, outcome = .error f → IsLate f

/-- A success is no failure of the caller's. -/
theorem endsLate_ok {α : Type} (value : α) : EndsLate (.ok value) := nofun

/-- An error ends late if its failure is not the caller's. -/
theorem endsLate_error {α : Type} {f : Failure} (h : IsLate f) :
    EndsLate (.error f : Except Failure α) := by
  intro other hother
  obtain rfl := Except.error.inj hother
  exact h

/-- A pipeline that has begun succeeds, or the broker fails. -/
theorem yields_pipeline {α : Type} (steps : List Pipeline.Step) (given : α) :
    ((runPipeline instanceId steps).map fun outcomes ↦
      match outcomes with
      | .error f => .error (.ofPipeline f)
      | .ok _ => .ok given).Yields
      fun outcome : Except Failure α ↦
        ∀ f, outcome = .error f → (Response.ofFailure f).status = 500 := by
  refine yields_map (yields_true _) ?_
  intro outcomes _ f hf
  cases outcomes with
  | ok outcomes => cases hf
  | error failure =>
    obtain rfl := Except.error.inj hf
    cases failure <;> rfl

/-- A pipeline that has begun is answered with its success, or as a failure of the broker. -/
theorem yields_answered {α : Type} (steps : List Pipeline.Step) (given : α) (value : α → Json) :
    (((runPipeline instanceId steps).map fun outcomes ↦
        match outcomes with
        | .error f => .error (.ofPipeline f)
        | .ok _ => .ok given).map (Response.ofOutcome 202 value)).Yields
      fun answer ↦ answer.status = 202 ∨ answer.status = 500 := by
  refine yields_map (yields_pipeline steps given) ?_
  intro outcome hbroken
  cases outcome with
  | ok given => exact .inl rfl
  | error f => exact .inr (hbroken f rfl)

/-- Asking for the record of an instance ends late. -/
theorem yields_requireRecord (ns : String) :
    (Broker.requireRecord instanceId ns).Yields EndsLate := by
  refine yields_andThen (?_ : (Broker.findRecord ns).Yields EndsLate) (fun record ↦ ?_)
    fun f hf ↦ endsLate_error (hf f rfl)
  · rintro (f | _ | ⟨item, rest⟩)
    · dsimp only
      split
      · exact endsLate_ok _
      · exact endsLate_error (isLate_ofCluster f)
    · exact endsLate_ok _
    · dsimp only
      cases Tenant.Record.ofJson item with
      | ok record => exact endsLate_ok _
      | error d => exact endsLate_error (.inr rfl)
  · cases record with
    | none => exact endsLate_error (.inl rfl)
    | some record => exact endsLate_ok record

/-- The status of an operation ends late, or the instance has no name and no call is made. -/
theorem lastOperation_cases (config : Config) (instanceId operation : String) :
    (Broker.lastOperation config instanceId operation).Yields EndsLate ∨
      ∃ why, Broker.lastOperation config instanceId operation = .done (.error (.rejected why)) := by
  unfold Broker.lastOperation Broker.instanceNamespace
  cases namespaceFor config.namespacePrefix instanceId with
  | error fault => exact .inr ⟨_, rfl⟩
  | ok ns =>
    left
    dsimp only [mapError_ok, orFail]
    split
    · exact yields_andThen (yields_requireRecord ns) (fun _ ↦ endsLate_ok _)
        fun f hf ↦ endsLate_error (hf f rfl)
    · split
      · intro reply
        cases reply with
        | ok object => exact endsLate_ok _
        | error f =>
          dsimp only
          split
          · exact endsLate_ok _
          · exact endsLate_error (isLate_ofCluster f)
      · exact yields_andThen (yields_requireRecord ns) (fun _ ↦ endsLate_ok _)
          fun f hf ↦ endsLate_error (hf f rfl)

/-- A request is answered without a call; or it has passed the gate, and the answer is that the work
has begun or a failure of the broker; or it only looks at the cluster. -/
theorem respond_cases (config : Config) (r : Request) :
    (∃ response, respond config r = .done response) ∨
      (respond config r).Yields (fun answer ↦ answer.status = 202 ∨ answer.status = 500) ∨
      (respond config r).Only Looks ∧ (respond config r).Yields fun answer ↦
        answer.status = 200 ∨ answer.status = 404 ∨ answer.status = 500 := by
  unfold respond
  cases destination r.method r.path with
  | wrongMethod => exact .inl ⟨_, rfl⟩
  | redirect path => exact .inl ⟨_, rfl⟩
  | nowhere => exact .inl ⟨_, rfl⟩
  | route route =>
    cases route with
    | page => exact .inl ⟨_, rfl⟩
    | root => exact .inl ⟨_, rfl⟩
    | catalog => exact .inl ⟨_, rfl⟩
    | provision instanceId =>
      dsimp only [answer]
      rcases provision_cases config instanceId r with ⟨ns, username, wanted, h⟩ | hdone
      · rw [provision_of_admits h]
        exact .inr (.inl (yields_answered _ _ _))
      · exact .inl hdone
    | deprovision instanceId =>
      dsimp only [answer]
      rcases deprovision_cases config instanceId r with ⟨ns, h⟩ | hdone
      · rw [deprovision_of_releases h]
        exact .inr (.inl (yields_answered _ _ _))
      · exact .inl hdone
    | lastOperation instanceId =>
      dsimp only [answer, lastOperation]
      rcases lastOperation_cases config instanceId ((r.parameter? "operation").getD "") with
        hlate | ⟨why, hdone⟩
      · refine .inr (.inr ⟨only_map (only_lastOperation (fun _ _ _ ↦ trivial) (fun _ _ ↦ trivial)
          _ _), yields_map hlate fun outcome houtcome ↦ ?_⟩)
        cases outcome with
        | ok status => exact .inl rfl
        | error f => exact .inr (houtcome f rfl)
      · rw [hdone]
        exact .inl ⟨_, rfl⟩

/-! ## Calls past the gate -/

/-- A provision that has passed the gate creates the namespace first. -/
theorem calls_of_admits {ns username : String} {wanted : ProvisionRequest}
    (h : Admits config instanceId r ns username wanted) (s : Store) :
    .create Kind.namespaces (Tenant.tenantNamespace ns) ∈
      (provision config instanceId r).calls handle s := by
  have hpart : (Kind.namespaces, Tenant.tenantNamespace ns) ∈
      Tenant.manifests ns username config config.variant := List.mem_cons_self
  obtain ⟨label, hlabel⟩ := (Tenant.isPart_of_mem hpart).label
  obtain ⟨rest, hsteps⟩ : ∃ rest, Tenant.provisionSteps ns username config config.variant =
      Tenant.createStep (Kind.namespaces, Tenant.tenantNamespace ns) :: rest := ⟨_, rfl⟩
  obtain ⟨next, hnext, -⟩ := Pipeline.runPipeline_create instanceId hlabel rfl rfl rest
  rw [provision_of_admits h, calls_map, calls_map, hsteps, hnext]
  exact List.mem_cons_self

/-- A deprovision that has passed the gate lists the users first. -/
theorem calls_of_releases {ns : String} (h : Releases config instanceId r ns) (s : Store) :
    .list Kind.users (.str ns) ∈ (deprovision config instanceId r).calls handle s := by
  rw [deprovision_of_releases h, calls_map, calls_map]
  exact List.mem_cons_self

/-! ## Requests -/

/-- The namespace is created exactly if the request passes every check. -/
theorem creates_iff_admits (config : Config) (instanceId : String) (r : Request) (s : Store) :
    (∃ manifest, .create Kind.namespaces manifest ∈
        (provision config instanceId r).calls handle s) ↔
      ∃ ns username wanted, Admits config instanceId r ns username wanted := by
  constructor
  · rintro ⟨manifest, hcall⟩
    rcases provision_cases config instanceId r with hadmits | ⟨response, hdone⟩
    · exact hadmits
    · rw [hdone] at hcall
      cases hcall
  · rintro ⟨ns, username, wanted, h⟩
    exact ⟨_, calls_of_admits h s⟩

/-- The users are listed exactly if the request passes every check. -/
theorem lists_iff_releases (config : Config) (instanceId : String) (r : Request) (s : Store) :
    (∃ place, .list Kind.users place ∈ (deprovision config instanceId r).calls handle s) ↔
      ∃ ns, Releases config instanceId r ns := by
  constructor
  · rintro ⟨place, hcall⟩
    rcases deprovision_cases config instanceId r with hreleases | ⟨response, hdone⟩
    · exact hreleases
    · rw [hdone] at hcall
      cases hcall
  · rintro ⟨ns, h⟩
    exact ⟨_, calls_of_releases h s⟩

/-- What the status of an answer says about the calls that were made. -/
structure Truthful (s : Store) (calls : List Call) (status : Nat) (t : Store) : Prop where
  changed : ∀ c ∈ calls, ¬ Looks c → status = 202 ∨ status = 500
  unchanged : status ≠ 202 → status ≠ 500 → t.objects = s.objects
  refused : 400 ≤ status → status < 500 → status ≠ 404 → calls = []

/-- The status of every answer is truthful about the calls. -/
theorem truthful_respond (config : Config) (r : Request) (s : Store) :
    Truthful s ((respond config r).calls handle s) ((respond config r).run handle s).1.status
      ((respond config r).run handle s).2 := by
  rcases respond_cases config r with ⟨response, hdone⟩ | hbegun | ⟨hlooks, hends⟩
  · rw [hdone]
    exact ⟨List.forall_mem_nil _, fun _ _ ↦ rfl, fun _ _ _ ↦ rfl⟩
  · have hstatus := run_of_yields handle hbegun s
    exact ⟨fun _ _ _ ↦ hstatus, by omega, by omega⟩
  · have hstatus := run_of_yields handle hends s
    have hlooked : OnlyLooked s ((respond config r).run handle s).2 :=
      run_of_only (I := OnlyLooked s) (fun c hc t ht ↦ ht.handle hc) hlooks ⟨[], by simp, by simp⟩
    refine ⟨fun c hc hnot ↦ absurd (calls_of_only hlooks s c hc) hnot, fun _ _ ↦ ?_, by omega⟩
    obtain ⟨entries, -, ht⟩ := hlooked
    rw [ht]

/-- A request for an instance is answered with a provision. -/
theorem respond_put (hsegment : isSegment instanceId.toList = true) (hmethod : r.method = "PUT")
    (hpath : r.path = instancesPath ++ instanceId) :
    respond config r = provision config instanceId r := by
  rw [respond, hmethod, hpath, destination_put hsegment]
  rfl

/-- A request to remove an instance is answered with a deprovision. -/
theorem respond_delete (hsegment : isSegment instanceId.toList = true)
    (hmethod : r.method = "DELETE") (hpath : r.path = instancesPath ++ instanceId) :
    respond config r = deprovision config instanceId r := by
  rw [respond, hmethod, hpath, destination_delete hsegment]
  rfl

/-- A request for the last operation is answered with its status. -/
theorem respond_get (hsegment : isSegment instanceId.toList = true) (hmethod : r.method = "GET")
    (hpath : r.path = instancesPath ++ instanceId ++ lastOperationPath) :
    respond config r = lastOperation config instanceId r := by
  rw [respond, hmethod, hpath, destination_lastOperation hsegment]
  rfl

/-- On every cluster, whatever fails there, a call that creates or deletes is made only for a
request that is answered with 202 or 500, so any other answer means that the objects are as they
were; a fault of the caller, other than asking for what is not there, means that no call was made.
The namespace of an instance is created, and its records are listed for removal, exactly if the
request passes every check. -/
theorem respond_gate (config : Config) (r : Request) (s : Store) :
    let calls := (respond config r).calls handle s
    let after := (respond config r).run handle s
    (∀ c ∈ calls, ¬ Looks c → after.1.status = 202 ∨ after.1.status = 500) ∧
    (after.1.status ≠ 202 → after.1.status ≠ 500 → after.2.objects = s.objects) ∧
    (400 ≤ after.1.status → after.1.status < 500 → after.1.status ≠ 404 → calls = []) ∧
    ∀ instanceId, isSegment instanceId.toList = true → r.path = instancesPath ++ instanceId →
      (r.method = "PUT" → ((∃ manifest, .create Kind.namespaces manifest ∈ calls) ↔
        ∃ ns username wanted, Admits config instanceId r ns username wanted)) ∧
      (r.method = "DELETE" → ((∃ place, .list Kind.users place ∈ calls) ↔
        ∃ ns, Releases config instanceId r ns)) := by
  intro calls after
  have htruthful := truthful_respond config r s
  refine ⟨htruthful.changed, htruthful.unchanged, htruthful.refused,
    fun instanceId hsegment hpath ↦ ⟨fun hmethod ↦ ?_, fun hmethod ↦ ?_⟩⟩
  · rw [← creates_iff_admits config instanceId r s, ← respond_put hsegment hmethod hpath]
  · rw [← lists_iff_releases config instanceId r s, ← respond_delete hsegment hmethod hpath]

/-- The plain request to remove an instance, by a caller who accepts an early answer. -/
def removalRequest (instanceId : String) : Request where
  method := "DELETE"
  path := instancesPath ++ instanceId
  query := "accepts_incomplete=true"
  server := "127.0.0.1:8080"

/-- The parameters of a request are those of its query. -/
theorem parameter?_congr {r other : Request} (h : r.query = other.query) (name : String) :
    r.parameter? name = other.parameter? name := by
  unfold Request.parameter?
  rw [h]

/-- The plain request to remove an instance that has a namespace passes every check. -/
theorem releases_removalRequest {ns : String}
    (hns : namespaceFor config.namespacePrefix instanceId = .ok ns) :
    Releases config instanceId (removalRequest instanceId) ns := by
  have hsame (name : String) : (removalRequest instanceId).parameter? name =
      (removalRequest "").parameter? name := parameter?_congr rfl name
  have hincomplete : (removalRequest "").parameter? incompleteParameter = some "true" := by rfl
  have hservice : (removalRequest "").parameter? "service_id" = none := by rfl
  have hplan : (removalRequest "").parameter? "plan_id" = none := by rfl
  refine ⟨?_, .inl ⟨(hsame _).trans hservice, (hsame _).trans hplan⟩, hns⟩
  rw [acceptsIncomplete, hsame, hincomplete]
  rfl

/-- On a cluster that lists no users, the plain request to remove an instance lists them all the
same. A request for an instance without a body creates no namespace. -/
theorem respond_gate_removal :
    let s : Store := {
      failures := [((.list, Kind.users.name), .cause (.value (.refused "down")))] }
    let empty : Request :=
      { method := "PUT", path := instancesPath ++ "a", server := "127.0.0.1:8080" }
    (∃ place, .list Kind.users place ∈ (respond {} (removalRequest "a")).calls handle s) ∧
      ¬ ∃ manifest, .create Kind.namespaces manifest ∈ (respond {} empty).calls handle s := by
  intro s empty
  have hsegment : isSegment "a".toList = true := rfl
  have hns : namespaceFor ({} : Config).namespacePrefix "a" = .ok "rhpam-a" := rfl
  obtain ⟨-, -, -, hremoval⟩ := respond_gate {} (removalRequest "a") s
  obtain ⟨-, -, -, hempty⟩ := respond_gate {} empty s
  refine ⟨((hremoval "a" hsegment rfl).2 rfl).mpr ⟨_, releases_removalRequest hns⟩, ?_⟩
  intro hcreates
  obtain ⟨ns, username, wanted, h⟩ := ((hempty "a" hsegment rfl).1 rfl).mp hcreates
  obtain ⟨value, hvalue, hwanted⟩ := h.body
  obtain rfl : none = value := Except.ok.inj hvalue
  cases hwanted

end TenantBroker.Http
