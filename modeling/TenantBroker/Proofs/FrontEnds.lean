import TenantBroker.Proofs.CommandLine.Usage
import TenantBroker.Proofs.Http.Gate
import TenantBroker.Proofs.Yaml.Reading

/-!
# Two front ends

The broker can be asked over HTTP and on the command line. A request and a command that ask for the
same are one program up to the form of its answer, so they do the same to every cluster. Both forms
say whether the operation succeeded, what came of it if it did, and why not if the failure is one
that the broker foresees.
-/

namespace TenantBroker

open Broker (Answer Failure)
open Cluster (Handler Kind Program Store)
open Cluster.Program
open CommandLine (Command Console Outcome)
open Http (Offers Response acceptsIncomplete instancesPath isSegment lastOperationPath)

/-! ## Answers -/

namespace Broker

/-- The fields of an instance that a caller is told. -/
def Provisioned.fields (p : Provisioned) : List (String × String) :=
  [("operation", p.operation), ("dashboard_url", p.dashboardUrl)]

/-- The fields of a status that a caller is told. -/
def Status.fields (s : Status) : List (String × String) :=
  [("state", s.state.name), ("description", s.description)]

/-- What an answer tells: the fields of what came of the operation, or its failure. -/
def Answer.told : Answer → Except Failure (List (String × String))
  | .provisioned outcome => outcome.map Provisioned.fields
  | .deprovisioned outcome => outcome.map fun operation ↦ [("operation", operation)]
  | .status outcome => outcome.map Status.fields

/-- What both front ends can tell: fields that a reader of a printed document takes from it, or
another failure than that an early answer is not accepted. -/
def Tellable : Except Failure (List (String × String)) → Prop
  | .ok fields => fields ≠ [] ∧ ∀ f ∈ fields, Yaml.IsReadable f
  | .error f => f ≠ .asyncRequired

end Broker

/-- The response that an answer of the broker gets. -/
def Http.Response.ofAnswer : Answer → Response
  | .provisioned outcome => .ofOutcome 202 provisionedJson outcome
  | .deprovisioned outcome =>
    .ofOutcome 202 (fun operation ↦ .obj [("operation", .str operation)]) outcome
  | .status outcome => .ofOutcome 200 statusJson outcome

/-- The outcome of a command that gets an answer of the broker. -/
def CommandLine.Outcome.ofAnswer : Answer → Outcome
  | .provisioned outcome => .ofOperation provisionedRecord outcome
  | .deprovisioned outcome => .ofOperation (fun operation ↦ [("operation", .str operation)]) outcome
  | .status outcome => .ofOperation statusRecord outcome

/-- The status of a failure: the fault of the caller, something not found, or a fault of the
broker. -/
def statusOf : Failure → Nat
  | .rejected _ => 400
  | .missing _ => 404
  | _ => 500

/-- The name of a failure over HTTP. -/
def nameOf : Failure → String
  | .rejected _ => "BadRequest"
  | .missing _ => "NotFound"
  | _ => "InternalServerError"

/-- A response and the outcome of a command agree on what is told of an operation. -/
structure Agree (response : Response) (outcome : Outcome)
    (told : Except Failure (List (String × String))) : Prop where
  success : 200 ≤ response.status ∧ response.status < 300 ↔ outcome.exitCode = 0
  /-- The members of the response are the fields that are read from what the command prints. -/
  values : outcome.exitCode = 0 → ∃ fields members, told = .ok fields ∧
    response.content = .json (.obj members) ∧ members.Perm (Yaml.textFields fields) ∧
    Yaml.read? outcome.output = some fields
  /-- What the command reports is the wording of the failure, and over HTTP its description. -/
  wording : ∀ message, outcome = .refused message → ∃ f, told = .error f ∧
    f.message? = some message ∧ response = .failure (statusOf f) (nameOf f) message
  /-- The report stands last on standard error, in full on a terminal or without escapes. -/
  errors : ∀ message, outcome = .refused message → ∀ console : Console,
    console.errors outcome = .ok (console.logged ++ console.warning message ++
      Text.onOutput console.terminal ("Error: " ++ message ++ "\n")) ∧
    (console.terminal = true ∨ Text.escape ∉ message.toList →
      Text.onOutput console.terminal ("Error: " ++ message ++ "\n") = "Error: " ++ message ++ "\n")

/-- What is told on standard error of a command that is refused. -/
theorem errors_of_refused {outcome : Outcome} (message : String) (h : outcome = .refused message)
    (console : Console) :
    console.errors outcome = .ok (console.logged ++ console.warning message ++
      Text.onOutput console.terminal ("Error: " ++ message ++ "\n")) ∧
    (console.terminal = true ∨ Text.escape ∉ message.toList →
      Text.onOutput console.terminal ("Error: " ++ message ++ "\n") =
        "Error: " ++ message ++ "\n") := by
  subst h
  exact ⟨CommandLine.errors_refused console message, CommandLine.onOutput_report⟩

/-- A failure that the broker foresees has a wording, and over HTTP the status of its class. -/
theorem ofFailure_of_isForeseen {f : Failure} (hf : f ≠ .asyncRequired)
    (hforeseen : CommandLine.isForeseen f = true) :
    f.message? = some (f.message?.getD "") ∧
      Response.ofFailure f = .failure (statusOf f) (nameOf f) (f.message?.getD "") := by
  cases f with
  | asyncRequired => exact absurd rfl hf
  | defect what => cases hforeseen
  | rejected why => exact ⟨rfl, rfl⟩
  | missing instanceId => exact ⟨rfl, rfl⟩
  | configuration fault => exact ⟨rfl, rfl⟩
  | step failure => exact ⟨rfl, rfl⟩
  | cluster why => exact ⟨rfl, rfl⟩

/-- The response to a failure is no success. -/
theorem not_success_ofFailure (f : Failure) :
    ¬ (200 ≤ (Response.ofFailure f).status ∧ (Response.ofFailure f).status < 300) := by
  cases f <;> simp [Response.ofFailure, Response.failure, Response.ofJson, Response.broken]

/-- The failure of an operation is reported by both front ends, with the same wording if the broker
foresees it. -/
theorem agree_error {α : Type} {f : Failure} (hf : f ≠ .asyncRequired)
    (record : α → List (String × Json)) :
    Agree (.ofFailure f) (.ofOperation record (.error f)) (.error f) := by
  have hcommand : Outcome.ofOperation record (.error f) =
      if CommandLine.isForeseen f then .refused (f.message?.getD "") else .uncaught f := rfl
  rw [hcommand]
  split
  · next hforeseen =>
    obtain ⟨hmessage, hresponse⟩ := ofFailure_of_isForeseen hf hforeseen
    refine ⟨iff_of_false (not_success_ofFailure f) Nat.one_ne_zero,
      fun h ↦ absurd h Nat.one_ne_zero, ?_, errors_of_refused⟩
    intro message h
    obtain rfl := Outcome.refused.inj h
    exact ⟨f, rfl, hmessage, hresponse⟩
  · refine ⟨iff_of_false (not_success_ofFailure f) Nat.one_ne_zero,
      fun h ↦ absurd h Nat.one_ne_zero, ?_, errors_of_refused⟩
    intro message h
    cases h

/-- The outcome of an operation is told alike by both front ends, if they have the same fields for
its value and those can be told. -/
theorem agree_outcome {α : Type} {status : Nat} (hstatus : 200 ≤ status ∧ status < 300)
    {json : α → Json} {fields : α → List (String × String)}
    (hsame : ∀ value, ∃ members, json value = .obj members ∧
      members.Perm (Yaml.textFields (fields value)))
    {outcome : Except Failure α} (h : Broker.Tellable (outcome.map fields)) :
    Agree (.ofOutcome status json outcome)
      (.ofOperation (fun value ↦ Yaml.textFields (fields value)) outcome) (outcome.map fields) := by
  cases outcome with
  | error f => exact agree_error h _
  | ok value =>
    obtain ⟨members, hmembers, hperm⟩ := hsame value
    refine ⟨iff_of_true hstatus rfl, fun _ ↦ ⟨fields value, members, rfl, ?_, hperm,
      Yaml.read?_write h.1 h.2⟩, ?_, ?_⟩
    · exact congrArg Http.Content.json hmembers
    · exact fun _ h ↦ nomatch h
    · exact fun _ h ↦ nomatch h

/-- Both front ends tell an answer of the broker alike. -/
theorem agree_answer {answer : Answer} (h : Broker.Tellable answer.told) :
    Agree (.ofAnswer answer) (.ofAnswer answer) answer.told := by
  cases answer with
  | provisioned outcome =>
    exact agree_outcome (by decide) (fun value ↦ ⟨_, rfl, .swap _ _ _⟩) h
  | deprovisioned outcome => exact agree_outcome (by decide) (fun value ↦ ⟨_, rfl, .refl _⟩) h
  | status outcome => exact agree_outcome (by decide) (fun value ↦ ⟨_, rfl, .refl _⟩) h

/-! ## The answers of the broker -/

namespace Broker

/-- A name fails for another reason than that an early answer is not accepted. -/
theorem instanceNamespace_ne {config : Config} {instanceId : String} {f : Failure}
    (h : instanceNamespace config instanceId = .error f) : f ≠ .asyncRequired := by
  rintro rfl
  unfold instanceNamespace at h
  cases hname : Tenant.namespaceFor config.namespacePrefix instanceId <;> rw [hname] at h <;>
    cases h

/-- A plan is refused for another reason than that an early answer is not accepted. -/
theorem checkRequestedPlan_ne {service plan parameters : Json} {f : Failure}
    (h : checkRequestedPlan service plan parameters = .error f) : f ≠ .asyncRequired := by
  rintro rfl
  have hcheck : checkPlan service plan parameters ≠ .error .asyncRequired := by
    intro hplan
    unfold checkPlan at hplan
    split at hplan
    · cases hplan
    · next found _ =>
      cases hvalid : Catalog.validateParameters found.toJson parameters with
      | ok valid =>
        rw [hvalid] at hplan
        cases hplan
      | error failure =>
        rw [hvalid] at hplan
        rcases failure with fault | (fault | d) <;> cases hplan
  unfold checkRequestedPlan at h
  split at h
  · cases h
  · exact hcheck h

/-- The operation of a provision can be read, and so can every address of a dashboard. -/
theorem tellable_provisioned (ns : String) (routeSuffix : Option String) :
    Tellable (.ok (Provisioned.fields
      ⟨deployOperation, Tenant.dashboardUrl ns routeSuffix, ns⟩)) := by
  have hoperation : Yaml.isText deployOperation.toList = true := by decide +kernel
  have haddress : Yaml.isText (Tenant.dashboardUrl ns routeSuffix).toList = true := by
    rw [Tenant.dashboardUrl, String.toList_append]
    exact Yaml.isText_cons (by decide) (by decide +kernel) _
  refine ⟨List.cons_ne_nil _ _, List.forall_mem_cons.mpr ⟨?_, List.forall_mem_singleton.mpr ?_⟩⟩
  · exact Yaml.isReadable_of_isText (by decide +kernel) hoperation
  · exact Yaml.isReadable_of_isText (by decide +kernel) haddress

/-- The operation of a deprovision can be read. -/
theorem tellable_deprovisioned : Tellable (.ok [("operation", removeOperation)]) :=
  ⟨List.cons_ne_nil _ _, List.forall_mem_singleton.mpr
    (Yaml.isReadable_of_isText (by decide +kernel) (by decide +kernel))⟩

/-- A status can be read if its description can. -/
theorem tellable_status {s : Status} (h : Yaml.isText s.description.toList = true) :
    Tellable (.ok s.fields) := by
  have hstate : Yaml.isText s.state.name.toList = true := by
    cases s.state <;> decide +kernel
  refine ⟨List.cons_ne_nil _ _, List.forall_mem_cons.mpr ⟨?_, List.forall_mem_singleton.mpr ?_⟩⟩
  · exact Yaml.isReadable_of_isText (by decide +kernel) hstate
  · exact Yaml.isReadable_of_isText (by decide +kernel) h

/-- The status of an operation that the broker never starts can be read, whatever it is called. -/
theorem tellable_unknown (operation : String) :
    Tellable (.ok (Status.unknown operation).fields) := by
  refine tellable_status ?_
  rw [Status.unknown, String.toList_append]
  exact Yaml.isText_cons (by decide) (by decide +kernel) _

/-- A pipeline fails for another reason than that an early answer is not accepted. -/
theorem yields_tenant {α : Type} {instanceId : String} {steps : List Pipeline.Step} {given : α}
    {fields : α → List (String × String)} (h : Tellable (.ok (fields given))) :
    ((Pipeline.runPipeline instanceId steps).map fun outcomes ↦
      match outcomes with
      | .error f => .error (.ofPipeline f)
      | .ok _ => .ok given).Yields
      fun outcome : Except Failure α ↦ Tellable (outcome.map fields) := by
  refine yields_map (yields_true _) fun outcomes _ ↦ ?_
  rcases outcomes with (failure | d) | outcomes
  · nofun
  · nofun
  · exact h

/-- A failure that is not the caller's has another reason than that an early answer is not accepted.
-/
theorem ne_of_isLate {f : Failure} (h : Http.IsLate f) : f ≠ .asyncRequired := by
  rintro rfl
  rcases h with h | h <;> cases h

/-- The status of an operation can be told, or the failure to find it. -/
theorem yields_lastOperation (config : Config) (instanceId operation : String) :
    (lastOperation config instanceId operation).Yields
      fun outcome ↦ Tellable (outcome.map Status.fields) := by
  have hrecord {ns : String} {next : Tenant.Record → Status}
      (h : ∀ record, Tellable (.ok (next record).fields)) :
      ((requireRecord instanceId ns).andThen fun record ↦ .done (.ok (next record))).Yields
        fun outcome ↦ Tellable (outcome.map Status.fields) :=
    yields_andThen (Http.yields_requireRecord ns) h fun f hf ↦ ne_of_isLate (hf f rfl)
  unfold lastOperation
  refine yields_orFail (fun ns _ ↦ ?_) fun f hf ↦ instanceNamespace_ne hf
  split
  · refine hrecord fun record ↦ ?_
    split <;> exact tellable_status (by decide +kernel)
  · split
    · intro reply
      cases reply with
      | ok object => exact tellable_status (by decide +kernel)
      | error f =>
        dsimp only
        split
        · exact tellable_status (by decide +kernel)
        · exact ne_of_isLate (Http.isLate_ofCluster f)
    · exact hrecord fun _ ↦ tellable_unknown operation

/-- Every answer of the broker can be told by both front ends: only the one for HTTP fails because
an early answer is not accepted. -/
theorem yields_program (config : Config) (request : Request) :
    (request.program config).Yields fun answer ↦ Tellable answer.told := by
  cases request with
  | provision instanceId username service plan parameters =>
    refine yields_map (Q := fun outcome ↦ Tellable (outcome.map Provisioned.fields)) ?_ fun _ h ↦ h
    refine yields_orFail (fun _ _ ↦ ?_) fun f hf ↦ checkRequestedPlan_ne hf
    unfold provisionTenant
    split
    · nofun
    · exact yields_orFail (fun ns _ ↦ yields_tenant (tellable_provisioned _ _))
        fun f hf ↦ instanceNamespace_ne hf
  | deprovision instanceId =>
    refine yields_map
      (Q := fun outcome ↦ Tellable (outcome.map fun operation ↦ [("operation", operation)])) ?_
      fun _ h ↦ h
    exact yields_orFail (fun ns _ ↦ yields_tenant tellable_deprovisioned)
      fun f hf ↦ instanceNamespace_ne hf
  | lastOperation instanceId operation =>
    exact yields_map (yields_lastOperation config instanceId operation) fun _ h ↦ h

end Broker

/-! ## Asking the same -/

/-- A request over HTTP and a command both ask the broker for the same operation. The id is one
segment of the path; a user is named in the header, and an early answer is accepted. -/
inductive Asks (r : Http.Request) : Command → Broker.Request → Prop
  | provision {instanceId username : String} {body : Option Json} {wanted : Http.ProvisionRequest}
      {found : Catalog.Plan} (method : r.method = "PUT")
      (path : r.path = instancesPath ++ instanceId)
      (segment : isSegment instanceId.toList = true) (incomplete : acceptsIncomplete r = .ok true)
      (identity : Identity.read (r.header? Identity.headerName) = .ok username)
      (read : Http.readBody r = .ok body) (checked : Http.checkBody body = .ok wanted)
      (offered : Offers wanted.service wanted.plan found) :
      Asks r (.provision instanceId username)
        (.provision instanceId username .null .null .null)
  | deprovision {instanceId : String} (method : r.method = "DELETE")
      (path : r.path = instancesPath ++ instanceId) (segment : isSegment instanceId.toList = true)
      (incomplete : acceptsIncomplete r = .ok true) (service : r.parameter? "service_id" = none)
      (plan : r.parameter? "plan_id" = none) :
      Asks r (.deprovision instanceId) (.deprovision instanceId)
  | lastOperation {instanceId operation : String} (method : r.method = "GET")
      (path : r.path = instancesPath ++ instanceId ++ lastOperationPath)
      (segment : isSegment instanceId.toList = true)
      (token : (r.parameter? "operation").getD "" = operation) :
      Asks r (.lastOperation instanceId operation) (.lastOperation instanceId operation)

/-- The parameters of a body that passes its checks are a record, or null. -/
theorem parameters_of_checkBody {body : Option Json} {wanted : Http.ProvisionRequest}
    (h : Http.checkBody body = .ok wanted) :
    wanted.parameters = .null ∨ ∃ fields, wanted.parameters = .obj fields := by
  unfold Http.checkBody at h
  split at h
  · cases h
  · next fields =>
    split at h
    · next hissues =>
      obtain rfl := Except.ok.inj h
      have hrecord : Http.optionalRecord fields "parameters" = none :=
        List.filterMap_eq_nil_iff.mp hissues (Http.optionalRecord fields "parameters") (by simp)
      unfold Http.optionalRecord at hrecord
      split at hrecord
      · next hnone => simp [hnone]
      · next hnull => simp [hnull]
      · next members hmembers => simp [hmembers]
      · cases hrecord
    · cases h
  · cases h

/-- The plan on offer takes every record. -/
theorem validateParameters_of_offers {service plan : String} {found : Catalog.Plan}
    (h : Offers service plan found) {parameters : Json}
    (hrecord : parameters = .null ∨ ∃ fields, parameters = .obj fields) :
    Catalog.validateParameters found.toJson parameters = .ok () := by
  obtain ⟨s, hs, -, hfound, -⟩ := h
  obtain rfl := List.mem_singleton.mp hs
  obtain rfl := List.mem_singleton.mp hfound
  rcases hrecord with rfl | ⟨fields, rfl⟩
  · rfl
  · rfl

variable {config : Config} {r : Http.Request} {command : Command} {request : Broker.Request}

/-- A provision for the same user is the same with the plan on offer and without a plan. -/
theorem provision_eq_plain {wanted : Http.ProvisionRequest} {body : Option Json}
    {found : Catalog.Plan} (hchecked : Http.checkBody body = .ok wanted)
    (hoffered : Offers wanted.service wanted.plan found) (instanceId username : String) :
    Broker.provision config instanceId username (.str wanted.service) (.str wanted.plan)
      wanted.parameters = Broker.provisionPlain config instanceId username := by
  have hplan : Broker.checkRequestedPlan (.str wanted.service) (.str wanted.plan)
      wanted.parameters = .ok () :=
    Http.checkRequestedPlan_eq_ok_iff.mpr
      ⟨found, hoffered, validateParameters_of_offers hoffered (parameters_of_checkBody hchecked)⟩
  unfold Broker.provision
  rw [hplan]
  rfl

/-- A request over HTTP is the program of what it asks the broker for. -/
theorem respond_of_asks (h : Asks r command request) :
    Http.respond config r = (request.program config).map .ofAnswer := by
  cases h with
  | provision method path segment incomplete identity read checked offered =>
    rw [Http.respond_put segment method path, Http.provision_eq read checked incomplete identity,
      provision_eq_plain checked offered, Broker.Request.program, map_map]
    rfl
  | deprovision method path segment incomplete service plan =>
    have hoffer : Http.checkOffer (Http.idParameter r "service_id")
        (Http.idParameter r "plan_id") = .ok () :=
      Http.checkOffer_eq_ok_iff.mpr (.inl ⟨service, plan⟩)
    rw [Http.respond_delete segment method path, Http.deprovision_eq incomplete hoffer,
      Broker.Request.program, map_map]
    rfl
  | lastOperation method path segment token =>
    rw [Http.respond_get segment method path, Http.lastOperation, token, Broker.Request.program,
      map_map]
    rfl

/-- A command is the program of what it asks the broker for. -/
theorem execute_of_asks (h : Asks r command request) :
    command.execute config = (request.program config).map .ofAnswer := by
  cases h with
  | provision =>
    rw [Broker.Request.program, map_map]
    rfl
  | deprovision =>
    rw [Broker.Request.program, map_map]
    rfl
  | lastOperation =>
    rw [Broker.Request.program, map_map]
    rfl

/-- There are arguments for every command that asks the broker for an operation. -/
theorem exists_read (h : Asks r command request) : ∃ args, Command.read? args = some command := by
  cases h with
  | provision => exact ⟨_, CommandLine.read?_provision _ _⟩
  | deprovision => exact ⟨_, CommandLine.read?_deprovision _⟩
  | lastOperation => exact ⟨_, CommandLine.read?_lastOperation _ _⟩

/-- The two front ends agree. Whatever the state of the cluster and whatever fails there, a request
over HTTP and arguments of the command line that ask the broker for the same make the same calls and
leave the same cluster. Both report what came of it: the status says success exactly if the exit
code does, and then the values are the same; a failure that the command reports has the same wording
over HTTP, with the status of its class. -/
theorem front_ends_agree (config : Config) (h : Asks r command request) {σ : Type}
    (handle : Handler σ) (s : σ) :
    (∃ args, Command.read? args = some command) ∧
    ∀ args, Command.read? args = some command →
      let program := Http.respond config r
      let line := CommandLine.run config args
      line.calls handle s = program.calls handle s ∧
      (line.run handle s).2 = (program.run handle s).2 ∧
      Agree (program.run handle s).1 (line.run handle s).1
        ((request.program config).run handle s).1.told := by
  refine ⟨exists_read h, fun args hargs ↦ ?_⟩
  dsimp only
  rw [CommandLine.run_of_read hargs, execute_of_asks h, respond_of_asks h]
  simp only [calls_map, run_map, true_and]
  exact agree_answer (run_of_yields handle (Broker.yields_program config request) s)

/-- The body of a request for an instance of the plan on offer. -/
def offerBody : String :=
  "\x7b\"service_id\":\"rhpam-service-id\",\"plan_id\":\"default-rhpam\"\x7d"

/-- A request for an instance of the plan on offer, by a user named u. -/
def instanceRequest : Http.Request where
  method := "PUT"
  path := instancesPath ++ "a"
  query := "accepts_incomplete=true"
  headers := [(Identity.headerName, "p eyJ1c2VybmFtZSI6InUifQ==")]
  body := Text.Utf8.encode offerBody.toList
  server := "127.0.0.1:8080"

/-- The request for an instance asks for what the command for the same user asks for. -/
theorem asks_instanceRequest :
    Asks instanceRequest (.provision "a" "u") (.provision "a" "u" .null .null .null) := by
  have hdecoded : Text.decodeDetected instanceRequest.body = .ok offerBody.toList := by
    decide +kernel
  have hdocument : Json.readChecked offerBody.toList =
      .ok (.obj [("service_id", .str "rhpam-service-id"), ("plan_id", .str "default-rhpam")]) := by
    simp [offerBody, Json.readChecked, Json.readDocument, Json.skipSpace, Json.isSpace,
      Json.readValue, Json.readMembers, Json.readString, Json.readChars, Except.map, Json.setField]
  have hread : Http.readBody instanceRequest = .ok (some (.obj
      [("service_id", .str "rhpam-service-id"), ("plan_id", .str "default-rhpam")])) := by
    have hbody : instanceRequest.body ≠ [] := by decide +kernel
    have htype : Http.isJsonType instanceRequest.contentType = true := by decide +kernel
    rw [Http.readBody, if_neg hbody, if_pos htype, Json.readBytes, hdecoded]
    simp only [hdocument, mapError_ok]
  have hidentity : Identity.read (instanceRequest.header? Identity.headerName) = .ok "u" := by
    decide +kernel
  have hoffered : Offers "rhpam-service-id" "default-rhpam" Catalog.defaultPlan :=
    ⟨_, .head _, rfl, .head _, rfl⟩
  exact .provision rfl rfl rfl rfl hidentity hread rfl hoffered

/-- On an empty cluster the request for an instance leaves what the command leaves. -/
theorem front_ends_agree_instance :
    Asks instanceRequest (.provision "a" "u") (.provision "a" "u" .null .null .null) ∧
      ((CommandLine.run {} ["provision", "a", "--identity", "u"]).run Store.handle .empty).2 =
        ((Http.respond {} instanceRequest).run Store.handle .empty).2 :=
  ⟨asks_instanceRequest,
    ((front_ends_agree {} asks_instanceRequest Store.handle .empty).2 _ rfl).2.1⟩

/-- A cluster on which the listing of users is refused in red. -/
def refusedInRed : Store :=
  { failures := [((.list, Kind.users.name), .cause (.value (.refused "\x1b[31mred\x1b[0m")))] }

/-- The wording of that refusal. -/
def redWording : String :=
  "failed to delete-all RhpamUser '*/rhpam-a' for instance a: \x1b[31mred\x1b[0m"

/-- Standard error where it is a file, at the start of time. -/
def fileConsole : Console where
  terminal := false
  env := []
  clock := Json.int 0
  time := "1970-01-01 00:00:00"
  shown := by rfl
  logged := ""

/-- Of two ends of one text the shorter one is an end of the other. -/
theorem suffix_of_append_eq {a b c d : String} (h : a ++ b = c ++ d)
    (hlength : b.toList.length ≤ d.toList.length) : b.toList <:+ d.toList := by
  have hsame : a.toList ++ b.toList = c.toList ++ d.toList := by
    rw [← String.toList_append, h, String.toList_append]
  have hshort : b.toList <:+ a.toList ++ b.toList := List.suffix_append _ _
  have hlong : d.toList <:+ a.toList ++ b.toList := hsame ▸ List.suffix_append _ _
  exact List.suffix_of_suffix_length_le hshort hlong hlength

/-- Where the output is no terminal, the sequences that control one are left out of the report on
standard error, but not over HTTP: what stands there after `Error: ` is not the description. -/
theorem control_sequences_left_out :
    Asks (Http.removalRequest "a") (.deprovision "a") (.deprovision "a") ∧
    let response := ((Http.respond {} (Http.removalRequest "a")).run Store.handle refusedInRed).1
    let outcome := ((CommandLine.run {} ["deprovision", "a"]).run Store.handle refusedInRed).1
    (∃ wording, outcome = .refused wording) ∧ ¬ ∃ logged message status name,
      fileConsole.errors outcome = .ok (logged ++ ("Error: " ++ message ++ "\n")) ∧
        response = .failure status name message := by
  have hresponse : ((Http.respond {} (Http.removalRequest "a")).run Store.handle refusedInRed).1 =
      .failure 500 "InternalServerError" redWording := by rfl
  have houtcome : ((CommandLine.run {} ["deprovision", "a"]).run Store.handle refusedInRed).1 =
      .refused redWording := by rfl
  refine ⟨.deprovision rfl rfl rfl rfl rfl rfl, ⟨redWording, houtcome⟩, ?_⟩
  rintro ⟨logged, message, status, name, hsame, hfailure⟩
  rw [hresponse] at hfailure
  rw [houtcome, CommandLine.errors_refused] at hsame
  obtain ⟨-, -, rfl⟩ : 500 = status ∧ "InternalServerError" = name ∧ redWording = message := by
    simpa [Response.failure, Response.ofJson] using hfailure
  have hends := suffix_of_append_eq (Except.ok.inj hsame) (by decide +kernel)
  exact absurd hends (by decide +kernel)

end TenantBroker
