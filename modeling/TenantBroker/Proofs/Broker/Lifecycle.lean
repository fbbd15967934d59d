import TenantBroker.Proofs.Broker.Frame
import TenantBroker.Proofs.Tenant.Stage

/-!
# The life of instances

Where nothing fails, every instance behaves like an automaton of its own. Its stages are those of a
tenant, and what is done about other instances makes no difference to it: neither to its stage nor
to what the broker answers.
-/

namespace TenantBroker.Broker

open Cluster (Kind Store namespaceKey)
open Cluster.Program
open Cluster.Store (handle)
open Tenant (IsAt Stage joinedName namespaceFor)

/-! ## Moves -/

/-- A provision is accepted if it names a user, and a plan that is offered if it names one. -/
def Request.Accepted : Request → Prop
  | .provision _ username service plan parameters =>
    username ≠ "" ∧ checkRequestedPlan service plan parameters = .ok ()
  | .deprovision _ | .lastOperation _ _ => True

/-- What is done about an instance: a request is run to its end, the phase of its record is set, or
the termination of its namespace ends. -/
inductive Move where
  | ask (request : Request)
  | setPhase (instanceId : String) (phase : Json)
  | finish (instanceId : String)

/-- What a move comes to. -/
inductive Outcome where
  | answer (answer : Answer)
  | event (outcome : Except Defect Unit)

namespace Move

/-- The instance that a move is about. -/
def instanceId : Move → String
  | .ask request => request.instanceId
  | .setPhase instanceId _ => instanceId
  | .finish instanceId => instanceId

/-- The namespace that a move is about. -/
def ns (config : Config) (move : Move) : String := joinedName config.namespacePrefix move.instanceId

/-- Makes a move. -/
def run (config : Config) (move : Move) (s : Store) : Outcome × Store :=
  match move with
  | .ask request =>
    let (answer, s) := (request.program config).run handle s
    (.answer answer, s)
  | .setPhase _ phase =>
    let (outcome, s) := s.setPhase Kind.developments.name (.str (move.ns config)) phase
    (.event outcome, s)
  | .finish _ =>
    let (outcome, s) := s.finish (.str (move.ns config))
    (.event outcome, s)

/-- A move that can be made: the instance has a valid name, a provision is accepted, and only a
termination that is under way ends. -/
structure Legal (config : Config) (move : Move) (s : Store) : Prop where
  valid : namespaceFor config.namespacePrefix move.instanceId = .ok (move.ns config)
  accepted : ∀ request, move = .ask request → request.Accepted
  terminating : ∀ instanceId, move = .finish instanceId → .text (move.ns config) ∈ s.terminating

end Move

/-! ## The automaton of an instance -/

/-- Whether a phase is that of a finished deployment, in any letter case. -/
def isCompletePhase (phase : Option Json) : Bool :=
  Text.lower ((phase.bind Json.text?).getD "") = completePhase

/-- The status of the removal of an instance at a stage. -/
def removalAt : Stage → Status
  | .absent => .deleted
  | .deployed _ | .terminating => .deleting

/-- The status of an operation on an instance at a stage. -/
def statusAt (instanceId operation : String) (stage : Stage) : Except Failure Status :=
  if operation = deployOperation then
    match stage with
    | .deployed phase => .ok (if isCompletePhase phase then .deployed else .deploying)
    | .absent | .terminating => .error (.missing instanceId)
  else if operation = removeOperation then .ok (removalAt stage)
  else
    match stage with
    | .deployed _ => .ok (.unknown operation)
    | .absent | .terminating => .error (.missing instanceId)

/-- What the automaton of an instance answers at a stage. -/
def Request.answerAt (config : Config) (ns : String) : Request → Stage → Answer
  | .provision _ _ _ _ _, .absent =>
    .provisioned (.ok ⟨deployOperation, Tenant.dashboardUrl ns config.routeSuffix, ns⟩)
  | .provision instanceId _ _ _ _, .deployed _ | .provision instanceId _ _ _ _, .terminating =>
    .provisioned (.error (.step (Tenant.conflict instanceId ns)))
  | .deprovision _, _ => .deprovisioned (.ok removeOperation)
  | .lastOperation instanceId operation, stage => .status (statusAt instanceId operation stage)

/-- The stage to which the automaton of an instance goes on after a request. -/
def Request.next (holding : Bool) : Request → Stage → Stage
  | .provision _ _ _ _ _, .absent => .deployed none
  | .provision _ _ _ _ _, stage => stage
  | .deprovision _, stage => stage.afterRemoval holding
  | .lastOperation _ _, stage => stage

/-- What a move comes to at a stage of its instance. -/
def Move.outcomeAt (config : Config) (move : Move) (stage : Stage) : Outcome :=
  match move with
  | .ask request => .answer (request.answerAt config (move.ns config) stage)
  | .setPhase _ _ | .finish _ => .event (.ok ())

/-- The stage to which a move takes its instance. -/
def Move.next (holding : Bool) : Move → Stage → Stage
  | .ask request, stage => request.next holding stage
  | .setPhase _ phase, stage => stage.afterPhase phase
  | .finish _, stage => stage.afterFinish

/-- The stage of an instance after some moves, of which only its own count. -/
def stageOf (holding : Bool) (moves : List Move) (instanceId : String) : Stage :=
  let own := moves.filter (·.instanceId = instanceId)
  own.foldl (fun stage move ↦ move.next holding stage) .absent

/-- The store after some moves from the beginning, each of which could be made. -/
inductive Run (config : Config) (holding : Bool) : List Move → Store → Prop
  | start : Run config holding [] (Store.empty.hold holding)
  | move {moves : List Move} {s : Store} (h : Run config holding moves s) (move : Move)
      (hlegal : move.Legal config s) : Run config holding (moves ++ [move]) (move.run config s).2

variable {config : Config} {holding : Bool} {s : Store} {stage : Stage} {instanceId ns : String}

/-! ## What the broker sees of a stage -/

/-- Where there is no record, asking for it finds out so and leaves a trace only. -/
theorem run_requireRecord_missing (hs : s.Steady holding) (hrecords : Tenant.records ns s = [])
    (instanceId : String) :
    ∃ log, (requireRecord instanceId ns).run handle s =
      (.error (.missing instanceId), s.noted s.generated log) := by
  have hnone := Cluster.Store.failure?_eq_none hs.unhindered .list Kind.developments
  have hlist := Cluster.Store.list_unhindered hs.labelled hnone (.str ns)
  rw [Tenant.listed_eq_records, hrecords, List.mergeSort_nil] at hlist
  have hfind : (findRecord ns).run handle s =
      (.ok none, s.logged .list Kind.developments (.str ns)) := by
    simp only [findRecord, run_call, handle, hlist]
    rfl
  exact ⟨_, run_andThen_ok hfind⟩

/-- The record of a deployed instance is found with its phase, and asking for it leaves a trace
only. -/
theorem run_requireRecord_deployed {phase : Option Json} (h : IsAt ns s (.deployed phase))
    (hs : s.Steady holding) (instanceId : String) :
    ∃ record log, (requireRecord instanceId ns).run handle s =
        (.ok record, s.noted s.generated log) ∧
      isComplete record = isCompletePhase phase := by
  obtain ⟨-, -, item, hrecords, hphase⟩ := h
  obtain ⟨record, hread, hfound⟩ := hphase.read
  have hnone := Cluster.Store.failure?_eq_none hs.unhindered .list Kind.developments
  have hlist := Cluster.Store.list_unhindered hs.labelled hnone (.str ns)
  rw [Tenant.listed_eq_records, hrecords, List.mergeSort_singleton] at hlist
  have hfind : (findRecord ns).run handle s =
      (.ok (some record), s.logged .list Kind.developments (.str ns)) := by
    simp only [findRecord, run_call, handle, hlist, List.map_cons, List.map_nil, hread]
    rfl
  refine ⟨record, _, run_andThen_ok hfind, ?_⟩
  rw [isComplete, isCompletePhase, hfound]

/-- Asking for the status of a removal finds out whether the instance is absent, and leaves a trace
only. -/
theorem run_removeStatus (h : IsAt ns s stage) (hs : s.Steady holding) :
    ∃ log, (removeStatus ns).run handle s = (.ok (removalAt stage), s.noted s.generated log) := by
  have hk : Cluster.keyOf Kind.namespaces (.str ns) .null = .ok (some (namespaceKey (.text ns))) :=
    rfl
  have hnone := Cluster.Store.failure?_eq_none hs.unhindered .get Kind.namespaces
  have hget := Cluster.Store.get_unhindered hnone hk
  refine ⟨(s.logged .get Kind.namespaces (.str ns)).log, ?_⟩
  have hpresent (hne : stage ≠ .absent) : (removeStatus ns).run handle s =
      (.ok .deleting, s.logged .get Kind.namespaces (.str ns)) := by
    rw [if_pos (h.has_namespace.mpr hne)] at hget
    obtain ⟨object, hget⟩ := hget
    simp only [removeStatus, run_call, handle, hget]
    rfl
  cases stage with
  | absent =>
    rw [if_neg fun hhas ↦ h.has_namespace.mp hhas rfl] at hget
    simp only [removeStatus, run_call, handle, hget]
    rfl
  | deployed phase => exact hpresent (by simp)
  | terminating => exact hpresent (by simp)

private theorem run_lastOperation_missing (hs : s.Steady holding)
    (hns : namespaceFor config.namespacePrefix instanceId = .ok ns)
    (hrecords : Tenant.records ns s = []) {operation : String} (hne : operation ≠ removeOperation) :
    ∃ log, (lastOperation config instanceId operation).run handle s =
      (.error (.missing instanceId), s.noted s.generated log) := by
  obtain ⟨log, hrun⟩ := run_requireRecord_missing hs hrecords instanceId
  refine ⟨log, ?_⟩
  simp only [lastOperation, orFail, instanceNamespace, hns, mapError_ok, if_neg hne]
  split
  · exact run_andThen_error hrun
  · exact run_andThen_error hrun

/-- The status of an operation is what the stage of the instance says, and asking for it leaves a
trace only. -/
theorem run_lastOperation (h : IsAt ns s stage) (hs : s.Steady holding)
    (hns : namespaceFor config.namespacePrefix instanceId = .ok ns) (operation : String) :
    ∃ log, (lastOperation config instanceId operation).run handle s =
      (statusAt instanceId operation stage, s.noted s.generated log) := by
  by_cases hremove : operation = removeOperation
  · subst hremove
    obtain ⟨log, hrun⟩ := run_removeStatus h hs
    refine ⟨log, ?_⟩
    simp only [lastOperation, orFail, instanceNamespace, hns, mapError_ok]
    exact hrun
  · have hmissing (hrecords : Tenant.records ns s = []) :=
      run_lastOperation_missing hs hns hrecords hremove
    cases stage with
    | absent =>
      obtain ⟨log, hrun⟩ := hmissing h.records_of_absent
      refine ⟨log, ?_⟩
      rw [hrun]
      simp only [statusAt, if_neg hremove, ite_self]
    | deployed phase =>
      obtain ⟨record, log, hrun, hcomplete⟩ := run_requireRecord_deployed h hs instanceId
      refine ⟨log, ?_⟩
      simp only [lastOperation, orFail, instanceNamespace, hns, mapError_ok, statusAt,
        if_neg hremove]
      split
      · rw [deployStatus, run_andThen_ok hrun, hcomplete]
        rfl
      · rw [run_andThen_ok hrun]
        rfl
    | terminating =>
      obtain ⟨log, hrun⟩ := hmissing h.records_of_terminating
      refine ⟨log, ?_⟩
      rw [hrun]
      simp only [statusAt, if_neg hremove, ite_self]

/-! ## What a request does to its instance -/

section Requests

variable (h : IsAt ns s stage) (hs : s.Steady holding)
  (hns : namespaceFor config.namespacePrefix instanceId = .ok ns)
include h hs hns

/-- A provision of an absent instance succeeds and deploys it. -/
theorem run_provision_absent {username : String} {service plan parameters : Json}
    (habsent : stage = .absent) (huser : username ≠ "")
    (hplan : checkRequestedPlan service plan parameters = .ok ()) :
    ∃ t, (provision config instanceId username service plan parameters).run handle s =
        (.ok ⟨deployOperation, Tenant.dashboardUrl ns config.routeSuffix, ns⟩, t) ∧
      IsAt ns t (.deployed none) := by
  subst habsent
  have hne := Tenant.namespace_ne_empty hns
  obtain ⟨t, ⟨outcomes, hrun⟩, ht⟩ :=
    h.provision hne hs.unhindered instanceId username config config.variant
  refine ⟨t, ?_, ht⟩
  rw [provision_eq hns huser hplan, run_map, hrun]

/-- A provision of any other instance fails on its namespace and leaves a trace only. -/
theorem run_provision_conflict {username : String} {service plan parameters : Json}
    (hthere : stage ≠ .absent) (huser : username ≠ "")
    (hplan : checkRequestedPlan service plan parameters = .ok ()) :
    ∃ log, (provision config instanceId username service plan parameters).run handle s =
      (.error (.step (Tenant.conflict instanceId ns)), s.noted s.generated log) := by
  have hne := Tenant.namespace_ne_empty hns
  have hoccupied : Tenant.Occupied ns s := ⟨hs.unhindered, h.has_namespace.mpr hthere⟩
  obtain ⟨log, hrun⟩ := hoccupied.run_provisionSteps hne instanceId username config config.variant
  refine ⟨log, ?_⟩
  rw [provision_eq hns huser hplan, run_map, hrun]
  rfl

/-- A deprovision succeeds at every stage. -/
theorem run_deprovision_stage :
    ∃ t, (deprovision config instanceId).run handle s = (.ok removeOperation, t) ∧
      IsAt ns t (stage.afterRemoval holding) := by
  obtain ⟨log, hrun⟩ := Tenant.succeeds_deprovisionSteps hs.labelled hs.unhindered instanceId ns
  exact ⟨_, run_deprovision hns hrun, (Tenant.isAt_removed h hs).noted _ _⟩

end Requests

/-- A request is answered as the automaton of its instance answers it, and takes the instance to the
same stage. -/
theorem run_request {request : Request} (h : IsAt ns s stage) (hs : s.Steady holding)
    (hns : namespaceFor config.namespacePrefix request.instanceId = .ok ns)
    (haccepted : request.Accepted) :
    ((request.program config).run handle s).1 = request.answerAt config ns stage ∧
      IsAt ns ((request.program config).run handle s).2 (request.next holding stage) := by
  cases request with
  | provision instanceId username service plan parameters =>
    replace hns : namespaceFor config.namespacePrefix instanceId = .ok ns := hns
    obtain ⟨huser, hplan⟩ := haccepted
    have hconflict (hthere : stage ≠ .absent) :
        ∃ log, ((Request.provision instanceId username service plan parameters).program config).run
            handle s =
          (.provisioned (.error (.step (Tenant.conflict instanceId ns))),
            s.noted s.generated log) := by
      obtain ⟨log, hrun⟩ := run_provision_conflict h hs hns hthere huser hplan
      exact ⟨log, by rw [Request.program, run_map, hrun]⟩
    cases stage with
    | absent =>
      obtain ⟨t, hrun, ht⟩ := run_provision_absent h hs hns rfl huser hplan
      rw [Request.program, run_map, hrun]
      exact ⟨rfl, ht⟩
    | deployed phase =>
      obtain ⟨log, hrun⟩ := hconflict (by simp)
      rw [hrun]
      exact ⟨rfl, h.noted _ _⟩
    | terminating =>
      obtain ⟨log, hrun⟩ := hconflict (by simp)
      rw [hrun]
      exact ⟨rfl, h.noted _ _⟩
  | deprovision instanceId =>
    replace hns : namespaceFor config.namespacePrefix instanceId = .ok ns := hns
    obtain ⟨t, hrun, ht⟩ := run_deprovision_stage h hs hns
    rw [Request.program, run_map, hrun]
    exact ⟨rfl, ht⟩
  | lastOperation instanceId operation =>
    replace hns : namespaceFor config.namespacePrefix instanceId = .ok ns := hns
    obtain ⟨log, hrun⟩ := run_lastOperation h hs hns operation
    rw [Request.program, run_map, hrun]
    exact ⟨rfl, h.noted _ _⟩

/-! ## What a move does to the instances -/

namespace Move

variable {move : Move}

/-- A move touches no other instance. -/
theorem Legal.untouched (h : move.Legal config s) {other : String} (hne : other ≠ move.ns config) :
    Tenant.Untouched other s (move.run config s).2 := by
  cases move with
  | ask request => exact (Tenant.confined_run (concerns_program request h.valid) s).untouched hne
  | setPhase instanceId phase => exact (Tenant.confined_setPhase _ _ phase s).untouched hne
  | finish instanceId => exact (Tenant.confined_finish _ s).untouched hne

/-- A move keeps the store steady. -/
theorem steady_run (hs : s.Steady holding) (move : Move) :
    (move.run config s).2.Steady holding := by
  cases move with
  | ask request => exact hs.run (orderly_program config request)
  | setPhase instanceId phase => exact hs.setPhase _ _ phase
  | finish instanceId => exact hs.finish _

/-- A move is one of the automaton of its instance: it gives out the same and goes on to the same
stage. -/
theorem Legal.follows (hlegal : move.Legal config s) (hs : s.Steady holding)
    (h : IsAt (move.ns config) s stage) :
    (move.run config s).1 = move.outcomeAt config stage ∧
      IsAt (move.ns config) (move.run config s).2 (move.next holding stage) := by
  cases move with
  | ask request =>
    obtain ⟨hanswer, ht⟩ := run_request h hs hlegal.valid (hlegal.accepted request rfl)
    exact ⟨congrArg Outcome.answer hanswer, ht⟩
  | setPhase instanceId phase =>
    obtain ⟨hdone, ht⟩ := h.setPhase phase
    exact ⟨congrArg Outcome.event hdone, ht⟩
  | finish instanceId =>
    have hmark := hlegal.terminating instanceId rfl
    cases stage with
    | absent => exact absurd hmark h.2
    | deployed phase => exact absurd hmark h.2.1
    | terminating => exact ⟨rfl, h.finish⟩

end Move

/-- The stage of an instance after one more move, which counts if it is its own. -/
theorem stageOf_append (holding : Bool) (moves : List Move) (move : Move) (instanceId : String) :
    stageOf holding (moves ++ [move]) instanceId =
      if move.instanceId = instanceId then move.next holding (stageOf holding moves instanceId)
      else stageOf holding moves instanceId := by
  unfold stageOf
  rw [List.filter_append]
  by_cases hsame : move.instanceId = instanceId
  · simp [hsame]
  · simp [hsame]

/-- After a run the store is steady, and every instance is at the stage of its automaton. -/
theorem Run.represents {moves : List Move} (h : Run config holding moves s) :
    s.Steady holding ∧ ∀ instanceId ns,
      namespaceFor config.namespacePrefix instanceId = .ok ns →
        IsAt ns s (stageOf holding moves instanceId) := by
  induction h with
  | start => exact ⟨Cluster.Store.steady_empty holding, fun _ _ _ ↦ ⟨rfl, List.not_mem_nil⟩⟩
  | @move moves s h move hlegal ih =>
    obtain ⟨hs, hstages⟩ := ih
    refine ⟨Move.steady_run hs move, fun instanceId ns hns ↦ ?_⟩
    rw [stageOf_append]
    -- Its own move takes an instance on, and every other move leaves it untouched.
    by_cases hown : move.instanceId = instanceId
    · subst hown
      obtain rfl : move.ns config = ns := Except.ok.inj (hlegal.valid.symm.trans hns)
      rw [if_pos rfl]
      exact (hlegal.follows hs (hstages _ _ hns)).2
    · rw [if_neg hown]
      exact (hstages instanceId ns hns).untouched (hlegal.untouched fun hsame ↦
        hown (Tenant.instance_unique hlegal.valid (hsame ▸ hns)))

/-- After every run each instance is at the stage of its automaton, and the next move comes to what
this automaton says. A provision of an instance that is not absent is a conflict, and it changes no
object. -/
theorem Run.follows_automata {moves : List Move} (h : Run config holding moves s) :
    (∀ instanceId ns, namespaceFor config.namespacePrefix instanceId = .ok ns →
      IsAt ns s (stageOf holding moves instanceId)) ∧
    (∀ move : Move, move.Legal config s →
      (move.run config s).1 = move.outcomeAt config (stageOf holding moves move.instanceId)) ∧
    ∀ instanceId username service plan parameters,
      let move := Move.ask (.provision instanceId username service plan parameters)
      move.Legal config s → stageOf holding moves instanceId ≠ .absent →
        (Tenant.conflict instanceId (move.ns config)).isConflict = true ∧
        (move.run config s).2.objects = s.objects := by
  obtain ⟨hs, hstages⟩ := h.represents
  refine ⟨hstages, fun move hlegal ↦ ?_, ?_⟩
  · exact (hlegal.follows hs (hstages _ _ hlegal.valid)).1
  · intro instanceId username service plan parameters move hlegal hthere
    obtain ⟨huser, hplan⟩ := hlegal.accepted _ rfl
    have hns : namespaceFor config.namespacePrefix instanceId = .ok (move.ns config) := hlegal.valid
    obtain ⟨log, hrun⟩ := run_provision_conflict (hstages _ _ hns) hs hns hthere huser hplan
    have hafter : (move.run config s).2 = s.noted s.generated log := by
      simp only [move, Move.run, Request.program, run_map, hrun]
    exact ⟨rfl, by rw [hafter, Cluster.Store.objects_noted]⟩

/-- Of two instances one completes while the other one is removed and deletions are held back. The
first one is reported as deployed, and the other one cannot be provisioned before it is gone. -/
theorem Run.follows_automata_neighbours :
    ∃ s : Store, IsAt "rhpam-a" s (.deployed (some (.str "Complete"))) ∧
      IsAt "rhpam-b" s .terminating ∧
      ((Move.ask (.lastOperation "a" "deploy")).run {} s).1 = .answer (.status (.ok .deployed)) ∧
      let again := Move.ask (.provision "b" "u" .null .null .null)
      (again.run {} s).1 = .answer (.provisioned (.error (.step (Tenant.conflict "b" "rhpam-b")))) ∧
        (again.run {} s).2.objects = s.objects := by
  have ha : namespaceFor "rhpam" "a" = .ok "rhpam-a" := rfl
  have hb : namespaceFor "rhpam" "b" = .ok "rhpam-b" := rfl
  have hprovision {i ns : String} (hns : namespaceFor "rhpam" i = .ok ns) (s : Store) :
      (Move.ask (.provision i "u" .null .null .null)).Legal {} s := by
    obtain rfl := Tenant.eq_joinedName hns
    exact ⟨hns, fun request he ↦ Move.ask.inj he ▸ ⟨by decide, rfl⟩, fun _ he ↦ nomatch he⟩
  have hask (s : Store) : (Move.ask (.lastOperation "a" "deploy")).Legal {} s :=
    ⟨ha, fun request he ↦ Move.ask.inj he ▸ trivial, fun _ he ↦ nomatch he⟩
  have hcomplete (s : Store) : (Move.setPhase "a" (.str "Complete")).Legal {} s :=
    ⟨ha, fun _ he ↦ (nomatch he), fun _ he ↦ nomatch he⟩
  have hremove (s : Store) : (Move.ask (.deprovision "b")).Legal {} s :=
    ⟨hb, fun request he ↦ Move.ask.inj he ▸ trivial, fun _ he ↦ nomatch he⟩
  have hboth : Run {} true _ _ := .move (.move .start _ (hprovision ha _)) _ (hprovision hb _)
  have hrun : Run {} true _ _ := .move (.move hboth _ (hcomplete _)) _ (hremove _)
  obtain ⟨hstages, houtcomes, hconflicts⟩ := Run.follows_automata hrun
  refine ⟨_, hstages "a" "rhpam-a" ha, hstages "b" "rhpam-b" hb, houtcomes _ (hask _),
    houtcomes _ (hprovision hb _), ?_⟩
  refine (hconflicts "b" "u" .null .null .null (hprovision hb _) ?_).2
  show Stage.terminating ≠ .absent
  simp

end TenantBroker.Broker
