import TenantBroker.Proofs.Broker.Request
import TenantBroker.Proofs.Kubectl.Outage

/-!
# Operations in an outage

While every run is turned away, and none of them says what is there, no operation of the broker
comes to anything: nothing is taken for gone that may be there, and nothing for there that may be
missing. A run that is turned away and does say what is there is believed.
-/

namespace TenantBroker.Broker

open Cluster (Call Handler Kind Program)
open Cluster.Program
open Kubectl (Client Session Untold classify joinStreams tellingPatterns unrunnableCodes
  unsentPatterns)
open Pipeline (Step runAction runPipeline)

/-! ## Programs that fail -/

variable {σ α β ε δ : Type} {handler : Handler σ} {s : σ}

/-- The program, run from a state without interruption, ends with an error. -/
def Fails (handler : Handler σ) (p : Program (Except ε α)) (s : σ) : Prop :=
  ∃ e, (p.run handler s).1 = .error e

/-- A program fails along with its outcome changed, if an error stays one. -/
theorem Fails.map {p : Program (Except ε α)} {g : Except ε α → Except δ β}
    (hp : Fails handler p s) (hg : ∀ e, ∃ e', g (.error e) = .error e') :
    Fails handler (p.map g) s := by
  obtain ⟨e, he⟩ := hp
  obtain ⟨e', he'⟩ := hg e
  exact ⟨e', by rw [run_map, he, he']⟩

/-- A program that goes on after a success fails if what comes first fails. -/
theorem Fails.andThen {p : Program (Except ε α)} (hp : Fails handler p s)
    (f : α → Program (Except ε β)) : Fails handler (p.andThen f) s := by
  obtain ⟨e, he⟩ := hp
  exact ⟨e, by rw [run_andThen_error (Prod.ext he rfl)]⟩

/-- A program that is checked first fails if it does so after the check. -/
theorem fails_orFail (value : Except Failure α) {next : α → Action β}
    (h : ∀ a, Fails handler (next a) s) : Fails handler (orFail value next) s := by
  cases value with
  | error f => exact ⟨f, rfl⟩
  | ok a => exact h a

/-! ## Operations whose calls say nothing -/

variable (h : ∀ c, Untold (handler c s).1) (config : Config) (instanceId : String)
include h

/-- A step fails where no call says what is there. -/
theorem fails_runAction (step : Step) : Fails handler (runAction step) s := by
  unfold runAction
  cases step.action with
  | create =>
    simp only [Pipeline.runCreate]
    cases step.manifest with
    | none => exact ⟨_, rfl⟩
    | some manifest =>
      obtain ⟨f, hf, -, hexists⟩ := h (.create step.kind manifest)
      refine ⟨f, ?_⟩
      simp only [run_call, hf, hexists]
      rfl
  | delete =>
    simp only [Pipeline.runDelete]
    split
    · exact ⟨_, rfl⟩
    · obtain ⟨f, hf, hmissing, -⟩ := h (.delete step.kind step.name step.ns)
      refine ⟨f, ?_⟩
      simp only [run_call, hf, hmissing]
      rfl
  | deleteAll =>
    obtain ⟨f, hf, hmissing, -⟩ := h (.list step.kind step.ns)
    refine ⟨f, ?_⟩
    simp only [Pipeline.runDeleteAll, run_call, hf, hmissing]
    rfl

/-- So does a pipeline that has steps. -/
theorem fails_runPipeline {steps : List Step} (hsteps : steps ≠ []) :
    Fails handler (runPipeline instanceId steps) s := by
  cases steps with
  | nil => exact absurd rfl hsteps
  | cons step rest =>
    unfold runPipeline
    cases step.label with
    | error d => exact ⟨_, rfl⟩
    | ok label =>
      have hstep : Fails handler (Pipeline.runStep instanceId step) s :=
        (fails_runAction h step).map fun f ↦ ⟨Pipeline.failureOf step instanceId f, rfl⟩
      exact hstep.andThen _

/-- A provision fails where no call says what is there. -/
theorem fails_provision (username : String) (service plan parameters : Json) :
    Fails handler (provision config instanceId username service plan parameters) s := by
  refine fails_orFail _ fun _ ↦ ?_
  unfold provisionTenant
  split
  · exact ⟨_, rfl⟩
  · exact fails_orFail _ fun ns ↦
      (fails_runPipeline h instanceId (List.cons_ne_nil _ _)).map fun f ↦ ⟨.ofPipeline f, rfl⟩

/-- A deprovision fails where no call says what is there. -/
theorem fails_deprovision : Fails handler (deprovision config instanceId) s :=
  fails_orFail _ fun _ ↦
    (fails_runPipeline h instanceId (List.cons_ne_nil _ _)).map fun f ↦ ⟨.ofPipeline f, rfl⟩

/-- The record of an instance is not found out where no call says what is there. -/
theorem fails_requireRecord (ns : String) : Fails handler (requireRecord instanceId ns) s := by
  refine Fails.andThen ?_ _
  obtain ⟨f, hf, hmissing, -⟩ := h (.list Kind.developments (.str ns))
  refine ⟨.ofCluster f, ?_⟩
  simp only [findRecord, run_call, hf, hmissing]
  rfl

/-- No status is found out where no call says what is there. -/
theorem fails_lastOperation (operation : String) :
    Fails handler (lastOperation config instanceId operation) s := by
  refine fails_orFail _ fun ns ↦ ?_
  split
  · exact (fails_requireRecord h instanceId ns).andThen _
  · split
    · obtain ⟨f, hf, hmissing, -⟩ := h (.get Kind.namespaces (.str ns) .null)
      refine ⟨.ofCluster f, ?_⟩
      simp only [removeStatus, run_call, hf, hmissing]
      rfl
    · exact (fails_requireRecord h instanceId ns).andThen _

omit h

/-- The failure of a command that is turned away says what is there exactly if its text does. In a
session in which every run is turned away, and none of the texts says what is there, every step of a
pipeline fails, no instance is provisioned or deprovisioned, and no status is found out. -/
theorem outage_tells_nothing :
    (∀ (returncode : Int) (stderr stdout : String), 0 < returncode →
      returncode ∉ unrunnableCodes →
      Text.mentions (joinStreams stderr stdout) unsentPatterns = true →
      (classify returncode stderr stdout = .notFound ∨
          classify returncode stderr stdout = .alreadyExists ↔
        Text.mentions (joinStreams stderr stdout) tellingPatterns = true)) ∧
    ∀ s : Session, s.Outage →
      (∀ step, Fails (Client.ofConfig config).handle (runAction step) s) ∧
      (∀ username service plan parameters, Fails (Client.ofConfig config).handle
        (provision config instanceId username service plan parameters) s) ∧
      Fails (Client.ofConfig config).handle (deprovision config instanceId) s ∧
      ∀ operation,
        Fails (Client.ofConfig config).handle (lastOperation config instanceId operation) s := by
  refine ⟨fun returncode stderr stdout hcode hrunnable hunsent ↦
    (Kubectl.classify_of_unsent hcode hrunnable hunsent).1, fun s hs ↦ ?_⟩
  have h (c : Call) : Untold ((Client.ofConfig config).handle c s).1 := Kubectl.untold_handle hs c
  exact ⟨fails_runAction h, fails_provision h config instanceId,
    fails_deprovision h config instanceId, fails_lastOperation h config instanceId⟩

/-- While connections are refused a removal is neither carried out nor reported as done. -/
theorem outage_tells_nothing_refused :
    let s : Session := .constant (.finished 1 none (some "connection refused"))
    s.Outage ∧ classify 1 "connection refused" "" ≠ .notFound ∧
      Fails (Client.ofConfig {}).handle (deprovision {} "a") s ∧
      Fails (Client.ofConfig {}).handle (lastOperation {} "a" removeOperation) s := by
  intro s
  have hrunnable : (1 : Int) ∉ unrunnableCodes := by decide
  have hunsent : Text.mentions (joinStreams "connection refused" "") unsentPatterns = true := by
    decide +kernel
  have hsilent : Text.mentions (joinStreams "connection refused" "") tellingPatterns = false := by
    decide +kernel
  have hs : s.Outage :=
    Kubectl.outage_constant (.finished 1 none _ Int.one_pos hrunnable hunsent hsilent)
  obtain ⟨htells, houtage⟩ := outage_tells_nothing {} "a"
  have htold := htells 1 "connection refused" "" Int.one_pos hrunnable hunsent
  obtain ⟨-, -, hdeprovision, hstatus⟩ := houtage s hs
  refine ⟨hs, fun hmissing ↦ ?_, hdeprovision, hstatus removeOperation⟩
  rw [htold.mp (.inl hmissing)] at hsilent
  cases hsilent

/-- A run that was turned away because a program was not found on the way is taken for absence: an
instance that may still be there counts as deprovisioned, and is reported as deleted. Another one
that was turned away because something exists already is taken for a role binding that is there. -/
theorem turned_away_taken_for_absence :
    let missing := "Unable to connect to the server: exec: executable aws not found"
    let existing := "Unable to connect to the server: socket already exists"
    let binding : Step :=
      .ofManifest Kind.roleBindings (.obj [("metadata", .obj [("name", .str "b")])]) true
    Text.mentions (joinStreams missing "") unsentPatterns = true ∧
      classify 1 missing "" = .notFound ∧
      ((deprovision {} "a").run (Client.ofConfig {}).handle
        (.constant (.finished 1 none (some missing)))).1 = .ok removeOperation ∧
      ((lastOperation {} "a" removeOperation).run (Client.ofConfig {}).handle
        (.constant (.finished 1 none (some missing)))).1 = .ok .deleted ∧
      Text.mentions (joinStreams existing "") unsentPatterns = true ∧
      ((runAction binding).run (Client.ofConfig {}).handle
        (.constant (.finished 1 none (some existing)))).1 =
          .ok ⟨binding, false, [.str "b"]⟩ :=
  ⟨by decide +kernel, by decide +kernel, by rfl, by rfl, by decide +kernel, by rfl⟩

end TenantBroker.Broker
