import TenantBroker.CommandLine
import TenantBroker.Proofs.Log.Filling
import TenantBroker.Proofs.Success

/-!
# The use of the command line

Every operation of the broker has its arguments, whatever the instance and the user are called. A
failure that is reported stands last on standard error, after what has been logged. It is shown as
it is worded, unless it holds what only a terminal understands and there is none.
-/

namespace TenantBroker.Text

/-- Without an escape character there is no control sequence. -/
theorem withoutControls_eq_self {cs : List Char} (h : escape ∉ cs) : withoutControls 0 cs = cs := by
  induction cs with
  | nil => rfl
  | cons c rest ih =>
    obtain ⟨hc, hrest⟩ : escape ≠ c ∧ escape ∉ rest := by simpa using h
    simp [withoutControls, Ne.symm hc, ih hrest]

/-- On a terminal a text is written as it is, and elsewhere if it has no escape character. -/
theorem onOutput_eq_self {terminal : Bool} {s : String}
    (h : terminal = true ∨ escape ∉ s.toList) : onOutput terminal s = s := by
  unfold onOutput
  split
  · rfl
  · next hterminal =>
    rw [withoutControls_eq_self (h.resolve_left hterminal), String.ofList_toList]

end TenantBroker.Text

namespace TenantBroker.CommandLine

/-! ## Reports -/

/-- The name of the level of a warning in its column. -/
def Console.levelName (c : Console) : String :=
  if Log.usesColour c.terminal c.env then "\x1b[33mWARNING\x1b[0m" else "WARNING "

/-- The line of the log that warns of a failure, if the log takes warnings. -/
def Console.warning (c : Console) (message : String) : String :=
  if (Log.Level.ofEnvironment c.env).value ≤ Log.Level.warning.value then
    c.time ++ " | " ++ c.levelName ++ " | " ++ loggerName ++ " | " ++
      ("CLI command failed with domain error: " ++ message) ++ "\n"
  else ""

/-- A warning is shown with the wording of the failure in full. -/
theorem line_warningOf (c : Console) (level : Log.Level) (message : String) :
    (⟨level, Log.usesColour c.terminal c.env⟩ : Log.Handler).line (warningOf c.clock message) =
      .ok (c.time ++ " | " ++ c.levelName ++ " | " ++ loggerName ++ " | " ++
        ("CLI command failed with domain error: " ++ message)) := by
  have hpattern : "CLI command failed with domain error: %s".toList =
      "CLI command failed with domain error: ".toList ++ ['%', 's'] := by decide +kernel
  have hmessage := Log.fill_text hpattern (by decide +kernel) message
  rw [String.ofList_toList] at hmessage
  have hname (coloured : Bool) : (⟨level, coloured⟩ : Log.Handler).shownName (.str "WARNING") =
      .ok (if coloured then "\x1b[33mWARNING\x1b[0m" else "WARNING") := by
    cases coloured <;> rfl
  simp only [Log.Handler.line, warningOf, hname, mapError_ok, Json.shown, hmessage, c.shown, bind,
    Except.bind, pure, Except.pure, Console.levelName]
  cases Log.usesColour c.terminal c.env <;> rfl

/-- The log writes a warning on one line, or leaves it out. -/
theorem emit_warningOf (c : Console) (message : String) :
    (Log.Setup.started c.terminal c.env).emit .warning (warningOf c.clock message) =
      .ok (c.warning message) := by
  unfold Log.Setup.emit Log.Setup.started Console.warning
  split
  · next hlevel =>
    simp only [hlevel, decide_true, Bool.and_self, List.filter_cons_of_pos, List.filter_nil,
      List.mapM_cons, List.mapM_nil, line_warningOf]
    simp [bind, Except.bind, pure, Except.pure, String.join]
  · next hlevel =>
    simp only [hlevel, decide_false]
    rfl

/-- Standard error when a failure is reported: the log, with a warning of the failure, and after it
the report. -/
theorem errors_refused (c : Console) (message : String) :
    c.errors (.refused message) = .ok (c.logged ++ c.warning message ++
      Text.onOutput c.terminal ("Error: " ++ message ++ "\n")) := by
  simp only [Console.errors, Outcome.warnings, List.mapM_cons, List.mapM_nil, emit_warningOf]
  simp [bind, Except.bind, pure, Except.pure, String.join, Outcome.report]

/-- On a terminal, or without escape characters, a wording is reported as it is. -/
theorem onOutput_report {terminal : Bool} {message : String}
    (h : terminal = true ∨ Text.escape ∉ message.toList) :
    Text.onOutput terminal ("Error: " ++ message ++ "\n") = "Error: " ++ message ++ "\n" := by
  refine Text.onOutput_eq_self (h.imp_right fun hescape ↦ ?_)
  simpa [Text.escape] using hescape

/-! ## Arguments -/

/-- The arguments for a provision. -/
theorem read?_provision (instanceId username : String) :
    Command.read? ["provision", "--identity", username, "--", instanceId] =
      some (.provision instanceId username) := by
  rfl

/-- The arguments for a deprovision. -/
theorem read?_deprovision (instanceId : String) :
    Command.read? ["deprovision", "--", instanceId] = some (.deprovision instanceId) := by
  rfl

/-- The arguments for the status of an operation. -/
theorem read?_lastOperation (instanceId operation : String) :
    Command.read? ["last-operation", "--operation", operation, "--", instanceId] =
      some (.lastOperation instanceId operation) := by
  rfl

/-- Arguments for a command do what the command asks for. -/
theorem run_of_read {args : List String} {command : Command} (h : Command.read? args = some command)
    (config : Config) : run config args = command.execute config := by
  rw [run, h]

end TenantBroker.CommandLine
