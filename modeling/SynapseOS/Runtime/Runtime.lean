import SynapseOS.Lib.Dict
import SynapseOS.Lib.Program
import SynapseOS.Runtime.Stagnation

/-! The bounded agent loop (`core/runtime/runtime.py`).

The reasoner, the tool executor and the recorder answer as functions of everything that
happened before in the run. A coroutine is interrupted at its awaits only, that is inside a
call of the reasoner or of the tool executor: an expired timer or a cancellation is one of the
exceptions such a call can raise. -/

namespace SynapseOS.Runtime

open Tools Program

inductive Thought
  | observation (value : RuntimeObservation)
  | plan (value : RuntimePlan)
  | decision (value : RuntimeDecision)
  | verification (value : RuntimeVerification)
  | report (value : RuntimeReport)

inductive Event
  /-- `record` was called; `raised` is what it raised. -/
  | recorded (record : RuntimeAuditRecord) (raised : Option Exn)
  | cancellation (record : RuntimeAuditRecord) (raised : Option Exn)
  | asked (step : RuntimeStep)
  | answered (step : RuntimeStep) (output : ReasonerOutput Thought)
  | refused (step : RuntimeStep) (e : Exn)
  | toolCalled (name : String) (arguments : List (String × JsonValue))
  | toolReturned (result : ToolResult)
  | toolRaised (e : Exn)
  /-- An entry was appended, which left the history `retained`. -/
  | appended (entry : RuntimeHistoryEntry) (retained : List RuntimeHistoryEntry)

abbrev Trace := List Event

abbrev History := List RuntimeHistoryEntry

structure Collaborators where
  maxStepTokens : Nat
  observe : Trace → RuntimeTask → History → Except Exn (ReasonerOutput RuntimeObservation)
  plan : Trace → RuntimeTask → RuntimeObservation → History →
    Except Exn (ReasonerOutput RuntimePlan)
  decide : Trace → RuntimeTask → RuntimeObservation → RuntimePlan → History →
    Except Exn (ReasonerOutput RuntimeDecision)
  verify : Trace → RuntimeTask → RuntimeDecision → ToolResult → History →
    Except Exn (ReasonerOutput RuntimeVerification)
  report : Trace → RuntimeTask → RuntimeTerminalStatus → RuntimeTerminalReason → History →
    Except Exn (ReasonerOutput RuntimeReport)
  execute : Trace → String → List (String × JsonValue) → ToolExecutionContext →
    Except Exn ToolResult
  record : Trace → RuntimeAuditRecord → Option Exn
  recordCancellation : Trace → RuntimeAuditRecord → Option Exn
  fingerprint : Canonical → String
  /-- The readings of `perf_counter`, which never goes back. -/
  reading : Nat → ℚ
  monotone : Monotone reading

structure AgentRuntime where
  env : Collaborators
  limits : RuntimeLimits
  step_tokens : env.maxStepTokens ≤ limits.maxStepTokens

/-- `AgentRuntime.__init__`, with the message of its `ValueError`. -/
def AgentRuntime.construct (env : Collaborators) (limits : RuntimeLimits) :
    Except String AgentRuntime :=
  if accepted : env.maxStepTokens ≤ limits.maxStepTokens then .ok ⟨env, limits, accepted⟩
  else .error "reasoner step token limit exceeds runtime limit"

structure RunState where
  started : ℚ
  maxHistory : Nat
  counters : Counters := ⟨0, 0, 0, 0⟩
  usageAvailable : Bool := true
  history : History := []
  stepStarted : Dict RuntimeStep ℚ := .empty

/-- The state of a run, what happened in it, and the number of clock readings. -/
structure World where
  run : RunState
  trace : Trace := []
  readings : Nat := 0

abbrev Action := Program World Exn

abbrev Ending := RuntimeTerminalStatus × RuntimeTerminalReason × Option RuntimeReport

def World.log (w : World) (event : Event) : World := { w with trace := w.trace ++ [event] }

def World.withRun (w : World) (f : RunState → RunState) : World := { w with run := f w.run }

def World.count (w : World) (f : Counters → Counters) : World :=
  w.withRun fun run => { run with counters := f run.counters }

def perfCounter (rt : AgentRuntime) : Action ℚ := fun w =>
  (.ok (rt.env.reading w.readings), { w with readings := w.readings + 1 })

def pyRound (q : ℚ) : Int :=
  let rest := q - ⌊q⌋
  if rest < 1 / 2 then ⌊q⌋
  else if 1 / 2 < rest then ⌊q⌋ + 1
  else if ⌊q⌋ % 2 = 0 then ⌊q⌋ else ⌊q⌋ + 1

def elapsedMs (started now : ℚ) : Int := min (pyRound ((now - started) * 1000)) 3600000

def buildRecord (context : ToolExecutionContext) (counters : Counters) (step : RuntimeStep)
    (outcome : RuntimeAuditOutcome) (durationMs : Int) (reason : Option RuntimeTerminalReason)
    (action : Option RuntimeAction) (toolName : Option Identifier)
    (errorCode : Option ToolErrorCode) : Except Exn RuntimeAuditRecord :=
  if duration : 0 ≤ durationMs ∧ durationMs ≤ 3600000 then
    if bounded : counters.Bounded then
      .ok
        { agentId := context.agentId
          agentRunId := context.agentRunId
          projectId := context.projectId
          taskId := context.taskId
          correlationId := context.correlationId
          step := step
          outcome := outcome
          durationMs := durationMs
          counters := counters
          reason := reason
          action := action
          toolName := toolName
          errorCode := errorCode
          duration_bounds := duration
          bounded := bounded }
    else .error .validation
  else .error .validation

/-- `self._audit.record(RuntimeAuditRecord(...))`. -/
def submit (rt : AgentRuntime) (built : Except Exn RuntimeAuditRecord) : Action Unit := do
  let record ← resume built
  let w ← look
  let raised := rt.env.record w.trace record
  update fun w => w.log (.recorded record raised)
  match raised with
  | none => pure ()
  | some e => raise e

/-- The duration of a step: zero when it starts, and when its start is not known. -/
def stepDuration (rt : AgentRuntime) (step : RuntimeStep) (outcome : RuntimeAuditOutcome) :
    Action Int := do
  if outcome = .started then
    let now ← perfCounter rt
    update fun w => w.withRun fun run => { run with stepStarted := run.stepStarted.set step now }
    pure 0
  else
    let w ← look
    update fun w => w.withRun fun run => { run with stepStarted := run.stepStarted.pop step }
    match w.run.stepStarted.get step with
    | some started =>
        let now ← perfCounter rt
        pure (elapsedMs started now)
    | none => pure 0

def auditStep (rt : AgentRuntime) (context : ToolExecutionContext) (step : RuntimeStep)
    (outcome : RuntimeAuditOutcome) (decision : Option RuntimeDecision := none)
    (errorCode : Option ToolErrorCode := none) : Action Unit := do
  let durationMs ← stepDuration rt step outcome
  let w ← look
  submit rt (buildRecord context w.run.counters step outcome durationMs none
    (decision.map fun d => d.action) (decision.bind fun d => d.toolName) errorCode)

/-- `_build_terminal_audit_record`. -/
def terminalRecord (rt : AgentRuntime) (context : ToolExecutionContext)
    (outcome : RuntimeAuditOutcome) (reason : RuntimeTerminalReason) :
    Action (Except Exn RuntimeAuditRecord) := do
  let now ← perfCounter rt
  let w ← look
  pure (buildRecord context w.run.counters .report outcome (elapsedMs w.run.started now)
    (some reason) none none none)

def terminalAudit (rt : AgentRuntime) (context : ToolExecutionContext)
    (outcome : RuntimeAuditOutcome) (reason : RuntimeTerminalReason) : Action Unit := do
  let built ← terminalRecord rt context outcome reason
  submit rt built

def terminal (rt : AgentRuntime) (context : ToolExecutionContext)
    (status : RuntimeTerminalStatus) (reason : RuntimeTerminalReason) : Action Ending := do
  terminalAudit rt context (if status = .limitReached then .limitReached else .escalated) reason
  pure (status, reason, none)

def terminalFailure (rt : AgentRuntime) (context : ToolExecutionContext)
    (reason : RuntimeTerminalReason) : Action Ending := do
  terminalAudit rt context .failed reason
  pure (.failed, reason, none)

def tokenBudgetReached (rt : AgentRuntime) : Action Bool := do
  let w ← look
  pure (decide (rt.limits.maxTokens ≤ w.run.counters.reportedTokens))

def tokenTerminal (rt : AgentRuntime) (context : ToolExecutionContext) : Action Ending :=
  terminal rt context .limitReached .tokenBudgetReached

/-- `try: body` with `except RuntimeError as error: handler(error.code)`. -/
def exceptRuntime {α : Type} (body : Action α) (handler : RuntimeErrorCode → Action α) :
    Action α := do
  let outcome ← attempt body
  match outcome with
  | .error (.runtime code) => handler code
  | outcome => resume outcome

/-- A handler of `_execute` or `_finish` first raises `AUDIT_FAILED` again; `none` means that
it goes on. -/
def recoverable {α : Type} (body : Action α) : Action (Option α) :=
  exceptRuntime (some <$> body) fun code =>
    if code = .auditFailed then raise (.runtime code) else pure none

/-- `await operation()`. -/
def ask {α : Type} (step : RuntimeStep) (operation : Trace → Except Exn (ReasonerOutput α))
    (wrap : α → Thought) : Action (ReasonerOutput α) := do
  update fun w => w.log (.asked step)
  let w ← look
  match operation w.trace with
  | .ok output =>
      update fun w => w.log (.answered step (output.map wrap))
      pure output
  | .error e =>
      update fun w => w.log (.refused step e)
      raise e

def reason {α : Type} (rt : AgentRuntime) (step : RuntimeStep) (context : ToolExecutionContext)
    (operation : Trace → Except Exn (ReasonerOutput α)) (wrap : α → Thought)
    (decision : Option RuntimeDecision := none) : Action α := do
  auditStep rt context step .started decision
  let output ← exceptRuntime (ask step operation wrap) fun code => do
    auditStep rt context step .failed decision
    raise (.runtime code)
  update fun w => w.withRun fun run =>
    { run with
      counters :=
        { run.counters with
          reportedTokens := run.counters.reportedTokens + output.reportedTokens }
      usageAvailable := run.usageAvailable && output.usageAvailable }
  auditStep rt context step .succeeded decision
  pure output.value

def countFailure : Action Unit :=
  update fun w => w.count fun c => { c with failures := c.failures + 1 }

def finish (rt : AgentRuntime) (task : RuntimeTask) (context : ToolExecutionContext)
    (status : RuntimeTerminalStatus) (reason_ : RuntimeTerminalReason) : Action Ending := do
  if ← tokenBudgetReached rt then tokenTerminal rt context
  else
    let w ← look
    let reported ← recoverable (reason rt .report context
      (fun trace => rt.env.report trace task status reason_ w.run.history) .report)
    match reported with
    | none =>
        countFailure
        terminalAudit rt context .failed .invalidLlmOutput
        pure (.failed, .invalidLlmOutput, none)
    | some _ =>
        if ← tokenBudgetReached rt then tokenTerminal rt context
        else
          terminalAudit rt context .succeeded reason_
          pure (status, reason_, none)

/-- `RuntimeHistoryEntry(...)`, without its token count, which is always zero here. -/
def buildEntry (iteration : Nat) (step : RuntimeStep) (action : Option RuntimeAction := none)
    (toolName : Option Identifier := none) (toolErrorCode : Option ToolErrorCode := none) :
    Except Exn RuntimeHistoryEntry :=
  if bounds : 1 ≤ iteration ∧ iteration ≤ 100 then
    .ok
      { iteration := iteration
        step := step
        action := action
        toolName := toolName
        toolErrorCode := toolErrorCode
        iteration_bounds := bounds }
  else .error .validation

def RunState.append (run : RunState) (entry : RuntimeHistoryEntry) : RunState :=
  { run with history := (run.history ++ [entry]).rtake run.maxHistory }

def append (built : Except Exn RuntimeHistoryEntry) : Action Unit := do
  let entry ← resume built
  update fun w =>
    (w.withRun fun run => run.append entry).log (.appended entry (w.run.append entry).history)

def failuresReached (rt : AgentRuntime) : Action Bool := do
  let w ← look
  pure (decide (rt.limits.maxFailures ≤ w.run.counters.failures))

/-- The first `try` of an iteration. -/
def understand (rt : AgentRuntime) (task : RuntimeTask) (context : ToolExecutionContext) :
    Action (Ending ⊕ RuntimeDecision) := do
  let w ← look
  let observation ← reason rt .observe context
    (fun trace => rt.env.observe trace task w.run.history) .observation
  if ← tokenBudgetReached rt then .inl <$> tokenTerminal rt context
  else
    let w ← look
    let plan ← reason rt .plan context
      (fun trace => rt.env.plan trace task observation w.run.history) .plan
    if ← tokenBudgetReached rt then .inl <$> tokenTerminal rt context
    else
      let w ← look
      let decision ← reason rt .decide context
        (fun trace => rt.env.decide trace task observation plan w.run.history) .decision
      if ← tokenBudgetReached rt then .inl <$> tokenTerminal rt context
      else pure (.inr decision)

/-- `decision.tool_name or "invalid"`. -/
def requestedTool (decision : RuntimeDecision) : String :=
  match decision.toolName with
  | some name => name.text
  | none => "invalid"

def callTool (rt : AgentRuntime) (decision : RuntimeDecision) (context : ToolExecutionContext) :
    Action ToolResult := do
  update fun w => w.log (.toolCalled (requestedTool decision) decision.arguments)
  let w ← look
  match rt.env.execute w.trace (requestedTool decision) decision.arguments context with
  | .ok result =>
      update fun w => w.log (.toolReturned result)
      pure result
  | .error e =>
      update fun w => w.log (.toolRaised e)
      raise e

def toolOutcome : ToolResultStatus → RuntimeAuditOutcome
  | .succeeded => .succeeded
  | .denied => .denied
  | .failed | .timedOut => .failed

def act (rt : AgentRuntime) (context : ToolExecutionContext) (decision : RuntimeDecision) :
    Action (Ending ⊕ ToolResult) := do
  auditStep rt context .act .started (some decision)
  update fun w => w.count fun c => { c with toolCalls := c.toolCalls + 1 }
  let outcome ← attempt (callTool rt decision context)
  match outcome with
  | .error .toolAudit =>
      auditStep rt context .act .failed (some decision) (some .auditFailed)
      auditStep rt context .observeResult .started (some decision)
      auditStep rt context .observeResult .failed (some decision) (some .auditFailed)
      .inl <$> terminalFailure rt context .auditFailed
  | .error e => raise e
  | .ok result =>
      auditStep rt context .act (toolOutcome result.status) (some decision) result.errorCode
      auditStep rt context .observeResult .started (some decision)
      auditStep rt context .observeResult (toolOutcome result.status) (some decision)
        result.errorCode
      pure (.inr result)

/-- The error codes that end a run for a human instead of counting as a failure. -/
def needsHuman (code : Option ToolErrorCode) : Bool :=
  decide (code = some .permissionDenied ∨ code = some .approvalRequired)

/-- `if tool_result.status is not ToolResultStatus.SUCCEEDED`; `none` means that the iteration
goes on. -/
def weigh (rt : AgentRuntime) (task : RuntimeTask) (context : ToolExecutionContext)
    (result : ToolResult) : Action (Option Ending) := do
  if result.status = .succeeded then pure none
  else if needsHuman result.errorCode then
    some <$> finish rt task context .escalated
      (if result.errorCode = some .approvalRequired then .humanApprovalRequired
        else .permissionDenied)
  else
    countFailure
    if ← failuresReached rt then some <$> finish rt task context .failed .maxFailuresReached
    else pure none

/-- VERIFY; `.inr` goes on to the next iteration. -/
def verify (rt : AgentRuntime) (task : RuntimeTask) (context : ToolExecutionContext)
    (detector : StagnationDetector) (iteration : Nat) (decision : RuntimeDecision)
    (result : ToolResult) : Action (Ending ⊕ StagnationDetector) := do
  let w ← look
  let verified ← recoverable (reason rt .verify context
    (fun trace => rt.env.verify trace task decision result w.run.history) .verification
    (some decision))
  match verified with
  | none =>
      countFailure
      if ← failuresReached rt then .inl <$> finish rt task context .failed .maxFailuresReached
      else pure (.inr detector)
  | some verification =>
      if ← tokenBudgetReached rt then .inl <$> tokenTerminal rt context
      else
        append (buildEntry iteration .verify (some decision.action) decision.toolName
          result.errorCode)
        match verification.outcome with
        | .complete => .inl <$> finish rt task context .completed .taskCompleted
        | .escalate => .inl <$> finish rt task context .escalated .agentEscalated
        | .continue_ =>
            let observed := detector.observe rt.env.fingerprint decision (some verification)
              result.errorCode
            if observed.1 then .inl <$> finish rt task context .escalated .stagnationDetected
            else pure (.inr observed.2)

def pursue (rt : AgentRuntime) (task : RuntimeTask) (context : ToolExecutionContext)
    (detector : StagnationDetector) (iteration : Nat) (decision : RuntimeDecision) :
    Action (Ending ⊕ StagnationDetector) := do
  append (buildEntry iteration .decide (some decision.action) decision.toolName)
  match decision.action with
  | .complete => .inl <$> finish rt task context .completed .taskCompleted
  | .escalate => .inl <$> finish rt task context .escalated .agentEscalated
  | .toolCall =>
      let w ← look
      if rt.limits.maxToolCalls ≤ w.run.counters.toolCalls then
        .inl <$> terminal rt context .limitReached .maxToolCallsReached
      else
        let acted ← act rt context decision
        match acted with
        | .inl ending => pure (.inl ending)
        | .inr result =>
            let weighed ← weigh rt task context result
            match weighed with
            | some ending => pure (.inl ending)
            | none => verify rt task context detector iteration decision result

def iterate (rt : AgentRuntime) (task : RuntimeTask) (context : ToolExecutionContext)
    (detector : StagnationDetector) (iteration : Nat) : Action (Ending ⊕ StagnationDetector) := do
  update fun w => w.count fun c => { c with iterations := iteration }
  let understood ← recoverable (understand rt task context)
  match understood with
  | none =>
      countFailure
      append (buildEntry iteration .decide)
      if ← failuresReached rt then .inl <$> finish rt task context .failed .maxFailuresReached
      else pure (.inr detector)
  | some (.inl ending) => pure (.inl ending)
  | some (.inr decision) => pursue rt task context detector iteration decision

/-- The iterations from `iteration` on, of which `remaining` are left. -/
def iterations (rt : AgentRuntime) (task : RuntimeTask) (context : ToolExecutionContext) :
    (remaining : Nat) → StagnationDetector → (iteration : Nat) → Action Ending
  | 0, _, _ => terminal rt context .limitReached .maxIterationsReached
  | remaining + 1, detector, iteration => do
      let stepped ← iterate rt task context detector iteration
      match stepped with
      | .inl ending => pure ending
      | .inr detector => iterations rt task context remaining detector (iteration + 1)

def execute (rt : AgentRuntime) (task : RuntimeTask) (context : ToolExecutionContext) :
    Action Ending :=
  iterations rt task context rt.limits.maxIterations
    { window := rt.limits.stagnationWindow, window_bounds := rt.limits.window_bounds } 1

/-- `async with asyncio.timeout(...)`: the cancellation it caused becomes a `TimeoutError`. -/
def timeoutScope {α : Type} (body : Action α) : Action α := do
  let outcome ← attempt body
  match outcome with
  | .error .expired => raise .timeout
  | outcome => resume outcome

def auditCancellation (rt : AgentRuntime) (context : ToolExecutionContext) : Action Unit :=
  exceptRuntime (do
    let built ← terminalRecord rt context .cancelled .cancelled
    let record ← resume built
    let w ← look
    let raised := rt.env.recordCancellation w.trace record
    update fun w => w.log (.cancellation record raised)
    match raised with
    | none => pure ()
    | some e => raise e) fun _ => pure ()

def result (rt : AgentRuntime) (ending : Ending) (started : ℚ) : Action RuntimeResult := do
  let now ← perfCounter rt
  let w ← look
  if bounded : w.run.counters.Bounded then
    if duration : 0 ≤ (now - started) * 1000 then
      if history : w.run.history.length ≤ 1000 then
        if truthful : ending.1.accepts ending.2.1 = true then
          pure
            { status := ending.1
              reason := ending.2.1
              summary := ⟨"Agent runtime terminated.", by decide⟩
              counters := w.run.counters
              usageAvailable := w.run.usageAvailable
              durationMs := (now - started) * 1000
              history := w.run.history
              report := ending.2.2
              bounded := bounded
              duration_bounds := duration
              history_bounds := history
              truthful := truthful }
        else raise .validation
      else raise .validation
    else raise .validation
  else raise .validation

def run (rt : AgentRuntime) (task : RuntimeTask) (context : ToolExecutionContext) :
    Action RuntimeResult := do
  let started ← perfCounter rt
  if task.taskId ≠ context.taskId then raise (.runtime .invalidRequest)
  else
    let begun ← perfCounter rt
    update fun w => w.withRun fun _ =>
      { started := begun, maxHistory := rt.limits.maxHistoryEntries }
    let outcome ← attempt (timeoutScope (execute rt task context))
    match outcome with
    | .ok ending => result rt ending started
    | .error .cancelled =>
        auditCancellation rt context
        raise .cancelled
    | .error .timeout =>
        terminalAudit rt context .timedOut .globalTimeout
        result rt (.timedOut, .globalTimeout, none) started
    | .error (.runtime code) =>
        if code ≠ .auditFailed then raise (.runtime code)
        else result rt (.failed, .auditFailed, none) started
    | .error e => raise e

/-- Before a run there is no state; the record below is replaced before it is read. -/
def start : World := { run := { started := 0, maxHistory := 0 } }

end SynapseOS.Runtime
