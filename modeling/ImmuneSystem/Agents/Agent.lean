-- SUMMARY: Agents as the orchestrator sees them: status, infection flag, the four status transitions, and the knobs of `AgentState`.
import Mathlib.Algebra.Order.Ring.Unbundled.Rat

/-!
# Agents

`immune_system/agents.py`. An agent carries two views of its health: the
`infected` flag set by fault injection and cleared by a cure, and the `status`
shown on the dashboard, which the quarantine and release calls also write.
`release` recomputes the status from the flag; `infect` and `cure` write it
unconditionally. The random baselines and the telemetry sample of `execute` feed
only the collaborators outside the core and are not modelled.
-/

namespace ImmuneSystem

/-- `AgentStatus`. -/
inductive AgentStatus
  | healthy
  | infected
  | quarantined
  deriving DecidableEq, Repr

-- ---------------------------------------------------------------------------
-- AgentState
-- ---------------------------------------------------------------------------

/-- `AgentState`, with the dataclass defaults. The memory dictionary is only ever
cleared, so its contents are kept as opaque pairs. -/
structure AgentState where
  memory : List (String × String) := []
  promptVersion : Nat := 1
  temperature : ℚ := 7 / 10
  maxTools : Nat := 5
  deriving DecidableEq, Repr

namespace AgentState

def resetMemory (st : AgentState) : AgentState := { st with memory := [] }

def rollbackPrompt (st : AgentState) : AgentState :=
  if st.promptVersion > 1 then { st with promptVersion := st.promptVersion - 1 } else st

def reduceAutonomy (st : AgentState) : AgentState :=
  { st with temperature := max (1 / 10) (st.temperature * (1 / 2)), maxTools := max 1 (st.maxTools - 2) }

end AgentState

-- ---------------------------------------------------------------------------
-- BaseAgent
-- ---------------------------------------------------------------------------

/-- The fields of `BaseAgent` that the orchestrator, the pool and the dashboard read. -/
structure BaseAgent where
  agentId : String
  agentType : String
  modelName : String := "GPT-4"
  mcpServers : List String := []
  state : AgentState := {}
  status : AgentStatus := .healthy
  executionCount : Nat := 0
  infected : Bool := false
  infectionType : Option String := none
  deriving DecidableEq, Repr

namespace BaseAgent

/-- The state change of `execute`; the telemetry sample it returns is random. -/
def execute (a : BaseAgent) : BaseAgent := { a with executionCount := a.executionCount + 1 }

def infect (a : BaseAgent) (infectionType : String) : BaseAgent :=
  { a with infected := true, infectionType := some infectionType, status := .infected }

def cure (a : BaseAgent) : BaseAgent :=
  { a with infected := false, infectionType := none, status := .healthy }

def quarantine (a : BaseAgent) : BaseAgent := { a with status := .quarantined }

def release (a : BaseAgent) : BaseAgent :=
  { a with status := if !a.infected then .healthy else .infected }

@[simp] theorem execute_status (a : BaseAgent) : a.execute.status = a.status := rfl
@[simp] theorem execute_infected (a : BaseAgent) : a.execute.infected = a.infected := rfl
@[simp] theorem infect_status (a : BaseAgent) (t : String) : (a.infect t).status = .infected := rfl
@[simp] theorem infect_infected (a : BaseAgent) (t : String) : (a.infect t).infected = true := rfl
@[simp] theorem cure_status (a : BaseAgent) : a.cure.status = .healthy := rfl
@[simp] theorem cure_infected (a : BaseAgent) : a.cure.infected = false := rfl
@[simp] theorem quarantine_status (a : BaseAgent) : a.quarantine.status = .quarantined := rfl
@[simp] theorem quarantine_infected (a : BaseAgent) : a.quarantine.infected = a.infected := rfl
@[simp] theorem release_infected (a : BaseAgent) : a.release.infected = a.infected := rfl

/-- After `release` the status is `INFECTED` exactly when the agent is infected. -/
@[simp] theorem release_status (a : BaseAgent) :
    a.release.status = if a.infected then .infected else .healthy := by
  cases h : a.infected <;> simp [release, h]

end BaseAgent

end ImmuneSystem
