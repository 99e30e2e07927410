import ImmuneSystem.Stdlib.PyDict
import ImmuneSystem.Agents.Agent
import ImmuneSystem.Agents.Pool
import ImmuneSystem.Orchestrator.Collaborators
import ImmuneSystem.Orchestrator.State
import ImmuneSystem.Orchestrator.Approval
import ImmuneSystem.Orchestrator.Healing
import ImmuneSystem.Control.System
import ImmuneSystem.Control.Ledger
import ImmuneSystem.Control.Invariant
import ImmuneSystem.Control.Safety
import ImmuneSystem.Control.Status
import ImmuneSystem.Control.Drain
import ImmuneSystem.Control.Escalation
import ImmuneSystem.Control.Solo
import ImmuneSystem.Control.Calls
import ImmuneSystem.Control.Termination
import ImmuneSystem.Control.Lifecycle
import ImmuneSystem.Control.Progress
import ImmuneSystem.Control.ActionLog
