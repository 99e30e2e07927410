-- SUMMARY: The control loop as a transition system: heal chains at their suspension points, dashboard calls at their critical sections, the sweep, chaos, and the drain.
import ImmuneSystem.Orchestrator.Approval
import ImmuneSystem.Orchestrator.Healing

/-!
# The control loop

One cooperative scheduler runs the agent loops, the sentinel sweep, the chaos
schedule, `run()`'s drain and every heal chain; a dashboard thread calls the
approval API beside it. A step of this system is one atomic piece of that
execution:

* for a task of the scheduler, the code between two of its `await`s; a heal chain
  runs one segment at a time. A sweep has no `await` between its agents, but it is
  taken one agent at a time here, which admits more interleavings than the code
  has, so every invariant proved holds of the code's runs too;
* for a call of the approval API, one critical section of `_pending_lock` with
  the code up to the next one. A rejection is two steps, with the popped entry in
  neither map between them.

`run()` holds the scheduler while it runs without awaiting: through its forced
calls `approve_all_pending(True)` and `start_healing_all_rejected()`, and from the
end of its drain wait to its shutdown. No task of the scheduler steps then; the
dashboard thread still does (`loopFree`).

The dashboard schedules a heal chain for each infection a call hands back; here
the chain is created, not yet started, at the moment the call hands it out. The
answers of the collaborators (a detection, a diagnosis, a validation result, the
chaos targets) are arguments of the events, so every answer is covered.

A heal chain carries three ghost fields that the code does not have: the
`(category, action)` pairs it has applied, its nesting depth, and the number of
steps it has taken. They only record its history.
-/

namespace ImmuneSystem

namespace Control

/-- Where a heal chain is suspended. -/
inductive Phase (Cat Act : Type)
  /-- Created by `create_task` or by the dashboard, not yet started. -/
  | scheduled
  /-- At the first sleep, after the diagnosis. -/
  | diagnosed (diagnosis : Diagnosis Cat)
  /-- At the second sleep, with the failed actions read from immune memory. -/
  | consulted (diagnosis : Diagnosis Cat) (failed : List Act)
  /-- Awaiting `apply_healing` on the selected action. -/
  | applying (diagnosis : Diagnosis Cat) (action : Act)
  /-- At the sleep before the recursive `heal_agent` call. -/
  | escalating
  deriving DecidableEq, Repr

/-- A running `heal_agent` task, with its ghost history. -/
structure HealChain (Cat Act : Type) where
  agentId : String
  infection : InfectionReport
  trigger : String
  phase : Phase Cat Act
  applied : List (Cat × Act)
  depth : Nat
  steps : Nat
  deriving DecidableEq, Repr

/-- A chain past its first segment: its agent is in `healing_in_progress`. -/
def HealChain.started {Cat Act : Type} (ch : HealChain Cat Act) : Bool :=
  match ch.phase with
  | .scheduled => false
  | _ => true

/-- A chain awaiting `apply_healing`, the only place a remediation runs. -/
def HealChain.applying {Cat Act : Type} (ch : HealChain Cat Act) : Bool :=
  match ch.phase with
  | .applying _ _ => true
  | _ => false

/-- A call of the approval API, or the bulk call it still has to expand. -/
inductive Instr
  | approveHealing (agentId : String) (approved : Bool) (trigger : String)
  | approveAllPending (approved : Bool) (trigger : String)
  | startHealingExplicitly (agentId : String) (trigger : String)
  | startHealingAllRejected (trigger : String)
  deriving DecidableEq, Repr

/-- A thread inside the approval API: the calls it still has to make, the entry of a
rejection between its two critical sections, and the chains scheduled from its results. -/
structure Caller (Cat : Type) where
  program : List Instr
  rejecting : Option (String × PendingApproval Cat)
  handedOut : List Nat
  deriving DecidableEq, Repr

/-- Where `run()` is, after its sleep for the run's duration. -/
inductive DrainPhase (Cat : Type)
  | waiting
  /-- Inside `approve_all_pending(True)` and `start_healing_all_rejected()`. -/
  | forcing (caller : Caller Cat)
  /-- In `asyncio.gather` over the chains the drain scheduled. -/
  | gathering (tasks : List Nat)
  /-- In the loop that sleeps while `healing_in_progress` is non-empty. -/
  | polling
  /-- "All quarantined agents healed", before `running` is cleared. -/
  | healed
  /-- "Drain timeout". -/
  | timedOut
  | shutDown
  deriving DecidableEq, Repr

/-- The whole system: the orchestrator's fields, the tasks, and the dashboard threads. -/
structure System (Cat Act M : Type) where
  orch : Orchestrator Cat Act M
  chains : PyDict Nat (HealChain Cat Act)
  callers : List (Caller Cat)
  drain : DrainPhase Cat
  sentinelActive : Bool
  chaosWave : Nat
  clock : Nat
  nextCid : Nat
  exhausted : Nat

/-- What the scheduler, the collaborators or the dashboard do next. -/
inductive Event (Cat : Type)
  | tick
  | agentLoop (agentId : String)
  | sentinelWakes
  | sweep (agentId : String) (detection : Option InfectionReport) (diagnosis : Diagnosis Cat)
  | chaosWave (targets : List (String × String))
  | chaosStops
  | chainResume (cid : Nat) (diagnosis : Diagnosis Cat)
  | chainConsult (cid : Nat)
  | chainSelect (cid : Nat)
  | chainApplied (cid : Nat) (passed : Bool)
  | cure (agentId : String)
  | call (program : List Instr)
  | callerStep (index : Nat)
  | drainStarts
  | drainStep
  | drainGathered
  | drainPolls
  | drainTimesOut
  | shutdown

variable {Cat Act M : Type} (H : Healer Cat Act) (mem : ImmuneMemory M Cat Act)

namespace System

/-- The system when `run()` starts. -/
def init (agents : List BaseAgent) (immuneMemory : M) : System Cat Act M where
  orch := .init agents immuneMemory
  chains := .empty
  callers := []
  drain := .waiting
  sentinelActive := false
  chaosWave := 0
  clock := 0
  nextCid := 0
  exhausted := 0

/-- A new heal chain for `agentId`, handed out with `infection`. -/
def schedule (s : System Cat Act M) (agentId : String) (infection : InfectionReport)
    (trigger : String) : System Cat Act M :=
  { s with
    chains := s.chains.insert s.nextCid ⟨agentId, infection, trigger, .scheduled, [], 0, 0⟩
    nextCid := s.nextCid + 1 }

/-- The orchestrator, with the agent's view of quarantine updated by `f`. -/
def withAgent (s : System Cat Act M) (agentId : String) (f : BaseAgent → BaseAgent) :
    System Cat Act M :=
  { s with orch := { s.orch with agents := s.orch.agents.modify agentId f } }

/-- One critical section of a thread in the approval API; `none` once it has returned. -/
def callerStep (s : System Cat Act M) (c : Caller Cat) : Option (System Cat Act M × Caller Cat) :=
  match c.rejecting, c.program with
  | some (x, e), _ =>
    some ({ s with orch := s.orch.approveHealingReject x e s.clock }, { c with rejecting := none })
  | none, [] => none
  | none, .approveHealing x approved trigger :: rest =>
    match s.orch.approveHealingBegin x approved s.clock with
    | (.missing, o) => some ({ s with orch := o }, { c with program := rest })
    | (.approved infection, o) =>
      some ({ s with orch := o }.schedule x infection trigger,
        { c with program := rest, handedOut := c.handedOut ++ [s.nextCid] })
    | (.rejecting e, o) => some ({ s with orch := o }, { c with program := rest, rejecting := some (x, e) })
  | none, .approveAllPending approved trigger :: rest =>
    let calls := s.orch.pendingApprovals.keys.map fun x => .approveHealing x approved trigger
    some (s, { c with program := calls ++ rest })
  | none, .startHealingExplicitly x trigger :: rest =>
    match s.orch.startHealingExplicitly x s.clock with
    | (none, o) => some ({ s with orch := o }, { c with program := rest })
    | (some infection, o) =>
      some ({ s with orch := o }.schedule x infection trigger,
        { c with program := rest, handedOut := c.handedOut ++ [s.nextCid] })
  | none, .startHealingAllRejected trigger :: rest =>
    let calls := s.orch.rejectedApprovals.keys.map fun x => .startHealingExplicitly x trigger
    some (s, { c with program := calls ++ rest })

/-- One agent of a sweep of `sentinel_loop`: the three skips, then on a detection the
count, the quarantine, and either a pending approval or an auto-heal task. -/
def sweep (s : System Cat Act M) (x : String) (detection : Option InfectionReport)
    (diagnosis : Diagnosis Cat) : System Cat Act M :=
  if s.orch.quarantine.isQuarantined x then s
  else match detection with
  | none => s
  | some infection =>
    if x ∈ s.orch.rejectedApprovals.keys then s
    else
      let o := { s.orch with
        totalInfections := s.orch.totalInfections + 1
        quarantine := s.orch.quarantine.quarantine x
        agents := s.orch.agents.modify x BaseAgent.quarantine }
      if infection.severity ≥ severityRequiringApproval then
        let o := { o with pendingApprovals := o.pendingApprovals.insert x ⟨infection, diagnosis, s.clock⟩ }
        { s with orch := o.logAction (.approvalRequested (roundTenths infection.severity)) x s.clock }
      else { s with orch := o }.schedule x infection "auto"

/-- The first segment of `heal_agent`, on a new chain or after the escalation sleep. -/
def chainResume (s : System Cat Act M) (cid : Nat) (d : Diagnosis Cat) : Option (System Cat Act M) :=
  (s.chains.get? cid).bind fun ch =>
    let resume (depth : Nat) :=
      let ch' := { ch with phase := .diagnosed d, depth, steps := ch.steps + 1 }
      some { s with orch := s.orch.healEnter ch.agentId, chains := s.chains.insert cid ch' }
    match ch.phase with
    | .scheduled => resume ch.depth
    | .escalating => resume (ch.depth + 1)
    | _ => none

/-- The segment between the two sleeps: read the failed actions. -/
def chainConsult (s : System Cat Act M) (cid : Nat) : Option (System Cat Act M) :=
  (s.chains.get? cid).bind fun ch =>
    match ch.phase with
    | .diagnosed d =>
      let failed := s.orch.healFailedActions mem ch.agentId d
      let ch' := { ch with phase := .consulted d failed, steps := ch.steps + 1 }
      some { s with chains := s.chains.insert cid ch' }
    | _ => none

/-- After the second sleep: select the next action, or end by exhaustion. -/
def chainSelect (s : System Cat Act M) (cid : Nat) : Option (System Cat Act M) :=
  (s.chains.get? cid).bind fun ch =>
    match ch.phase with
    | .consulted d failed =>
      match H.getNextAction d.diagnosisType failed with
      | none => some { s with
          orch := s.orch.healExhausted ch.agentId
          chains := s.chains.erase cid
          exhausted := s.exhausted + 1 }
      | some action =>
        let ch' := { ch with phase := .applying d action, steps := ch.steps + 1 }
        some { s with chains := s.chains.insert cid ch' }
    | _ => none

/-- `apply_healing` returns: record, log, then end healed or wait to escalate. -/
def chainApplied (s : System Cat Act M) (cid : Nat) (passed : Bool) : Option (System Cat Act M) :=
  (s.chains.get? cid).bind fun ch =>
    match ch.phase with
    | .applying d action =>
      let orch := s.orch.healRecord mem ch.agentId d action passed ch.trigger s.clock
      if passed then some { s with orch, chains := s.chains.erase cid }
      else
        let applied := ch.applied ++ [(d.diagnosisType, action)]
        let ch' := { ch with phase := .escalating, applied, steps := ch.steps + 1 }
        some { s with orch, chains := s.chains.insert cid ch' }
    | _ => none

/-- The candidates of the next chaos wave: every agent for the first, the agents not
infected for the others. -/
def chaosCandidates (s : System Cat Act M) : List BaseAgent :=
  if s.chaosWave = 0 then s.orch.agents.entries.map Prod.snd
  else (s.orch.agents.entries.map Prod.snd).filter (!·.infected)

/-- How many agents a chaos wave may infect. -/
def chaosCount (s : System Cat Act M) : Nat :=
  if s.chaosWave = 0 then 5 else min 4 (s.chaosCandidates).length

/-- After `apply_healing` or the forced calls: the drain's poll of `healing_in_progress`. -/
def drainCheck (s : System Cat Act M) : System Cat Act M :=
  { s with drain := if s.orch.healingInProgress = ∅ then .healed else .polling }

/-- Whether the event loop may run a task: not while `run()` runs without awaiting,
inside its forced calls and from the end of the drain wait to its shutdown. -/
def loopFree (s : System Cat Act M) : Bool :=
  match s.drain with
  | .forcing _ | .healed | .timedOut => false
  | _ => true

end System

open System

/-- A step of a task of the event loop; `none` when the event cannot happen now. -/
def loopStep (s : System Cat Act M) : Event Cat → Option (System Cat Act M)
  | .agentLoop x =>
    if s.orch.running ∧ x ∈ s.orch.agents.keys then
      if s.orch.quarantine.isQuarantined x then some s else some (s.withAgent x BaseAgent.execute)
    else none
  | .sentinelWakes =>
    if s.orch.running ∧ !s.sentinelActive then
      some { s with sentinelActive := true, orch := { s.orch with baselinesLearned := true } }
    else none
  | .sweep x detection diagnosis =>
    if s.orch.running ∧ s.sentinelActive ∧ x ∈ s.orch.agents.keys then
      some (s.sweep x detection diagnosis)
    else none
  | .chaosWave targets =>
    if s.orch.running ∧ s.chaosWave < 3 ∧ targets.length ≤ s.chaosCount ∧
        ∀ t ∈ targets, t.1 ∈ s.chaosCandidates.map BaseAgent.agentId then
      some { targets.foldl (fun s t => s.withAgent t.1 (BaseAgent.infect · t.2)) s with
        chaosWave := s.chaosWave + 1 }
    else none
  | .chaosStops => if s.orch.running ∧ s.chaosWave < 3 then some { s with chaosWave := 3 } else none
  | .chainResume cid d => chainResume s cid d
  | .chainConsult cid => chainConsult mem s cid
  | .chainSelect cid => chainSelect H s cid
  | .chainApplied cid passed => chainApplied mem s cid passed
  | .cure x =>
    if s.chains.entries.any (fun e => e.2.agentId = x ∧ e.2.applying) then
      some (s.withAgent x BaseAgent.cure)
    else none
  | .drainStarts =>
    match s.drain with
    | .waiting =>
      let forced := [.approveAllPending true "drain_approve", .startHealingAllRejected "drain_heal_now"]
      some { s with drain := .forcing ⟨forced, none, []⟩ }
    | _ => none
  | .drainGathered =>
    match s.drain with
    | .gathering tasks => if ∀ cid ∈ tasks, cid ∉ s.chains.keys then some s.drainCheck else none
    | _ => none
  | .drainPolls =>
    match s.drain with
    | .polling => some s.drainCheck
    | _ => none
  | .drainTimesOut =>
    match s.drain with
    | .polling => if s.orch.healingInProgress ≠ ∅ then some { s with drain := .timedOut } else none
    | _ => none
  | _ => none

/-- One step of the system; `none` when the event cannot happen now. Time passes and
the dashboard thread runs at any moment; `run()`'s own steps past the sleep hold the
event loop while they run without awaiting. -/
def step (s : System Cat Act M) : Event Cat → Option (System Cat Act M)
  | .tick => some { s with clock := s.clock + 1 }
  | .call program => some { s with callers := s.callers ++ [⟨program, none, []⟩] }
  | .callerStep i =>
    match s.callers[i]? with
    | none => none
    | some c => (callerStep s c).map fun (s', c') => { s' with callers := s'.callers.set i c' }
  | .drainStep =>
    match s.drain with
    | .forcing c =>
      match callerStep s c with
      | some (s', c') => some { s' with drain := .forcing c' }
      | none => some (if c.handedOut = [] then s.drainCheck else { s with drain := .gathering c.handedOut })
    | _ => none
  | .shutdown =>
    match s.drain with
    | .healed | .timedOut =>
      some { s with drain := .shutDown, orch := { s.orch with running := false } }
    | _ => none
  | e => if s.loopFree then loopStep H mem s e else none

/-- The states reachable from `run()`'s start on the given agents and immune memory. -/
inductive Reachable (agents : List BaseAgent) (immuneMemory : M) : System Cat Act M → Prop
  | init : Reachable agents immuneMemory (.init agents immuneMemory)
  | step {s s' : System Cat Act M} (e : Event Cat) :
      Reachable agents immuneMemory s → step H mem s e = some s' → Reachable agents immuneMemory s'

/-- Run a list of events. -/
def run (s : System Cat Act M) : List (Event Cat) → Option (System Cat Act M)
  | [] => some s
  | e :: es => (step H mem s e).bind fun s => run s es

theorem Reachable.run {agents : List BaseAgent} {immuneMemory : M} {s s' : System Cat Act M}
    (hs : Reachable H mem agents immuneMemory s) :
    ∀ {es : List (Event Cat)}, Control.run H mem s es = some s' →
      Reachable H mem agents immuneMemory s'
  | [], h => by cases h; exact hs
  | e :: es, h => by
    simp only [Control.run, Option.bind_eq_some] at h
    obtain ⟨s₁, h₁, h₂⟩ := h
    exact (hs.step e h₁).run h₂

end Control

end ImmuneSystem
