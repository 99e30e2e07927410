-- SUMMARY: The healing action log over whole runs: each event logs the one entry its code logs, or nothing, through the cap of 80, so the log is always the newest entries of the old log and of what the run logged, in order.
import ImmuneSystem.Control.Invariant

/-!
# The healing action log

`_log_action` appends one entry under `_action_log_lock` and then drops the oldest
entries past `_action_log_max = 80`. Four places call it: the sweep of `sentinel_loop`
on a severe detection (`approval_requested`, with the severity rounded to one decimal),
the first critical section of `approve_healing` on a pending agent (`user_approved` or
`user_rejected`), `start_healing_explicitly` on a rejected agent
(`explicit_heal_requested`), and the return of `apply_healing` in `heal_agent`
(`healing_attempt`). `Event.logEntry?` reads off the state which of them an event is,
and with what entry.

Every step of the system, whatever the interleaving, appends exactly that entry through
the cap, and any other step leaves the log as it is. Along a run from a reachable state
the log is therefore the last 80 entries of the old log followed by the entries of the
run's events, in order: an entry leaves only once 80 newer ones are there.
-/

namespace ImmuneSystem

namespace Control

variable {Cat Act M : Type}

open Orchestrator System

-- ---------------------------------------------------------------------------
-- The entry each event logs
-- ---------------------------------------------------------------------------

/-- The entry the next critical section of an approval thread logs: the decision of
`approve_healing` on a pending agent, or "Heal now" on a rejected one. -/
def Caller.logEntry? (s : System Cat Act M) (c : Caller Cat) : Option (ActionLogEntry Cat Act) :=
  match c.rejecting, c.program with
  | none, .approveHealing x approved _ :: _ =>
    if x ∈ s.orch.pendingApprovals.keys then
      some ⟨if approved then .userApproved else .userRejected, x, s.clock⟩
    else none
  | none, .startHealingExplicitly x _ :: _ =>
    if x ∈ s.orch.rejectedApprovals.keys then some ⟨.explicitHealRequested, x, s.clock⟩ else none
  | _, _ => none

/-- The entry an event logs from `s`: a severe detection of the sweep, a decision or a
"Heal now" of an approval thread, or the attempt of a heal chain. No other event logs. -/
def Event.logEntry? (s : System Cat Act M) : Event Cat → Option (ActionLogEntry Cat Act)
  | .sweep x (some infection) _ =>
    if s.orch.quarantine.isQuarantined x = false ∧ x ∉ s.orch.rejectedApprovals.keys ∧
        infection.severity ≥ severityRequiringApproval then
      some ⟨.approvalRequested (roundTenths infection.severity), x, s.clock⟩
    else none
  | .callerStep i => s.callers[i]?.bind (Caller.logEntry? s)
  | .drainStep =>
    match s.drain with
    | .forcing c => Caller.logEntry? s c
    | _ => none
  | .chainApplied cid passed =>
    (s.chains.get? cid).bind fun ch =>
      match ch.phase with
      | .applying d action => some ⟨.healingAttempt d.diagnosisType action passed ch.trigger, ch.agentId, s.clock⟩
      | _ => none
  | _ => none

/-- The log once an entry, if any, is appended through the cap. -/
def logAfter (l : List (ActionLogEntry Cat Act)) : Option (ActionLogEntry Cat Act) → List (ActionLogEntry Cat Act)
  | none => l
  | some entry => appendCapped actionLogMax l entry

theorem logAfter_eq_foldl (l : List (ActionLogEntry Cat Act)) (entry? : Option (ActionLogEntry Cat Act)) :
    logAfter l entry? = entry?.toList.foldl (appendCapped actionLogMax) l := by
  cases entry? <;> rfl

theorem appendCapped_length_le {α : Type} {cap : Nat} {l : List α} (entry : α) :
    (appendCapped cap l entry).length ≤ cap := by
  rw [appendCapped_eq, length_lastN]
  exact min_le_right _ _

theorem logAfter_length_le {l : List (ActionLogEntry Cat Act)} (entry? : Option (ActionLogEntry Cat Act))
    (hl : l.length ≤ actionLogMax) : (logAfter l entry?).length ≤ actionLogMax := by
  cases entry?
  · exact hl
  · exact appendCapped_length_le _

-- ---------------------------------------------------------------------------
-- The writers
-- ---------------------------------------------------------------------------

variable {s t : System Cat Act M}

/-- A critical section of an approval thread logs its entry. -/
theorem callerStep_log {c c' : Caller Cat} (h : callerStep s c = some (t, c')) :
    t.orch.healingActionLog = logAfter s.orch.healingActionLog (c.logEntry? s) := by
  obtain ⟨prog, _ | ⟨x, e⟩, handedOut⟩ := c
  · cases prog with
    | nil => simp [callerStep] at h
    | cons instr rest =>
      cases instr with
      | approveHealing x approved trigger =>
        cases hg : s.orch.pendingApprovals.get? x <;> cases approved <;>
          simp only [callerStep, approveHealingBegin, hg, Option.some.injEq, Prod.mk.injEq, if_true,
            Bool.false_eq_true, if_false] at h <;>
          obtain ⟨rfl, -⟩ := h <;>
          simp [Caller.logEntry?, PyDict.mem_keys_iff_isSome, hg, logAfter, logAction, schedule]
      | startHealingExplicitly x trigger =>
        cases hg : s.orch.rejectedApprovals.get? x <;>
          simp only [callerStep, startHealingExplicitly, hg, Option.some.injEq, Prod.mk.injEq] at h <;>
          obtain ⟨rfl, -⟩ := h <;>
          simp [Caller.logEntry?, PyDict.mem_keys_iff_isSome, hg, logAfter, logAction, schedule]
      | approveAllPending | startHealingAllRejected =>
        simp only [callerStep, Option.some.injEq, Prod.mk.injEq] at h
        obtain ⟨rfl, -⟩ := h
        rfl
  · simp only [callerStep, Option.some.injEq, Prod.mk.injEq] at h
    obtain ⟨rfl, -⟩ := h
    rfl

/-- A thread that has returned has nothing left to log. -/
theorem Caller.logEntry?_of_callerStep_eq_none {c : Caller Cat} (h : callerStep s c = none) :
    c.logEntry? s = none := by
  obtain ⟨prog, _ | ⟨x, e⟩, handedOut⟩ := c
  · cases prog with
    | nil => rfl
    | cons instr rest => cases instr <;> simp only [callerStep] at h <;> (try split at h) <;> cases h
  · cases h

/-- The sweep of an agent logs `approval_requested` exactly on a severe detection it
does not skip. -/
theorem sweep_log (x : String) (detection : Option InfectionReport) (diagnosis : Diagnosis Cat) :
    (s.sweep x detection diagnosis).orch.healingActionLog =
      logAfter s.orch.healingActionLog ((Event.sweep x detection diagnosis).logEntry? s) := by
  unfold sweep
  cases detection with
  | none => split <;> rfl
  | some infection =>
    by_cases hq : s.orch.quarantine.isQuarantined x = true <;>
      by_cases hr : x ∈ s.orch.rejectedApprovals.keys <;>
      by_cases hsev : infection.severity ≥ severityRequiringApproval <;>
      simp [hq, hr, hsev, Event.logEntry?, logAfter, logAction, schedule]

-- ---------------------------------------------------------------------------
-- Steps and runs
-- ---------------------------------------------------------------------------

variable (H : Healer Cat Act) (mem : ImmuneMemory M Cat Act)

theorem loopStep_log {e : Event Cat} (h : loopStep H mem s e = some t) :
    t.orch.healingActionLog = logAfter s.orch.healingActionLog (e.logEntry? s) := by
  cases e with
  | sweep x detection diagnosis =>
    simp only [loopStep] at h
    split at h <;> cases h
    exact sweep_log x detection diagnosis
  | chaosWave targets =>
    simp only [loopStep, foldl_withAgent] at h
    split at h <;> cases h
    rfl
  | chainResume cid d =>
    simp only [loopStep, chainResume, Option.bind_eq_some] at h
    obtain ⟨ch, -, h⟩ := h
    split at h <;> cases h <;> rfl
  | chainConsult cid =>
    simp only [loopStep, chainConsult, Option.bind_eq_some] at h
    obtain ⟨ch, -, h⟩ := h
    split at h <;> cases h
    rfl
  | chainSelect cid =>
    simp only [loopStep, chainSelect, Option.bind_eq_some] at h
    obtain ⟨ch, -, h⟩ := h
    split at h <;> try cases h
    split at h <;> cases h <;> rfl
  | chainApplied cid passed =>
    simp only [loopStep, chainApplied, Option.bind_eq_some] at h
    obtain ⟨ch, hg, h⟩ := h
    split at h <;> try cases h
    rename_i d action hph
    have hl : (s.orch.healRecord mem ch.agentId d action passed ch.trigger s.clock).healingActionLog =
        appendCapped actionLogMax s.orch.healingActionLog
          ⟨.healingAttempt d.diagnosisType action passed ch.trigger, ch.agentId, s.clock⟩ := by
      cases passed <;> rfl
    split at h <;> cases h <;> simpa [Event.logEntry?, hg, hph, logAfter] using hl
  | agentLoop x | sentinelWakes | chaosStops | cure x | drainStarts | drainGathered | drainPolls
    | drainTimesOut =>
    simp only [loopStep] at h
    repeat' split at h
    all_goals first | cases h; rfl | cases h
  | _ => cases h

/-- Every step of the system, whatever the interleaving, appends the entry its event
logs, and nothing else. -/
theorem step_log {e : Event Cat} (h : step H mem s e = some t) :
    t.orch.healingActionLog = logAfter s.orch.healingActionLog (e.logEntry? s) := by
  cases e
  case tick | call program =>
    cases h
    rfl
  case callerStep i =>
    simp only [Control.step] at h
    split at h
    · cases h
    rename_i c hc
    obtain ⟨⟨s₁, c'⟩, h₁, rfl⟩ := Option.map_eq_some'.1 h
    simpa [Event.logEntry?, hc] using callerStep_log (t := s₁) h₁
  case drainStep =>
    simp only [Control.step] at h
    split at h
    · rename_i c hd
      split at h
      · rename_i s₁ c' h₁
        cases h
        simpa [Event.logEntry?, hd] using callerStep_log (t := s₁) h₁
      · rename_i h₁
        cases h
        simp only [Event.logEntry?, hd, Caller.logEntry?_of_callerStep_eq_none h₁, logAfter]
        split <;> rfl
    · cases h
  case shutdown =>
    simp only [Control.step] at h
    split at h <;> cases h <;> rfl
  all_goals
    simp only [Control.step] at h
    split at h
    · exact loopStep_log H mem h
    · cases h

/-- The entries a run logs, in order: each event's entry, read off the state it steps from. -/
def loggedBy (s : System Cat Act M) : List (Event Cat) → List (ActionLogEntry Cat Act)
  | [] => []
  | e :: es =>
    match step H mem s e with
    | some t => (e.logEntry? s).toList ++ loggedBy t es
    | none => []

/-- A run appends its entries one at a time, each through the cap. -/
theorem run_log : ∀ {s t : System Cat Act M} {es : List (Event Cat)}, run H mem s es = some t →
    t.orch.healingActionLog = (loggedBy H mem s es).foldl (appendCapped actionLogMax) s.orch.healingActionLog
  | s, t, [], h => by
    cases h
    rfl
  | s, t, e :: es, h => by
    obtain ⟨u, hu, hrun⟩ := Option.bind_eq_some.1 h
    rw [run_log hrun, loggedBy, hu, List.foldl_append, ← logAfter_eq_foldl, ← step_log H mem hu]

variable {agents : List BaseAgent} {immuneMemory : M}

/-- In every reachable state the log holds at most `_action_log_max` entries. -/
theorem Reachable.log_length_le (hs : Reachable H mem agents immuneMemory s) :
    s.orch.healingActionLog.length ≤ actionLogMax := by
  induction hs with
  | init => exact Nat.zero_le _
  | step e _ h ih => exact step_log H mem h ▸ logAfter_length_le _ ih

end Control

end ImmuneSystem
