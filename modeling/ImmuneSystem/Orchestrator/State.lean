-- SUMMARY: The state of `ImmuneSystemOrchestrator`, its construction, and the bounded action log.
import ImmuneSystem.Stdlib.PyDict
import ImmuneSystem.Agents.Pool
import ImmuneSystem.Orchestrator.Collaborators
import Mathlib.Data.List.GetD
import Mathlib.Algebra.Order.Field.Rat

/-!
# Orchestrator state

The fields of `ImmuneSystemOrchestrator` that its methods read and write. The
collaborator objects that hold no state the core reads (telemetry, baseline
learner, sentinel, diagnostician, healer, chaos injector) are not fields: their
answers are inputs of the operations that call them. The immune memory keeps its
state, of type `M`, in the orchestrator. Timestamps are readings of the clock,
passed in as `now`.

The action log is the one piece of this module with behaviour of its own:
`_log_action` appends and then trims to the newest `_action_log_max` entries.
-/

namespace ImmuneSystem

variable {Cat Act M : Type}

/-- A `_pending_approvals` entry. -/
structure PendingApproval (Cat : Type) where
  infection : InfectionReport
  diagnosis : Diagnosis Cat
  requestedAt : Nat
  deriving DecidableEq, Repr

/-- A `_rejected_approvals` entry. -/
structure RejectedApproval (Cat : Type) where
  infection : InfectionReport
  diagnosis : Diagnosis Cat
  rejectedAt : Nat
  deriving DecidableEq, Repr

/-- The `action_type`s of `_log_action`, each with the keyword arguments of its call. -/
inductive ActionType (Cat Act : Type)
  /-- With `round(severity, 1)` as a whole number of tenths. -/
  | approvalRequested (severityTenths : ℤ)
  | userApproved
  | userRejected
  | explicitHealRequested
  | healingAttempt (diagnosisType : Cat) (action : Act) (success : Bool) (trigger : String)
  deriving DecidableEq, Repr

/-- An entry of `_healing_action_log`. -/
structure ActionLogEntry (Cat Act : Type) where
  type : ActionType Cat Act
  agentId : String
  timestamp : Nat
  deriving DecidableEq, Repr

/-- `round(x, 1)` on the exact value of `x`, as a whole number of tenths: to the nearest
tenth, a tie to the even one. -/
def roundTenths (x : ℚ) : ℤ :=
  let q := x.num * 10 / x.den
  let r := x.num * 10 % x.den
  if 2 * r < x.den ∨ (2 * r = x.den ∧ q % 2 = 0) then q else q + 1

example : roundTenths { num := 27, den := 4 } = 68 ∧ roundTenths { num := 1, den := 4 } = 2 ∧
    roundTenths { num := 83, den := 10 } = 83 ∧ roundTenths 8 = 80 := by
  decide

/-- `SEVERITY_REQUIRING_APPROVAL`. -/
def severityRequiringApproval : ℚ := 7

/-- `_action_log_max`. -/
def actionLogMax : Nat := 80

/-- The state of `ImmuneSystemOrchestrator`. -/
structure Orchestrator (Cat Act M : Type) where
  agents : PyDict String BaseAgent
  quarantine : QuarantineController
  immuneMemory : M
  totalInfections : Nat
  totalHealed : Nat
  totalFailedHealings : Nat
  running : Bool
  baselinesLearned : Bool
  pendingApprovals : PyDict String (PendingApproval Cat)
  rejectedApprovals : PyDict String (RejectedApproval Cat)
  healingInProgress : Finset String
  healingActionLog : List (ActionLogEntry Cat Act)

namespace Orchestrator

/-- `ImmuneSystemOrchestrator.__init__`, from the agents and a fresh immune memory. -/
def init (agents : List BaseAgent) (immuneMemory : M) : Orchestrator Cat Act M where
  agents := PyDict.ofList BaseAgent.agentId agents
  quarantine := {}
  immuneMemory := immuneMemory
  totalInfections := 0
  totalHealed := 0
  totalFailedHealings := 0
  running := true
  baselinesLearned := false
  pendingApprovals := .empty
  rejectedApprovals := .empty
  healingInProgress := ∅
  healingActionLog := []

/-- The healing success rate of `print_summary`. -/
def resolutionRate (o : Orchestrator Cat Act M) : ℚ :=
  if o.totalInfections ≠ 0 then (o.totalHealed : ℚ) / o.totalInfections else 0

/-- The rate is at most one whenever no more agents are healed than infected. -/
theorem resolutionRate_le_one {o : Orchestrator Cat Act M} (h : o.totalHealed ≤ o.totalInfections) :
    o.resolutionRate ≤ 1 := by
  unfold resolutionRate
  split_ifs with h0
  · exact div_le_one_of_le₀ (by exact_mod_cast h) (Nat.cast_nonneg _)
  · exact zero_le_one

-- ---------------------------------------------------------------------------
-- The agents of a pool
-- ---------------------------------------------------------------------------

theorem poolIds (count : Nat) :
    ((List.range count).map poolAgent).map BaseAgent.agentId =
      (List.range count).map fun i => agentNames.getD (i % 15) "" := by
  simp [poolAgent, AgentClass.create]

/-- Within one cycle of the name list the pool's names are distinct. -/
theorem poolName_injOn {i j : Nat} (hi : i < 15) (hj : j < 15)
    (h : agentNames.getD (i % 15) "" = agentNames.getD (j % 15) "") : i = j := by
  rw [Nat.mod_eq_of_lt hi, Nat.mod_eq_of_lt hj,
    List.getD_eq_getElem _ _ (show i < agentNames.length from hi),
    List.getD_eq_getElem _ _ (show j < agentNames.length from hj)] at h
  simpa using (agentNames_nodup.getElem_inj_iff).1 h

/-- From the sixteenth agent on, names repeat: agent `i` and agent `i + 15` share one. -/
theorem poolIds_nodup_iff (count : Nat) :
    ((List.range count).map fun i => agentNames.getD (i % 15) "").Nodup ↔ count ≤ 15 := by
  constructor
  · intro h
    by_contra hc
    have := List.inj_on_of_nodup_map h (x := 0) (y := 15) (by simp; omega) (by simp; omega) rfl
    omega
  · intro hc
    refine (List.nodup_range count).map_on fun i hi j hj hij => ?_
    exact poolName_injOn (by simp at hi; omega) (by simp at hj; omega) hij

theorem poolIds_card (count : Nat) :
    ((List.range count).map fun i => agentNames.getD (i % 15) "").toFinset.card = min count 15 := by
  by_cases hc : count ≤ 15
  · rw [List.toFinset_card_of_nodup ((poolIds_nodup_iff count).2 hc)]
    simp [hc]
  · have : ((List.range count).map fun i => agentNames.getD (i % 15) "").toFinset =
        agentNames.toFinset := by
      ext a
      simp only [List.mem_toFinset, List.mem_map, List.mem_range]
      constructor
      · rintro ⟨i, -, rfl⟩
        exact List.getD_eq_getElem _ _ (show i % 15 < agentNames.length from Nat.mod_lt i (by decide)) ▸
          List.getElem_mem _
      · intro ha
        obtain ⟨i, hi, rfl⟩ := List.getElem_of_mem ha
        exact ⟨i, by simp at hi; omega, by
          rw [Nat.mod_eq_of_lt (by simpa using hi), List.getD_eq_getElem _ _ hi]⟩
    rw [this, List.toFinset_card_of_nodup agentNames_nodup]
    simp only [agentNames_length]
    omega

/-- `create_agent_pool(count)` returns `count` agents; from the sixteenth on, agent
`i + 15` takes the name of agent `i`, so the ids are distinct exactly when `count ≤ 15`,
and the orchestrator's id-keyed map keeps `min count 15` agents. -/
theorem createAgentPool_ids (count : Nat) (immuneMemory : M) :
    ∃ agents, createAgentPool count = some agents ∧ agents.length = count ∧
      (∀ i, i + 15 < count → agents[i + 15]?.map BaseAgent.agentId = agents[i]?.map BaseAgent.agentId) ∧
      ((agents.map BaseAgent.agentId).Nodup ↔ count ≤ 15) ∧
      (init agents immuneMemory : Orchestrator Cat Act M).agents.size = min count 15 := by
  refine ⟨_, createAgentPool_eq count, by simp, fun i hi => ?_, by rw [poolIds]; exact poolIds_nodup_iff count,
    by simp only [init, PyDict.size_ofList, poolIds, poolIds_card]⟩
  simp [List.getElem?_range hi, List.getElem?_range (show i < count by omega), poolAgent, AgentClass.create]

/-- A pool of sixteen: the sixteenth agent is named VPN again, and the orchestrator's
map keeps fifteen agents. -/
theorem createAgentPool_sixteen_collides :
    ∃ agents, createAgentPool 16 = some agents ∧ ¬(agents.map BaseAgent.agentId).Nodup ∧
      (init agents ([] : List (String × Unit × Unit × Bool)) : Orchestrator Unit Unit _).agents.size = 15 :=
  ⟨_, createAgentPool_eq 16, by rw [poolIds, poolIds_nodup_iff]; decide, by
    simp only [init, PyDict.size_ofList, poolIds, poolIds_card]; rfl⟩

-- ---------------------------------------------------------------------------
-- Action log
-- ---------------------------------------------------------------------------

/-- The last `k` elements of a list, Python's `xs[-k:]`. -/
def lastN {α : Type} (k : Nat) (xs : List α) : List α := xs.drop (xs.length - k)

/-- The list half of `_log_action`: append, then drop the oldest past `cap`. -/
def appendCapped {α : Type} (cap : Nat) (log : List α) (entry : α) : List α :=
  let log := log ++ [entry]
  if log.length > cap then lastN cap log else log

/-- `_log_action(action_type, agent_id, **kwargs)`; the keyword arguments travel in
the action type. -/
def logAction (o : Orchestrator Cat Act M) (type : ActionType Cat Act) (agentId : String)
    (now : Nat) : Orchestrator Cat Act M :=
  { o with healingActionLog := appendCapped actionLogMax o.healingActionLog ⟨type, agentId, now⟩ }

/-- `get_healing_actions()`: the newest 50 entries. -/
def getHealingActions (o : Orchestrator Cat Act M) : List (ActionLogEntry Cat Act) :=
  lastN 50 o.healingActionLog

theorem lastN_of_length_le {α : Type} {k : Nat} {xs : List α} (h : xs.length ≤ k) :
    lastN k xs = xs := by
  simp [lastN, Nat.sub_eq_zero_of_le h]

@[simp] theorem length_lastN {α : Type} (k : Nat) (xs : List α) :
    (lastN k xs).length = min xs.length k := by
  simp only [lastN, List.length_drop]
  omega

/-- Trimming before appending more changes nothing once the result is trimmed again. -/
theorem lastN_append_lastN {α : Type} (k : Nat) (xs ys : List α) :
    lastN k (lastN k xs ++ ys) = lastN k (xs ++ ys) := by
  simp only [lastN, List.length_append, List.length_drop, List.drop_drop,
    ← List.drop_append_of_le_length (Nat.sub_le xs.length k)]
  congr 1
  omega

theorem lastN_lastN {α : Type} (j k : Nat) (h : j ≤ k) (xs : List α) :
    lastN j (lastN k xs) = lastN j xs := by
  simp only [lastN, List.length_drop, List.drop_drop]
  congr 1
  omega

theorem appendCapped_eq {α : Type} (cap : Nat) (log : List α) (entry : α) :
    appendCapped cap log entry = lastN cap (log ++ [entry]) := by
  unfold appendCapped
  dsimp only
  split
  · rfl
  · exact (lastN_of_length_le (by omega)).symm

/-- Over any run of appends, a log within its cap holds the newest `cap` entries of
everything appended, in order. -/
theorem foldl_appendCapped {α : Type} (cap : Nat) (log es : List α) (h : log.length ≤ cap) :
    es.foldl (appendCapped cap) log = lastN cap (log ++ es) := by
  induction es generalizing log with
  | nil => simp [lastN_of_length_le h]
  | cons e es ih =>
    rw [List.foldl_cons, appendCapped_eq, ih _ (by simp), lastN_append_lastN]
    simp

/-- The orchestrator's log after `_log_action` calls `(type, agent_id, now)` in lock order. -/
def logCalls (o : Orchestrator Cat Act M) (calls : List (ActionType Cat Act × String × Nat)) :
    Orchestrator Cat Act M :=
  calls.foldl (fun o c => o.logAction c.1 c.2.1 c.2.2) o

/-- Logging touches the log and nothing else. -/
theorem logCalls_eq (o : Orchestrator Cat Act M) (calls : List (ActionType Cat Act × String × Nat)) :
    o.logCalls calls = { o with healingActionLog := (calls.foldl
      (fun log c => appendCapped actionLogMax log ⟨c.1, c.2.1, c.2.2⟩) o.healingActionLog) } := by
  induction calls generalizing o with
  | nil => rfl
  | cons c calls ih => exact ih _

theorem logCalls_log (o : Orchestrator Cat Act M) (calls : List (ActionType Cat Act × String × Nat)) :
    (o.logCalls calls).healingActionLog =
      calls.foldl (fun log c => appendCapped actionLogMax log ⟨c.1, c.2.1, c.2.2⟩) o.healingActionLog := by
  rw [logCalls_eq]

/-- After any `n` calls of `_log_action` from construction, the log is the last
`min n 80` entries in call order, and `get_healing_actions()` the last `min n 50`. -/
theorem logAction_keeps_newest (agents : List BaseAgent) (immuneMemory : M)
    (calls : List (ActionType Cat Act × String × Nat)) :
    let o := (init agents immuneMemory : Orchestrator Cat Act M).logCalls calls
    let entries := calls.map fun c => (⟨c.1, c.2.1, c.2.2⟩ : ActionLogEntry Cat Act)
    o.healingActionLog = lastN 80 entries ∧ o.healingActionLog.length = min calls.length 80 ∧
      o.getHealingActions = lastN 50 entries := by
  have hlog : ((init agents immuneMemory : Orchestrator Cat Act M).logCalls calls).healingActionLog =
      lastN 80 (calls.map fun c => (⟨c.1, c.2.1, c.2.2⟩ : ActionLogEntry Cat Act)) := by
    rw [logCalls_log, ← List.foldl_map (g := appendCapped actionLogMax)]
    exact (foldl_appendCapped _ [] _ (Nat.zero_le _)).trans (by rfl)
  refine ⟨hlog, by simp [hlog], ?_⟩
  simp only [getHealingActions, hlog, lastN_lastN 50 80 (by decide)]

end Orchestrator

end ImmuneSystem
