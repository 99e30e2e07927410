-- SUMMARY: The approval workflow: `approve_healing`, `start_healing_explicitly`, and the bulk calls as loops over a snapshot of keys.
import ImmuneSystem.Orchestrator.State

/-!
# Approval workflow

The four calls the dashboard thread makes. Each single call pops an entry under
`_pending_lock` and hands its infection back to the caller, who schedules the
heal chain; a rejection re-acquires the lock to file the entry under
`_rejected_approvals`. Between those two critical sections the entry is in
neither map, and the concurrent model in `Control` lets other steps run there, so
`approve_healing` is written as its two critical sections and their composition.

The bulk calls take a snapshot of the keys and make the single call for each, in
insertion order. Their closed forms below hold for maps of every size and every
content of the other map.
-/

namespace ImmuneSystem

namespace Orchestrator

variable {Cat Act M : Type}

/-- Where `approve_healing` stands after its first critical section. -/
inductive ApprovalStep (Cat : Type)
  | missing
  | approved (infection : InfectionReport)
  | rejecting (entry : PendingApproval Cat)
  deriving DecidableEq, Repr

/-- The first critical section of `approve_healing(agent_id, approved)`, pop under the
lock, with the decision's log entry that follows it. -/
def approveHealingBegin (o : Orchestrator Cat Act M) (agentId : String) (approved : Bool)
    (now : Nat) : ApprovalStep Cat × Orchestrator Cat Act M :=
  let o' := { o with pendingApprovals := o.pendingApprovals.erase agentId }
  match o.pendingApprovals.get? agentId with
  | none => (.missing, o')
  | some entry =>
    if approved then (.approved entry.infection, o'.logAction .userApproved agentId now)
    else (.rejecting entry, o'.logAction .userRejected agentId now)

/-- The second critical section of a rejection: the entry is filed as rejected. -/
def approveHealingReject (o : Orchestrator Cat Act M) (agentId : String)
    (entry : PendingApproval Cat) (now : Nat) : Orchestrator Cat Act M :=
  { o with rejectedApprovals :=
      o.rejectedApprovals.insert agentId ⟨entry.infection, entry.diagnosis, now⟩ }

/-- `approve_healing(agent_id, approved)`. -/
def approveHealing (o : Orchestrator Cat Act M) (agentId : String) (approved : Bool) (now : Nat) :
    (Option InfectionReport × Bool) × Orchestrator Cat Act M :=
  match o.approveHealingBegin agentId approved now with
  | (.missing, o) => ((none, false), o)
  | (.approved infection, o) => ((some infection, true), o)
  | (.rejecting entry, o) => ((none, false), o.approveHealingReject agentId entry now)

/-- The loop of `approve_all_pending` over its snapshot of keys. -/
def approveEach (approved : Bool) (now : Nat) :
    List String → Orchestrator Cat Act M → List (String × InfectionReport) × Orchestrator Cat Act M
  | [], o => ([], o)
  | agentId :: rest, o =>
    let ((infection, didApprove), o) := o.approveHealing agentId approved now
    let (approvedList, o) := approveEach approved now rest o
    ((match infection, didApprove with
      | some infection, true => (agentId, infection) :: approvedList
      | _, _ => approvedList), o)

/-- `approve_all_pending(approved)`. -/
def approveAllPending (o : Orchestrator Cat Act M) (approved : Bool) (now : Nat) :
    List (String × InfectionReport) × Orchestrator Cat Act M :=
  approveEach approved now o.pendingApprovals.keys o

/-- `start_healing_explicitly(agent_id)`. -/
def startHealingExplicitly (o : Orchestrator Cat Act M) (agentId : String) (now : Nat) :
    Option InfectionReport × Orchestrator Cat Act M :=
  let o' := { o with rejectedApprovals := o.rejectedApprovals.erase agentId }
  match o.rejectedApprovals.get? agentId with
  | none => (none, o')
  | some entry => (some entry.infection, o'.logAction .explicitHealRequested agentId now)

/-- The loop of `start_healing_all_rejected` over its snapshot of keys. -/
def startHealingEach (now : Nat) :
    List String → Orchestrator Cat Act M → List (String × InfectionReport) × Orchestrator Cat Act M
  | [], o => ([], o)
  | agentId :: rest, o =>
    let (infection, o) := o.startHealingExplicitly agentId now
    let (result, o) := startHealingEach now rest o
    ((match infection with
      | some infection => (agentId, infection) :: result
      | none => result), o)

/-- `start_healing_all_rejected()`. -/
def startHealingAllRejected (o : Orchestrator Cat Act M) (now : Nat) :
    List (String × InfectionReport) × Orchestrator Cat Act M :=
  startHealingEach now o.rejectedApprovals.keys o

-- ---------------------------------------------------------------------------
-- Calls on an agent with no entry
-- ---------------------------------------------------------------------------

/-- Approving or rejecting an agent with no pending entry returns `(None, False)` and
changes nothing. -/
theorem approveHealing_of_not_mem {o : Orchestrator Cat Act M} {agentId : String}
    (h : agentId ∉ o.pendingApprovals.keys) (approved : Bool) (now : Nat) :
    o.approveHealing agentId approved now = ((none, false), o) := by
  simp [approveHealing, approveHealingBegin, PyDict.get?_eq_none_iff.2 h, PyDict.erase_of_not_mem h]

/-- "Heal now" on an agent with no rejected entry returns `None` and changes nothing. -/
theorem startHealingExplicitly_of_not_mem {o : Orchestrator Cat Act M} {agentId : String}
    (h : agentId ∉ o.rejectedApprovals.keys) (now : Nat) :
    o.startHealingExplicitly agentId now = (none, o) := by
  simp [startHealingExplicitly, PyDict.get?_eq_none_iff.2 h, PyDict.erase_of_not_mem h]

-- ---------------------------------------------------------------------------
-- The snapshot loops
-- ---------------------------------------------------------------------------

/-- The log calls of a loop that logs `type` once per key. -/
def logEach (type : ActionType Cat Act) (now : Nat) {V : Type} (es : List (String × V)) :
    List (ActionType Cat Act × String × Nat) :=
  es.map fun e => (type, e.1, now)

/-- Approving everything still pending: each step pops the head entry, so the keys
left to visit are always the map's own keys. -/
theorem approveEach_true (now : Nat) :
    ∀ (es : List (String × PendingApproval Cat)) (o : Orchestrator Cat Act M),
      o.pendingApprovals.entries = es →
      approveEach true now (es.map Prod.fst) o =
        (es.map fun e => (e.1, e.2.infection),
          { o.logCalls (logEach .userApproved now es) with pendingApprovals := .empty })
  | [], o, h => by
    cases o
    cases PyDict.eq_empty_of_entries h
    rfl
  | e :: es, o, h => by
    obtain ⟨hget, herase⟩ := PyDict.erase_head h
    simp only [List.map_cons, approveEach, approveHealing, approveHealingBegin, hget, if_true]
    rw [approveEach_true now es _ herase]
    simp [logEach, logCalls_eq, logAction]

theorem approveEach_false (now : Nat) :
    ∀ (es : List (String × PendingApproval Cat)) (o : Orchestrator Cat Act M),
      o.pendingApprovals.entries = es →
      approveEach false now (es.map Prod.fst) o =
        ([], { o.logCalls (logEach .userRejected now es) with
          pendingApprovals := .empty
          rejectedApprovals := es.foldl (fun r e => r.insert e.1 ⟨e.2.infection, e.2.diagnosis, now⟩)
            o.rejectedApprovals })
  | [], o, h => by
    cases o
    cases PyDict.eq_empty_of_entries h
    rfl
  | e :: es, o, h => by
    obtain ⟨hget, herase⟩ := PyDict.erase_head h
    simp only [List.map_cons, approveEach, approveHealing, approveHealingBegin, hget,
      Bool.false_eq_true, if_false]
    rw [approveEach_false now es _ herase]
    simp [logEach, logCalls_eq, approveHealingReject, logAction]

theorem startHealingEach_all (now : Nat) :
    ∀ (es : List (String × RejectedApproval Cat)) (o : Orchestrator Cat Act M),
      o.rejectedApprovals.entries = es →
      startHealingEach now (es.map Prod.fst) o =
        (es.map fun e => (e.1, e.2.infection),
          { o.logCalls (logEach .explicitHealRequested now es) with rejectedApprovals := .empty })
  | [], o, h => by
    cases o
    cases PyDict.eq_empty_of_entries h
    rfl
  | e :: es, o, h => by
    obtain ⟨hget, herase⟩ := PyDict.erase_head h
    simp only [List.map_cons, startHealingEach, startHealingExplicitly, hget]
    rw [startHealingEach_all now es _ herase]
    simp [logEach, logCalls_eq, logAction]

/-- The three bulk calls, on pending and rejected maps of any size: approving returns
every pending `(id, infection)` in insertion order and empties the pending map;
rejecting files every pending entry as rejected; "heal now" for all returns every
rejected `(id, infection)` and empties the rejected map. Each touches the other map
not at all, changes no other field, and logs one entry per key. -/
theorem bulk_approval_closed_form (o : Orchestrator Cat Act M) (now : Nat) :
    o.approveAllPending true now =
      (o.pendingApprovals.entries.map fun e => (e.1, e.2.infection),
        { o.logCalls (logEach .userApproved now o.pendingApprovals.entries) with
          pendingApprovals := .empty }) ∧
    o.approveAllPending false now =
      ([], { o.logCalls (logEach .userRejected now o.pendingApprovals.entries) with
        pendingApprovals := .empty
        rejectedApprovals := o.pendingApprovals.entries.foldl
          (fun r e => r.insert e.1 ⟨e.2.infection, e.2.diagnosis, now⟩) o.rejectedApprovals }) ∧
    o.startHealingAllRejected now =
      (o.rejectedApprovals.entries.map fun e => (e.1, e.2.infection),
        { o.logCalls (logEach .explicitHealRequested now o.rejectedApprovals.entries) with
          rejectedApprovals := .empty }) :=
  ⟨approveEach_true now _ o rfl, approveEach_false now _ o rfl, startHealingEach_all now _ o rfl⟩

end Orchestrator

end ImmuneSystem
