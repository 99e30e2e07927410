-- SUMMARY: The collaborators the control loop calls: infection reports, diagnoses, the healer, the immune memory and the quarantine controller, with their contracts.
import Mathlib.Data.Finset.Card
import Mathlib.Algebra.Order.Ring.Unbundled.Rat

/-!
# Collaborators

`detection.py`, `diagnosis.py`, `healing.py`, `memory.py` and `quarantine.py` are
not among the sources. The control loop reaches each through a narrow interface,
and the spec's section 6 states the contract of each. Here the healer and the
immune memory are parameters, a record of the calls the orchestrator makes, and
the contracts are predicates on those records, assumed where a result needs
them. The quarantine controller is simple enough to be modelled outright, from
the spec's words; so are one lawful healer and one lawful memory, which show that
the contracts can be met.
-/

namespace ImmuneSystem

/-- An `InfectionReport` as the core reads it: whose it is and how severe, on the
scale `0..10`. The anomaly kinds are only displayed. -/
structure InfectionReport where
  agentId : String
  severity : ℚ
  deriving DecidableEq, Repr

/-- A `Diagnosis`, over the fault categories `Cat`. -/
structure Diagnosis (Cat : Type) where
  diagnosisType : Cat
  confidence : ℚ
  reasoning : String
  deriving DecidableEq, Repr

variable {Cat Act M : Type}

-- ---------------------------------------------------------------------------
-- Healer
-- ---------------------------------------------------------------------------

/-- The synchronous calls of `Healer`. `apply_healing` is asynchronous and is an
input of the heal chain (its validation result), not a field here. -/
structure Healer (Cat Act : Type) where
  getHealingPolicy : Cat → List Act
  getNextAction : Cat → List Act → Option Act

namespace Healer

/-- Section 6: `nextAction` returns an action of the policy that is not in the failed
set, and `none` only when every action of the policy has failed. -/
def Lawful (h : Healer Cat Act) : Prop :=
  ∀ c failed, match h.getNextAction c failed with
    | some a => a ∈ h.getHealingPolicy c ∧ a ∉ failed
    | none => ∀ a ∈ h.getHealingPolicy c, a ∈ failed

variable [DecidableEq Act]

/-- Modelled from the spec: `Healer.get_next_action` (section 4.4, step 4) selects
the first policy action not in the known-failed set. -/
def firstUntried (policy : Cat → List Act) : Healer Cat Act :=
  ⟨policy, fun c failed => (policy c).find? (· ∉ failed)⟩

theorem firstUntried_lawful (policy : Cat → List Act) : (firstUntried policy).Lawful := by
  intro c failed
  simp only [firstUntried]
  split <;> rename_i h
  · exact ⟨List.mem_of_find?_eq_some h, by simpa using List.find?_some h⟩
  · simpa using List.find?_eq_none.1 h

end Healer

-- ---------------------------------------------------------------------------
-- Immune memory
-- ---------------------------------------------------------------------------

/-- The calls the orchestrator makes on `ImmuneMemory`, whose state is `M`. -/
structure ImmuneMemory (M Cat Act : Type) where
  recordHealing : M → String → Cat → Act → Bool → M
  getFailedActions : M → String → Cat → List Act

namespace ImmuneMemory

/-- Section 6: the memory is append-only, so no failed set ever shrinks, and a
recorded failure is in the failed set of its agent and category. -/
structure Lawful (mem : ImmuneMemory M Cat Act) : Prop where
  append_only : ∀ m x c a ok y c', ∀ b ∈ mem.getFailedActions m y c',
    b ∈ mem.getFailedActions (mem.recordHealing m x c a ok) y c'
  remembers : ∀ m x c a, a ∈ mem.getFailedActions (mem.recordHealing m x c a false) x c

/-- A record adds its action to the failed set of its own agent and category when
it failed, and changes no failed set otherwise. -/
def Exact (mem : ImmuneMemory M Cat Act) : Prop :=
  ∀ m x c a ok y c' b, b ∈ mem.getFailedActions (mem.recordHealing m x c a ok) y c' ↔
    b ∈ mem.getFailedActions m y c' ∨ (y = x ∧ c' = c ∧ ok = false ∧ b = a)

theorem Exact.lawful {mem : ImmuneMemory M Cat Act} (h : mem.Exact) : mem.Lawful :=
  ⟨fun _ _ _ _ _ _ _ _ hb => (h ..).2 (.inl hb), fun _ _ _ _ => (h ..).2 (.inr ⟨rfl, rfl, rfl, rfl⟩)⟩

variable [DecidableEq Cat]

/-- Modelled from the spec: `ImmuneMemory` (section 6) as its append-only list of
outcomes `(agent_id, diagnosis_type, healing_action, success)`. -/
def outcomeLog : ImmuneMemory (List (String × Cat × Act × Bool)) Cat Act where
  recordHealing m x c a ok := m ++ [(x, c, a, ok)]
  getFailedActions m x c := m.filterMap fun r => if r.1 = x ∧ r.2.1 = c ∧ r.2.2.2 = false then some r.2.2.1 else none

theorem outcomeLog_exact : (outcomeLog : ImmuneMemory _ Cat Act).Exact := by
  intro m x c a ok y c' b
  simp only [outcomeLog, List.filterMap_append, List.mem_append, List.filterMap_cons,
    List.filterMap_nil]
  by_cases hr : x = y ∧ c = c' ∧ ok = false
  · obtain ⟨rfl, rfl, rfl⟩ := hr
    simp
  · simp only [hr, if_false, List.not_mem_nil, or_false]
    exact ⟨Or.inl, fun h => h.elim id fun ⟨hy, hc, hok, _⟩ => absurd ⟨hy.symm, hc.symm, hok⟩ hr⟩

end ImmuneMemory

-- ---------------------------------------------------------------------------
-- Quarantine controller
-- ---------------------------------------------------------------------------

/-- Modelled from the spec: `QuarantineController` (`quarantine.py` is not in the
sources) is, by section 6, a membership set with a monotonic quarantine counter. -/
structure QuarantineController where
  quarantined : Finset String := ∅
  totalQuarantines : Nat := 0
  deriving DecidableEq

namespace QuarantineController

/-- Modelled from the spec: `quarantine(id)`. -/
def quarantine (q : QuarantineController) (agentId : String) : QuarantineController :=
  ⟨insert agentId q.quarantined, q.totalQuarantines + 1⟩

/-- Modelled from the spec: `release(id)`. -/
def release (q : QuarantineController) (agentId : String) : QuarantineController :=
  { q with quarantined := q.quarantined.erase agentId }

/-- Modelled from the spec: `is_quarantined(id)`. -/
def isQuarantined (q : QuarantineController) (agentId : String) : Bool :=
  decide (agentId ∈ q.quarantined)

/-- Modelled from the spec: `get_quarantined_count()`. -/
def getQuarantinedCount (q : QuarantineController) : Nat := q.quarantined.card

@[simp] theorem quarantine_quarantined (q : QuarantineController) (x : String) :
    (q.quarantine x).quarantined = insert x q.quarantined := rfl

@[simp] theorem release_quarantined (q : QuarantineController) (x : String) :
    (q.release x).quarantined = q.quarantined.erase x := rfl

@[simp] theorem isQuarantined_iff (q : QuarantineController) (x : String) :
    q.isQuarantined x = true ↔ x ∈ q.quarantined := by
  simp [isQuarantined]

end QuarantineController

end ImmuneSystem
