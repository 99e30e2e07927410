-- SUMMARY: `heal_agent` cut at its suspension points, its sequential run, and the first-fit episode law.
import ImmuneSystem.Orchestrator.State

/-!
# Healing escalation

`heal_agent(agent_id, infection, trigger)` suspends at three sleeps and at
`apply_healing`. The code between two suspension points is one segment, written
here as a function on the orchestrator; the concurrent model in `Control` runs the
segments as steps of a chain, and `healAgent` below runs them back to back, as the
coroutine does when nothing else is scheduled in between. The answers of the
collaborators are inputs: the `k`-th diagnosis and the `k`-th validation result
of the escalation are `diagnose k` and `passes k`.

On a failed validation the coroutine awaits itself with the same infection; the
inner `finally` discards the agent from `healing_in_progress`, and the outer one
discards it again, which changes nothing.
-/

namespace ImmuneSystem

namespace Orchestrator

variable {Cat Act M : Type} (H : Healer Cat Act) (mem : ImmuneMemory M Cat Act)

/-- The release of both quarantine views, as the two terminal branches do it. -/
def releaseAgent (o : Orchestrator Cat Act M) (agentId : String) : Orchestrator Cat Act M :=
  { o with
    quarantine := o.quarantine.release agentId
    agents := o.agents.modify agentId BaseAgent.release }

/-- Up to the first sleep: the agent is marked as healing (the diagnosis is an input). -/
def healEnter (o : Orchestrator Cat Act M) (agentId : String) : Orchestrator Cat Act M :=
  { o with healingInProgress := insert agentId o.healingInProgress }

/-- Between the first and the second sleep: the actions immune memory knows to have
failed for this agent and category (the policy is only logged). -/
def healFailedActions (o : Orchestrator Cat Act M) (agentId : String) (d : Diagnosis Cat) :
    List Act :=
  mem.getFailedActions o.immuneMemory agentId d.diagnosisType

/-- After the second sleep, when `get_next_action` returns `None`: release without a
cure, and leave through `finally`. -/
def healExhausted (o : Orchestrator Cat Act M) (agentId : String) : Orchestrator Cat Act M :=
  { o.releaseAgent agentId with healingInProgress := o.healingInProgress.erase agentId }

/-- After `apply_healing` returns: record and log the attempt, then either release and
count the success, leaving through `finally`, or count the failure. -/
def healRecord (o : Orchestrator Cat Act M) (agentId : String) (d : Diagnosis Cat) (action : Act)
    (passed : Bool) (trigger : String) (now : Nat) : Orchestrator Cat Act M :=
  let o := { o with immuneMemory := mem.recordHealing o.immuneMemory agentId d.diagnosisType action passed }
  let o := o.logAction (.healingAttempt d.diagnosisType action passed trigger) agentId now
  if passed then
    { o.releaseAgent agentId with
      totalHealed := o.totalHealed + 1
      healingInProgress := o.healingInProgress.erase agentId }
  else { o with totalFailedHealings := o.totalFailedHealings + 1 }

/-- `heal_agent`, run to its end with no other step in between, on at most `fuel`
nested calls. `none` means the fuel ran out. -/
def healAgent (agentId trigger : String) (now : Nat) :
    Nat → (Nat → Diagnosis Cat) → (Nat → Bool) → Orchestrator Cat Act M →
      Option (Orchestrator Cat Act M)
  | 0, _, _, _ => none
  | fuel + 1, diagnose, passes, o =>
    let o := o.healEnter agentId
    let d := diagnose 0
    match H.getNextAction d.diagnosisType (o.healFailedActions mem agentId d) with
    | none => some (o.healExhausted agentId)
    | some action =>
      let o := o.healRecord mem agentId d action (passes 0) trigger now
      if passes 0 then some o
      else healAgent agentId trigger now fuel (fun k => diagnose (k + 1)) (fun k => passes (k + 1)) o

@[simp] theorem healEnter_immuneMemory (o : Orchestrator Cat Act M) (x : String) :
    (o.healEnter x).immuneMemory = o.immuneMemory := rfl

@[simp] theorem logAction_immuneMemory (o : Orchestrator Cat Act M) t x n :
    (o.logAction t x n).immuneMemory = o.immuneMemory := rfl

/-- More nesting room changes nothing once `heal_agent` has returned. -/
theorem healAgent_fuel_mono {agentId trigger : String} {now fuel fuel' : Nat} (hle : fuel ≤ fuel')
    {diagnose : Nat → Diagnosis Cat} {passes : Nat → Bool} {o o' : Orchestrator Cat Act M}
    (h : healAgent H mem agentId trigger now fuel diagnose passes o = some o') :
    healAgent H mem agentId trigger now fuel' diagnose passes o = some o' := by
  induction fuel generalizing fuel' diagnose passes o with
  | zero => cases h
  | succ fuel ih =>
    obtain ⟨fuel', rfl⟩ : ∃ f, fuel' = f + 1 := ⟨fuel' - 1, by omega⟩
    simp only [healAgent] at h ⊢
    split at h
    · exact h
    · split at h <;> rename_i hp
      · rwa [if_pos hp]
      · rw [if_neg hp]
        exact ih (by omega) h

end Orchestrator

-- ---------------------------------------------------------------------------
-- First-fit order
-- ---------------------------------------------------------------------------

/-- The actions of `policy` that first-fit selection visits, in order, when `failed`
have already failed: each action not yet failed and not seen before. -/
def untriedOrder {Act : Type} [DecidableEq Act] : List Act → List Act → List Act
  | [], _ => []
  | a :: as, failed =>
    if a ∈ failed then untriedOrder as failed else a :: untriedOrder as (a :: failed)

section FirstFit

variable {Act : Type} [DecidableEq Act]

/-- Only membership in the failed list matters. -/
theorem untriedOrder_congr (policy : List Act) {F F' : List Act} (h : ∀ x, x ∈ F ↔ x ∈ F') :
    untriedOrder policy F = untriedOrder policy F' := by
  induction policy generalizing F F' with
  | nil => rfl
  | cons a as ih =>
    simp only [untriedOrder, h a]
    split
    · exact ih h
    · exact congrArg _ (ih (by simp [h]))

/-- First-fit selection picks the head of the untried order. -/
theorem find?_eq_head?_untriedOrder (policy F : List Act) :
    policy.find? (· ∉ F) = (untriedOrder policy F).head? := by
  induction policy with
  | nil => rfl
  | cons a as ih =>
    by_cases ha : a ∈ F
    · rw [List.find?_cons_of_neg _ (by simpa using ha)]
      simpa only [untriedOrder, ha, if_true] using ih
    · rw [List.find?_cons_of_pos _ (by simpa using ha)]
      simp [untriedOrder, ha]

/-- Once the head of the untried order has failed, the rest of the order remains. -/
theorem untriedOrder_cons_of_head {policy F rest : List Act} {a : Act}
    (h : untriedOrder policy F = a :: rest) : untriedOrder policy (a :: F) = rest := by
  induction policy generalizing F with
  | nil => cases h
  | cons b bs ih =>
    simp only [untriedOrder] at h ⊢
    by_cases hb : b ∈ F
    · simp only [hb, if_true] at h
      simp only [List.mem_cons, hb, or_true, if_true]
      exact ih h
    · simp only [hb, if_false, List.cons.injEq] at h
      obtain ⟨rfl, rfl⟩ := h
      simp

end FirstFit

end ImmuneSystem

namespace ImmuneSystem

namespace Orchestrator

variable {Cat Act M : Type} (H : Healer Cat Act) (mem : ImmuneMemory M Cat Act)

-- ---------------------------------------------------------------------------
-- One episode under first-fit selection
-- ---------------------------------------------------------------------------

/-- The orchestrator after an episode of `agentId` in category `c` that made the
`attempts` (action, validation result) and then ended, healed or exhausted. -/
def episodeResult (o : Orchestrator Cat Act M) (agentId trigger : String) (now : Nat) (c : Cat)
    (attempts : List (Act × Bool)) : Orchestrator Cat Act M :=
  { (o.logCalls (attempts.map fun p => (.healingAttempt c p.1 p.2 trigger, agentId, now))).releaseAgent
      agentId with
    immuneMemory := attempts.foldl (fun m p => mem.recordHealing m agentId c p.1 p.2) o.immuneMemory
    totalFailedHealings := o.totalFailedHealings + (attempts.filter (!·.2)).length
    totalHealed := o.totalHealed + (attempts.filter (·.2)).length
    healingInProgress := o.healingInProgress.erase agentId }

/-- The attempts of an episode that walks `L` until the first passing validation. -/
def attemptsOf : List Act → (Nat → Bool) → List (Act × Bool)
  | [], _ => []
  | a :: as, passes => (a, passes 0) :: if passes 0 then [] else attemptsOf as (fun k => passes (k + 1))

theorem find?_range_succ (p : Nat → Bool) (n : Nat) :
    (List.range (n + 1)).find? p =
      if p 0 then some 0 else ((List.range n).find? fun k => p (k + 1)).map (· + 1) := by
  rw [List.range_succ_eq_map, List.find?_cons]
  cases p 0 <;> simp [List.find?_map, Function.comp_def]

/-- The attempts walk `L` up to and including the first passing validation. -/
theorem attemptsOf_eq (L : List Act) (passes : Nat → Bool) :
    attemptsOf L passes =
      (L.take (((List.range L.length).find? passes).elim L.length (· + 1))).mapIdx
        fun i a => (a, passes i) := by
  induction L generalizing passes with
  | nil => rfl
  | cons a L ih =>
    rw [List.length_cons, find?_range_succ]
    cases hp : passes 0
    · cases hf : (List.range L.length).find? fun k => passes (k + 1) <;>
        simp [attemptsOf, hp, hf, ih, List.mapIdx_cons]
    · simp [attemptsOf, hp]

theorem attemptsOf_failures (L : List Act) (passes : Nat → Bool) :
    ((attemptsOf L passes).filter (!·.2)).length = ((List.range L.length).find? passes).getD L.length := by
  induction L generalizing passes with
  | nil => rfl
  | cons a L ih =>
    rw [List.length_cons, find?_range_succ]
    cases hp : passes 0
    · cases hf : (List.range L.length).find? fun k => passes (k + 1) <;>
        simp [attemptsOf, hp, hf, ih]
    · simp [attemptsOf, hp]

theorem attemptsOf_successes (L : List Act) (passes : Nat → Bool) :
    ((attemptsOf L passes).filter (·.2)).length =
      if ((List.range L.length).find? passes).isSome then 1 else 0 := by
  induction L generalizing passes with
  | nil => rfl
  | cons a L ih =>
    rw [List.length_cons, find?_range_succ]
    cases hp : passes 0
    · cases hf : (List.range L.length).find? fun k => passes (k + 1) <;>
        simp [attemptsOf, hp, hf, ih]
    · simp [attemptsOf, hp]

variable [DecidableEq Act]

theorem healAgent_untried
    (hH : ∀ c failed, H.getNextAction c failed = (H.getHealingPolicy c).find? (· ∉ failed))
    (hmem : mem.Exact) (agentId trigger : String) (now : Nat) (c : Cat) :
    ∀ (L : List Act) (fuel : Nat) (diagnose : Nat → Diagnosis Cat) (passes : Nat → Bool)
      (o : Orchestrator Cat Act M), (∀ k, (diagnose k).diagnosisType = c) →
      untriedOrder (H.getHealingPolicy c) (mem.getFailedActions o.immuneMemory agentId c) = L →
      L.length < fuel →
      healAgent H mem agentId trigger now fuel diagnose passes o =
        some (episodeResult mem o agentId trigger now c (attemptsOf L passes))
  | _, 0, _, _, _, _, _, hfuel => absurd hfuel (Nat.not_lt_zero _)
  | [], fuel + 1, diagnose, passes, o, hc, hL, _ => by
    have hnext : H.getNextAction c (mem.getFailedActions o.immuneMemory agentId c) = none := by
      rw [hH, find?_eq_head?_untriedOrder, hL]; rfl
    simp [healAgent, healFailedActions, hc, hnext, healExhausted, healEnter, episodeResult,
      attemptsOf, logCalls_eq, releaseAgent, Finset.erase_insert_eq_erase]
  | a :: L, fuel + 1, diagnose, passes, o, hc, hL, hfuel => by
    have hnext : H.getNextAction c (mem.getFailedActions o.immuneMemory agentId c) = some a := by
      rw [hH, find?_eq_head?_untriedOrder, hL]; rfl
    simp only [healAgent, healFailedActions, healEnter_immuneMemory, hc, hnext]
    cases hp : passes 0
    · have hL' : untriedOrder (H.getHealingPolicy c)
          (mem.getFailedActions (mem.recordHealing o.immuneMemory agentId c a false) agentId c) = L :=
        (untriedOrder_congr _ (fun x => by simp [hmem _ agentId c a false agentId c x, or_comm])).trans
          (untriedOrder_cons_of_head hL)
      rw [if_neg (by simp), healAgent_untried hH hmem agentId trigger now c L fuel _ _ _
        (fun k => hc (k + 1)) (by simpa [healRecord, hc, hp] using hL') (by simpa using hfuel)]
      simp [episodeResult, attemptsOf, hp, healRecord, healEnter, hc, logCalls_eq, releaseAgent,
        Finset.erase_insert_eq_erase, logAction, Nat.add_right_comm _ 1, Nat.add_assoc]
    · simp [episodeResult, attemptsOf, hp, healRecord, healEnter, hc, logCalls_eq, releaseAgent,
        Finset.erase_insert_eq_erase, logAction]

/-- One heal chain of `agentId` whose every diagnosis is in category `c`, under
first-fit selection and an exact immune memory. With `L` the policy less the actions
already failed and less repeats, the chain applies `L[0], ..., L[j]` for the first
passing validation `j`, or all of `L`; it records and logs each attempt, counts `j`
(or `|L|`) failures and one success (or none), and releases the agent, whose status
is then `INFECTED` exactly when it is infected. Nothing else changes. -/
theorem healAgent_first_fit
    (hH : ∀ c failed, H.getNextAction c failed = (H.getHealingPolicy c).find? (· ∉ failed))
    (hmem : mem.Exact) (agentId trigger : String) (now : Nat) (c : Cat)
    (diagnose : Nat → Diagnosis Cat) (hc : ∀ k, (diagnose k).diagnosisType = c)
    (passes : Nat → Bool) (o : Orchestrator Cat Act M) (fuel : Nat)
    (hfuel : (untriedOrder (H.getHealingPolicy c)
      (mem.getFailedActions o.immuneMemory agentId c)).length < fuel) :
    let L := untriedOrder (H.getHealingPolicy c) (mem.getFailedActions o.immuneMemory agentId c)
    let j? := (List.range L.length).find? passes
    let attempts := (L.take (j?.elim L.length (· + 1))).mapIdx fun i a => (a, passes i)
    ∃ o', healAgent H mem agentId trigger now fuel diagnose passes o = some o' ∧
      o' = { (o.logCalls (attempts.map fun p => (.healingAttempt c p.1 p.2 trigger, agentId, now))).releaseAgent
          agentId with
        immuneMemory := attempts.foldl (fun m p => mem.recordHealing m agentId c p.1 p.2) o.immuneMemory
        totalFailedHealings := o.totalFailedHealings + j?.getD L.length
        totalHealed := o.totalHealed + if j?.isSome then 1 else 0
        healingInProgress := o.healingInProgress.erase agentId } ∧
      agentId ∉ o'.quarantine.quarantined ∧
      ∀ a, o'.agents.get? agentId = some a → (a.status = .infected ↔ a.infected = true) := by
  intro L j? attempts
  have hrun := healAgent_untried H mem hH hmem agentId trigger now c L fuel diagnose passes o hc rfl hfuel
  refine ⟨_, hrun, ?_, ?_, ?_⟩
  · rw [episodeResult, attemptsOf_failures, attemptsOf_successes, attemptsOf_eq]
  · simp [episodeResult, releaseAgent, QuarantineController.release]
  · intro a ha
    simp only [episodeResult, releaseAgent, logCalls_eq, PyDict.get?_modify, if_true,
      Option.map_eq_some'] at ha
    obtain ⟨b, -, rfl⟩ := ha
    cases b.infected <;> simp_all

/-- The orchestrator of a pool of two, with VPN quarantined as a sweep leaves it. -/
def vpnQuarantined : Orchestrator Unit Nat (List (String × Unit × Nat × Bool)) :=
  let o := init ((createAgentPool 2).getD []) []
  { o with quarantine := o.quarantine.quarantine "VPN", agents := o.agents.modify "VPN" BaseAgent.quarantine }

/-- The episode law on a two-action policy whose second action passes, for the quarantined
VPN of a pool: the chain applies both actions, counts one failure and one success, and
releases VPN with its status read from its infection flag. -/
theorem healAgent_first_fit_second_passes :
    (∀ c failed, (Healer.firstUntried fun _ : Unit => [1, 2]).getNextAction c failed =
      ((Healer.firstUntried fun _ : Unit => [1, 2]).getHealingPolicy c).find? (· ∉ failed)) ∧
    (ImmuneMemory.outcomeLog : ImmuneMemory _ Unit Nat).Exact ∧
    (∀ k : Nat, ((fun _ => (⟨(), 1, ""⟩ : Diagnosis Unit)) k).diagnosisType = ()) ∧
    "VPN" ∈ vpnQuarantined.quarantine.quarantined ∧ "VPN" ∈ vpnQuarantined.agents.keys ∧
    (untriedOrder ((Healer.firstUntried fun _ : Unit => [1, 2]).getHealingPolicy ())
      (ImmuneMemory.outcomeLog.getFailedActions vpnQuarantined.immuneMemory "VPN" ())).length < 3 ∧
    let o := vpnQuarantined
    let L := untriedOrder ((Healer.firstUntried fun _ : Unit => [1, 2]).getHealingPolicy ())
      (ImmuneMemory.outcomeLog.getFailedActions o.immuneMemory "VPN" ())
    let j? := (List.range L.length).find? fun k => k == 1
    let attempts := (L.take (j?.elim L.length (· + 1))).mapIdx fun i a => (a, i == 1)
    ∃ o', healAgent (Healer.firstUntried fun _ : Unit => [1, 2]) ImmuneMemory.outcomeLog "VPN" "auto" 0 3
        (fun _ => ⟨(), 1, ""⟩) (fun k => k == 1) o = some o' ∧
      o' = { (o.logCalls (attempts.map fun p => (.healingAttempt () p.1 p.2 "auto", "VPN", 0))).releaseAgent
          "VPN" with
        immuneMemory := attempts.foldl (fun m p => ImmuneMemory.outcomeLog.recordHealing m "VPN" () p.1 p.2)
          o.immuneMemory
        totalFailedHealings := o.totalFailedHealings + j?.getD L.length
        totalHealed := o.totalHealed + if j?.isSome then 1 else 0
        healingInProgress := o.healingInProgress.erase "VPN" } ∧
      "VPN" ∉ o'.quarantine.quarantined ∧
      ∀ a, o'.agents.get? "VPN" = some a → (a.status = .infected ↔ a.infected = true) :=
  ⟨fun _ _ => rfl, ImmuneMemory.outcomeLog_exact, fun _ => rfl, by decide, by decide, by decide,
    healAgent_first_fit _ _ (fun _ _ => rfl) ImmuneMemory.outcomeLog_exact "VPN" "auto" 0 ()
      (fun _ => ⟨(), 1, ""⟩) (fun _ => rfl) (fun k => k == 1) _ 3 (by decide)⟩

end Orchestrator

end ImmuneSystem
