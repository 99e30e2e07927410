-- SUMMARY: The agents' own status field against the quarantine set: what every reachable state keeps, and the drift `infect` and `cure` cause.
import ImmuneSystem.Control.Invariant

/-!
# Agent status and quarantine

Quarantine has two records: the controller's set and each agent's `status`. The
sweep writes both, and so does the release at the end of a heal chain; but a chaos
wave's `infect` and a remediation's `cure` write the status of an agent that may
be quarantined. So the status can leave QUARANTINED while the agent is still in the
set. What survives every interleaving is one direction of the first equivalence and,
outside the set, that the status says INFECTED exactly when the agent is infected.
-/

namespace ImmuneSystem

namespace Control

variable {Cat Act M : Type}

namespace System

variable {s s' : System Cat Act M} {cid : Nat}

/-- The statuses agree with the quarantine set in `s`. -/
def StatusAgrees (s : System Cat Act M) : Prop := Agrees s.orch.agents s.orch.quarantine.quarantined

theorem Agrees.release {agents : PyDict String BaseAgent} {q : Finset String} (h : Agrees agents q)
    (x : String) : Agrees (agents.modify x BaseAgent.release) (q.erase x) :=
  h.modify_mirrors mirrors_release fun y hy => by simp [hy]

theorem Agrees.foldl_infect {agents : PyDict String BaseAgent} {q : Finset String} (h : Agrees agents q)
    (targets : List (String × String)) :
    Agrees (targets.foldl (fun a t => a.modify t.1 (BaseAgent.infect · t.2)) agents) q := by
  induction targets generalizing agents with
  | nil => exact h
  | cons t ts ih => exact ih (h.modify_mirrors (mirrors_infect t.2) fun _ _ => Iff.rfl)

theorem sweep_agrees {x : String} {detection : Option InfectionReport} {diagnosis : Diagnosis Cat}
    (ha : s.StatusAgrees) : (s.sweep x detection diagnosis).StatusAgrees := by
  unfold sweep
  split
  · exact ha
  rcases detection with _ | infection
  · exact ha
  dsimp only
  split
  · exact ha
  split
  · exact Agrees.modify_quarantine ha
  · exact Agrees.modify_quarantine ha

theorem chainResume_agrees {d : Diagnosis Cat} (ha : s.StatusAgrees)
    (h : s.chainResume cid d = some s') : s'.StatusAgrees := by
  simp only [chainResume, Option.bind_eq_some] at h
  obtain ⟨ch, -, h⟩ := h
  split at h <;> cases h <;> exact ha

theorem chainConsult_agrees (mem : ImmuneMemory M Cat Act) (ha : s.StatusAgrees)
    (h : chainConsult mem s cid = some s') : s'.StatusAgrees := by
  simp only [chainConsult, Option.bind_eq_some] at h
  obtain ⟨ch, -, h⟩ := h
  split at h <;> cases h
  exact ha

theorem chainSelect_agrees (H : Healer Cat Act) (ha : s.StatusAgrees)
    (h : chainSelect H s cid = some s') : s'.StatusAgrees := by
  simp only [chainSelect, Option.bind_eq_some] at h
  obtain ⟨ch, -, h⟩ := h
  split at h
  · split at h <;> cases h
    · exact ha.release ch.agentId
    · exact ha
  · cases h

theorem chainApplied_agrees (mem : ImmuneMemory M Cat Act) {passed : Bool} (ha : s.StatusAgrees)
    (h : chainApplied mem s cid passed = some s') : s'.StatusAgrees := by
  simp only [chainApplied, Option.bind_eq_some] at h
  obtain ⟨ch, -, h⟩ := h
  split at h
  · cases passed <;> cases h
    · exact ha
    · exact ha.release ch.agentId
  · cases h

variable (H : Healer Cat Act) (mem : ImmuneMemory M Cat Act)

theorem loopStep_agrees {e : Event Cat} (ha : s.StatusAgrees) (h : loopStep H mem s e = some s') :
    s'.StatusAgrees := by
  cases e with
  | agentLoop x =>
    simp only [loopStep] at h
    split_ifs at h <;> cases h
    · exact ha
    · exact Agrees.modify_execute ha
  | sentinelWakes | chaosStops | drainPolls =>
    simp only [loopStep] at h
    split at h <;> cases h
    exact ha
  | sweep x detection diagnosis =>
    simp only [loopStep] at h
    split_ifs at h
    cases h
    exact sweep_agrees ha
  | chaosWave targets =>
    simp only [loopStep, foldl_withAgent] at h
    split_ifs at h
    cases h
    exact ha.foldl_infect targets
  | chainResume cid d => exact chainResume_agrees ha h
  | chainConsult cid => exact chainConsult_agrees mem ha h
  | chainSelect cid => exact chainSelect_agrees H ha h
  | chainApplied cid passed => exact chainApplied_agrees mem ha h
  | cure x =>
    simp only [loopStep] at h
    split_ifs at h
    cases h
    exact ha.modify_mirrors mirrors_cure fun _ _ => Iff.rfl
  | drainStarts | drainGathered | drainTimesOut =>
    simp only [loopStep] at h
    split at h <;> try cases h
    all_goals first | exact ha | (split_ifs at h; cases h; exact ha)
  | _ => cases h

/-- Every event keeps the statuses in agreement with the quarantine set. -/
theorem StatusAgrees.step {e : Event Cat} (hs : s.Inv) (ha : s.StatusAgrees)
    (h : step H mem s e = some s') : s'.StatusAgrees := by
  cases e
  case tick | call program =>
    cases h
    exact ha
  case callerStep i =>
    simp only [Control.step] at h
    split at h
    · cases h
    rename_i c hc
    obtain ⟨⟨s₁, c'⟩, h₁, rfl⟩ := Option.map_eq_some'.1 h
    have fp := callerStep_footprint hs (List.mem_append_left _ (List.getElem?_mem hc)) h₁
    rw [StatusAgrees, fp.agents, fp.quarantine]
    exact ha
  case drainStep =>
    simp only [Control.step] at h
    split at h
    · rename_i c hd
      split at h
      · rename_i s₁ c' h₁
        cases h
        have fp := callerStep_footprint hs (by simp [allCallers, hd]) h₁
        rw [StatusAgrees, fp.agents, fp.quarantine]
        exact ha
      · cases h
        split <;> exact ha
    · cases h
  case shutdown =>
    simp only [Control.step] at h
    split at h <;> cases h <;> exact ha
  all_goals
    simp only [Control.step] at h
    split at h
    · exact loopStep_agrees H mem ha h
    · cases h

end System

open System

/-- For agents as `BaseAgent.__init__` leaves them (status HEALTHY, not infected), in every
reachable state an agent whose status is QUARANTINED is in the quarantine set, and an
agent outside the set has status INFECTED exactly when it is infected. -/
theorem Reachable.status_agrees {H : Healer Cat Act} {mem : ImmuneMemory M Cat Act}
    {agents : List BaseAgent} {immuneMemory : M} {s : System Cat Act M}
    (hfresh : ∀ a ∈ agents, a.status = .healthy ∧ a.infected = false)
    (hs : Reachable H mem agents immuneMemory s) :
    ∀ x a, s.orch.agents.get? x = some a →
      (a.status = .quarantined → x ∈ s.orch.quarantine.quarantined) ∧
      (x ∉ s.orch.quarantine.quarantined → (a.status = .infected ↔ a.infected = true)) := by
  suffices s.StatusAgrees ∧ s.Inv from this.1
  induction hs with
  | init =>
    refine ⟨fun x a hx => ?_, Inv.init agents immuneMemory⟩
    obtain ⟨hst, hinf⟩ := hfresh a (PyDict.mem_of_get?_ofList hx)
    simp [hst, hinf]
  | step e _ hstep ih => exact ⟨ih.1.step H mem ih.2 hstep, ih.2.step H mem hstep⟩

theorem status_agrees_after_cure :
    ∃ s, Control.run (Healer.firstUntried fun _ : Unit => [()]) ImmuneMemory.outcomeLog
        (System.init ((createAgentPool 2).getD []) []) [.chaosWave [("VPN", "token_explosion")],
          .sentinelWakes, .sweep "VPN" (some ⟨"VPN", 5⟩) ⟨(), 1, ""⟩, .chainResume 0 ⟨(), 1, ""⟩,
          .chainConsult 0, .chainSelect 0, .cure "VPN"] = some s ∧
      ∀ x a, s.orch.agents.get? x = some a →
        (a.status = .quarantined → x ∈ s.orch.quarantine.quarantined) ∧
        (x ∉ s.orch.quarantine.quarantined → (a.status = .infected ↔ a.infected = true)) :=
  ⟨_, (Option.some_get (by rfl)).symm,
    Reachable.status_agrees (by decide) (Reachable.init.run _ _ (Option.some_get (by rfl)).symm)⟩

/-- A chaos wave infects VPN, the sweep quarantines it and schedules an auto-heal, and
the remediation cures it while it is still quarantined: VPN is in the quarantine set
with status HEALTHY. -/
theorem status_drifts_from_quarantine :
    ∃ s, Control.run (Healer.firstUntried fun _ : Unit => [()]) ImmuneMemory.outcomeLog
        (System.init ((createAgentPool 2).getD []) []) [.chaosWave [("VPN", "token_explosion")],
          .sentinelWakes, .sweep "VPN" (some ⟨"VPN", 5⟩) ⟨(), 1, ""⟩, .chainResume 0 ⟨(), 1, ""⟩,
          .chainConsult 0, .chainSelect 0, .cure "VPN"] = some s ∧
      "VPN" ∈ s.orch.quarantine.quarantined ∧
      (s.orch.agents.get? "VPN").map BaseAgent.status = some .healthy :=
  ⟨_, rfl, by decide⟩

end Control

end ImmuneSystem
