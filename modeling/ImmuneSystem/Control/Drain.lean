-- SUMMARY: What holds when `run()`'s drain wait ends with `healing_in_progress` empty, and a run where agents are still quarantined then.
import ImmuneSystem.Control.Invariant

/-!
# The end of the drain

`run()` forces every pending approval and every rejected entry into a heal chain,
gathers those chains, and polls `healing_in_progress` until it is empty. The sweep,
the agent loops and the dashboard thread keep running through the gather and the
poll, so a detection or a dashboard call there leaves a new active fault that
`healing_in_progress` does not show: a pending entry, a rejected entry, a rejection
in flight, or a chain not started yet.

When the wait ends with `healing_in_progress` empty, `run()` goes on to clear
`running` without awaiting; only the dashboard thread runs in between, and it starts
no chain. In that window the quarantine set is exactly the set of agents with such a
fault.
-/

namespace ImmuneSystem

namespace Control

variable {Cat Act M : Type} {H : Healer Cat Act} {mem : ImmuneMemory M Cat Act}
  {agents : List BaseAgent} {immuneMemory : M} {s : System Cat Act M}

open System

/-- Once `run()`'s drain wait has ended with `healing_in_progress` empty, and until it
clears `running`, `healing_in_progress` stays empty and an agent is quarantined exactly
when it still has an active fault that no started chain holds: a pending entry, a
rejected entry, a rejection in flight, or a heal chain not yet started. -/
theorem Reachable.drain_healed (hs : Reachable H mem agents immuneMemory s) (hd : s.drain = .healed)
    (x : String) :
    s.orch.healingInProgress = ∅ ∧
    (x ∈ s.orch.quarantine.quarantined ↔
      x ∈ s.orch.pendingApprovals.keys ∨ x ∈ s.orch.rejectedApprovals.keys ∨ x ∈ s.rejectingIds ∨
        ∃ cid ch, s.chains.get? cid = some ch ∧ ch.agentId = x ∧ ch.started = false) := by
  have hi := hs.inv
  have hip := hi.drained hd
  refine ⟨hip, ?_⟩
  rw [hi.ledger.quarantined, Multiset.mem_toFinset, owners]
  simp only [Multiset.mem_add, Multiset.mem_coe, chainIds, mem_ids_iff, or_assoc]
  refine or_congr_right (or_congr_right (or_congr_right (exists_congr fun cid =>
    exists_congr fun ch => and_congr_right fun hg => ⟨fun hx => ⟨hx, ?_⟩, And.left⟩)))
  have hnot : ch.started ≠ true := fun hst => by simpa [hip] using hi.mem_healing hg hst
  simpa using hnot

/-- The drain races the sweep: VPN is pending when the drain starts and is healed by the
drain's chain; Docker, infected by the same chaos wave, is detected during the gather. -/
def sweepDuringGather : List (Event Unit) :=
  [.chaosWave [("VPN", "token_explosion"), ("Docker", "prompt_injection")], .sentinelWakes,
    .sweep "VPN" (some ⟨"VPN", 8⟩) ⟨(), 1, ""⟩, .drainStarts, .drainStep, .drainStep, .drainStep,
    .drainStep, .sweep "Docker" (some ⟨"Docker", 8⟩) ⟨(), 1, ""⟩, .chainResume 0 ⟨(), 1, ""⟩,
    .chainConsult 0, .chainSelect 0, .chainApplied 0 true, .drainGathered]

theorem drain_healed_after_race :
    ∃ s, Control.run (Healer.firstUntried fun _ : Unit => [()]) ImmuneMemory.outcomeLog
        (System.init ((createAgentPool 2).getD []) []) sweepDuringGather = some s ∧ s.drain = .healed ∧
      s.orch.healingInProgress = ∅ ∧
      ("Docker" ∈ s.orch.quarantine.quarantined ↔
        "Docker" ∈ s.orch.pendingApprovals.keys ∨ "Docker" ∈ s.orch.rejectedApprovals.keys ∨
          "Docker" ∈ s.rejectingIds ∨
          ∃ cid ch, s.chains.get? cid = some ch ∧ ch.agentId = "Docker" ∧ ch.started = false) :=
  ⟨_, (Option.some_get (by rfl)).symm, by decide,
    Reachable.drain_healed (Reachable.init.run _ _ (Option.some_get (by rfl)).symm) (by decide) "Docker"⟩

/-- `run()` drains to "heal all quarantined" and logs "All quarantined agents healed"
when `healing_in_progress` is empty. Every apply passes validation, and the drain still
ends in that branch while Docker is quarantined and awaiting approval. -/
theorem drain_ends_with_quarantined_agent :
    ∃ s, Control.run (Healer.firstUntried fun _ : Unit => [()]) ImmuneMemory.outcomeLog
        (System.init ((createAgentPool 2).getD []) []) sweepDuringGather = some s ∧
      (∀ e ∈ sweepDuringGather, ∀ cid passed, e = .chainApplied cid passed → passed = true) ∧
      s.drain = .healed ∧ s.orch.healingInProgress = ∅ ∧
      "Docker" ∈ s.orch.quarantine.quarantined ∧ "Docker" ∈ s.orch.pendingApprovals.keys :=
  ⟨_, rfl, by simp [sweepDuringGather], by decide⟩

end Control

end ImmuneSystem
