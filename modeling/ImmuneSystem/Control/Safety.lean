-- SUMMARY: Safety of the control loop in every reachable state: one active fault per agent, and every infection counted exactly once.
import ImmuneSystem.Control.Invariant

/-!
# Safety

What `Inv` says, read back in the terms of the orchestrator's fields. Every agent
has at most one active fault, held in exactly one place: the pending map, the
rejected map, a rejection in flight, or one heal chain; it is quarantined while it
has one; and `healing_in_progress` is the set of agents whose chain has started.
Every infection the sweep counted is healed, exhausted, or still one of these
faults, so no entry is handed to two callers or dropped.
-/

namespace ImmuneSystem

namespace Control

variable {Cat Act M : Type}

namespace System

variable {s : System Cat Act M}

/-- No agent has two active faults, of one kind or of two. -/
theorem Inv.count_le_one (hs : s.Inv) (x : String) :
    Multiset.count x ↑s.orch.pendingApprovals.keys + Multiset.count x ↑s.orch.rejectedApprovals.keys +
      Multiset.count x s.rejectingIds + Multiset.count x s.chainIds ≤ 1 := by
  simpa [owners, Multiset.count_add] using Multiset.nodup_iff_count_le_one.1 hs.ledger.nodup x

theorem Inv.mem_quarantined (hs : s.Inv) {x : String} (h : x ∈ s.owners) :
    x ∈ s.orch.quarantine.quarantined :=
  hs.ledger.quarantined ▸ Multiset.mem_toFinset.2 h

/-- An agent has at most one heal chain. -/
theorem Inv.chain_unique (hs : s.Inv) {cid cid' : Nat} {ch ch' : HealChain Cat Act}
    (h : s.chains.get? cid = some ch) (h' : s.chains.get? cid' = some ch')
    (hx : ch'.agentId = ch.agentId) : cid = cid' := by
  by_contra hne
  refine hs.not_mem_ids_erase h (mem_ids_iff.2 ⟨cid', ch', ?_, hx⟩)
  rw [PyDict.get?_erase, if_neg (Ne.symm hne), h']

/-- An agent's active faults: in one approval map at most; in either, quarantined and
without a heal chain; with a heal chain, quarantined and with no second one; and in
`healing_in_progress` exactly when its chain has started and not ended. -/
def OneActiveFault (s : System Cat Act M) (x : String) : Prop :=
  ¬(x ∈ s.orch.pendingApprovals.keys ∧ x ∈ s.orch.rejectedApprovals.keys) ∧
  (x ∈ s.orch.pendingApprovals.keys ∨ x ∈ s.orch.rejectedApprovals.keys →
    x ∈ s.orch.quarantine.quarantined ∧ ∀ cid ch, s.chains.get? cid = some ch → ch.agentId ≠ x) ∧
  (∀ cid ch, s.chains.get? cid = some ch → ch.agentId = x →
    x ∈ s.orch.quarantine.quarantined ∧
      ∀ cid' ch', s.chains.get? cid' = some ch' → ch'.agentId = x → cid' = cid) ∧
  (x ∈ s.orch.healingInProgress ↔
    ∃ cid ch, s.chains.get? cid = some ch ∧ ch.agentId = x ∧ ch.started = true)

theorem Inv.oneActiveFault (hs : s.Inv) (x : String) : s.OneActiveFault x := by
  have hc := hs.count_le_one x
  have hP : x ∈ s.orch.pendingApprovals.keys → x ∈ s.owners := fun h => by simp [owners, h]
  have hR : x ∈ s.orch.rejectedApprovals.keys → x ∈ s.owners := fun h => by simp [owners, h]
  have hC : x ∈ s.chainIds → x ∈ s.owners := fun h => by simp [owners, h]
  have hCpos : ∀ cid ch, s.chains.get? cid = some ch → ch.agentId = x →
      0 < Multiset.count x s.chainIds := fun cid ch h hx =>
    Multiset.count_pos.2 (mem_ids_iff.2 ⟨cid, ch, h, hx⟩)
  refine ⟨fun ⟨h₁, h₂⟩ => ?_, fun h => ⟨h.elim (hs.mem_quarantined ∘ hP) (hs.mem_quarantined ∘ hR),
    fun cid ch hg hx => ?_⟩, fun cid ch hg hx => ⟨hs.mem_quarantined (hC (mem_ids_iff.2 ⟨cid, ch, hg, hx⟩)),
    fun cid' ch' hg' hx' => (hs.chain_unique hg hg' (hx'.trans hx.symm)).symm⟩, ?_⟩
  · have := Multiset.count_pos.2 (Multiset.mem_coe.2 h₁)
    have := Multiset.count_pos.2 (Multiset.mem_coe.2 h₂)
    omega
  · have := hCpos cid ch hg hx
    rcases h with h | h <;> have := Multiset.count_pos.2 (Multiset.mem_coe.2 h) <;> omega
  · rw [hs.healing, System.healing, mem_startedIds_iff]

/-- Every infection counted is healed, ended by exhaustion, pending, rejected, being
filed as rejected, or held by a heal chain that has not ended; so no more agents are
healed than infected, and the summary's success rate is at most one. -/
def Conserved (s : System Cat Act M) : Prop :=
  s.orch.totalInfections = s.orch.totalHealed + s.exhausted + s.orch.pendingApprovals.size +
    s.orch.rejectedApprovals.size + Multiset.card s.rejectingIds + s.chains.size ∧
  s.orch.totalHealed ≤ s.orch.totalInfections ∧ s.orch.resolutionRate ≤ 1

theorem Inv.conserved (hs : s.Inv) : s.Conserved := by
  have h := hs.ledger.conservation
  have hcount : s.orch.totalInfections = s.orch.totalHealed + s.exhausted + s.orch.pendingApprovals.size +
      s.orch.rejectedApprovals.size + Multiset.card s.rejectingIds + s.chains.size := by
    simp only [owners, chainIds, ids, Multiset.card_add, Multiset.coe_card, List.length_map] at h
    simp only [PyDict.size_eq_length_keys, PyDict.keys, List.length_map] at h ⊢
    omega
  exact ⟨hcount, by omega, Orchestrator.resolutionRate_le_one (by omega)⟩

end System

open System

variable {H : Healer Cat Act} {mem : ImmuneMemory M Cat Act} {agents : List BaseAgent}
  {immuneMemory : M} {s : System Cat Act M}

/-- In every reachable state, under every interleaving of the tasks and the approval
threads, every agent has at most one active fault. -/
theorem Reachable.one_active_fault (hs : Reachable H mem agents immuneMemory s) (x : String) :
    s.OneActiveFault x :=
  hs.inv.oneActiveFault x

theorem one_active_fault_after_sweeps :
    ∃ s, Control.run (Healer.firstUntried fun _ : Unit => [()]) ImmuneMemory.outcomeLog
        (System.init ((createAgentPool 2).getD []) []) [.sentinelWakes,
          .sweep "VPN" (some ⟨"VPN", 8⟩) ⟨(), 1, ""⟩, .sweep "Docker" (some ⟨"Docker", 3⟩) ⟨(), 1, ""⟩] =
        some s ∧ s.OneActiveFault "Docker" :=
  ⟨_, (Option.some_get (by rfl)).symm,
    Reachable.one_active_fault (Reachable.init.run _ _ (Option.some_get (by rfl)).symm) "Docker"⟩

/-- In every reachable state, every infection counted is accounted for exactly once. -/
theorem Reachable.infections_conserved (hs : Reachable H mem agents immuneMemory s) : s.Conserved :=
  hs.inv.conserved

theorem infections_conserved_after_sweeps :
    ∃ s, Control.run (Healer.firstUntried fun _ : Unit => [()]) ImmuneMemory.outcomeLog
        (System.init ((createAgentPool 2).getD []) []) [.sentinelWakes,
          .sweep "VPN" (some ⟨"VPN", 8⟩) ⟨(), 1, ""⟩, .sweep "Docker" (some ⟨"Docker", 3⟩) ⟨(), 1, ""⟩] =
        some s ∧ s.Conserved :=
  ⟨_, (Option.some_get (by rfl)).symm,
    Reachable.infections_conserved (Reachable.init.run _ _ (Option.some_get (by rfl)).symm)⟩

/-- The counters of `print_summary` agree in every reachable state: "Total Quarantine
Events" is "Total Infections Detected", and that is "Successfully Healed", the chains
ended by exhaustion, and "Currently in Quarantine" together. -/
theorem Reachable.summary_counts (hs : Reachable H mem agents immuneMemory s) :
    s.orch.quarantine.totalQuarantines = s.orch.totalInfections ∧
    s.orch.totalInfections = s.orch.totalHealed + s.exhausted + s.orch.quarantine.getQuarantinedCount := by
  have hi := hs.inv
  refine ⟨hi.ledger.counted, ?_⟩
  rw [QuarantineController.getQuarantinedCount, hi.ledger.quarantined,
    Multiset.toFinset_card_of_nodup hi.ledger.nodup]
  exact hi.ledger.conservation

theorem summary_counts_after_sweeps :
    ∃ s, Control.run (Healer.firstUntried fun _ : Unit => [()]) ImmuneMemory.outcomeLog
        (System.init ((createAgentPool 2).getD []) []) [.sentinelWakes,
          .sweep "VPN" (some ⟨"VPN", 8⟩) ⟨(), 1, ""⟩, .sweep "Docker" (some ⟨"Docker", 3⟩) ⟨(), 1, ""⟩] =
        some s ∧
      s.orch.quarantine.totalQuarantines = s.orch.totalInfections ∧
      s.orch.totalInfections = s.orch.totalHealed + s.exhausted + s.orch.quarantine.getQuarantinedCount :=
  ⟨_, (Option.some_get (by rfl)).symm,
    Reachable.summary_counts (Reachable.init.run _ _ (Option.some_get (by rfl)).symm)⟩

end Control

end ImmuneSystem
