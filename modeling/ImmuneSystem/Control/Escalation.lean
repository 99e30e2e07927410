-- SUMMARY: Escalation of a heal chain under the healer's and the memory's contracts: no (category, action) pair applied twice, and the bounds on applies, depth and segments that follow.
import ImmuneSystem.Control.Invariant
import Mathlib.Algebra.Order.BigOperators.Group.Finset

/-!
# Escalation

A heal chain escalates after each failed apply. What keeps it from retrying an action
is the immune memory: the failure is recorded before the escalation, the next
segment reads the failed set back, and `get_next_action` avoids it. The category may
drift from one diagnosis to the next; the argument holds per `(category, action)`
pair.

`HealChain.Wf` states what a live chain knows about its history: its failed applies
are distinct pairs of the policies, each remembered as failed, and at each suspension
point its depth and segment count are fixed by the number of failed applies. Under the
contracts of section 6 every step keeps it, for every chain, under every
interleaving; the bounds of `Reachable.live_chain_bounded` follow by counting pairs.
-/

namespace ImmuneSystem

namespace Control

variable {Cat Act M : Type} (H : Healer Cat Act) (mem : ImmuneMemory M Cat Act)

namespace HealChain

/-- What each suspension point of a chain knows about its history. -/
def PhaseOk (ch : HealChain Cat Act) : Prop :=
  match ch.phase with
  | .scheduled => ch.applied = [] ∧ ch.depth = 0 ∧ ch.steps = 0
  | .diagnosed _ => ch.depth = ch.applied.length ∧ ch.steps = 4 * ch.applied.length + 1
  | .consulted d failed => (∀ p ∈ ch.applied, p.1 = d.diagnosisType → p.2 ∈ failed) ∧
      ch.depth = ch.applied.length ∧ ch.steps = 4 * ch.applied.length + 2
  | .applying d a => a ∈ H.getHealingPolicy d.diagnosisType ∧ (d.diagnosisType, a) ∉ ch.applied ∧
      ch.depth = ch.applied.length ∧ ch.steps = 4 * ch.applied.length + 3
  | .escalating => ch.depth + 1 = ch.applied.length ∧ ch.steps = 4 * ch.applied.length

/-- A live chain's history, against the immune memory `m`. -/
structure Wf (m : M) (ch : HealChain Cat Act) : Prop where
  nodup : ch.applied.Nodup
  inPolicy : ∀ p ∈ ch.applied, p.2 ∈ H.getHealingPolicy p.1
  remembered : ∀ p ∈ ch.applied, p.2 ∈ mem.getFailedActions m ch.agentId p.1
  phase : ch.PhaseOk H

/-- The pairs the chain has applied: the failed ones and the one awaiting validation. -/
def attempts (ch : HealChain Cat Act) : List (Cat × Act) :=
  match ch.phase with
  | .applying d a => ch.applied ++ [(d.diagnosisType, a)]
  | _ => ch.applied

variable {H mem}

theorem nodup_append_singleton {l : List (Cat × Act)} {p : Cat × Act} (hl : l.Nodup) (hp : p ∉ l) :
    (l ++ [p]).Nodup :=
  List.nodup_append.2 ⟨hl, List.nodup_singleton _, by simpa using hp⟩

theorem inPolicy_append_singleton {l : List (Cat × Act)} {c : Cat} {a : Act}
    (hl : ∀ p ∈ l, p.2 ∈ H.getHealingPolicy p.1) (ha : a ∈ H.getHealingPolicy c) :
    ∀ p ∈ l ++ [(c, a)], p.2 ∈ H.getHealingPolicy p.1 := by
  intro p hp
  rcases List.mem_append.1 hp with hp | hp
  · exact hl p hp
  · rw [List.mem_singleton.1 hp]
    exact ha

/-- Recording an outcome forgets no failure. -/
theorem Wf.record (hmem : mem.Lawful) {m : M} {ch : HealChain Cat Act} (hw : ch.Wf H mem m)
    (x : String) (c : Cat) (a : Act) (ok : Bool) : ch.Wf H mem (mem.recordHealing m x c a ok) :=
  ⟨hw.nodup, hw.inPolicy, fun p hp => hmem.append_only _ _ _ _ _ _ _ _ (hw.remembered p hp), hw.phase⟩

/-- The attempts are distinct pairs of the policies. -/
theorem Wf.attempts {m : M} {ch : HealChain Cat Act} (hw : ch.Wf H mem m) :
    ch.attempts.Nodup ∧ ∀ p ∈ ch.attempts, p.2 ∈ H.getHealingPolicy p.1 := by
  have hp := hw.phase
  unfold HealChain.attempts
  split
  · rename_i d a hph
    simp only [PhaseOk, hph] at hp
    exact ⟨nodup_append_singleton hw.nodup hp.2.1, inPolicy_append_singleton hw.inPolicy hp.1⟩
  · exact ⟨hw.nodup, hw.inPolicy⟩

end HealChain

namespace System

/-- Every live chain of `s` is well formed. -/
def ChainsWf (s : System Cat Act M) : Prop :=
  ∀ cid ch, s.chains.get? cid = some ch → ch.Wf H mem s.orch.immuneMemory

variable {H mem} {s s' : System Cat Act M} {cid : Nat}

theorem ChainsWf.insert {m : M} {d : PyDict Nat (HealChain Cat Act)}
    (hw : ∀ cid ch, d.get? cid = some ch → ch.Wf H mem m) {ch' : HealChain Cat Act}
    (h' : ch'.Wf H mem m) (k : Nat) : ∀ cid ch, (d.insert k ch').get? cid = some ch → ch.Wf H mem m := by
  intro cid ch h
  rw [PyDict.get?_insert] at h
  split at h
  · exact Option.some.inj h ▸ h'
  · exact hw cid ch h

theorem ChainsWf.erase {m : M} {d : PyDict Nat (HealChain Cat Act)}
    (hw : ∀ cid ch, d.get? cid = some ch → ch.Wf H mem m) (k : Nat) :
    ∀ cid ch, (d.erase k).get? cid = some ch → ch.Wf H mem m := by
  intro cid ch h
  rw [PyDict.get?_erase] at h
  split at h
  · cases h
  · exact hw cid ch h

theorem ChainsWf.record (hmem : mem.Lawful) {m : M} {d : PyDict Nat (HealChain Cat Act)}
    (hw : ∀ cid ch, d.get? cid = some ch → ch.Wf H mem m) (x : String) (c : Cat) (a : Act)
    (ok : Bool) : ∀ cid ch, d.get? cid = some ch → ch.Wf H mem (mem.recordHealing m x c a ok) :=
  fun cid ch h => (hw cid ch h).record hmem x c a ok

/-- A new chain has no history. -/
theorem wf_scheduled (m : M) (x : String) (infection : InfectionReport) (trigger : String) :
    (⟨x, infection, trigger, .scheduled, [], 0, 0⟩ : HealChain Cat Act).Wf H mem m :=
  ⟨List.nodup_nil, fun _ h => absurd h (List.not_mem_nil _), fun _ h => absurd h (List.not_mem_nil _),
    ⟨rfl, rfl, rfl⟩⟩

/-- A step that leaves the memory alone and schedules at most one new chain. -/
theorem ChainsWf.of_schedules (hw : s.ChainsWf H mem)
    (hm : s'.orch.immuneMemory = s.orch.immuneMemory)
    (hc : s'.chains = s.chains ∨ ∃ x infection trigger,
      s'.chains = s.chains.insert s.nextCid ⟨x, infection, trigger, .scheduled, [], 0, 0⟩) :
    s'.ChainsWf H mem := by
  unfold ChainsWf
  rw [hm]
  rcases hc with hc | ⟨x, infection, trigger, hc⟩ <;> rw [hc]
  · exact hw
  · exact ChainsWf.insert hw (wf_scheduled _ x infection trigger) _

theorem sweep_chains {x : String} {detection : Option InfectionReport} {diagnosis : Diagnosis Cat} :
    (s.sweep x detection diagnosis).orch.immuneMemory = s.orch.immuneMemory ∧
    ((s.sweep x detection diagnosis).chains = s.chains ∨ ∃ y infection trigger,
      (s.sweep x detection diagnosis).chains =
        s.chains.insert s.nextCid ⟨y, infection, trigger, .scheduled, [], 0, 0⟩) := by
  unfold sweep
  split
  · exact ⟨rfl, .inl rfl⟩
  rcases detection with _ | infection
  · exact ⟨rfl, .inl rfl⟩
  dsimp only
  split
  · exact ⟨rfl, .inl rfl⟩
  split
  · exact ⟨rfl, .inl rfl⟩
  · exact ⟨rfl, .inr ⟨x, infection, "auto", rfl⟩⟩

theorem chainResume_wf {d : Diagnosis Cat} (hw : s.ChainsWf H mem)
    (h : s.chainResume cid d = some s') : s'.ChainsWf H mem := by
  simp only [chainResume, Option.bind_eq_some] at h
  obtain ⟨ch, hch, h⟩ := h
  have hwc := hw cid ch hch
  have hp := hwc.phase
  split at h <;> cases h <;> rename_i hph <;> simp only [HealChain.PhaseOk, hph] at hp <;>
    refine ChainsWf.insert hw ?_ cid <;> refine ⟨hwc.nodup, hwc.inPolicy, hwc.remembered, ?_⟩ <;>
    simp only [HealChain.PhaseOk]
  · simp [hp.1, hp.2.1, hp.2.2]
  · omega

theorem chainConsult_wf (hw : s.ChainsWf H mem) (h : chainConsult mem s cid = some s') :
    s'.ChainsWf H mem := by
  simp only [chainConsult, Option.bind_eq_some] at h
  obtain ⟨ch, hch, h⟩ := h
  have hwc := hw cid ch hch
  have hp := hwc.phase
  split at h
  · rename_i d hph
    simp only [HealChain.PhaseOk, hph] at hp
    cases h
    refine ChainsWf.insert hw ?_ cid
    refine ⟨hwc.nodup, hwc.inPolicy, hwc.remembered, ?_⟩
    simp only [HealChain.PhaseOk]
    refine ⟨fun p hp' hc => ?_, hp.1, by omega⟩
    rw [Orchestrator.healFailedActions, ← hc]
    exact hwc.remembered p hp'
  · cases h

theorem chainSelect_wf (hH : H.Lawful) (hw : s.ChainsWf H mem) (h : chainSelect H s cid = some s') :
    s'.ChainsWf H mem := by
  simp only [chainSelect, Option.bind_eq_some] at h
  obtain ⟨ch, hch, h⟩ := h
  have hwc := hw cid ch hch
  have hp := hwc.phase
  split at h
  · rename_i d failed hph
    simp only [HealChain.PhaseOk, hph] at hp
    split at h <;> cases h
    · exact ChainsWf.erase hw cid
    · rename_i a ha
      have hl := hH d.diagnosisType failed
      rw [ha] at hl
      refine ChainsWf.insert hw ?_ cid
      refine ⟨hwc.nodup, hwc.inPolicy, hwc.remembered, ?_⟩
      simp only [HealChain.PhaseOk]
      exact ⟨hl.1, fun hmem' => hl.2 (hp.1 _ hmem' rfl), hp.2.1, by omega⟩
  · cases h

theorem chainApplied_wf (hmem : mem.Lawful) {passed : Bool} (hw : s.ChainsWf H mem)
    (h : chainApplied mem s cid passed = some s') : s'.ChainsWf H mem := by
  simp only [chainApplied, Option.bind_eq_some] at h
  obtain ⟨ch, hch, h⟩ := h
  have hwc := hw cid ch hch
  have hp := hwc.phase
  split at h
  · rename_i d a hph
    simp only [HealChain.PhaseOk, hph] at hp
    have hrec := ChainsWf.record hmem hw ch.agentId d.diagnosisType a passed
    cases passed <;> cases h
    · refine ChainsWf.insert hrec ?_ cid
      refine ⟨HealChain.nodup_append_singleton hwc.nodup hp.2.1,
        HealChain.inPolicy_append_singleton hwc.inPolicy hp.1, ?_, ?_⟩
      · simp only [List.mem_append, List.mem_singleton]
        rintro p (hp' | rfl)
        · exact hmem.append_only _ _ _ _ _ _ _ _ (hwc.remembered p hp')
        · exact hmem.remembers _ _ _ _
      · simp only [HealChain.PhaseOk, List.length_append, List.length_singleton]
        omega
    · exact ChainsWf.erase hrec cid
  · cases h

theorem loopStep_wf (hH : H.Lawful) (hmem : mem.Lawful) {e : Event Cat} (hw : s.ChainsWf H mem)
    (h : loopStep H mem s e = some s') : s'.ChainsWf H mem := by
  cases e with
  | agentLoop x =>
    simp only [loopStep] at h
    split_ifs at h <;> cases h <;> exact hw
  | sentinelWakes | chaosStops | cure x | drainStarts | drainPolls =>
    simp only [loopStep] at h
    split at h <;> cases h
    exact hw
  | sweep x detection diagnosis =>
    simp only [loopStep] at h
    split_ifs at h
    cases h
    exact hw.of_schedules sweep_chains.1 sweep_chains.2
  | chaosWave targets =>
    simp only [loopStep, foldl_withAgent] at h
    split_ifs at h
    cases h
    exact hw
  | chainResume cid d => exact chainResume_wf hw h
  | chainConsult cid => exact chainConsult_wf hw h
  | chainSelect cid => exact chainSelect_wf hH hw h
  | chainApplied cid passed => exact chainApplied_wf hmem hw h
  | drainGathered | drainTimesOut =>
    simp only [loopStep] at h
    split at h <;> try cases h
    split_ifs at h
    cases h
    exact hw
  | _ => cases h

/-- Under the contracts, every event keeps every live chain well formed. -/
theorem ChainsWf.step (hH : H.Lawful) (hmem : mem.Lawful) {e : Event Cat} (hs : s.Inv)
    (hw : s.ChainsWf H mem) (h : step H mem s e = some s') : s'.ChainsWf H mem := by
  cases e
  case tick | call program =>
    cases h
    exact hw
  case callerStep i =>
    simp only [Control.step] at h
    split at h
    · cases h
    rename_i c hc
    obtain ⟨⟨s₁, c'⟩, h₁, rfl⟩ := Option.map_eq_some'.1 h
    have fp := callerStep_footprint hs (List.mem_append_left _ (List.getElem?_mem hc)) h₁
    exact hw.of_schedules fp.memory fp.chains
  case drainStep =>
    simp only [Control.step] at h
    split at h
    · rename_i c hd
      split at h
      · rename_i s₁ c' h₁
        cases h
        have fp := callerStep_footprint hs (by simp [allCallers, hd]) h₁
        exact hw.of_schedules fp.memory fp.chains
      · cases h
        split <;> exact hw
    · cases h
  case shutdown =>
    simp only [Control.step] at h
    split at h <;> cases h <;> exact hw
  all_goals
    simp only [Control.step] at h
    split at h
    · exact loopStep_wf hH hmem hw h
    · cases h

end System

-- ---------------------------------------------------------------------------
-- Counting pairs
-- ---------------------------------------------------------------------------

/-- A list of distinct pairs, each of an action of its category's policy, is no longer
than all the policies together. -/
theorem length_le_sum_policy [Fintype Cat] {l : List (Cat × Act)} (hnd : l.Nodup)
    (hl : ∀ p ∈ l, p.2 ∈ H.getHealingPolicy p.1) :
    l.length ≤ ∑ c, (H.getHealingPolicy c).length := by
  classical
  let pairs : Finset (Cat × Act) :=
    Finset.univ.biUnion fun c => (H.getHealingPolicy c).toFinset.image (c, ·)
  have hsub : l.toFinset ⊆ pairs := fun p hp => by
    simp only [pairs, Finset.mem_biUnion, Finset.mem_univ, Finset.mem_image, List.mem_toFinset, true_and]
    exact ⟨p.1, p.2, hl p (List.mem_toFinset.1 hp), rfl⟩
  calc l.length = l.toFinset.card := (List.toFinset_card_of_nodup hnd).symm
    _ ≤ pairs.card := Finset.card_le_card hsub
    _ ≤ ∑ c, ((H.getHealingPolicy c).toFinset.image (c, ·)).card := Finset.card_biUnion_le
    _ ≤ ∑ c, (H.getHealingPolicy c).length := Finset.sum_le_sum fun c _ =>
        Finset.card_image_le.trans (List.toFinset_card_le _)

variable {H mem}

/-- Under the contracts, every live chain of every reachable state is well formed. -/
theorem Reachable.chainsWf {agents : List BaseAgent} {immuneMemory : M} {s : System Cat Act M}
    (hs : Reachable H mem agents immuneMemory s) (hH : H.Lawful) (hmem : mem.Lawful) :
    s.ChainsWf H mem := by
  suffices s.ChainsWf H mem ∧ s.Inv from this.1
  induction hs with
  | init => exact ⟨fun _ _ h => absurd h (by simp [System.init, PyDict.get?, PyDict.empty]),
      System.Inv.init agents immuneMemory⟩
  | step e _ hstep ih => exact ⟨ih.1.step hH hmem ih.2 hstep, ih.2.step H mem hstep⟩

/-- Under the contracts of the healer and the immune memory, for every finite set of
categories with their policies, every sequence of diagnoses and every interleaving, a
live heal chain has applied no `(category, action)` pair twice; so it has made at most
`N = ∑ c, |policy c|` `apply_healing` calls, its recursion depth is at most `N`, and it
has run at most `4 * N + 2` segments. -/
theorem Reachable.live_chain_bounded [Fintype Cat] {agents : List BaseAgent} {immuneMemory : M}
    {s : System Cat Act M} (hH : H.Lawful) (hmem : mem.Lawful)
    (hs : Reachable H mem agents immuneMemory s) {cid : Nat} {ch : HealChain Cat Act}
    (hch : s.chains.get? cid = some ch) :
    ch.attempts.Nodup ∧ (∀ p ∈ ch.attempts, p.2 ∈ H.getHealingPolicy p.1) ∧
      ch.attempts.length ≤ ∑ c, (H.getHealingPolicy c).length ∧
      ch.depth ≤ ∑ c, (H.getHealingPolicy c).length ∧
      ch.steps ≤ 4 * ∑ c, (H.getHealingPolicy c).length + 2 := by
  have hwc := hs.chainsWf hH hmem cid ch hch
  obtain ⟨hnd, hpol⟩ := hwc.attempts
  have hatt := length_le_sum_policy H hnd hpol
  have happ := length_le_sum_policy H hwc.nodup hwc.inPolicy
  refine ⟨hnd, hpol, hatt, ?_⟩
  have hp := hwc.phase
  unfold HealChain.PhaseOk at hp
  unfold HealChain.attempts at hatt
  split at hp <;> rename_i hph <;> simp only [hph, List.length_append, List.length_singleton] at hatt <;>
    omega

end Control

end ImmuneSystem
