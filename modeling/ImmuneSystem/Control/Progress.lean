-- SUMMARY: Nothing waits forever: every heal chain can be ended by its own segments, `run()` can always reach its shutdown through "All quarantined agents healed", and the dashboard with the heal chains can release any quarantined agent.
import ImmuneSystem.Control.Calls
import ImmuneSystem.Control.Lifecycle

/-!
# Progress

What some schedule can always do next, from every reachable state.

`run()` gathers the heal chains its forced calls hand out with no timeout, and
only afterwards polls `healing_in_progress` against `DRAIN_TIMEOUT_SECONDS`. Its
shutdown therefore waits on two things: that the forced calls return, and that every
gathered chain ends. Neither needs the dashboard, the sentinel or the clock. The
forced calls return after one critical section per entry of the two maps. Every
chain has, in each phase, a segment that moves it on, whatever the diagnostician
says, and an apply that passes validation ends it; so the chains' own segments can
end them all. With no chain left `healing_in_progress` is empty, and the drain wait
ends in its "All quarantined agents healed" branch.

The same segments release a quarantined agent once it has a chain, and the approval
API gives it one from any other stage: it approves a pending agent, heals a rejected
one now, and files a rejection in flight first. So no agent is stuck in quarantine
while the event loop is free.

These are statements about what some schedule does, not about every schedule: under
a scheduler that never resumes a chain nothing ends. They rule out a wait on a step
that cannot happen.
-/

namespace ImmuneSystem

namespace Control

variable {Cat Act M : Type} (H : Healer Cat Act) (mem : ImmuneMemory M Cat Act)

/-- A step of `run()` itself, or a segment of a heal chain: no sweep, no call of the
dashboard, no chaos and no tick. -/
def Event.ofRunOrChain : Event Cat → Bool
  | .drainStarts | .drainStep | .drainGathered | .drainPolls | .drainTimesOut | .shutdown => true
  | e => e.chain?.isSome

theorem Event.ofRunOrChain_of_chain? {e : Event Cat} {cid : Nat} (h : e.chain? = some cid) :
    e.ofRunOrChain = true := by
  cases e <;> simp only [Event.chain?, reduceCtorEq] at h <;> rfl

open System

variable {s t : System Cat Act M} {cid : Nat} {ch : HealChain Cat Act}

theorem loopFree_of_drain (hd : t.drain = s.drain) : t.loopFree = s.loopFree := by
  simp only [loopFree, hd]

-- ---------------------------------------------------------------------------
-- Ending the heal chains
-- ---------------------------------------------------------------------------

/-- What the segments of a heal chain leave alone: the approval maps, the dashboard's
threads and the drain. -/
structure ChainFrame (s t : System Cat Act M) : Prop where
  pending : t.orch.pendingApprovals = s.orch.pendingApprovals
  rejected : t.orch.rejectedApprovals = s.orch.rejectedApprovals
  callers : t.callers = s.callers
  drain : t.drain = s.drain

theorem ChainFrame.trans {u : System Cat Act M} (h₁ : ChainFrame s t) (h₂ : ChainFrame t u) :
    ChainFrame s u :=
  ⟨h₂.pending.trans h₁.pending, h₂.rejected.trans h₁.rejected, h₂.callers.trans h₁.callers,
    h₂.drain.trans h₁.drain⟩

/-- Chain `cid` can be ended by its own segments, which leave the other chains as they are. -/
def Ends (s : System Cat Act M) (cid : Nat) : Prop :=
  ∃ es t, (∀ e ∈ es, e.chain? = some cid) ∧ run H mem s es = some t ∧
    t.chains = s.chains.erase cid ∧ ChainFrame s t

theorem Ends.of_step_erase {e : Event Cat} (h : step H mem s e = some t) (he : e.chain? = some cid)
    (hch : t.chains = s.chains.erase cid) (hf : ChainFrame s t) : Ends H mem s cid :=
  ⟨[e], t, by simpa using he, by rw [run, h]; rfl, hch, hf⟩

theorem Ends.of_step_insert {e : Event Cat} {ch' : HealChain Cat Act} (h : step H mem s e = some t)
    (he : e.chain? = some cid) (hch : t.chains = s.chains.insert cid ch') (hf : ChainFrame s t)
    (ht : Ends H mem t cid) : Ends H mem s cid := by
  obtain ⟨es, u, hes, hrun, hc, hfu⟩ := ht
  exact ⟨e :: es, u, List.forall_mem_cons.2 ⟨he, hes⟩, by rw [run, h, Option.some_bind, hrun],
    by rw [hc, hch, PyDict.erase_insert], hf.trans hfu⟩

section Phases

variable {d : Diagnosis Cat} (hf : s.loopFree = true)
include hf

theorem ends_applying {action : Act} (hg : s.chains.get? cid = some ch) (hp : ch.phase = .applying d action) :
    Ends H mem s cid := by
  obtain ⟨t, h⟩ := applied_progress H mem hg hf hp true
  have ht := applied_inv H mem h hg hp
  rw [if_pos rfl] at ht
  subst ht
  exact Ends.of_step_erase H mem h rfl rfl ⟨rfl, rfl, rfl, rfl⟩

theorem ends_consulted {failed : List Act} (hg : s.chains.get? cid = some ch)
    (hp : ch.phase = .consulted d failed) : Ends H mem s cid := by
  obtain ⟨t, h⟩ := select_progress H mem hg hf hp
  have ht := select_inv H mem h hg hp
  split at ht
  · subst ht
    exact Ends.of_step_erase H mem h rfl rfl ⟨rfl, rfl, rfl, rfl⟩
  · obtain ⟨ch', c, hp', rfl⟩ := ht
    exact Ends.of_step_insert H mem h rfl rfl ⟨rfl, rfl, rfl, rfl⟩ (ends_applying H mem hf c.get hp')

theorem ends_diagnosed (hg : s.chains.get? cid = some ch) (hp : ch.phase = .diagnosed d) :
    Ends H mem s cid := by
  obtain ⟨t, h⟩ := consult_progress H mem hg hf hp
  obtain ⟨ch', c, hp', rfl⟩ := consult_inv H mem h hg hp
  exact Ends.of_step_insert H mem h rfl rfl ⟨rfl, rfl, rfl, rfl⟩ (ends_consulted H mem hf c.get hp')

theorem ends_resumable (d : Diagnosis Cat) (hg : s.chains.get? cid = some ch)
    (hp : ch.phase = .scheduled ∨ ch.phase = .escalating) : Ends H mem s cid := by
  obtain ⟨t, h⟩ := resume_progress H mem hg hf hp d
  obtain ⟨ch', c, hp', rfl⟩ := resume_inv H mem h hg hp
  exact Ends.of_step_insert H mem h rfl rfl ⟨rfl, rfl, rfl, rfl⟩ (ends_diagnosed H mem hf c.get hp')

/-- While the event loop is free, every chain can be ended by its own segments, on any
diagnosis. -/
theorem ends_of_get? (d : Diagnosis Cat) (hg : s.chains.get? cid = some ch) : Ends H mem s cid := by
  cases hp : ch.phase with
  | scheduled => exact ends_resumable H mem hf d hg (.inl hp)
  | escalating => exact ends_resumable H mem hf d hg (.inr hp)
  | diagnosed => exact ends_diagnosed H mem hf hg hp
  | consulted => exact ends_consulted H mem hf hg hp
  | applying => exact ends_applying H mem hf hg hp

end Phases

/-- While the event loop is free, the chains' own segments can end every chain. -/
theorem ends_all (d : Diagnosis Cat) :
    ∀ n (s : System Cat Act M), s.chains.keys.length = n → s.loopFree = true →
      ∃ es t, (∀ e ∈ es, e.ofRunOrChain) ∧ run H mem s es = some t ∧ t.chains.keys = [] ∧ ChainFrame s t
  | 0, s, hn, _ => ⟨[], s, by simp, rfl, List.length_eq_zero.1 hn, rfl, rfl, rfl, rfl⟩
  | n + 1, s, hn, hf => by
    obtain ⟨cid, rest, hk⟩ := List.exists_cons_of_length_eq_add_one hn
    have hmem : cid ∈ s.chains.keys := hk ▸ List.mem_cons_self _ _
    obtain ⟨ch, hg⟩ := Option.ne_none_iff_exists'.1 (mt PyDict.get?_eq_none_iff.1 (not_not.2 hmem))
    obtain ⟨es, t, hes, hrun, hch, hd⟩ := ends_of_get? H mem hf d hg
    have hlen : t.chains.keys.length = n := by
      have := (PyDict.keys_perm_erase hmem).length_eq
      rw [hch]
      simp only [List.length_cons, hn] at this
      omega
    obtain ⟨es', u, hes', hrun', hu, hfu⟩ := ends_all d n t hlen (by rw [loopFree_of_drain hd.drain, hf])
    exact ⟨es ++ es', u, List.forall_mem_append.2 ⟨fun e he => Event.ofRunOrChain_of_chain? (hes e he), hes'⟩,
      by rw [run_append, hrun, Option.some_bind, hrun'], hu, hd.trans hfu⟩

-- ---------------------------------------------------------------------------
-- The drain
-- ---------------------------------------------------------------------------

/-- Some run of `run()`'s own steps and the chains' segments ends the drain wait with
`healing_in_progress` empty. -/
def Settles (s : System Cat Act M) : Prop :=
  ∃ es t, (∀ e ∈ es, e.ofRunOrChain) ∧ run H mem s es = some t ∧ t.drain = .healed

theorem Settles.of_run {es : List (Event Cat)} (hrun : run H mem s es = some t)
    (hes : ∀ e ∈ es, e.ofRunOrChain) (ht : Settles H mem t) : Settles H mem s := by
  obtain ⟨es', u, hes', hrun', hu⟩ := ht
  exact ⟨es ++ es', u, List.forall_mem_append.2 ⟨hes, hes'⟩, by rw [run_append, hrun, Option.some_bind, hrun'], hu⟩

theorem drainCheck_of_empty (h : s.orch.healingInProgress = ∅) : s.drainCheck.drain = .healed := by
  simp [drainCheck, h]

/-- With no chain left, nobody is in `healing_in_progress`. -/
theorem System.Inv.healingInProgress_eq_empty (hs : s.Inv) (h : s.chains.keys = []) :
    s.orch.healingInProgress = ∅ := by
  have he : s.chains.entries = [] := List.map_eq_nil_iff.1 h
  rw [hs.healing, System.healing, startedIds, he]
  rfl

variable {agents : List BaseAgent} {immuneMemory : M}

/-- Gathering or polling, the drain wait can end healed: the chains' segments end every
chain, and the gather or the poll then finds `healing_in_progress` empty. -/
theorem settles_of_waiting (d : Diagnosis Cat) (hs : Reachable H mem agents immuneMemory s)
    (hd : s.drain = .polling ∨ ∃ tasks, s.drain = .gathering tasks) : Settles H mem s := by
  have hf : s.loopFree = true := by rcases hd with hd | ⟨_, hd⟩ <;> simp [loopFree, hd]
  obtain ⟨es, t, hes, hrun, hk, hft⟩ := ends_all H mem d _ s rfl hf
  have hip := ((hs.run H mem hrun).inv).healingInProgress_eq_empty hk
  refine Settles.of_run H mem hrun hes ?_
  rw [← hft.drain] at hd
  rcases hd with hd | ⟨tasks, hd⟩
  · exact ⟨[.drainPolls], t.drainCheck, fun e he => by rw [List.mem_singleton.1 he]; rfl,
      by simp [run, step, loopStep, loopFree, hd], drainCheck_of_empty hip⟩
  · exact ⟨[.drainGathered], t.drainCheck, fun e he => by rw [List.mem_singleton.1 he]; rfl,
      by simp [run, step, loopStep, loopFree, hd, hk], drainCheck_of_empty hip⟩

/-- The forced calls return: the drain's steps run the rest of its thread, and then
gather the chains it handed out or poll. -/
theorem forced_return {prog : List Instr} {handedOut : List Nat}
    (hd : s.drain = .forcing ⟨prog, none, handedOut⟩) :
    ∃ k t, run H mem s (List.replicate k .drainStep) = some t ∧
      (t.drain = .healed ∨ t.drain = .polling ∨ ∃ tasks, t.drain = .gathering tasks) := by
  have h := callerRuns_foldl prog (fun i _ s => callRunsAlone_all s i) s [] handedOut
  rw [List.append_nil] at h
  obtain ⟨k, hk⟩ := h.run_drainStep H mem s.callers
  have hs : ({ s with callers := s.callers, drain := .forcing ⟨prog, none, handedOut⟩ } : System Cat Act M) = s := by
    rw [← hd]
  rw [hs] at hk
  let u : System Cat Act M := { prog.foldl callAtomic s with callers := s.callers }
  let ho := handedOut ++ newCids s (prog.foldl callAtomic s)
  refine ⟨k + 1, if ho = [] then u.drainCheck else { u with drain := .gathering ho }, ?_, ?_⟩
  · rw [List.replicate_succ', run_append, hk, Option.some_bind]
    rfl
  · split_ifs
    · unfold drainCheck
      split_ifs <;> simp
    · exact .inr (.inr ⟨ho, rfl⟩)

theorem forcing_return {c : Caller Cat} (hd : s.drain = .forcing c) :
    ∃ k t, run H mem s (List.replicate k .drainStep) = some t ∧
      (t.drain = .healed ∨ t.drain = .polling ∨ ∃ tasks, t.drain = .gathering tasks) := by
  obtain ⟨prog, _ | ⟨x, e⟩, handedOut⟩ := c
  · exact forced_return H mem hd
  · have h₁ : step H mem s .drainStep = some { { s with orch := s.orch.approveHealingReject x e s.clock } with
        drain := .forcing ⟨prog, none, handedOut⟩ } := by
      simp only [step, hd, callerStep]
    obtain ⟨k, t, hk, ht⟩ := forced_return H mem (s := { { s with orch := s.orch.approveHealingReject x e s.clock } with
      drain := .forcing ⟨prog, none, handedOut⟩ }) rfl
    exact ⟨k + 1, t, by rw [List.replicate_succ, run, h₁, Option.some_bind, hk], ht⟩

theorem settles_of_forcing (d : Diagnosis Cat) (hs : Reachable H mem agents immuneMemory s) {c : Caller Cat}
    (hd : s.drain = .forcing c) : Settles H mem s := by
  obtain ⟨k, t, hk, ht⟩ := forcing_return H mem hd
  refine Settles.of_run H mem hk (fun e he => by rw [List.eq_of_mem_replicate he]; rfl) ?_
  rcases ht with ht | ht
  · exact ⟨[], t, by simp, rfl, ht⟩
  · exact settles_of_waiting H mem d (hs.run H mem hk) ht

theorem Event.actor_of_chain? {e : Event Cat} (h : e.chain? = some cid) : e.actor = .healChain := by
  cases e <;> simp only [Event.chain?, reduceCtorEq] at h <;> rfl

/-- Ending its chain releases the chain's agent: `nodup` leaves the agent no other active
fault, and the chain's segments file none. -/
theorem System.Inv.free_of_ends (hs : s.Inv) (ht : t.Inv) (hg : s.chains.get? cid = some ch)
    (hch : t.chains = s.chains.erase cid) (hf : ChainFrame s t) :
    ch.agentId ∉ t.orch.quarantine.quarantined := by
  have hnd := hs.ledger.nodup
  rw [owners, chainIds, ids_of_get? hg, Multiset.add_cons, Multiset.nodup_cons] at hnd
  rw [ht.ledger.quarantined, Multiset.mem_toFinset, owners, chainIds, hch, hf.pending, hf.rejected,
    rejectingIds, allCallers, hf.callers, hf.drain]
  exact hnd.1

/-- Agent `x` can be taken out of quarantine by calls of the approval API and segments of
heal chains. -/
def Releasable (s : System Cat Act M) (x : String) : Prop :=
  ∃ es t, (∀ e ∈ es, e.actor = .approvalApi ∨ e.actor = .healChain) ∧ run H mem s es = some t ∧
    x ∉ t.orch.quarantine.quarantined

theorem Releasable.of_run {x : String} {es : List (Event Cat)} (hrun : run H mem s es = some t)
    (hes : ∀ e ∈ es, e.actor = .approvalApi ∨ e.actor = .healChain) (ht : Releasable H mem t x) :
    Releasable H mem s x := by
  obtain ⟨es', u, hes', hrun', hu⟩ := ht
  exact ⟨es ++ es', u, List.forall_mem_append.2 ⟨hes, hes'⟩,
    by rw [run_append, hrun, Option.some_bind, hrun'], hu⟩

/-- A dashboard call made alone: its thread starts, and its `callerStep`s run it to the
return with the effect of the call made in one piece. -/
theorem run_single_call (s : System Cat Act M) (i : Instr) :
    ∃ k, run H mem s (.call [i] :: List.replicate k (.callerStep s.callers.length)) =
      some { s.callAtomic i with
        callers := s.callers ++ [⟨[], none, newCids s (s.callAtomic i)⟩], drain := s.drain } := by
  obtain ⟨k, hk⟩ := (callRunsAlone_all s i [] []).run_callerStep H mem (i := s.callers.length)
    (s.callers ++ [⟨[i], none, []⟩]) (by simp) s.drain
  simp only [List.set_append_right _ _ (le_refl _), Nat.sub_self, List.set_cons_zero, List.nil_append] at hk
  exact ⟨k, by rw [run, step, Option.some_bind]; exact hk⟩

theorem callAtomic_approve_chain {x : String} {entry : PendingApproval Cat} (trigger : String)
    (hx : s.orch.pendingApprovals.get? x = some entry) :
    (s.callAtomic (.approveHealing x true trigger)).chains.get? s.nextCid =
      some ⟨x, entry.infection, trigger, .scheduled, [], 0, 0⟩ := by
  simp [callAtomic, Orchestrator.approveHealing, Orchestrator.approveHealingBegin, hx, schedule]

theorem callAtomic_healNow_chain {x : String} {entry : RejectedApproval Cat} (trigger : String)
    (hx : s.orch.rejectedApprovals.get? x = some entry) :
    (s.callAtomic (.startHealingExplicitly x trigger)).chains.get? s.nextCid =
      some ⟨x, entry.infection, trigger, .scheduled, [], 0, 0⟩ := by
  simp [callAtomic, Orchestrator.startHealingExplicitly, hx, schedule]

section Release

variable {x : String} (d : Diagnosis Cat) (hs : Reachable H mem agents immuneMemory s)
  (hf : s.loopFree = true)
include d hs hf

/-- An agent with a heal chain is released once the chain's segments end it. -/
theorem releasable_of_chain (hg : s.chains.get? cid = some ch) : Releasable H mem s ch.agentId := by
  obtain ⟨es, t, hes, hrun, hch, hft⟩ := ends_of_get? H mem hf d hg
  exact ⟨es, t, fun e he => .inr (Event.actor_of_chain? (hes e he)), hrun,
    hs.inv.free_of_ends (hs.run H mem hrun).inv hg hch hft⟩

/-- An agent that a dashboard call hands a chain is released by the call and the chain. -/
theorem releasable_of_call {i : Instr} (hi : (s.callAtomic i).chains.get? s.nextCid = some ch) :
    Releasable H mem s ch.agentId := by
  obtain ⟨k, hk⟩ := run_single_call H mem s i
  refine Releasable.of_run H mem hk (fun e he => .inl ?_) (releasable_of_chain H mem d (hs.run H mem hk) hf hi)
  rcases List.mem_cons.1 he with rfl | he
  · rfl
  · rw [List.eq_of_mem_replicate he]
    rfl

theorem releasable_of_pending (hx : x ∈ s.orch.pendingApprovals.keys) : Releasable H mem s x := by
  obtain ⟨entry, he⟩ := Option.ne_none_iff_exists'.1 (mt PyDict.get?_eq_none_iff.1 (not_not.2 hx))
  exact releasable_of_call H mem d hs hf (callAtomic_approve_chain "dashboard" he)

theorem releasable_of_rejected (hx : x ∈ s.orch.rejectedApprovals.keys) : Releasable H mem s x := by
  obtain ⟨entry, he⟩ := Option.ne_none_iff_exists'.1 (mt PyDict.get?_eq_none_iff.1 (not_not.2 hx))
  exact releasable_of_call H mem d hs hf (callAtomic_healNow_chain "dashboard" he)

/-- A rejection in flight is filed by its thread's next critical section, and the agent is
then rejected. -/
theorem releasable_of_rejecting (hx : x ∈ s.rejectingIds) : Releasable H mem s x := by
  rw [rejectingIds, allCallers_of_loopFree hf, Multiset.mem_coe, List.mem_flatMap] at hx
  obtain ⟨c, hc, hxc⟩ := hx
  obtain ⟨i, hi⟩ := List.mem_iff_getElem?.1 hc
  rcases hr : c.rejecting with _ | ⟨y, entry⟩
  · simp [Caller.rejectingId, hr] at hxc
  obtain rfl : x = y := by simpa [Caller.rejectingId, hr] using hxc
  have h₁ : Control.step H mem s (.callerStep i) = some { s with
      orch := s.orch.approveHealingReject x entry s.clock
      callers := s.callers.set i { c with rejecting := none } } := by
    simp only [Control.step, hi, callerStep, hr, Option.map_some']
  refine Releasable.of_run H mem (by rw [run, h₁]; rfl : run H mem s [.callerStep i] = some _)
    (fun e he => by rw [List.mem_singleton.1 he]; exact .inl rfl) ?_
  exact releasable_of_rejected H mem d (hs.step _ h₁) hf (PyDict.mem_keys_insert.2 (.inr rfl))

omit hf in
/-- While `run()` has not begun its drain, or gathers or polls, the dashboard and the heal
chains can take any agent out of quarantine, whatever its stage: some run of calls of the
approval API and of heal-chain segments, with no sweep, no tick and none of `run()`'s own
steps, ends with the agent released. The chains resume on any diagnosis `d`. -/
theorem Reachable.release_reachable
    (hd : s.drain = .waiting ∨ s.drain = .polling ∨ ∃ tasks, s.drain = .gathering tasks) (x : String) :
    ∃ es t, (∀ e ∈ es, e.actor = .approvalApi ∨ e.actor = .healChain) ∧ Control.run H mem s es = some t ∧
      x ∉ t.orch.quarantine.quarantined := by
  have hf : s.loopFree = true := by rcases hd with hd | hd | ⟨_, hd⟩ <;> simp [loopFree, hd]
  by_cases hq : x ∈ s.orch.quarantine.quarantined
  · rw [hs.inv.ledger.quarantined, Multiset.mem_toFinset, owners] at hq
    simp only [Multiset.mem_add, Multiset.mem_coe] at hq
    rcases hq with ((hp | hr) | hj) | hc
    · exact releasable_of_pending H mem d hs hf hp
    · exact releasable_of_rejected H mem d hs hf hr
    · exact releasable_of_rejecting H mem d hs hf hj
    · obtain ⟨cid, ch, hg, rfl⟩ := mem_ids_iff.1 hc
      exact releasable_of_chain H mem d hs hf hg
  · exact ⟨[], s, by simp, rfl, hq⟩

end Release

theorem release_reachable_from_pending :
    ∃ s, Control.run (Healer.firstUntried fun _ : Unit => [()]) ImmuneMemory.outcomeLog
        (System.init ((createAgentPool 2).getD []) [])
        [.sentinelWakes, .sweep "VPN" (some ⟨"VPN", 8⟩) ⟨(), 1, ""⟩] = some s ∧
      s.stageOf "VPN" = .pending ∧
      (s.drain = .waiting ∨ s.drain = .polling ∨ ∃ tasks, s.drain = .gathering tasks) ∧
      ∃ es t, (∀ e ∈ es, e.actor = .approvalApi ∨ e.actor = .healChain) ∧
        Control.run (Healer.firstUntried fun _ : Unit => [()]) ImmuneMemory.outcomeLog s es = some t ∧
        "VPN" ∉ t.orch.quarantine.quarantined :=
  ⟨_, (Option.some_get (by rfl)).symm, by decide, .inl (by decide),
    Reachable.release_reachable _ _ ⟨(), 1, ""⟩
      ((Reachable.init : Reachable _ _ ((createAgentPool 2).getD []) [] _).run _ _ (Option.some_get (by rfl)).symm)
      (.inl (by decide)) "VPN"⟩

end Control

end ImmuneSystem
