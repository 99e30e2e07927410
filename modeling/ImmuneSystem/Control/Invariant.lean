-- SUMMARY: The invariant of the control loop, preserved by every event: one active fault per agent, quarantine as its support, `healing_in_progress` as the started chains, agent statuses in agreement.
import ImmuneSystem.Control.Ledger

/-!
# The invariant

`Inv` holds at `run()`'s start and after every event, so in every reachable state.
The proof goes event by event. The dashboard's calls are the delicate part: a call
moves an active fault between the two approval maps, a rejection in flight, and a
new chain, and `CallerFootprint` records that it moves it and never creates or
drops one.
-/

namespace ImmuneSystem

namespace Control

variable {Cat Act M : Type}

namespace System

/-- The invariant of the control loop. -/
structure Inv (s : System Cat Act M) : Prop where
  ledger : s.Ledger
  healing : s.orch.healingInProgress = s.healing
  fresh : ∀ cid ∈ s.chains.keys, cid < s.nextCid
  drained : s.drain = .healed → s.orch.healingInProgress = ∅

/-- The active faults outside the approval threads. -/
def settled (s : System Cat Act M) : Multiset String :=
  ↑s.orch.pendingApprovals.keys + ↑s.orch.rejectedApprovals.keys + s.chainIds

theorem owners_eq (s : System Cat Act M) : s.owners = s.settled + s.rejectingIds := by
  simp only [owners, settled]
  exact add_right_comm _ _ _

/-- What one critical section of an approval thread changes: it moves active faults
between the maps, the thread and the chains, schedules at most one new chain, and
touches nothing else. -/
structure CallerFootprint (s s' : System Cat Act M) (c c' : Caller Cat) : Prop where
  moves : s'.settled + ↑c'.rejectingId = s.settled + ↑c.rejectingId
  quarantine : s'.orch.quarantine = s.orch.quarantine
  infections : s'.orch.totalInfections = s.orch.totalInfections
  healed : s'.orch.totalHealed = s.orch.totalHealed
  exhausted : s'.exhausted = s.exhausted
  agents : s'.orch.agents = s.orch.agents
  inProgress : s'.orch.healingInProgress = s.orch.healingInProgress
  memory : s'.orch.immuneMemory = s.orch.immuneMemory
  healing : s'.healing = s.healing
  callers : s'.callers = s.callers
  drain : s'.drain = s.drain
  fresh : ∀ cid ∈ s'.chains.keys, cid < s'.nextCid
  chains : s'.chains = s.chains ∨ ∃ x infection trigger,
    s'.chains = s.chains.insert s.nextCid ⟨x, infection, trigger, .scheduled, [], 0, 0⟩

theorem schedule_chainIds {s : System Cat Act M} (hf : ∀ cid ∈ s.chains.keys, cid < s.nextCid)
    (o : Orchestrator Cat Act M) (x : String) (infection : InfectionReport) (trigger : String) :
    ({ s with orch := o }.schedule x infection trigger).chainIds = x ::ₘ s.chainIds := by
  simp only [chainIds, schedule, ids_insert,
    PyDict.erase_of_not_mem (fun h => Nat.lt_irrefl _ (hf _ h))]

theorem schedule_healing {s : System Cat Act M} (hf : ∀ cid ∈ s.chains.keys, cid < s.nextCid)
    (o : Orchestrator Cat Act M) (x : String) (infection : InfectionReport) (trigger : String) :
    ({ s with orch := o }.schedule x infection trigger).healing = s.healing := by
  simp only [healing, schedule, startedIds_insert, HealChain.started, if_false, Bool.false_eq_true,
    PyDict.erase_of_not_mem (fun h => Nat.lt_irrefl _ (hf _ h))]

theorem schedule_fresh {s : System Cat Act M} (hf : ∀ cid ∈ s.chains.keys, cid < s.nextCid)
    (o : Orchestrator Cat Act M) (x : String) (infection : InfectionReport) (trigger : String) :
    ∀ cid ∈ ({ s with orch := o }.schedule x infection trigger).chains.keys,
      cid < ({ s with orch := o }.schedule x infection trigger).nextCid := by
  intro cid hcid
  simp only [schedule, PyDict.mem_keys_insert] at hcid ⊢
  rcases hcid with h | rfl
  · exact Nat.lt_succ_of_lt (hf _ h)
  · exact Nat.lt_succ_self _

variable {P : PyDict String (PendingApproval Cat)} {R : PyDict String (RejectedApproval Cat)}
  {L : List (ActionLogEntry Cat Act)}

/-- A section that only rewrites the orchestrator's approval maps and log. -/
theorem CallerFootprint.of_orch {s : System Cat Act M} {c c' : Caller Cat}
    (hf : ∀ cid ∈ s.chains.keys, cid < s.nextCid)
    (hmoves : ↑P.keys + ↑R.keys + s.chainIds + ↑c'.rejectingId = s.settled + ↑c.rejectingId) :
    CallerFootprint s
      { s with orch := { s.orch with pendingApprovals := P, rejectedApprovals := R, healingActionLog := L } }
      c c' :=
  ⟨hmoves, rfl, rfl, rfl, rfl, rfl, rfl, rfl, rfl, rfl, rfl, hf, .inl rfl⟩

/-- A section that rewrites the approval maps and log, then schedules a chain. -/
theorem CallerFootprint.of_schedule {s : System Cat Act M} {c c' : Caller Cat} {x : String}
    {infection : InfectionReport} {trigger : String} (hf : ∀ cid ∈ s.chains.keys, cid < s.nextCid)
    (hmoves : ↑P.keys + ↑R.keys + x ::ₘ s.chainIds + ↑c'.rejectingId = s.settled + ↑c.rejectingId) :
    CallerFootprint s
      ({ s with orch := { s.orch with pendingApprovals := P, rejectedApprovals := R, healingActionLog := L } }
        |>.schedule x infection trigger) c c' :=
  ⟨by rw [settled, schedule_chainIds hf]; exact hmoves, rfl, rfl, rfl, rfl, rfl, rfl, rfl,
    schedule_healing hf _ x infection trigger, rfl, rfl, schedule_fresh hf _ x infection trigger,
    .inr ⟨x, infection, trigger, rfl⟩⟩

theorem keys_coe_of_get? {V : Type} {d : PyDict String V} {x : String} {v : V} (h : d.get? x = some v) :
    (↑d.keys : Multiset String) = x ::ₘ ↑(d.erase x).keys :=
  Multiset.coe_eq_coe.2 (PyDict.keys_perm_erase (PyDict.mem_keys_of_get? h))

theorem keys_coe_insert {V : Type} {d : PyDict String V} {x : String} (v : V) (h : x ∉ d.keys) :
    (↑(d.insert x v).keys : Multiset String) = x ::ₘ ↑d.keys := by
  rw [PyDict.keys_insert, if_neg h]
  exact Multiset.coe_eq_coe.2 (List.perm_append_singleton _ _)

theorem callerStep_footprint {s s' : System Cat Act M} {c c' : Caller Cat}
    (hs : s.Inv) (hc : c ∈ s.allCallers) (h : callerStep s c = some (s', c')) :
    CallerFootprint s s' c c' := by
  obtain ⟨prog, rej, handed⟩ := c
  cases rej with
  | some p =>
    obtain ⟨x, e⟩ := p
    simp only [callerStep, Option.some.injEq, Prod.mk.injEq] at h
    obtain ⟨rfl, rfl⟩ := h
    have hx : x ∉ s.orch.rejectedApprovals.keys := by
      have hmem : x ∈ s.rejectingIds := Multiset.mem_coe.2 (List.mem_flatMap.2 ⟨_, hc, by simp [Caller.rejectingId]⟩)
      have hnd := hs.ledger.nodup
      rw [owners, Multiset.nodup_add, Multiset.nodup_add] at hnd
      exact fun hr => Multiset.disjoint_left.1 hnd.1.2.2 (Multiset.mem_add.2 (.inr (Multiset.mem_coe.2 hr))) hmem
    refine CallerFootprint.of_orch hs.fresh ?_
    simp only [settled, chainIds, Orchestrator.approveHealingReject, keys_coe_insert _ hx,
      Caller.rejectingId, Option.map_some', Option.map_none', Option.toList_some, Option.toList_none,
      Multiset.coe_nil, Multiset.coe_singleton, ← Multiset.cons_zero, Multiset.add_cons, Multiset.cons_add,
      add_zero]
  | none =>
    cases prog with
    | nil => simp [callerStep] at h
    | cons instr rest =>
      cases instr with
      | approveHealing x approved trigger =>
        cases hg : s.orch.pendingApprovals.get? x with
        | none =>
          simp only [callerStep, Orchestrator.approveHealingBegin, hg, Option.some.injEq,
            Prod.mk.injEq] at h
          obtain ⟨rfl, rfl⟩ := h
          refine CallerFootprint.of_orch hs.fresh ?_
          simp only [settled, chainIds, PyDict.erase_of_not_mem (PyDict.get?_eq_none_iff.1 hg),
            Caller.rejectingId]
        | some entry =>
          cases approved
          · simp only [callerStep, Orchestrator.approveHealingBegin, hg, Option.some.injEq,
              Prod.mk.injEq, Bool.false_eq_true, if_false] at h
            obtain ⟨rfl, rfl⟩ := h
            refine CallerFootprint.of_orch hs.fresh ?_
            simp only [settled, chainIds, Orchestrator.logAction, keys_coe_of_get? hg,
              Caller.rejectingId, Option.map_some', Option.map_none', Option.toList_some,
              Option.toList_none, Multiset.coe_nil, Multiset.coe_singleton, ← Multiset.cons_zero,
              Multiset.add_cons, Multiset.cons_add, add_zero]
          · simp only [callerStep, Orchestrator.approveHealingBegin, hg, Option.some.injEq,
              Prod.mk.injEq, if_true] at h
            obtain ⟨rfl, rfl⟩ := h
            refine CallerFootprint.of_schedule hs.fresh ?_
            simp only [settled, chainIds, Orchestrator.logAction, keys_coe_of_get? hg,
              Caller.rejectingId, Option.map_none', Option.toList_none, Multiset.coe_nil,
              Multiset.add_cons, Multiset.cons_add, add_zero]
      | approveAllPending approved trigger =>
        simp only [callerStep, Option.some.injEq, Prod.mk.injEq] at h
        obtain ⟨rfl, rfl⟩ := h
        exact CallerFootprint.of_orch hs.fresh (by rfl)
      | startHealingExplicitly x trigger =>
        cases hg : s.orch.rejectedApprovals.get? x with
        | none =>
          simp only [callerStep, Orchestrator.startHealingExplicitly, hg, Option.some.injEq,
            Prod.mk.injEq] at h
          obtain ⟨rfl, rfl⟩ := h
          refine CallerFootprint.of_orch hs.fresh ?_
          simp only [settled, chainIds, PyDict.erase_of_not_mem (PyDict.get?_eq_none_iff.1 hg),
            Caller.rejectingId]
        | some entry =>
          simp only [callerStep, Orchestrator.startHealingExplicitly, hg, Option.some.injEq,
            Prod.mk.injEq] at h
          obtain ⟨rfl, rfl⟩ := h
          refine CallerFootprint.of_schedule hs.fresh ?_
          simp only [settled, chainIds, Orchestrator.logAction, keys_coe_of_get? hg,
            Caller.rejectingId, Option.map_none', Option.toList_none, Multiset.coe_nil,
            Multiset.add_cons, Multiset.cons_add, add_zero]
      | startHealingAllRejected trigger =>
        simp only [callerStep, Option.some.injEq, Prod.mk.injEq] at h
        obtain ⟨rfl, rfl⟩ := h
        exact CallerFootprint.of_orch hs.fresh (by rfl)

-- ---------------------------------------------------------------------------
-- Heal chains
-- ---------------------------------------------------------------------------

theorem Inv.not_mem_ids_erase {s : System Cat Act M} {cid : Nat} {ch : HealChain Cat Act}
    (hs : s.Inv) (hch : s.chains.get? cid = some ch) : ch.agentId ∉ ids (s.chains.erase cid) := by
  have hnd := hs.ledger.nodup
  rw [owners, chainIds, ids_of_get? hch, Multiset.add_cons, Multiset.nodup_cons] at hnd
  exact fun h => hnd.1 (Multiset.mem_add.2 (.inr h))

theorem Inv.mem_healing {s : System Cat Act M} {cid : Nat} {ch : HealChain Cat Act}
    (hs : s.Inv) (hch : s.chains.get? cid = some ch) (hst : ch.started = true) :
    ch.agentId ∈ s.orch.healingInProgress := by
  rw [hs.healing, System.healing, startedIds_of_get? hch, if_pos hst]
  exact Finset.mem_insert_self _ _

/-- While a started chain lives, the drain has not ended healed. -/
theorem Inv.drain_ne_healed {s : System Cat Act M} {cid : Nat} {ch : HealChain Cat Act}
    (hs : s.Inv) (hch : s.chains.get? cid = some ch) (hst : ch.started = true) :
    s.drain ≠ .healed := fun h =>
  Finset.not_mem_empty _ (hs.drained h ▸ hs.mem_healing hch hst)

theorem drain_ne_healed_of_loopFree {s : System Cat Act M} (h : s.loopFree = true) :
    s.drain ≠ .healed := fun hd => by simp [loopFree, hd] at h

theorem drainCheck_drained (s : System Cat Act M) :
    s.drainCheck.drain = .healed → s.drainCheck.orch.healingInProgress = ∅ := by
  unfold drainCheck
  split_ifs with hp
  · exact fun _ => hp
  · exact fun h => by cases h

/-- A segment that rewrites its chain in place, keeps its agent, and touches only the
immune memory, the log, the failure count and `healing_in_progress`, which gains the agent. -/
theorem Inv.replace {s : System Cat Act M} {cid : Nat} {ch ch' : HealChain Cat Act}
    {m : M} {log : List (ActionLogEntry Cat Act)} {failed : Nat} {inProgress : Finset String}
    (hs : s.Inv) (hch : s.chains.get? cid = some ch) (ha : ch'.agentId = ch.agentId)
    (hst : ch'.started = true) (hp : inProgress = insert ch.agentId s.orch.healingInProgress)
    (hd : s.drain ≠ .healed) :
    Inv { s with
      orch := { s.orch with
        immuneMemory := m, healingActionLog := log,
        totalFailedHealings := failed, healingInProgress := inProgress }
      chains := s.chains.insert cid ch' } := by
  refine ⟨hs.ledger.same ?_ rfl rfl rfl, ?_, ?_, fun h => absurd h hd⟩
  · show _ + ids (s.chains.insert cid ch') = _ + ids s.chains
    rw [ids_insert, ids_of_get? hch, ha]
    rfl
  · show inProgress = startedIds (s.chains.insert cid ch')
    rw [hp, hs.healing, System.healing, startedIds_insert, startedIds_of_get? hch, if_pos hst, ha]
    split <;> simp
  · intro c hc
    rcases PyDict.mem_keys_insert.1 hc with h | rfl
    · exact hs.fresh _ h
    · exact hs.fresh _ (PyDict.mem_keys_of_get? hch)

/-- A segment that ends a started chain with the release of its agent. -/
theorem Inv.finish {s : System Cat Act M} {cid : Nat} {ch : HealChain Cat Act}
    {m : M} {log : List (ActionLogEntry Cat Act)} {healed exhausted : Nat}
    (hs : s.Inv) (hch : s.chains.get? cid = some ch) (hst : ch.started = true)
    (hc : healed + exhausted = s.orch.totalHealed + s.exhausted + 1) :
    Inv { s with
      orch := { s.orch with
        immuneMemory := m, healingActionLog := log, totalHealed := healed,
        quarantine := s.orch.quarantine.release ch.agentId,
        agents := s.orch.agents.modify ch.agentId BaseAgent.release,
        healingInProgress := s.orch.healingInProgress.erase ch.agentId }
      chains := s.chains.erase cid
      exhausted := exhausted } := by
  refine ⟨hs.ledger.remove (x := ch.agentId) ?_ rfl rfl hc, ?_, ?_,
    fun h => by simp [hs.drained h]⟩
  · rw [owners, chainIds, ids_of_get? hch, Multiset.add_cons]
    rfl
  · show _ = startedIds (s.chains.erase cid)
    rw [hs.healing, System.healing, startedIds_of_get? hch, if_pos hst, Finset.erase_insert]
    exact fun h => hs.not_mem_ids_erase hch (mem_ids_of_mem_startedIds h)
  · exact fun c hc => hs.fresh c (PyDict.mem_keys_erase.1 hc).1

variable {s s' : System Cat Act M} {cid : Nat}

theorem chainResume_inv {d : Diagnosis Cat} (hs : s.Inv) (hd : s.drain ≠ .healed)
    (h : s.chainResume cid d = some s') : s'.Inv := by
  simp only [chainResume, Option.bind_eq_some] at h
  obtain ⟨ch, hch, h⟩ := h
  split at h <;> cases h <;> refine hs.replace hch ?_ ?_ ?_ hd <;> rfl

theorem chainConsult_inv (mem : ImmuneMemory M Cat Act) (hs : s.Inv) (h : chainConsult mem s cid = some s') :
    s'.Inv := by
  simp only [chainConsult, Option.bind_eq_some] at h
  obtain ⟨ch, hch, h⟩ := h
  split at h
  · rename_i d hph
    have hst : ch.started = true := by simp [HealChain.started, hph]
    cases h
    exact hs.replace hch (by rfl) (by rfl) (Finset.insert_eq_of_mem (hs.mem_healing hch hst)).symm
      (hs.drain_ne_healed hch hst)
  · cases h

theorem chainSelect_inv (H : Healer Cat Act) (hs : s.Inv) (h : chainSelect H s cid = some s') :
    s'.Inv := by
  simp only [chainSelect, Option.bind_eq_some] at h
  obtain ⟨ch, hch, h⟩ := h
  split at h
  · rename_i d failed hph
    have hst : ch.started = true := by simp [HealChain.started, hph]
    split at h <;> cases h
    · exact hs.finish hch hst rfl
    · exact hs.replace hch (by rfl) (by rfl) (Finset.insert_eq_of_mem (hs.mem_healing hch hst)).symm
        (hs.drain_ne_healed hch hst)
  · cases h

theorem chainApplied_inv (mem : ImmuneMemory M Cat Act) {passed : Bool} (hs : s.Inv)
    (h : chainApplied mem s cid passed = some s') : s'.Inv := by
  simp only [chainApplied, Option.bind_eq_some] at h
  obtain ⟨ch, hch, h⟩ := h
  split at h
  · rename_i d action hph
    have hst : ch.started = true := by simp [HealChain.started, hph]
    cases passed <;> cases h
    · exact hs.replace hch (by rfl) (by rfl) (Finset.insert_eq_of_mem (hs.mem_healing hch hst)).symm
        (hs.drain_ne_healed hch hst)
    · exact hs.finish hch hst (Nat.add_right_comm _ _ _)
  · cases h

-- ---------------------------------------------------------------------------
-- The sweep
-- ---------------------------------------------------------------------------

/-- A sweep that detects an infection quarantines an agent with no active fault and
gives it exactly one: a pending entry or a scheduled chain. -/
theorem sweep_inv {x : String} {detection : Option InfectionReport} {diagnosis : Diagnosis Cat}
    (hs : s.Inv) : (s.sweep x detection diagnosis).Inv := by
  unfold sweep
  split
  · exact hs
  rename_i hq
  rcases detection with _ | infection
  · exact hs
  dsimp only
  split
  · exact hs
  have hx : x ∉ s.owners := fun h =>
    hq ((QuarantineController.isQuarantined_iff _ _).2 (hs.ledger.quarantined ▸ Multiset.mem_toFinset.2 h))
  have hxP : x ∉ s.orch.pendingApprovals.keys := fun h => hx (by rw [owners]; simp [h])
  split
  · refine ⟨hs.ledger.add hx ?_ rfl rfl rfl, hs.healing, hs.fresh, hs.drained⟩
    show (↑(s.orch.pendingApprovals.insert x _).keys : Multiset String) + _ + _ + _ = _
    rw [keys_coe_insert _ hxP, owners, Multiset.cons_add, Multiset.cons_add, Multiset.cons_add]
    rfl
  · refine ⟨hs.ledger.add hx ?_ rfl rfl rfl, ?_, schedule_fresh hs.fresh _ _ _ _, hs.drained⟩
    · rw [owners, owners, schedule_chainIds hs.fresh, Multiset.add_cons]
      rfl
    · rw [schedule_healing hs.fresh]
      exact hs.healing

-- ---------------------------------------------------------------------------
-- Threads of the approval API
-- ---------------------------------------------------------------------------

/-- A thread that has nothing left to do files no rejection. -/
theorem rejectingId_of_callerStep_eq_none {c : Caller Cat} (h : callerStep s c = none) :
    c.rejectingId = [] := by
  unfold Caller.rejectingId
  cases hr : c.rejecting with
  | none => rfl
  | some p => simp [callerStep, hr] at h

/-- After a critical section of a thread, with the thread's new state put back in place. -/
theorem Inv.of_footprint {s₁ t : System Cat Act M} {c c' : Caller Cat} (hs : s.Inv)
    (fp : CallerFootprint s s₁ c c') (ho : t.orch = s₁.orch) (hch : t.chains = s₁.chains)
    (hn : t.nextCid = s₁.nextCid) (he : t.exhausted = s₁.exhausted)
    (hr : t.rejectingIds + ↑c.rejectingId = s.rejectingIds + ↑c'.rejectingId)
    (hd : t.drain = .healed → t.orch.healingInProgress = ∅) : t.Inv := by
  have hsettled : t.settled = s₁.settled := by simp only [settled, chainIds, ho, hch]
  have hown : t.owners + ↑c.rejectingId = s.owners + ↑c.rejectingId :=
    calc t.owners + ↑c.rejectingId = s₁.settled + ↑c'.rejectingId + s.rejectingIds := by
          rw [owners_eq, add_assoc, hr, hsettled, ← add_assoc, add_right_comm]
      _ = s.owners + ↑c.rejectingId := by rw [fp.moves, owners_eq, add_right_comm]
  refine ⟨hs.ledger.same (add_right_cancel hown) (by rw [ho, fp.quarantine])
    (by rw [ho, fp.infections]) (by rw [ho, he, fp.healed, fp.exhausted]), ?_, ?_, hd⟩
  · rw [ho, fp.inProgress, hs.healing, ← fp.healing, System.healing, System.healing, hch]
  · rw [hch, hn]
    exact fp.fresh

-- ---------------------------------------------------------------------------
-- Every step
-- ---------------------------------------------------------------------------

theorem allCallers_of_loopFree (h : s.loopFree = true) : s.allCallers = s.callers := by
  unfold loopFree at h
  unfold allCallers
  split <;> simp_all

/-- The fields the invariant reads, apart from the threads and the drain. -/
def ledgerView (s : System Cat Act M) :=
  (s.orch.pendingApprovals, s.orch.rejectedApprovals, s.orch.quarantine, s.orch.totalInfections,
    s.orch.totalHealed, s.orch.healingInProgress, s.chains, s.nextCid, s.exhausted)

/-- A step that keeps every field the invariant reads, the threads' rejections in flight
and, once the drain has ended, the empty `healing_in_progress`. -/
theorem Inv.frame {t : System Cat Act M} (hs : s.Inv) (hv : t.ledgerView = s.ledgerView)
    (hr : t.rejectingIds = s.rejectingIds) (hd : t.drain = .healed → t.orch.healingInProgress = ∅) :
    t.Inv := by
  simp only [ledgerView, Prod.mk.injEq] at hv
  obtain ⟨hP, hR, hq, hi, hh, hp, hch, hn, he⟩ := hv
  exact ⟨hs.ledger.same (by simp only [owners, chainIds, hr, hP, hR, hch]) (by rw [hq]) hi (by rw [hh, he]),
    by rw [hp, hs.healing, System.healing, System.healing, hch], by rw [hch, hn]; exact hs.fresh, hd⟩

theorem foldl_withAgent {α : Type} (g : α → String) (f : α → BaseAgent → BaseAgent) (l : List α)
    (s : System Cat Act M) :
    l.foldl (fun s t => s.withAgent (g t) (f t)) s =
      { s with orch := { s.orch with agents := l.foldl (fun a t => a.modify (g t) (f t)) s.orch.agents } } := by
  induction l generalizing s with
  | nil => rfl
  | cons t l ih => exact ih _

variable (H : Healer Cat Act) (mem : ImmuneMemory M Cat Act)

theorem loopStep_inv {e : Event Cat} (hs : s.Inv) (hf : s.loopFree = true)
    (h : loopStep H mem s e = some s') : s'.Inv := by
  have hr : ∀ {t : System Cat Act M}, t.callers = s.callers → t.allCallers = t.callers →
      t.rejectingIds = s.rejectingIds := fun hc ht => by
    rw [rejectingIds, rejectingIds, ht, allCallers_of_loopFree hf, hc]
  have hdc : s.drainCheck.allCallers = s.drainCheck.callers := by
    unfold drainCheck allCallers
    split_ifs <;> simp
  cases e with
  | agentLoop x =>
    simp only [loopStep] at h
    split_ifs at h <;> cases h
    · exact hs
    · exact hs.frame rfl rfl hs.drained
  | sentinelWakes | chaosStops | cure x =>
    simp only [loopStep] at h
    split_ifs at h
    cases h
    exact hs.frame rfl rfl hs.drained
  | chaosWave targets =>
    simp only [loopStep, foldl_withAgent] at h
    split_ifs at h
    cases h
    exact hs.frame rfl rfl hs.drained
  | sweep x detection diagnosis =>
    simp only [loopStep] at h
    split_ifs at h
    cases h
    exact sweep_inv hs
  | chainResume cid d => exact chainResume_inv hs (drain_ne_healed_of_loopFree hf) h
  | chainConsult cid => exact chainConsult_inv mem hs h
  | chainSelect cid => exact chainSelect_inv H hs h
  | chainApplied cid passed => exact chainApplied_inv mem hs h
  | drainStarts =>
    simp only [loopStep] at h
    split at h <;> cases h
    refine hs.frame rfl ?_ (fun h => by cases h)
    rw [rejectingIds, rejectingIds, allCallers_of_loopFree hf]
    simp [allCallers, Caller.rejectingId]
  | drainGathered =>
    simp only [loopStep] at h
    split at h <;> try cases h
    split_ifs at h
    cases h
    exact hs.frame rfl (hr rfl hdc) (drainCheck_drained s)
  | drainPolls =>
    simp only [loopStep] at h
    split at h <;> cases h
    exact hs.frame rfl (hr rfl hdc) (drainCheck_drained s)
  | drainTimesOut =>
    simp only [loopStep] at h
    split at h <;> try cases h
    split_ifs at h
    cases h
    exact hs.frame rfl (hr rfl (by simp [allCallers])) (fun h => by cases h)
  | _ => cases h

/-- `Inv` is preserved by every event. -/
theorem Inv.step {e : Event Cat} (hs : s.Inv) (h : step H mem s e = some s') : s'.Inv := by
  cases e
  case tick =>
    cases h
    exact hs.frame rfl rfl hs.drained
  case call program =>
    cases h
    refine hs.frame rfl ?_ hs.drained
    simp [rejectingIds, allCallers, Caller.rejectingId]
  case callerStep i =>
    simp only [Control.step] at h
    split at h
    · cases h
    rename_i c hc
    obtain ⟨⟨s₁, c'⟩, h₁, rfl⟩ := Option.map_eq_some'.1 h
    have fp := callerStep_footprint hs (List.mem_append_left _ (List.getElem?_mem hc)) h₁
    refine hs.of_footprint fp rfl rfl rfl rfl ?_ fun h => fp.inProgress.trans (hs.drained (fp.drain ▸ h))
    have hp := Multiset.coe_eq_coe.2 (flatMap_set_perm Caller.rejectingId hc c')
    simp only [← Multiset.coe_add] at hp
    simp only [rejectingIds, allCallers, fp.callers, fp.drain, List.flatMap_append, ← Multiset.coe_add]
    rw [add_right_comm, hp, add_right_comm]
  case drainStep =>
    simp only [Control.step] at h
    split at h
    · rename_i c hd
      have hc : c ∈ s.allCallers := by simp [allCallers, hd]
      split at h
      · rename_i s₁ c' h₁
        cases h
        have fp := callerStep_footprint hs hc h₁
        refine hs.of_footprint fp rfl rfl rfl rfl ?_ (fun h => by cases h)
        simp only [rejectingIds, allCallers, fp.callers, hd, List.flatMap_append, ← Multiset.coe_add,
          List.flatMap_cons, List.flatMap_nil, List.append_nil]
        exact add_right_comm _ _ _
      · rename_i h₁
        have hr : s.rejectingIds = ↑(s.callers.flatMap Caller.rejectingId) := by
          simp [rejectingIds, allCallers, hd, rejectingId_of_callerStep_eq_none h₁]
        cases h
        split
        · refine hs.frame rfl ?_ (drainCheck_drained s)
          rw [hr, rejectingIds, allCallers]
          unfold drainCheck
          split_ifs <;> simp
        · refine hs.frame rfl ?_ (fun h => by cases h)
          rw [hr]
          simp [rejectingIds, allCallers]
    · cases h
  case shutdown =>
    simp only [Control.step] at h
    split at h <;> cases h <;>
      exact hs.frame rfl (by simp [rejectingIds, allCallers, *]) (fun h => by cases h)
  all_goals
    simp only [Control.step] at h
    split at h
    · exact loopStep_inv H mem hs ‹_› h
    · cases h

theorem Inv.init (agents : List BaseAgent) (immuneMemory : M) :
    (System.init agents immuneMemory : System Cat Act M).Inv :=
  ⟨⟨Multiset.nodup_zero, rfl, rfl, rfl⟩, rfl, fun _ h => absurd h (List.not_mem_nil _), fun h => by cases h⟩

end System

open System in
/-- `Inv` holds in every reachable state. -/
theorem Reachable.inv {H : Healer Cat Act} {mem : ImmuneMemory M Cat Act} {agents : List BaseAgent}
    {immuneMemory : M} {s : System Cat Act M} (h : Reachable H mem agents immuneMemory s) : s.Inv := by
  induction h with
  | init => exact Inv.init agents immuneMemory
  | step e _ hstep ih => exact ih.step H mem hstep

end Control

end ImmuneSystem
