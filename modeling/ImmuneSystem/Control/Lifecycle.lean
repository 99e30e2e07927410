-- SUMMARY: Each agent's immune response as an abstract state machine, and the control loop as a refinement of it: every step moves at most one agent, along an edge its task may take.
import ImmuneSystem.Control.Invariant

/-!
# The lifecycle of an agent

Seen from one agent, the control loop is a small state machine. A sweep that
detects an infection takes a free agent to a pending approval or, below the
approval threshold, to a scheduled heal chain. The dashboard approves a pending
agent into a scheduled chain or starts a rejection; the rejection is filed, and
"Heal now" takes a rejected agent to a scheduled chain. The chain starts, runs
through its escalations, and releases the agent. `Move` lists these edges, each
with the task or thread that takes it.

`stageOf` reads an agent's stage off the system: the two approval maps, the
rejections in flight, `healing_in_progress` and the chains. Every step of the
system from a reachable state is a step of this lifecycle for all agents at once:
nothing moves, or one agent moves along an edge its actor may take. So an agent
leaves quarantine only at the end of a heal chain that has started, a rejected
agent waits for "Heal now", and the clock, the agent loops, chaos and `run()`'s
own steps move no agent.

The proof tags each active fault of `owners` with its stage. The invariant's
`nodup` makes the tag a function of the agent, and every step replaces at most one
tag.
-/

namespace ImmuneSystem

namespace Control

/-- Where an agent is in its immune response. -/
inductive Stage
  /-- No active fault: out of quarantine. -/
  | free
  /-- Awaiting the dashboard's decision on a severe detection. -/
  | pending
  /-- Popped by `approve_healing(id, False)`, not yet filed. -/
  | rejecting
  /-- Filed under `_rejected_approvals`, waiting for "Heal now". -/
  | rejected
  /-- Handed a `heal_agent` task that has not started. -/
  | scheduled
  /-- Inside `heal_agent`, through all its escalations. -/
  | healing
  deriving DecidableEq, Repr

/-- The task or thread an event is a step of. -/
inductive Actor
  | clock
  | agentLoop
  | sentinel
  | chaos
  | healChain
  | approvalApi
  | drain
  deriving DecidableEq, Repr

variable {Cat Act M : Type}

/-- The actor of an event. `run()` makes its forced calls inside the approval API, and
the cure of `apply_healing` belongs to the chain that awaits it. -/
def Event.actor : Event Cat → Actor
  | .tick => .clock
  | .agentLoop _ => .agentLoop
  | .sentinelWakes | .sweep .. => .sentinel
  | .chaosWave _ | .chaosStops => .chaos
  | .chainResume .. | .chainConsult _ | .chainSelect _ | .chainApplied .. | .cure _ => .healChain
  | .call _ | .callerStep _ | .drainStep => .approvalApi
  | .drainStarts | .drainGathered | .drainPolls | .drainTimesOut | .shutdown => .drain

/-- The edges of the lifecycle, each with the actor that takes it. -/
inductive Move : Actor → Stage → Stage → Prop
  | detectSevere : Move .sentinel .free .pending
  | detectMild : Move .sentinel .free .scheduled
  | approve : Move .approvalApi .pending .scheduled
  | reject : Move .approvalApi .pending .rejecting
  | file : Move .approvalApi .rejecting .rejected
  | healNow : Move .approvalApi .rejected .scheduled
  | start : Move .healChain .scheduled .healing
  | release : Move .healChain .healing .free

theorem Move.ne {a : Actor} {st st' : Stage} (h : Move a st st') : st ≠ st' := by
  cases h <;> decide

/-- One step of the lifecycle of all agents: nothing moves, or one agent moves along an
edge of the actor while every other agent stays. -/
def LifecycleStep (a : Actor) (σ σ' : String → Stage) : Prop :=
  σ' = σ ∨ ∃ x, Move a (σ x) (σ' x) ∧ ∀ y, y ≠ x → σ' y = σ y

/-- The stage a heal chain gives its agent. -/
def HealChain.stage (ch : HealChain Cat Act) : Stage := if ch.started then .healing else .scheduled

theorem HealChain.stage_ne_free (ch : HealChain Cat Act) : ch.stage ≠ .free := by
  unfold HealChain.stage
  split <;> decide

/-- The tag of agent `x` at stage `st`; a free agent has none. -/
def Stage.tag (x : String) : Stage → Multiset (String × Stage)
  | .free => 0
  | st => {(x, st)}

theorem Stage.tag_of_ne {st : Stage} (x : String) (h : st ≠ .free) : st.tag x = {(x, st)} := by
  cases st <;> first | exact absurd rfl h | rfl

theorem Stage.mem_tag {st u : Stage} {x y : String} (h : (y, u) ∈ st.tag x) : y = x ∧ u = st := by
  cases st <;> simp_all [Stage.tag]

/-- The rejection a thread has in flight, tagged. -/
def Caller.tags (c : Caller Cat) : Multiset (String × Stage) := ↑(c.rejectingId.map (·, Stage.rejecting))

namespace System

/-- The stage of agent `x`, read off the approval maps, the rejections in flight,
`healing_in_progress` and the heal chains. -/
def stageOf (s : System Cat Act M) (x : String) : Stage :=
  if x ∈ s.orch.pendingApprovals.keys then .pending
  else if x ∈ s.orch.rejectedApprovals.keys then .rejected
  else if x ∈ s.rejectingIds then .rejecting
  else if x ∈ s.orch.healingInProgress then .healing
  else if x ∈ s.chainIds then .scheduled
  else .free

/-- Before anything is detected every agent is free. -/
theorem stageOf_init (agents : List BaseAgent) (immuneMemory : M) :
    (System.init agents immuneMemory : System Cat Act M).stageOf = fun _ => .free := rfl

-- ---------------------------------------------------------------------------
-- Tags
-- ---------------------------------------------------------------------------

/-- The stages of the chains of a table, by agent. -/
def chainTags (d : PyDict Nat (HealChain Cat Act)) : Multiset (String × Stage) :=
  ↑(d.entries.map fun e => (e.2.agentId, e.2.stage))

/-- The active faults outside the approval threads, tagged with their stages. -/
def settledTags (s : System Cat Act M) : Multiset (String × Stage) :=
  ↑(s.orch.pendingApprovals.keys.map (·, Stage.pending)) +
    ↑(s.orch.rejectedApprovals.keys.map (·, Stage.rejected)) + chainTags s.chains

/-- Every active fault, tagged with the stage it gives its agent. -/
def tags (s : System Cat Act M) : Multiset (String × Stage) :=
  s.settledTags + s.rejectingIds.map (·, Stage.rejecting)

variable {s t : System Cat Act M} {x : String}

/-! ### What `stageOf` read off, stage by stage -/

theorem mem_pending_of_stageOf (h : s.stageOf x = .pending) : x ∈ s.orch.pendingApprovals.keys := by
  simpa only [stageOf, ite_eq_iff, reduceCtorEq, and_false, or_false, and_true] using h

theorem mem_rejected_of_stageOf (h : s.stageOf x = .rejected) : x ∈ s.orch.rejectedApprovals.keys := by
  simp only [stageOf, ite_eq_iff, reduceCtorEq, and_false, false_or, or_false, and_true] at h
  exact h.2

theorem mem_rejectingIds_of_stageOf (h : s.stageOf x = .rejecting) : x ∈ s.rejectingIds := by
  simp only [stageOf, ite_eq_iff, reduceCtorEq, and_false, false_or, or_false, and_true] at h
  exact h.2.2

theorem mem_healingInProgress_of_stageOf (h : s.stageOf x = .healing) : x ∈ s.orch.healingInProgress := by
  simp only [stageOf, ite_eq_iff, reduceCtorEq, and_false, false_or, or_false, and_true] at h
  exact h.2.2.2

theorem stageOf_eq_scheduled (h : s.stageOf x = .scheduled) :
    x ∉ s.orch.healingInProgress ∧ x ∈ s.chainIds := by
  simp only [stageOf, ite_eq_iff, reduceCtorEq, and_false, false_or, or_false, and_true] at h
  exact h.2.2.2

theorem chainTags_of_perm {d : PyDict Nat (HealChain Cat Act)} {l : List (Nat × HealChain Cat Act)}
    {e : Nat × HealChain Cat Act} (h : d.entries.Perm (e :: l)) :
    chainTags d = (e.2.agentId, e.2.stage) ::ₘ ↑(l.map fun e => (e.2.agentId, e.2.stage)) :=
  Multiset.coe_eq_coe.2 (h.map _)

theorem chainTags_of_get? {d : PyDict Nat (HealChain Cat Act)} {cid : Nat} {ch : HealChain Cat Act}
    (h : d.get? cid = some ch) : chainTags d = (ch.agentId, ch.stage) ::ₘ chainTags (d.erase cid) :=
  chainTags_of_perm (PyDict.entries_perm_erase h)

theorem chainTags_insert (d : PyDict Nat (HealChain Cat Act)) (cid : Nat) (ch : HealChain Cat Act) :
    chainTags (d.insert cid ch) = (ch.agentId, ch.stage) ::ₘ chainTags (d.erase cid) :=
  chainTags_of_perm (PyDict.entries_perm_insert d cid ch)

theorem mem_chainTags {d : PyDict Nat (HealChain Cat Act)} {cid : Nat} {ch : HealChain Cat Act}
    (h : d.get? cid = some ch) : (ch.agentId, ch.stage) ∈ chainTags d :=
  Multiset.mem_coe.2 (List.mem_map_of_mem _ (PyDict.mem_entries_of_get? h))

theorem coe_map_keys_insert {V β : Type} {d : PyDict String V} (h : x ∉ d.keys) (v : V) (f : String → β) :
    (↑((d.insert x v).keys.map f) : Multiset β) = f x ::ₘ ↑(d.keys.map f) := by
  simpa only [Multiset.map_coe, Multiset.map_cons] using congrArg (Multiset.map f) (keys_coe_insert v h)

theorem coe_map_keys_of_get? {V β : Type} {d : PyDict String V} {v : V} (h : d.get? x = some v)
    (f : String → β) : (↑(d.keys.map f) : Multiset β) = f x ::ₘ ↑((d.erase x).keys.map f) := by
  simpa only [Multiset.map_coe, Multiset.map_cons] using congrArg (Multiset.map f) (keys_coe_of_get? h)

/-- Forgetting the stages gives back the active faults. -/
theorem tags_fst (s : System Cat Act M) : s.tags.map Prod.fst = s.owners := by
  simp only [tags, settledTags, chainTags, owners, chainIds, ids, Multiset.map_add, Multiset.map_coe,
    List.map_map, Multiset.map_map, Function.comp_def, List.map_id', Multiset.map_id']
  exact add_right_comm _ _ _

theorem tags_nodup (hs : s.Inv) : (s.tags.map Prod.fst).Nodup := by
  rw [tags_fst]
  exact hs.ledger.nodup

/-- In a state of the invariant an agent has at most one tag. -/
theorem tag_unique (hs : s.Inv) {a b : Stage} (ha : (x, a) ∈ s.tags) (hb : (x, b) ∈ s.tags) : a = b :=
  congrArg Prod.snd (Multiset.inj_on_of_nodup_map (tags_nodup hs) _ ha _ hb rfl)

theorem mem_owners_of_mem_tags {st : Stage} (h : (x, st) ∈ s.tags) : x ∈ s.owners :=
  tags_fst s ▸ Multiset.mem_map_of_mem Prod.fst h

theorem stageOf_ne_free (h : x ∈ s.owners) : s.stageOf x ≠ .free := by
  intro hx
  simp only [stageOf, ite_eq_iff, reduceCtorEq, and_false, false_or, and_true] at hx
  obtain ⟨hP, hR, hJ, -, hC⟩ := hx
  simp only [owners, Multiset.mem_add, Multiset.mem_coe] at h
  rcases h with ((h | h) | h) | h <;> contradiction

theorem mem_tags_stageOf (hs : s.Inv) (h : s.stageOf x ≠ .free) : (x, s.stageOf x) ∈ s.tags := by
  have hset : ∀ p ∈ s.settledTags, p ∈ s.tags := fun _ hp => Multiset.mem_add.2 (.inl hp)
  have hchain : ∀ {cid ch}, s.chains.get? cid = some ch → (ch.agentId, ch.stage) ∈ s.tags :=
    fun hg => hset _ (Multiset.mem_add.2 (.inr (mem_chainTags hg)))
  cases hst : s.stageOf x with
  | free => exact absurd hst h
  | pending => exact hset _ (by simp [settledTags, mem_pending_of_stageOf hst])
  | rejected => exact hset _ (by simp [settledTags, mem_rejected_of_stageOf hst])
  | rejecting => exact Multiset.mem_add.2 (.inr (Multiset.mem_map_of_mem _ (mem_rejectingIds_of_stageOf hst)))
  | healing =>
    have hH := mem_healingInProgress_of_stageOf hst
    rw [hs.healing, healing, mem_startedIds_iff] at hH
    obtain ⟨cid, ch, hg, rfl, hb⟩ := hH
    simpa [HealChain.stage, hb] using hchain hg
  | scheduled =>
    obtain ⟨hH, hC⟩ := stageOf_eq_scheduled hst
    obtain ⟨cid, ch, hg, rfl⟩ := mem_ids_iff.1 hC
    cases hb : ch.started
    · simpa [HealChain.stage, hb] using hchain hg
    · exact absurd (hs.mem_healing hg hb) hH

/-- A tag is the stage `stageOf` reads off. -/
theorem stageOf_of_mem_tags (hs : s.Inv) {st : Stage} (h : (x, st) ∈ s.tags) : s.stageOf x = st :=
  tag_unique hs (mem_tags_stageOf hs (stageOf_ne_free (mem_owners_of_mem_tags h))) h

/-- An agent is out of the free stage exactly while it is quarantined. -/
theorem stageOf_ne_free_iff (hs : s.Inv) : s.stageOf x ≠ .free ↔ x ∈ s.orch.quarantine.quarantined := by
  rw [hs.ledger.quarantined, Multiset.mem_toFinset]
  exact ⟨fun h => mem_owners_of_mem_tags (mem_tags_stageOf hs h), stageOf_ne_free⟩

/-- Two states of the invariant that tag an agent alike give it the same stage. -/
theorem stageOf_congr (hs : s.Inv) (ht : t.Inv) (h : ∀ st, (x, st) ∈ s.tags ↔ (x, st) ∈ t.tags) :
    t.stageOf x = s.stageOf x := by
  by_cases hx : s.stageOf x = .free
  · by_contra hne
    have ht' : t.stageOf x ≠ .free := hx ▸ hne
    exact hne ((stageOf_of_mem_tags hs ((h _).2 (mem_tags_stageOf ht ht'))).symm.trans hx |>.trans hx.symm)
  · exact stageOf_of_mem_tags ht ((h _).1 (mem_tags_stageOf hs hx))

end System

-- ---------------------------------------------------------------------------
-- Steps of the tags
-- ---------------------------------------------------------------------------

/-- How a step changes the tags: not at all, or one agent's tag is replaced along an
edge of the actor (a free agent has no tag). -/
def TagMove (a : Actor) (B A : Multiset (String × Stage)) : Prop :=
  A = B ∨ ∃ x st st', Move a st st' ∧ A + st.tag x = B + st'.tag x

/-- A move of one part of the tags is a move of the whole, when the rest changes only by
what the part hands over. -/
theorem TagMove.transfer {a : Actor} {S S' J J' c c' : Multiset (String × Stage)}
    (h : TagMove a (S + c) (S' + c')) (hJ : J' + c = J + c') : TagMove a (S + J) (S' + J') := by
  rcases h with h | ⟨x, st, st', hm, h⟩
  · refine .inl (add_right_cancel (b := c) ?_)
    calc S' + J' + c = S' + c' + J := by rw [add_assoc, hJ]; ac_rfl
      _ = S + J + c := by rw [h]; ac_rfl
  · refine .inr ⟨x, st, st', hm, add_right_cancel (b := c) ?_⟩
    calc S' + J' + st.tag x + c = S' + c' + st.tag x + J := by rw [add_right_comm, add_assoc S', hJ]; ac_rfl
      _ = S + J + st'.tag x + c := by rw [h]; ac_rfl

theorem TagMove.add_left {a : Actor} {A B : Multiset (String × Stage)} (C : Multiset (String × Stage))
    (h : TagMove a B A) : TagMove a (C + B) (C + A) := by
  rcases h with h | ⟨x, st, st', hm, h⟩
  · exact .inl (by rw [h])
  · exact .inr ⟨x, st, st', hm, by rw [add_assoc, h, add_assoc]⟩

theorem TagMove.add_right {a : Actor} {A B : Multiset (String × Stage)} (C : Multiset (String × Stage))
    (h : TagMove a B A) : TagMove a (B + C) (A + C) := by
  simpa only [add_comm _ C] using h.add_left C

namespace System

variable {s t : System Cat Act M} {x : String}

theorem not_mem_of_add_tag {A B : Multiset (String × Stage)} {st : Stage} (hnd : (A.map Prod.fst).Nodup)
    (h : A = B + st.tag x) (hst : st ≠ .free) (u : Stage) : (x, u) ∉ B := fun hu => by
  rw [h, Stage.tag_of_ne x hst, Multiset.map_add, Multiset.map_singleton, Multiset.nodup_add] at hnd
  exact Multiset.disjoint_left.1 hnd.2.2 (Multiset.mem_map_of_mem Prod.fst hu) (Multiset.mem_singleton_self x)

/-- The stage an agent leaves by a move of the tags. -/
theorem stageOf_before (hs : s.Inv) (ht : t.Inv) {st st' : Stage} (hne : st ≠ st')
    (h : t.tags + st.tag x = s.tags + st'.tag x) : s.stageOf x = st := by
  by_cases hst : st = .free
  · subst hst
    by_contra hu
    simp only [Stage.tag, add_zero] at h
    exact not_mem_of_add_tag (tags_nodup ht) h (Ne.symm hne) _ (mem_tags_stageOf hs hu)
  · have hmem : (x, st) ∈ s.tags + st'.tag x := by
      rw [← h, Stage.tag_of_ne x hst]
      exact Multiset.mem_add.2 (.inr (Multiset.mem_singleton_self _))
    rcases Multiset.mem_add.1 hmem with hm | hm
    · exact stageOf_of_mem_tags hs hm
    · exact absurd (Stage.mem_tag hm).2 hne

/-- Between two states of the invariant, a move of the tags is a step of the lifecycle. -/
theorem lifecycleStep_of_tagMove {a : Actor} (hs : s.Inv) (ht : t.Inv) (h : TagMove a s.tags t.tags) :
    LifecycleStep a s.stageOf t.stageOf := by
  rcases h with h | ⟨x, st, st', hm, h⟩
  · exact .inl (funext fun y => stageOf_congr hs ht fun _ => by rw [h])
  · refine .inr ⟨x, ?_, fun y hy => stageOf_congr hs ht fun u => ?_⟩
    · rw [stageOf_before hs ht hm.ne h, stageOf_before ht hs hm.ne.symm h.symm]
      exact hm
    · have hx : ∀ st'' : Stage, (y, u) ∉ st''.tag x := fun _ hm => hy (Stage.mem_tag hm).1
      have key : (y, u) ∈ t.tags + st.tag x ↔ (y, u) ∈ s.tags + st'.tag x := by rw [h]
      simpa only [Multiset.mem_add, hx, or_false] using key.symm

-- ---------------------------------------------------------------------------
-- Heal chains
-- ---------------------------------------------------------------------------

/-- A step that changes only the chains moves the tags as it moves the chains' tags. -/
theorem tagMove_of_chainTags {a : Actor} (hP : t.orch.pendingApprovals = s.orch.pendingApprovals)
    (hR : t.orch.rejectedApprovals = s.orch.rejectedApprovals) (hJ : t.rejectingIds = s.rejectingIds)
    (h : TagMove a (chainTags s.chains) (chainTags t.chains)) : TagMove a s.tags t.tags := by
  have := h.add_left (↑(s.orch.pendingApprovals.keys.map (·, Stage.pending)) +
    ↑(s.orch.rejectedApprovals.keys.map (·, Stage.rejected)))
  simpa only [tags, settledTags, hP, hR, hJ] using this.add_right (s.rejectingIds.map (·, Stage.rejecting))

/-- A segment that rewrites its chain in place keeps its agent's tag or starts it. -/
theorem chainTags_replace {d : PyDict Nat (HealChain Cat Act)} {cid : Nat} {ch ch' : HealChain Cat Act}
    (hg : d.get? cid = some ch) (ha : ch'.agentId = ch.agentId)
    (hm : ch'.stage = ch.stage ∨ Move .healChain ch.stage ch'.stage) :
    TagMove .healChain (chainTags d) (chainTags (d.insert cid ch')) := by
  rw [chainTags_insert, chainTags_of_get? hg, ha]
  rcases hm with hm | hm
  · exact .inl (by rw [hm])
  · refine .inr ⟨ch.agentId, _, _, hm, ?_⟩
    simp only [Stage.tag_of_ne _ ch.stage_ne_free, Stage.tag_of_ne _ ch'.stage_ne_free,
      ← Multiset.singleton_add]
    ac_rfl

/-- A segment that ends a started chain releases its agent. -/
theorem chainTags_finish {d : PyDict Nat (HealChain Cat Act)} {cid : Nat} {ch : HealChain Cat Act}
    (hg : d.get? cid = some ch) (hst : ch.started = true) :
    TagMove .healChain (chainTags d) (chainTags (d.erase cid)) := by
  refine .inr ⟨ch.agentId, .healing, .free, .release, ?_⟩
  rw [chainTags_of_get? hg, HealChain.stage, if_pos hst]
  show _ + ({(ch.agentId, Stage.healing)} : Multiset (String × Stage)) = _ + 0
  rw [add_zero, ← Multiset.singleton_add, add_comm]

variable {cid : Nat} {d : Diagnosis Cat}

theorem chainResume_tagMove (h : s.chainResume cid d = some t) : TagMove .healChain s.tags t.tags := by
  simp only [chainResume, Option.bind_eq_some] at h
  obtain ⟨ch, hch, h⟩ := h
  split at h <;> cases h <;> refine tagMove_of_chainTags rfl rfl rfl (chainTags_replace hch rfl ?_) <;>
    rename_i hph <;> simp only [HealChain.stage, HealChain.started, hph]
  · exact .inr .start
  · exact .inl trivial

theorem chainConsult_tagMove (mem : ImmuneMemory M Cat Act) (h : chainConsult mem s cid = some t) :
    TagMove .healChain s.tags t.tags := by
  simp only [chainConsult, Option.bind_eq_some] at h
  obtain ⟨ch, hch, h⟩ := h
  split at h <;> cases h
  rename_i hph
  exact tagMove_of_chainTags rfl rfl rfl
    (chainTags_replace hch rfl (.inl (by simp only [HealChain.stage, HealChain.started, hph])))

theorem chainSelect_tagMove (H : Healer Cat Act) (h : chainSelect H s cid = some t) :
    TagMove .healChain s.tags t.tags := by
  simp only [chainSelect, Option.bind_eq_some] at h
  obtain ⟨ch, hch, h⟩ := h
  split at h <;> try cases h
  rename_i hph
  have hst : ch.started = true := by simp [HealChain.started, hph]
  split at h <;> cases h
  · exact tagMove_of_chainTags rfl rfl rfl (chainTags_finish hch hst)
  · exact tagMove_of_chainTags rfl rfl rfl
      (chainTags_replace hch rfl (.inl (by simp only [HealChain.stage, HealChain.started, hph])))

theorem chainApplied_tagMove (mem : ImmuneMemory M Cat Act) {passed : Bool}
    (h : chainApplied mem s cid passed = some t) : TagMove .healChain s.tags t.tags := by
  simp only [chainApplied, Option.bind_eq_some] at h
  obtain ⟨ch, hch, h⟩ := h
  split at h <;> try cases h
  rename_i hph
  have hst : ch.started = true := by simp [HealChain.started, hph]
  cases passed <;> cases h
  · exact tagMove_of_chainTags rfl rfl rfl
      (chainTags_replace hch rfl (.inl (by simp only [HealChain.stage, HealChain.started, hph])))
  · exact tagMove_of_chainTags rfl rfl rfl (chainTags_finish hch hst)

-- ---------------------------------------------------------------------------
-- The sweep
-- ---------------------------------------------------------------------------

/-- A sweep that detects an infection gives a free agent a pending entry or a chain. -/
theorem sweep_tagMove {detection : Option InfectionReport} {diagnosis : Diagnosis Cat} (hs : s.Inv) :
    TagMove .sentinel s.tags (s.sweep x detection diagnosis).tags := by
  unfold sweep
  split
  · exact .inl rfl
  rename_i hq
  rcases detection with _ | infection
  · exact .inl rfl
  dsimp only
  split
  · exact .inl rfl
  have hx : x ∉ s.owners := fun h =>
    hq ((QuarantineController.isQuarantined_iff _ _).2 (hs.ledger.quarantined ▸ Multiset.mem_toFinset.2 h))
  have hxP : x ∉ s.orch.pendingApprovals.keys := fun h => hx (by rw [owners]; simp [h])
  split
  · refine .inr ⟨x, .free, .pending, .detectSevere, ?_⟩
    simp only [tags, settledTags, Orchestrator.logAction, coe_map_keys_insert hxP, Stage.tag, add_zero,
      ← Multiset.singleton_add]
    ac_rfl
  · refine .inr ⟨x, .free, .scheduled, .detectMild, ?_⟩
    simp only [tags, settledTags, schedule, chainTags_insert,
      PyDict.erase_of_not_mem (fun h => Nat.lt_irrefl _ (hs.fresh _ h)), Stage.tag, add_zero,
      ← Multiset.singleton_add]
    ac_rfl

-- ---------------------------------------------------------------------------
-- Threads of the approval API
-- ---------------------------------------------------------------------------

/-- A critical section of an approval thread moves at most one agent, among the approval
maps, the thread's rejection in flight and a new chain. -/
theorem callerStep_tagMove {s' : System Cat Act M} {c c' : Caller Cat} (hs : s.Inv) (hc : c ∈ s.allCallers)
    (h : callerStep s c = some (s', c')) :
    TagMove .approvalApi (s.settledTags + c.tags) (s'.settledTags + c'.tags) := by
  have hfresh := PyDict.erase_of_not_mem (fun h => Nat.lt_irrefl _ (hs.fresh s.nextCid h))
  obtain ⟨prog, rej, handed⟩ := c
  cases rej with
  | some p =>
    obtain ⟨x, e⟩ := p
    simp only [callerStep, Option.some.injEq, Prod.mk.injEq] at h
    obtain ⟨rfl, rfl⟩ := h
    have hx : x ∉ s.orch.rejectedApprovals.keys := by
      have hmem : x ∈ s.rejectingIds := Multiset.mem_coe.2 (List.mem_flatMap.2 ⟨_, hc, by simp [Caller.rejectingId]⟩)
      have hnd := hs.ledger.nodup
      rw [owners, Multiset.nodup_add, Multiset.nodup_add] at hnd
      exact fun hr => Multiset.disjoint_left.1 hnd.1.2.2 (Multiset.mem_add.2 (.inr (Multiset.mem_coe.2 hr))) hmem
    refine .inr ⟨x, .rejecting, .rejected, .file, ?_⟩
    simp only [settledTags, Caller.tags, Caller.rejectingId, Orchestrator.approveHealingReject,
      coe_map_keys_insert hx, Option.map_some', Option.map_none', Option.toList_some, Option.toList_none,
      List.map_cons, List.map_nil, Multiset.coe_nil, Multiset.coe_singleton, Stage.tag, add_zero,
      ← Multiset.singleton_add]
    ac_rfl
  | none =>
    cases prog with
    | nil => simp [callerStep] at h
    | cons instr rest =>
      cases instr with
      | approveHealing x approved trigger =>
        cases hg : s.orch.pendingApprovals.get? x with
        | none =>
          simp only [callerStep, Orchestrator.approveHealingBegin, hg, Option.some.injEq,
            Prod.mk.injEq] at h
          obtain ⟨rfl, rfl⟩ := h
          refine .inl ?_
          simp only [settledTags, Caller.tags, Caller.rejectingId,
            PyDict.erase_of_not_mem (PyDict.get?_eq_none_iff.1 hg)]
        | some entry =>
          cases approved
          · simp only [callerStep, Orchestrator.approveHealingBegin, hg, Option.some.injEq,
              Prod.mk.injEq, Bool.false_eq_true, if_false] at h
            obtain ⟨rfl, rfl⟩ := h
            refine .inr ⟨x, .pending, .rejecting, .reject, ?_⟩
            simp only [settledTags, Caller.tags, Caller.rejectingId, Orchestrator.logAction,
              coe_map_keys_of_get? hg, Option.map_some', Option.map_none', Option.toList_some,
              Option.toList_none, List.map_cons, List.map_nil, Multiset.coe_nil, Multiset.coe_singleton,
              Stage.tag, add_zero, ← Multiset.singleton_add]
            ac_rfl
          · simp only [callerStep, Orchestrator.approveHealingBegin, hg, Option.some.injEq,
              Prod.mk.injEq, if_true] at h
            obtain ⟨rfl, rfl⟩ := h
            refine .inr ⟨x, .pending, .scheduled, .approve, ?_⟩
            simp only [settledTags, schedule, chainTags_insert, hfresh, Caller.tags, Caller.rejectingId,
              Orchestrator.logAction, coe_map_keys_of_get? hg, Option.map_none', Option.toList_none,
              List.map_nil, Multiset.coe_nil, Stage.tag, add_zero, ← Multiset.singleton_add]
            ac_rfl
      | approveAllPending approved trigger =>
        simp only [callerStep, Option.some.injEq, Prod.mk.injEq] at h
        obtain ⟨rfl, rfl⟩ := h
        exact .inl rfl
      | startHealingExplicitly x trigger =>
        cases hg : s.orch.rejectedApprovals.get? x with
        | none =>
          simp only [callerStep, Orchestrator.startHealingExplicitly, hg, Option.some.injEq,
            Prod.mk.injEq] at h
          obtain ⟨rfl, rfl⟩ := h
          refine .inl ?_
          simp only [settledTags, Caller.tags, Caller.rejectingId,
            PyDict.erase_of_not_mem (PyDict.get?_eq_none_iff.1 hg)]
        | some entry =>
          simp only [callerStep, Orchestrator.startHealingExplicitly, hg, Option.some.injEq,
            Prod.mk.injEq] at h
          obtain ⟨rfl, rfl⟩ := h
          refine .inr ⟨x, .rejected, .scheduled, .healNow, ?_⟩
          simp only [settledTags, schedule, chainTags_insert, hfresh, Caller.tags, Caller.rejectingId,
            Orchestrator.logAction, coe_map_keys_of_get? hg, Option.map_none', Option.toList_none,
            List.map_nil, Multiset.coe_nil, Stage.tag, add_zero, ← Multiset.singleton_add]
          ac_rfl
      | startHealingAllRejected trigger =>
        simp only [callerStep, Option.some.injEq, Prod.mk.injEq] at h
        obtain ⟨rfl, rfl⟩ := h
        exact .inl rfl

-- ---------------------------------------------------------------------------
-- Every step
-- ---------------------------------------------------------------------------

/-- A step that keeps the approval maps and the chains, and whose threads file the
same rejections, keeps the tags. -/
theorem tags_eq (hs : t.settledTags = s.settledTags) (hJ : t.rejectingIds = s.rejectingIds) :
    t.tags = s.tags := by
  rw [tags, tags, hs, hJ]

theorem rejectingIds_of_loopFree (hf : s.loopFree = true) (hc : t.callers = s.callers)
    (ht : t.allCallers = t.callers) : t.rejectingIds = s.rejectingIds := by
  rw [rejectingIds, rejectingIds, ht, allCallers_of_loopFree hf, hc]

variable (H : Healer Cat Act) (mem : ImmuneMemory M Cat Act)

theorem loopStep_tagMove {e : Event Cat} (hs : s.Inv) (hf : s.loopFree = true)
    (h : loopStep H mem s e = some t) : TagMove e.actor s.tags t.tags := by
  have hdc : s.drainCheck.allCallers = s.drainCheck.callers := by
    unfold drainCheck allCallers
    split_ifs <;> simp
  cases e with
  | agentLoop x =>
    simp only [loopStep] at h
    split_ifs at h <;> cases h <;> exact .inl rfl
  | sentinelWakes | chaosStops | cure x =>
    simp only [loopStep] at h
    split_ifs at h
    cases h
    exact .inl rfl
  | chaosWave targets =>
    simp only [loopStep, foldl_withAgent] at h
    split_ifs at h
    cases h
    exact .inl rfl
  | sweep x detection diagnosis =>
    simp only [loopStep] at h
    split_ifs at h
    cases h
    exact sweep_tagMove hs
  | chainResume cid d => exact chainResume_tagMove h
  | chainConsult cid => exact chainConsult_tagMove mem h
  | chainSelect cid => exact chainSelect_tagMove H h
  | chainApplied cid passed => exact chainApplied_tagMove mem h
  | drainStarts =>
    simp only [loopStep] at h
    split at h <;> cases h
    refine .inl (tags_eq rfl ?_)
    rw [rejectingIds, rejectingIds, allCallers_of_loopFree hf]
    simp [allCallers, Caller.rejectingId]
  | drainGathered =>
    simp only [loopStep] at h
    split at h <;> try cases h
    split_ifs at h
    cases h
    exact .inl (tags_eq rfl (rejectingIds_of_loopFree hf rfl hdc))
  | drainPolls =>
    simp only [loopStep] at h
    split at h <;> cases h
    exact .inl (tags_eq rfl (rejectingIds_of_loopFree hf rfl hdc))
  | drainTimesOut =>
    simp only [loopStep] at h
    split at h <;> try cases h
    split_ifs at h
    cases h
    exact .inl (tags_eq rfl (rejectingIds_of_loopFree hf rfl (by simp [allCallers])))
  | _ => cases h

/-- Every step of the system moves the tags along an edge of its actor, or not at all. -/
theorem step_tagMove {e : Event Cat} (hs : s.Inv) (h : step H mem s e = some t) :
    TagMove e.actor s.tags t.tags := by
  cases e
  case tick =>
    cases h
    exact .inl rfl
  case call program =>
    cases h
    refine .inl (tags_eq rfl ?_)
    simp [rejectingIds, allCallers, Caller.rejectingId]
  case callerStep i =>
    simp only [Control.step] at h
    split at h
    · cases h
    rename_i c hc
    obtain ⟨⟨s₁, c'⟩, h₁, rfl⟩ := Option.map_eq_some'.1 h
    have hmem := List.mem_append_left (match s.drain with | .forcing c => [c] | _ => []) (List.getElem?_mem hc)
    have fp := callerStep_footprint hs hmem h₁
    refine (callerStep_tagMove hs hmem h₁).transfer ?_
    have hp := Multiset.coe_eq_coe.2 (flatMap_set_perm Caller.rejectingId hc c')
    simp only [← Multiset.coe_add] at hp
    have hJ : ({ s₁ with callers := s₁.callers.set i c' } : System Cat Act M).rejectingIds + ↑c.rejectingId =
        s.rejectingIds + ↑c'.rejectingId := by
      simp only [rejectingIds, allCallers, fp.callers, fp.drain, List.flatMap_append, ← Multiset.coe_add]
      rw [add_right_comm, hp, add_right_comm]
    simpa only [Caller.tags, Multiset.map_add, Multiset.map_coe] using congrArg (Multiset.map (·, Stage.rejecting)) hJ
  case drainStep =>
    simp only [Control.step] at h
    split at h
    · rename_i c hd
      have hc : c ∈ s.allCallers := by simp [allCallers, hd]
      split at h
      · rename_i s₁ c' h₁
        cases h
        have fp := callerStep_footprint hs hc h₁
        refine (callerStep_tagMove hs hc h₁).transfer ?_
        simp only [rejectingIds, allCallers, fp.callers, hd, List.flatMap_append, List.flatMap_cons,
          List.flatMap_nil, List.append_nil, ← Multiset.coe_add, Multiset.map_add, Multiset.map_coe, Caller.tags]
        exact add_right_comm _ _ _
      · rename_i h₁
        have hr : s.rejectingIds = ↑(s.callers.flatMap Caller.rejectingId) := by
          simp [rejectingIds, allCallers, hd, rejectingId_of_callerStep_eq_none h₁]
        cases h
        refine .inl (tags_eq ?_ ?_)
        · split <;> rfl
        · rw [hr, rejectingIds, allCallers]
          split
          · unfold drainCheck
            split_ifs <;> simp
          · simp
    · cases h
  case shutdown =>
    simp only [Control.step] at h
    split at h <;> cases h <;> exact .inl (tags_eq rfl (by simp [rejectingIds, allCallers, *]))
  all_goals
    simp only [Control.step] at h
    split at h
    · exact loopStep_tagMove H mem hs ‹_› h
    · cases h

theorem stageOf_of_mem_rejected (hs : s.Inv) (h : x ∈ s.orch.rejectedApprovals.keys) :
    s.stageOf x = .rejected :=
  stageOf_of_mem_tags hs (Multiset.mem_add.2 (.inl (by simp [settledTags, h])))

end System

open System

theorem LifecycleStep.move_of_ne {a : Actor} {σ σ' : String → Stage} {x : String} (h : LifecycleStep a σ σ')
    (hx : σ' x ≠ σ x) : Move a (σ x) (σ' x) := by
  rcases h with h | ⟨y, hm, hy⟩
  · exact absurd (congrFun h x) hx
  · by_cases hxy : x = y
    · exact hxy ▸ hm
    · exact absurd (hy x hxy) hx

variable {H : Healer Cat Act} {mem : ImmuneMemory M Cat Act} {agents : List BaseAgent} {immuneMemory : M}

/-- The control loop refines the lifecycle: from every reachable state, every step of the
system is a step of the lifecycle of all agents, taken by the event's actor. -/
theorem Reachable.refines_lifecycle {s t : System Cat Act M} {e : Event Cat}
    (hs : Reachable H mem agents immuneMemory s) (h : Control.step H mem s e = some t) :
    LifecycleStep e.actor s.stageOf t.stageOf :=
  lifecycleStep_of_tagMove hs.inv (hs.inv.step H mem h) (step_tagMove H mem hs.inv h)

theorem refines_lifecycle_on_severe_sweep :
    ∃ s t, Control.run (Healer.firstUntried fun _ : Unit => [()]) ImmuneMemory.outcomeLog
        (System.init ((createAgentPool 2).getD []) []) [.sentinelWakes] = some s ∧
      step (Healer.firstUntried fun _ : Unit => [()]) ImmuneMemory.outcomeLog s
        (.sweep "VPN" (some ⟨"VPN", 8⟩) ⟨(), 1, ""⟩) = some t ∧
      LifecycleStep .sentinel s.stageOf t.stageOf :=
  ⟨_, _, (Option.some_get (by rfl)).symm, (Option.some_get (by rfl)).symm,
    Reachable.refines_lifecycle
      ((Reachable.init : Reachable _ _ ((createAgentPool 2).getD []) [] _).run _ _ (Option.some_get (by rfl)).symm)
      (Option.some_get (by rfl)).symm⟩

/-- Along a run from a reachable state, an agent that leaves a set of stages stays in it
up to one step, which moves it out along an edge of that step's actor. -/
theorem Reachable.exit (P : Stage → Prop) {x : String} :
    ∀ {s t : System Cat Act M} {es : List (Event Cat)}, Reachable H mem agents immuneMemory s →
      Control.run H mem s es = some t → P (s.stageOf x) → ¬ P (t.stageOf x) →
      ∃ es₁ e es₂ u u', es = es₁ ++ e :: es₂ ∧ Control.run H mem s es₁ = some u ∧
        Control.step H mem u e = some u' ∧ Control.run H mem u' es₂ = some t ∧
        (∀ es' v, es' <+: es₁ → Control.run H mem s es' = some v → P (v.stageOf x)) ∧
        ¬ P (u'.stageOf x) ∧ Move e.actor (u.stageOf x) (u'.stageOf x)
  | s, t, [], _, hrun, hp, hq => by cases hrun; exact absurd hp hq
  | s, t, e :: es, hs, hrun, hp, hq => by
    obtain ⟨s₁, h₁, hrun₁⟩ := Option.bind_eq_some.1 hrun
    by_cases hp₁ : P (s₁.stageOf x)
    · obtain ⟨es₁, e', es₂, u, u', rfl, hu, hstep, hrest, hpre, hq', hm⟩ := (hs.step e h₁).exit P hrun₁ hp₁ hq
      refine ⟨e :: es₁, e', es₂, u, u', rfl, by rw [Control.run, h₁]; exact hu, hstep, hrest, ?_, hq', hm⟩
      rintro (_ | ⟨e₀, es'⟩) v hpre' hv
      · cases hv
        exact hp
      · obtain ⟨rfl, hp'⟩ := List.cons_prefix_cons.1 hpre'
        rw [Control.run, h₁, Option.some_bind] at hv
        exact hpre es' v hp' hv
    · refine ⟨[], e, es, s, s₁, rfl, rfl, h₁, hrun₁, ?_, hp₁,
        (lifecycleStep_of_tagMove hs.inv (hs.inv.step H mem h₁) (step_tagMove H mem hs.inv h₁)).move_of_ne
          fun h => hp₁ (h ▸ hp)⟩
      intro es' v hpre hv
      rw [List.prefix_nil.1 hpre] at hv
      cases hv
      exact hp

/-- Along a run from a reachable state, an agent leaves quarantine only at the end of a heal
chain that has started: it stays quarantined up to one step, a step of a heal chain taken
while the agent is in `healing_in_progress`, and that step releases it. -/
theorem Reachable.released_by_heal_chain {s t : System Cat Act M} {es : List (Event Cat)} {x : String}
    (hs : Reachable H mem agents immuneMemory s) (hrun : Control.run H mem s es = some t)
    (hq : x ∈ s.orch.quarantine.quarantined) (ht : x ∉ t.orch.quarantine.quarantined) :
    ∃ es₁ e es₂ u u', es = es₁ ++ e :: es₂ ∧ Control.run H mem s es₁ = some u ∧
      Control.step H mem u e = some u' ∧ Control.run H mem u' es₂ = some t ∧
      (∀ es' v, es' <+: es₁ → Control.run H mem s es' = some v → x ∈ v.orch.quarantine.quarantined) ∧
      e.actor = .healChain ∧ x ∈ u.orch.healingInProgress ∧ x ∉ u'.orch.quarantine.quarantined := by
  obtain ⟨es₁, e, es₂, u, u', rfl, hu, hstep, hrest, hpre, hq', hm⟩ := hs.exit (· ≠ .free) hrun
    ((stageOf_ne_free_iff hs.inv).2 hq) fun h => ht ((stageOf_ne_free_iff (hs.run _ _ hrun).inv).1 h)
  have hu' := (hs.run _ _ hu).step e hstep
  rw [not_not] at hq'
  rw [hq'] at hm
  generalize ha : e.actor = a at hm
  generalize hst : u.stageOf x = st at hm
  cases hm
  exact ⟨es₁, e, es₂, u, u', rfl, hu, hstep, hrest,
    fun es' v hp hv => (stageOf_ne_free_iff (hs.run _ _ hv).inv).1 (hpre es' v hp hv), ha,
    mem_healingInProgress_of_stageOf hst, fun h => (stageOf_ne_free_iff hu'.inv).2 h hq'⟩

theorem released_by_heal_chain_on_escalation :
    ∃ s t, Control.run (Healer.firstUntried fun _ : Unit => [1, 2]) ImmuneMemory.outcomeLog
        (System.init ((createAgentPool 2).getD []) []) [.sentinelWakes, .sweep "VPN" (some ⟨"VPN", 5⟩) ⟨(), 1, ""⟩] =
        some s ∧
      Control.run (Healer.firstUntried fun _ : Unit => [1, 2]) ImmuneMemory.outcomeLog s
        [.chainResume 0 ⟨(), 1, ""⟩, .chainConsult 0, .chainSelect 0, .chainApplied 0 true] = some t ∧
      "VPN" ∈ s.orch.quarantine.quarantined ∧ "VPN" ∉ t.orch.quarantine.quarantined ∧
      ∃ es₁ e es₂ u, [.chainResume 0 ⟨(), 1, ""⟩, .chainConsult 0, .chainSelect 0, .chainApplied 0 true] =
          es₁ ++ e :: es₂ ∧
        Control.run (Healer.firstUntried fun _ : Unit => [1, 2]) ImmuneMemory.outcomeLog s es₁ = some u ∧
        e.actor = .healChain ∧ "VPN" ∈ u.orch.healingInProgress := by
  obtain ⟨s, t, hs, ht, hq, hq'⟩ : ∃ s t, Control.run (Healer.firstUntried fun _ : Unit => [1, 2])
      ImmuneMemory.outcomeLog (System.init ((createAgentPool 2).getD []) [])
        [.sentinelWakes, .sweep "VPN" (some ⟨"VPN", 5⟩) ⟨(), 1, ""⟩] = some s ∧
      Control.run (Healer.firstUntried fun _ : Unit => [1, 2]) ImmuneMemory.outcomeLog s
        [.chainResume 0 ⟨(), 1, ""⟩, .chainConsult 0, .chainSelect 0, .chainApplied 0 true] = some t ∧
      "VPN" ∈ s.orch.quarantine.quarantined ∧ "VPN" ∉ t.orch.quarantine.quarantined :=
    ⟨_, _, rfl, (Option.some_get (by rfl)).symm, by decide, by decide⟩
  obtain ⟨es₁, e, es₂, u, -, hes, hu, -, -, -, ha, hh, -⟩ := Reachable.released_by_heal_chain
    ((Reachable.init : Reachable _ _ ((createAgentPool 2).getD []) [] _).run _ _ hs) ht hq hq'
  exact ⟨s, t, hs, ht, hq, hq', es₁, e, es₂, u, hes, hu, ha, hh⟩

/-- Along a run from a reachable state, an agent filed as rejected stays rejected and
quarantined until "Heal now": the step that takes it out of `_rejected_approvals` is one of
the approval API, and it leaves the agent quarantined with a heal chain not yet started. -/
theorem Reachable.rejected_until_heal_now {s t : System Cat Act M} {es : List (Event Cat)} {x : String}
    (hs : Reachable H mem agents immuneMemory s) (hrun : Control.run H mem s es = some t)
    (hr : x ∈ s.orch.rejectedApprovals.keys) (ht : x ∉ t.orch.rejectedApprovals.keys) :
    ∃ es₁ e es₂ u u', es = es₁ ++ e :: es₂ ∧ Control.run H mem s es₁ = some u ∧
      Control.step H mem u e = some u' ∧ Control.run H mem u' es₂ = some t ∧
      (∀ es' v, es' <+: es₁ → Control.run H mem s es' = some v →
        x ∈ v.orch.rejectedApprovals.keys ∧ x ∈ v.orch.quarantine.quarantined) ∧
      e.actor = .approvalApi ∧ x ∈ u'.chainIds ∧ x ∉ u'.orch.healingInProgress ∧
        x ∈ u'.orch.quarantine.quarantined := by
  obtain ⟨es₁, e, es₂, u, u', rfl, hu, hstep, hrest, hpre, hq', hm⟩ := hs.exit (· = .rejected) hrun
    (stageOf_of_mem_rejected hs.inv hr) fun h => ht (mem_rejected_of_stageOf h)
  have hu' := (hs.run _ _ hu).step e hstep
  rw [hpre es₁ u (List.prefix_refl es₁) hu] at hm
  generalize ha : e.actor = a at hm
  generalize hst : u'.stageOf x = st at hm
  cases hm
  obtain ⟨hH, hC⟩ := stageOf_eq_scheduled hst
  refine ⟨es₁, e, es₂, u, u', rfl, hu, hstep, hrest, fun es' v hp hv => ?_, ha, hC, hH,
    (stageOf_ne_free_iff hu'.inv).1 (by rw [hst]; decide)⟩
  have hv := hpre es' v hp hv
  exact ⟨mem_rejected_of_stageOf hv, (stageOf_ne_free_iff (hs.run _ _ ‹_›).inv).1 (by rw [hv]; decide)⟩

theorem rejected_until_heal_now_from_dashboard :
    ∃ s t, Control.run (Healer.firstUntried fun _ : Unit => [1, 2]) ImmuneMemory.outcomeLog
        (System.init ((createAgentPool 2).getD []) []) [.sentinelWakes, .sweep "VPN" (some ⟨"VPN", 8⟩) ⟨(), 1, ""⟩,
          .call [.approveHealing "VPN" false "dashboard"], .callerStep 0, .callerStep 0] = some s ∧
      Control.run (Healer.firstUntried fun _ : Unit => [1, 2]) ImmuneMemory.outcomeLog s
        [.call [.startHealingExplicitly "VPN" "dashboard"], .callerStep 1] = some t ∧
      "VPN" ∈ s.orch.rejectedApprovals.keys ∧ "VPN" ∉ t.orch.rejectedApprovals.keys ∧
      ∃ es₁ e es₂ u u', [.call [.startHealingExplicitly "VPN" "dashboard"], .callerStep 1] = es₁ ++ e :: es₂ ∧
        Control.run (Healer.firstUntried fun _ : Unit => [1, 2]) ImmuneMemory.outcomeLog s es₁ = some u ∧
        Control.step (Healer.firstUntried fun _ : Unit => [1, 2]) ImmuneMemory.outcomeLog u e = some u' ∧
        e.actor = .approvalApi ∧ "VPN" ∈ u'.chainIds ∧ "VPN" ∈ u'.orch.quarantine.quarantined := by
  obtain ⟨s, t, hs, ht, hr, hr'⟩ : ∃ s t, Control.run (Healer.firstUntried fun _ : Unit => [1, 2])
      ImmuneMemory.outcomeLog (System.init ((createAgentPool 2).getD []) [])
        [.sentinelWakes, .sweep "VPN" (some ⟨"VPN", 8⟩) ⟨(), 1, ""⟩,
          .call [.approveHealing "VPN" false "dashboard"], .callerStep 0, .callerStep 0] = some s ∧
      Control.run (Healer.firstUntried fun _ : Unit => [1, 2]) ImmuneMemory.outcomeLog s
        [.call [.startHealingExplicitly "VPN" "dashboard"], .callerStep 1] = some t ∧
      "VPN" ∈ s.orch.rejectedApprovals.keys ∧ "VPN" ∉ t.orch.rejectedApprovals.keys :=
    ⟨_, _, (Option.some_get (by rfl)).symm, (Option.some_get (by rfl)).symm, by decide, by decide⟩
  obtain ⟨es₁, e, es₂, u, u', hes, hu, he, -, -, ha, hc, -, hq⟩ := Reachable.rejected_until_heal_now
    ((Reachable.init : Reachable _ _ ((createAgentPool 2).getD []) [] _).run _ _ hs) ht hr hr'
  exact ⟨s, t, hs, ht, hr, hr', es₁, e, es₂, u, u', hes, hu, he, ha, hc, hq⟩

end Control

end ImmuneSystem
