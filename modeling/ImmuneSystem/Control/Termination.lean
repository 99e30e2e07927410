-- SUMMARY: Every heal chain terminates: under the contracts, in any run and any interleaving, a chain takes at most `4 * N + 3` segments, and the step that ends it is a success or an exhaustion release.
import ImmuneSystem.Control.Escalation
import ImmuneSystem.Control.Solo

/-!
# Every heal chain terminates

`heal_agent` calls itself after each failed validation, and nothing in the code
bounds the recursion: what ends it is the healer running out of untried actions. The
escalation bounds say how far a live chain can have come; here they become a bound
on how long it can go on. In any run from a reachable state, whatever the other
tasks and threads do between its segments, a chain takes at most `4 * N + 3`
segments, `N` being the size of all policies together.

The argument is a count down. `segmentsLeft` is what a chain has left: from its
segment count while it lives, nothing once it has ended, a whole chain's worth before
it is created. A segment of the chain lowers it by one; any other step leaves it, or
creates the chain with nothing taken, since chain ids are never reused.

A chain leaves the table only through its own last segment, and `heal_agent` has two:
the return of an `apply_healing` that passed validation, and a selection that finds no
untried action. Both release the agent.
-/

namespace ImmuneSystem

namespace Control

variable {Cat Act M : Type} (H : Healer Cat Act) (mem : ImmuneMemory M Cat Act)

open System

/-- A live chain has taken at most `4 * N + 2` segments. -/
theorem HealChain.Wf.steps_le [Fintype Cat] {m : M} {ch : HealChain Cat Act} (hw : ch.Wf H mem m) :
    ch.steps ≤ 4 * ∑ c, (H.getHealingPolicy c).length + 2 := by
  obtain ⟨hnd, hpol⟩ := hw.attempts
  have hatt := length_le_sum_policy H hnd hpol
  have hp := hw.phase
  unfold HealChain.PhaseOk at hp
  unfold HealChain.attempts at hatt
  split at hp <;> rename_i hph <;> simp only [hph, List.length_append, List.length_singleton] at hatt <;>
    omega

namespace System

variable {s t : System Cat Act M} {cid : Nat}

-- ---------------------------------------------------------------------------
-- Steps that are not segments of the chain
-- ---------------------------------------------------------------------------

/-- What a step that is not a segment of chain `cid` does to it: the next id only grows,
and the chain stays as it was or is created with no segment taken. -/
structure LeavesChain (s t : System Cat Act M) (cid : Nat) : Prop where
  nextCid : s.nextCid ≤ t.nextCid
  chain : t.chains.get? cid = s.chains.get? cid ∨
    cid = s.nextCid ∧ ∃ ch, t.chains.get? cid = some ch ∧ ch.steps = 0

theorem LeavesChain.of_eq (hc : t.chains = s.chains) (hn : t.nextCid = s.nextCid) :
    LeavesChain s t cid :=
  ⟨hn.ge, .inl (by rw [hc])⟩

theorem LeavesChain.schedule (o : Orchestrator Cat Act M) (x : String) (infection : InfectionReport)
    (trigger : String) : LeavesChain s ({ s with orch := o }.schedule x infection trigger) cid := by
  refine ⟨Nat.le_succ _, ?_⟩
  simp only [System.schedule, PyDict.get?_insert]
  split
  · exact .inr ⟨‹_›, _, rfl, rfl⟩
  · exact .inl rfl

/-- Another chain's segment rewrites or ends that chain only. -/
theorem LeavesChain.other {cid' : Nat} (hne : cid' ≠ cid) (hn : t.nextCid = s.nextCid)
    (hc : (∃ ch, t.chains = s.chains.insert cid' ch) ∨ t.chains = s.chains.erase cid') :
    LeavesChain s t cid := by
  refine ⟨hn.ge, .inl ?_⟩
  rcases hc with ⟨ch, hc⟩ | hc <;> simp [hc, Ne.symm hne]

theorem callerStep_leaves {c c' : Caller Cat} (h : callerStep s c = some (t, c')) :
    LeavesChain s t cid := by
  obtain ⟨program, _ | _, handedOut⟩ := c
  · cases program with
    | nil => cases h
    | cons i rest =>
      cases i with
      | approveHealing x approved trigger =>
        rcases hb : s.orch.approveHealingBegin x approved s.clock with ⟨_ | _ | _, o⟩ <;>
          simp only [callerStep, hb, Option.some.injEq, Prod.mk.injEq] at h <;> obtain ⟨rfl, rfl⟩ := h
        · exact .of_eq rfl rfl
        · exact .schedule _ _ _ _
        · exact .of_eq rfl rfl
      | startHealingExplicitly x trigger =>
        rcases hb : s.orch.startHealingExplicitly x s.clock with ⟨_ | _, o⟩ <;>
          simp only [callerStep, hb, Option.some.injEq, Prod.mk.injEq] at h <;> obtain ⟨rfl, rfl⟩ := h
        · exact .of_eq rfl rfl
        · exact .schedule _ _ _ _
      | _ =>
        simp only [callerStep, Option.some.injEq, Prod.mk.injEq] at h
        obtain ⟨rfl, rfl⟩ := h
        exact .of_eq rfl rfl
  · simp only [callerStep, Option.some.injEq, Prod.mk.injEq] at h
    obtain ⟨rfl, rfl⟩ := h
    exact .of_eq rfl rfl

theorem sweep_leaves {x : String} {detection : Option InfectionReport} {diagnosis : Diagnosis Cat} :
    LeavesChain s (s.sweep x detection diagnosis) cid := by
  unfold sweep
  split
  · exact .of_eq rfl rfl
  rcases detection with _ | infection
  · exact .of_eq rfl rfl
  dsimp only
  split
  · exact .of_eq rfl rfl
  split
  · exact .of_eq rfl rfl
  · exact .schedule _ _ _ _

theorem chain_leaves {e : Event Cat} {cid' : Nat} (h : loopStep H mem s e = some t)
    (he : e.chain? = some cid') (hne : cid' ≠ cid) : LeavesChain s t cid := by
  cases e <;> simp only [Event.chain?, reduceCtorEq, Option.some.injEq] at he <;> subst he <;>
    simp only [loopStep, chainResume, chainConsult, chainSelect, chainApplied, Option.bind_eq_some] at h <;>
    obtain ⟨ch, -, h⟩ := h <;> split at h <;> (try split at h) <;> cases h <;>
    first
    | exact .other hne rfl (.inl ⟨_, rfl⟩)
    | exact .other hne rfl (.inr rfl)

theorem loopStep_leaves {e : Event Cat} (he : e.chain? ≠ some cid) (h : loopStep H mem s e = some t) :
    LeavesChain s t cid := by
  cases e with
  | agentLoop x =>
    simp only [loopStep] at h
    split_ifs at h <;> cases h <;> exact .of_eq rfl rfl
  | sentinelWakes | chaosStops | cure x | drainStarts | drainPolls =>
    simp only [loopStep] at h
    split at h <;> cases h
    exact .of_eq rfl rfl
  | sweep x detection diagnosis =>
    simp only [loopStep] at h
    split_ifs at h
    cases h
    exact sweep_leaves
  | chaosWave targets =>
    simp only [loopStep, foldl_withAgent] at h
    split_ifs at h
    cases h
    exact .of_eq rfl rfl
  | chainResume cid' _ | chainConsult cid' | chainSelect cid' | chainApplied cid' _ =>
    exact chain_leaves H mem h rfl fun h => he (congrArg some h)
  | drainGathered | drainTimesOut =>
    simp only [loopStep] at h
    split at h <;> try cases h
    split_ifs at h
    cases h
    exact .of_eq rfl rfl
  | _ => cases h

/-- A step that is not a segment of chain `cid` leaves it, or creates it. -/
theorem step_leaves {e : Event Cat} (he : e.chain? ≠ some cid) (h : step H mem s e = some t) :
    LeavesChain s t cid := by
  cases e
  case tick | call program =>
    cases h
    exact .of_eq rfl rfl
  case callerStep i =>
    simp only [Control.step] at h
    split at h
    · cases h
    obtain ⟨⟨s₁, c'⟩, h₁, rfl⟩ := Option.map_eq_some'.1 h
    have h' : LeavesChain s s₁ cid := callerStep_leaves h₁
    exact ⟨h'.nextCid, h'.chain⟩
  case drainStep =>
    simp only [Control.step] at h
    split at h
    · split at h
      · rename_i s₁ c' h₁
        cases h
        have h' : LeavesChain s s₁ cid := callerStep_leaves h₁
        exact ⟨h'.nextCid, h'.chain⟩
      · cases h
        split <;> exact .of_eq rfl rfl
    · cases h
  case shutdown =>
    simp only [Control.step] at h
    split at h <;> cases h <;> exact .of_eq rfl rfl
  all_goals
    simp only [Control.step] at h
    split at h
    · exact loopStep_leaves H mem he h
    · cases h

-- ---------------------------------------------------------------------------
-- Segments of the chain
-- ---------------------------------------------------------------------------

/-- A segment of a live chain counts one more segment or ends the chain. -/
theorem step_segment {e : Event Cat} (he : e.chain? = some cid) (h : step H mem s e = some t) :
    ∃ ch, s.chains.get? cid = some ch ∧ t.nextCid = s.nextCid ∧
      (t.chains.get? cid = none ∨ ∃ ch', t.chains.get? cid = some ch' ∧ ch'.steps = ch.steps + 1) := by
  replace h := loopStep_of_step_chain H mem h he
  cases e <;> simp only [Event.chain?, reduceCtorEq, Option.some.injEq] at he <;> subst he <;>
    simp only [loopStep, chainResume, chainConsult, chainSelect, chainApplied, Option.bind_eq_some] at h <;>
    obtain ⟨ch, hch, h⟩ := h <;> refine ⟨ch, hch, ?_⟩ <;> split at h <;> (try split at h) <;> cases h <;>
    simp

end System

-- ---------------------------------------------------------------------------
-- The count down
-- ---------------------------------------------------------------------------

/-- How many more segments chain `cid` can take when a live chain takes at most `B`:
what its count leaves while it lives, none once it has ended, and a whole chain's worth
before it is created. -/
def segmentsLeft (B cid : Nat) (s : System Cat Act M) : Nat :=
  match s.chains.get? cid with
  | some ch => B + 1 - ch.steps
  | none => if cid < s.nextCid then 0 else B + 1

variable {H mem} {B cid : Nat} {s t : System Cat Act M} {e : Event Cat}

theorem segmentsLeft_le_succ (B cid : Nat) (s : System Cat Act M) : segmentsLeft B cid s ≤ B + 1 := by
  unfold segmentsLeft
  split
  · omega
  · split_ifs <;> omega

/-- Any other step leaves the count where it was. -/
theorem segmentsLeft_step_le (hf : ∀ c ∈ s.chains.keys, c < s.nextCid) (he : e.chain? ≠ some cid)
    (h : step H mem s e = some t) : segmentsLeft B cid t ≤ segmentsLeft B cid s := by
  obtain ⟨hn, hc | ⟨rfl, ch, hch, h0⟩⟩ := step_leaves H mem he h
  · unfold segmentsLeft
    rw [hc]
    split
    · exact le_refl _
    · split_ifs <;> omega
  · have hs : s.chains.get? s.nextCid = none :=
      PyDict.get?_eq_none_iff.2 fun hk => Nat.lt_irrefl _ (hf _ hk)
    simp [segmentsLeft, hch, h0, hs]

/-- A segment of the chain lowers the count by one. -/
theorem segmentsLeft_step_lt (hf : ∀ c ∈ s.chains.keys, c < s.nextCid)
    (hB : ∀ ch, s.chains.get? cid = some ch → ch.steps ≤ B) (he : e.chain? = some cid)
    (h : step H mem s e = some t) : segmentsLeft B cid t + 1 ≤ segmentsLeft B cid s := by
  obtain ⟨ch, hch, hn, hc | ⟨ch', hch', h1⟩⟩ := step_segment H mem he h
  · have hlt : cid < t.nextCid := hn ▸ hf _ (PyDict.mem_keys_of_get? hch)
    have := hB ch hch
    simp only [segmentsLeft, hch, hc, if_pos hlt]
    omega
  · have := hB ch hch
    simp only [segmentsLeft, hch, hch', h1]
    omega

theorem Reachable.segments_le [Fintype Cat] {agents : List BaseAgent} {immuneMemory : M}
    {s : System Cat Act M} (hH : H.Lawful) (hmem : mem.Lawful) (hs : Reachable H mem agents immuneMemory s)
    (cid : Nat) : ∀ {es : List (Event Cat)} {s' : System Cat Act M}, Control.run H mem s es = some s' →
      es.countP (fun e => e.chain? = some cid) +
          segmentsLeft (4 * ∑ c, (H.getHealingPolicy c).length + 2) cid s' ≤
        segmentsLeft (4 * ∑ c, (H.getHealingPolicy c).length + 2) cid s
  | [], _, h => by cases h; simp
  | e :: es, s', h => by
    obtain ⟨t, h₁, h₂⟩ := run_cons_eq_some H mem h
    have ih := (hs.step e h₁).segments_le hH hmem cid h₂
    have hf := hs.inv.fresh
    rw [List.countP_cons]
    by_cases he : e.chain? = some cid
    · have := segmentsLeft_step_lt hf (fun ch hch => (hs.chainsWf hH hmem cid ch hch).steps_le) he h₁
      simp only [he, decide_True, if_true]
      omega
    · have := segmentsLeft_step_le (B := 4 * ∑ c, (H.getHealingPolicy c).length + 2) hf he h₁
      simp only [he, decide_False, Bool.false_eq_true, if_false]
      omega

/-- Under the contracts of the healer and the immune memory, in any run from a reachable
state, however the other tasks and the dashboard's calls interleave with it and whatever
its diagnoses and validation results, a heal chain takes at most `4 * N + 3` segments,
`N = ∑ c, |policy c|`: every `heal_agent` task terminates. -/
theorem Reachable.chain_terminates [Fintype Cat] {agents : List BaseAgent} {immuneMemory : M}
    (hH : H.Lawful) (hmem : mem.Lawful) (hs : Reachable H mem agents immuneMemory s)
    {es : List (Event Cat)} {s' : System Cat Act M} (hrun : Control.run H mem s es = some s') (cid : Nat) :
    es.countP (fun e => e.chain? = some cid) ≤ 4 * ∑ c, (H.getHealingPolicy c).length + 3 := by
  have h := hs.segments_le hH hmem cid hrun
  have := segmentsLeft_le_succ (4 * ∑ c, (H.getHealingPolicy c).length + 2) cid s
  omega

theorem chain_terminates_on_escalation :
    ∃ s', Control.run (Healer.firstUntried fun _ : Unit => [1, 2]) ImmuneMemory.outcomeLog
        (System.init ((createAgentPool 2).getD []) []) (autoHealVPN ++ escalateOnce) = some s' ∧
      (autoHealVPN ++ escalateOnce).countP (fun e => e.chain? = some 0) ≤
        4 * ∑ _c : Unit, [1, 2].length + 3 :=
  ⟨_, (Option.some_get (by rfl)).symm, Reachable.chain_terminates (Healer.firstUntried_lawful _)
    ImmuneMemory.outcomeLog_exact.lawful (Reachable.init : Reachable _ _ ((createAgentPool 2).getD []) [] _)
    (Option.some_get (by rfl)).symm 0⟩

-- ---------------------------------------------------------------------------
-- How a chain ends
-- ---------------------------------------------------------------------------

variable (H mem)

/-- Chain `cid` of `u` ends in the step to `u'` by one of the two releases of `heal_agent`:
`apply_healing` passed validation and the success is recorded, or no untried action is
left. Either way its agent leaves quarantine. -/
def EndsInRelease (cid : Nat) (u : System Cat Act M) (e : Event Cat) (u' : System Cat Act M) : Prop :=
  ∃ ch, u.chains.get? cid = some ch ∧ ch.agentId ∉ u'.orch.quarantine.quarantined ∧
    ((∃ d action, ch.phase = .applying d action ∧ e = .chainApplied cid true ∧
        u'.orch = u.orch.healRecord mem ch.agentId d action true ch.trigger u.clock) ∨
      (∃ d failed, ch.phase = .consulted d failed ∧ e = .chainSelect cid ∧
        H.getNextAction d.diagnosisType failed = none ∧ u'.orch = u.orch.healExhausted ch.agentId))

theorem quarantined_healRecord_passed (o : Orchestrator Cat Act M) (x : String) (d : Diagnosis Cat) (action : Act)
    (trigger : String) (now : Nat) :
    (o.healRecord mem x d action true trigger now).quarantine.quarantined = o.quarantine.quarantined.erase x := rfl

theorem quarantined_healExhausted (o : Orchestrator Cat Act M) (x : String) :
    (o.healExhausted x).quarantine.quarantined = o.quarantine.quarantined.erase x := rfl

/-- The step that removes a chain from the table is its success or its exhaustion release. -/
theorem step_ends_chain {u u' : System Cat Act M} {ch : HealChain Cat Act} (h : step H mem u e = some u')
    (hg : u.chains.get? cid = some ch) (hgone : u'.chains.get? cid = none) : EndsInRelease H mem cid u e u' := by
  by_cases he : e.chain? = some cid
  swap
  · rcases (step_leaves H mem he h).chain with hc | ⟨-, ch', hc, -⟩ <;> simp [hc, hg] at hgone
  have hph := chain_event_of_phase H mem h hg he
  refine ⟨ch, hg, ?_⟩
  cases hp : ch.phase with
  | scheduled | escalating =>
    simp only [hp] at hph
    obtain ⟨d, rfl⟩ := hph
    obtain ⟨ch', c, -⟩ := resume_inv H mem h hg (by simp [hp])
    simp [c.get] at hgone
  | diagnosed d =>
    simp only [hp] at hph
    subst hph
    obtain ⟨ch', c, -⟩ := consult_inv H mem h hg hp
    simp [c.get] at hgone
  | consulted d failed =>
    simp only [hp] at hph
    subst hph
    have hsel := select_inv H mem h hg hp
    cases hnext : H.getNextAction d.diagnosisType failed with
    | none =>
      simp only [hnext] at hsel
      subst hsel
      exact ⟨by simp [quarantined_healExhausted], .inr ⟨d, failed, rfl, rfl, hnext, rfl⟩⟩
    | some action =>
      simp only [hnext] at hsel
      obtain ⟨ch', c, -⟩ := hsel
      simp [c.get] at hgone
  | applying d action =>
    simp only [hp] at hph
    obtain ⟨passed, rfl⟩ := hph
    have happ := applied_inv H mem h hg hp
    cases passed with
    | true =>
      rw [if_pos rfl] at happ
      subst happ
      exact ⟨by simp [quarantined_healRecord_passed], .inl ⟨d, action, rfl, rfl, rfl⟩⟩
    | false =>
      rw [if_neg Bool.false_ne_true] at happ
      obtain ⟨ch', c, -⟩ := happ
      simp [c.get] at hgone

end Control

end ImmuneSystem
