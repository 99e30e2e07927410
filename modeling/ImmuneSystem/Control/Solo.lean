-- SUMMARY: A heal chain run alone in the control loop computes what the sequential `heal_agent` computes, and every result of `heal_agent` is reached so.
import ImmuneSystem.Control.System

/-!
# A heal chain run alone

`heal_agent` is written twice: in `Orchestrator.Healing` as one sequential
function, `healAgent`, and in the control loop as a chain of segments that other
tasks may interleave. When nothing else is scheduled between a chain's segments the
two agree. A run of a chain's own segments from its start to its end takes the
system to the orchestrator `healAgent` computes for the diagnoses and validation
results the segments carried, with the chain gone and nothing else changed but the
count of exhausted chains; and every result of `healAgent` is reached so. What is
proved of `healAgent`, such as the first-fit law, therefore holds of every chain
that runs alone.

For each phase of a chain, the segment lemmas below say which of its segments can
step, that it can while the event loop is free, and what the step does; the two
directions are assembled from them one round of `heal_agent` at a time.
-/

namespace ImmuneSystem

namespace Control

variable {Cat Act M : Type} (H : Healer Cat Act) (mem : ImmuneMemory M Cat Act)

/-- The heal chain an event is a segment of, if it is one. -/
def Event.chain? : Event Cat → Option Nat
  | .chainResume cid _ | .chainConsult cid | .chainSelect cid | .chainApplied cid _ => some cid
  | _ => none

/-- A run splits at any point. -/
theorem run_append (s : System Cat Act M) (es es' : List (Event Cat)) :
    run H mem s (es ++ es') = (run H mem s es).bind fun s => run H mem s es' := by
  induction es generalizing s with
  | nil => rfl
  | cons e es ih => simp only [List.cons_append, run, ← ih, Option.bind_assoc]; rfl

theorem run_cons_eq_some {s s' : System Cat Act M} {e : Event Cat} {es : List (Event Cat)}
    (h : run H mem s (e :: es) = some s') : ∃ t, step H mem s e = some t ∧ run H mem t es = some s' :=
  Option.bind_eq_some.1 h

open System Orchestrator

variable {s t : System Cat Act M} {cid : Nat} {ch : HealChain Cat Act} {e : Event Cat}

/-- While the event loop is free, a segment of a chain steps as the chain's task. -/
theorem step_chain (hf : s.loopFree = true) (e : Event Cat) (he : e.chain? = some cid) :
    step H mem s e = loopStep H mem s e := by
  cases e <;> simp only [Event.chain?, reduceCtorEq] at he <;> simp only [Control.step, hf, if_true]

/-- A segment that steps found the event loop free. -/
theorem loopFree_of_step_chain (h : step H mem s e = some t) (he : e.chain? = some cid) :
    s.loopFree = true := by
  cases e <;> simp only [Event.chain?, reduceCtorEq] at he <;> simp only [Control.step] at h <;>
    split_ifs at h with hf <;> exact hf

theorem loopStep_of_step_chain (h : step H mem s e = some t) (he : e.chain? = some cid) :
    loopStep H mem s e = some t := by
  rwa [← step_chain H mem (loopFree_of_step_chain H mem h he) e he]

/-- A chain that has ended takes no more steps. -/
theorem step_chain_gone (hg : s.chains.get? cid = none) (he : e.chain? = some cid) :
    step H mem s e = none := by
  refine Option.eq_none_iff_forall_not_mem.2 fun t h => ?_
  replace h := loopStep_of_step_chain H mem h he
  cases e <;> simp only [Event.chain?, reduceCtorEq, Option.some.injEq] at he <;> subst he <;>
    simp only [loopStep, chainResume, chainConsult, chainSelect, chainApplied, hg, Option.none_bind,
      reduceCtorEq] at h

/-- The segment a chain takes next is fixed by where it is suspended. -/
theorem chain_event_of_phase (h : step H mem s e = some t) (hg : s.chains.get? cid = some ch)
    (he : e.chain? = some cid) :
    match ch.phase with
    | .scheduled | .escalating => ∃ d, e = .chainResume cid d
    | .diagnosed _ => e = .chainConsult cid
    | .consulted _ _ => e = .chainSelect cid
    | .applying _ _ => ∃ passed, e = .chainApplied cid passed := by
  replace h := loopStep_of_step_chain H mem h he
  cases e <;> simp only [Event.chain?, reduceCtorEq, Option.some.injEq] at he <;> subst he <;>
    simp only [loopStep, chainResume, chainConsult, chainSelect, chainApplied, hg, Option.some_bind] at h <;>
    split at h <;> rename_i hp <;> simp only [hp, reduceCtorEq] at h ⊢ <;> exact ⟨_, rfl⟩

-- ---------------------------------------------------------------------------
-- Segments
-- ---------------------------------------------------------------------------

/-- Chain `cid` of `t` is `ch'`, which goes on with the agent and trigger of `ch`. -/
structure Continues (t : System Cat Act M) (cid : Nat) (ch ch' : HealChain Cat Act) : Prop where
  get : t.chains.get? cid = some ch'
  agentId : ch'.agentId = ch.agentId
  trigger : ch'.trigger = ch.trigger

section Segments

variable {d : Diagnosis Cat}

/-- The first segment marks the agent as healing and records the diagnosis. -/
theorem resume_inv (h : step H mem s (.chainResume cid d) = some t) (hg : s.chains.get? cid = some ch)
    (hp : ch.phase = .scheduled ∨ ch.phase = .escalating) :
    ∃ ch', Continues t cid ch ch' ∧ ch'.phase = .diagnosed d ∧
      t = { s with orch := s.orch.healEnter ch.agentId, chains := s.chains.insert cid ch' } := by
  replace h := loopStep_of_step_chain H mem h rfl
  rcases hp with hp | hp <;> simp only [loopStep, chainResume, hg, hp, Option.some_bind, Option.some.injEq] at h <;>
    subst h <;> refine ⟨_, ⟨?_, ?_, ?_⟩, ?_, rfl⟩ <;> simp

/-- The second segment reads the failed actions from immune memory. -/
theorem consult_inv (h : step H mem s (.chainConsult cid) = some t) (hg : s.chains.get? cid = some ch)
    (hp : ch.phase = .diagnosed d) :
    ∃ ch', Continues t cid ch ch' ∧
      ch'.phase = .consulted d (mem.getFailedActions s.orch.immuneMemory ch.agentId d.diagnosisType) ∧
      t = { s with chains := s.chains.insert cid ch' } := by
  replace h := loopStep_of_step_chain H mem h rfl
  simp only [loopStep, chainConsult, hg, hp, Option.some_bind, Option.some.injEq] at h
  subst h
  refine ⟨_, ⟨?_, ?_, ?_⟩, ?_, rfl⟩ <;> simp [healFailedActions]

/-- The third segment ends the chain by exhaustion or selects an action. -/
theorem select_inv {failed : List Act} (h : step H mem s (.chainSelect cid) = some t)
    (hg : s.chains.get? cid = some ch) (hp : ch.phase = .consulted d failed) :
    match H.getNextAction d.diagnosisType failed with
    | none => t = { s with
        orch := s.orch.healExhausted ch.agentId
        chains := s.chains.erase cid
        exhausted := s.exhausted + 1 }
    | some action => ∃ ch', Continues t cid ch ch' ∧ ch'.phase = .applying d action ∧
        t = { s with chains := s.chains.insert cid ch' } := by
  replace h := loopStep_of_step_chain H mem h rfl
  simp only [loopStep, chainSelect, hg, hp, Option.some_bind] at h
  cases ha : H.getNextAction d.diagnosisType failed <;> simp only [ha, Option.some.injEq] at h ⊢ <;> subst h
  · rfl
  · refine ⟨_, ⟨?_, ?_, ?_⟩, ?_, rfl⟩ <;> simp

/-- The last segment records the attempt and ends the chain healed, or waits to escalate. -/
theorem applied_inv {action : Act} {passed : Bool} (h : step H mem s (.chainApplied cid passed) = some t)
    (hg : s.chains.get? cid = some ch) (hp : ch.phase = .applying d action) :
    if passed then
      t = { s with
        orch := s.orch.healRecord mem ch.agentId d action passed ch.trigger s.clock
        chains := s.chains.erase cid }
    else ∃ ch', Continues t cid ch ch' ∧ ch'.phase = .escalating ∧
      t = { s with
        orch := s.orch.healRecord mem ch.agentId d action passed ch.trigger s.clock
        chains := s.chains.insert cid ch' } := by
  replace h := loopStep_of_step_chain H mem h rfl
  cases passed <;>
    simp only [loopStep, chainApplied, hg, hp, Option.some_bind, Bool.false_eq_true, if_true, if_false,
      Option.some.injEq] at h ⊢ <;> subst h
  · refine ⟨_, ⟨?_, ?_, ?_⟩, ?_, rfl⟩ <;> simp
  · rfl

/-- While the event loop is free, a chain at its start can resume. -/
theorem resume_progress (hg : s.chains.get? cid = some ch) (hf : s.loopFree = true)
    (hp : ch.phase = .scheduled ∨ ch.phase = .escalating) (d : Diagnosis Cat) :
    ∃ t, step H mem s (.chainResume cid d) = some t := by
  rw [step_chain H mem hf (.chainResume cid d) rfl]
  rcases hp with hp | hp <;> simp [loopStep, chainResume, hg, hp]

/-- While the event loop is free, a diagnosed chain can consult immune memory. -/
theorem consult_progress (hg : s.chains.get? cid = some ch) (hf : s.loopFree = true)
    (hp : ch.phase = .diagnosed d) : ∃ t, step H mem s (.chainConsult cid) = some t := by
  rw [step_chain H mem hf (.chainConsult cid) rfl]
  simp [loopStep, chainConsult, hg, hp]

/-- While the event loop is free, a chain that has consulted immune memory can select. -/
theorem select_progress {failed : List Act} (hg : s.chains.get? cid = some ch) (hf : s.loopFree = true)
    (hp : ch.phase = .consulted d failed) : ∃ t, step H mem s (.chainSelect cid) = some t := by
  rw [step_chain H mem hf (.chainSelect cid) rfl]
  cases ha : H.getNextAction d.diagnosisType failed <;> simp [loopStep, chainSelect, hg, hp, ha]

/-- While the event loop is free, `apply_healing` can return to an applying chain. -/
theorem applied_progress {action : Act} (hg : s.chains.get? cid = some ch) (hf : s.loopFree = true)
    (hp : ch.phase = .applying d action) (passed : Bool) :
    ∃ t, step H mem s (.chainApplied cid passed) = some t := by
  rw [step_chain H mem hf (.chainApplied cid passed) rfl]
  cases passed <;> simp [loopStep, chainApplied, hg, hp]

end Segments

-- ---------------------------------------------------------------------------
-- A chain run alone
-- ---------------------------------------------------------------------------

/-- A chain present in `s` and gone at the end of a run of its own segments has a next
segment, the one its phase allows. -/
theorem solo_next {es : List (Event Cat)} {s' : System Cat Act M} (hrun : run H mem s es = some s')
    (hg : s.chains.get? cid = some ch) (hes : ∀ e ∈ es, e.chain? = some cid)
    (hgone : s'.chains.get? cid = none) :
    ∃ e es₁ t, es = e :: es₁ ∧ step H mem s e = some t ∧ run H mem t es₁ = some s' ∧
      (∀ e ∈ es₁, e.chain? = some cid) ∧
      match ch.phase with
      | .scheduled | .escalating => ∃ d, e = .chainResume cid d
      | .diagnosed _ => e = .chainConsult cid
      | .consulted _ _ => e = .chainSelect cid
      | .applying _ _ => ∃ passed, e = .chainApplied cid passed := by
  cases es with
  | nil =>
    cases hrun
    simp [hg] at hgone
  | cons e es₁ =>
    obtain ⟨t, h, hrun₁⟩ := run_cons_eq_some H mem hrun
    have he := hes e (List.mem_cons_self _ _)
    exact ⟨e, es₁, t, rfl, h, hrun₁, fun e' h' => hes e' (List.mem_cons_of_mem _ h'),
      chain_event_of_phase H mem h hg he⟩

/-- Once a chain has ended, its segments no longer step. -/
theorem solo_done {es : List (Event Cat)} {s' : System Cat Act M} (hrun : run H mem s es = some s')
    (hg : s.chains.get? cid = none) (hes : ∀ e ∈ es, e.chain? = some cid) : es = [] ∧ s' = s := by
  cases es with
  | nil => exact ⟨rfl, (Option.some.inj hrun).symm⟩
  | cons e es₁ =>
    obtain ⟨t, h, -⟩ := run_cons_eq_some H mem hrun
    rw [step_chain_gone H mem hg (hes e (List.mem_cons_self _ _))] at h
    cases h

/-- The diagnoses a run's resumptions carry, in order. -/
def Event.diagnoses : List (Event Cat) → List (Diagnosis Cat) :=
  List.filterMap fun | .chainResume _ d => some d | _ => none

/-- The validation results a run's returns of `apply_healing` carry, in order. -/
def Event.validations : List (Event Cat) → List Bool :=
  List.filterMap fun | .chainApplied _ passed => some passed | _ => none

theorem map_range_succ_eq_cons {α : Type} {f : Nat → α} {a : α} {l : List α} :
    (List.range (l.length + 1)).map f = a :: l ↔
      f 0 = a ∧ (List.range l.length).map (fun k => f (k + 1)) = l := by
  rw [List.range_succ_eq_map, List.map_cons, List.map_map, List.cons.injEq]
  rfl

theorem map_range_getD {α : Type} (l : List α) (x : α) : (List.range l.length).map (l.getD · x) = l :=
  List.ext_getElem (by simp) fun n _ h => by simp [List.getElem?_eq_getElem h]

/-- The sweep finds VPN infected below the approval threshold and schedules chain 0. -/
def autoHealVPN : List (Event Unit) :=
  [.sentinelWakes, .sweep "VPN" (some ⟨"VPN", 5⟩) ⟨(), 1, ""⟩]

/-- Chain 0 alone: the first action fails validation, the escalation's second passes. -/
def escalateOnce : List (Event Unit) :=
  [.chainResume 0 ⟨(), 1, ""⟩, .chainConsult 0, .chainSelect 0, .chainApplied 0 false,
    .chainResume 0 ⟨(), 1, ""⟩, .chainConsult 0, .chainSelect 0, .chainApplied 0 true]

/-- A run of a chain's own segments from its start to its end, read one round of four
segments at a time against `heal_agent`. -/
theorem healAgent_of_solo_run {s : System Cat Act M} {cid : Nat} {ch : HealChain Cat Act}
    (hg : s.chains.get? cid = some ch)
    (hp : ch.phase = .scheduled ∨ ch.phase = .escalating) {es : List (Event Cat)} {s' : System Cat Act M}
    (hes : ∀ e ∈ es, e.chain? = some cid) (hrun : run H mem s es = some s')
    (hgone : s'.chains.get? cid = none) :
    ∃ n, n ≤ 1 ∧ s' = { s with orch := s'.orch, chains := s.chains.erase cid, exhausted := s.exhausted + n } ∧
      ∀ diagnose passes, (List.range (Event.diagnoses es).length).map diagnose = Event.diagnoses es →
        (List.range (Event.validations es).length).map passes = Event.validations es →
        healAgent H mem ch.agentId ch.trigger s.clock (Event.diagnoses es).length diagnose passes s.orch =
          some s'.orch := by
  generalize hlen : es.length = len
  induction len using Nat.strong_induction_on generalizing s ch es s' with
  | _ len ih =>
  obtain ⟨e₁, es₁, t₁, rfl, h₁, hrun₁, hes₁, he₁⟩ := solo_next H mem hrun hg hes hgone
  obtain ⟨d, rfl⟩ : ∃ d, e₁ = .chainResume cid d := by rcases hp with hp | hp <;> rw [hp] at he₁ <;> exact he₁
  obtain ⟨ch₁, c₁, hp₁, rfl⟩ := resume_inv H mem h₁ hg hp
  obtain ⟨e₂, es₂, t₂, rfl, h₂, hrun₂, hes₂, he₂⟩ := solo_next H mem hrun₁ c₁.get hes₁ hgone
  simp only [hp₁] at he₂
  subst he₂
  obtain ⟨ch₂, c₂, hp₂, rfl⟩ := consult_inv H mem h₂ c₁.get hp₁
  obtain ⟨e₃, es₃, t₃, rfl, h₃, hrun₃, hes₃, he₃⟩ := solo_next H mem hrun₂ c₂.get hes₂ hgone
  simp only [hp₂] at he₃
  subst he₃
  have hsel := select_inv H mem h₃ c₂.get hp₂
  simp only [healEnter_immuneMemory, c₁.agentId] at hsel
  cases hnext : H.getNextAction d.diagnosisType
      (mem.getFailedActions s.orch.immuneMemory ch.agentId d.diagnosisType) with
  | none =>
    simp only [hnext] at hsel
    subst hsel
    obtain ⟨rfl, rfl⟩ := solo_done H mem hrun₃ (by simp) hes₃
    refine ⟨1, le_rfl, by simp, fun diagnose passes hd _ => ?_⟩
    obtain ⟨hd0, -⟩ := map_range_succ_eq_cons.1 hd
    simp [healAgent, healFailedActions, hd0, hnext, c₁.agentId, c₂.agentId]
  | some action =>
    simp only [hnext] at hsel
    obtain ⟨ch₃, c₃, hp₃, rfl⟩ := hsel
    obtain ⟨e₄, es₄, t₄, rfl, h₄, hrun₄, hes₄, he₄⟩ := solo_next H mem hrun₃ c₃.get hes₃ hgone
    simp only [hp₃] at he₄
    obtain ⟨passed, rfl⟩ := he₄
    have happ := applied_inv H mem h₄ c₃.get hp₃
    have hx : ch₃.agentId = ch.agentId := c₃.agentId.trans (c₂.agentId.trans c₁.agentId)
    have ht : ch₃.trigger = ch.trigger := c₃.trigger.trans (c₂.trigger.trans c₁.trigger)
    cases passed with
    | true =>
      rw [if_pos rfl] at happ
      subst happ
      obtain ⟨rfl, rfl⟩ := solo_done H mem hrun₄ (by simp) hes₄
      refine ⟨0, Nat.zero_le 1, by simp, fun diagnose passes hd hv => ?_⟩
      obtain ⟨hd0, -⟩ := map_range_succ_eq_cons.1 hd
      obtain ⟨hv0, -⟩ := map_range_succ_eq_cons.1 hv
      simp [healAgent, healFailedActions, hd0, hv0, hnext, hx, ht]
    | false =>
      rw [if_neg Bool.false_ne_true] at happ
      obtain ⟨ch₄, c₄, hp₄, rfl⟩ := happ
      obtain ⟨n, hn, hs', hrest⟩ :=
        ih _ (by simp only [← hlen, List.length_cons]; omega) c₄.get (Or.inr hp₄) hes₄ hrun₄ hgone rfl
      refine ⟨n, hn, hs'.trans (by simp), fun diagnose passes hd hv => ?_⟩
      obtain ⟨hd0, hd'⟩ := map_range_succ_eq_cons.1 hd
      obtain ⟨hv0, hv'⟩ := map_range_succ_eq_cons.1 hv
      have hheal := hrest (fun k => diagnose (k + 1)) (fun k => passes (k + 1)) hd' hv'
      simpa [healAgent, healFailedActions, hd0, hv0, hnext, hx, ht, c₄.agentId, c₄.trigger] using hheal

/-- A run of a chain's own segments, from its start to its end, is a run of
`heal_agent` on what the run's segments received: with one nested call per resumption,
the diagnoses the resumptions carried and the validation results `apply_healing`
returned, in order, `heal_agent` gives the orchestrator the run ends with. The chain is
gone, and nothing else changed but the count of exhausted chains. -/
theorem healAgent_of_run_alone {s : System Cat Act M} {cid : Nat} {ch : HealChain Cat Act}
    (hg : s.chains.get? cid = some ch)
    (hp : ch.phase = .scheduled ∨ ch.phase = .escalating) {es : List (Event Cat)} {s' : System Cat Act M}
    (hes : ∀ e ∈ es, e.chain? = some cid) (hrun : run H mem s es = some s')
    (hgone : s'.chains.get? cid = none) :
    ∃ n, n ≤ 1 ∧ s' = { s with orch := s'.orch, chains := s.chains.erase cid, exhausted := s.exhausted + n } ∧
      ∀ diagnose passes, (List.range (Event.diagnoses es).length).map diagnose = Event.diagnoses es →
        (List.range (Event.validations es).length).map passes = Event.validations es →
        healAgent H mem ch.agentId ch.trigger s.clock (Event.diagnoses es).length diagnose passes s.orch =
          some s'.orch :=
  healAgent_of_solo_run H mem hg hp hes hrun hgone

theorem healAgent_of_run_alone_escalating :
    ∃ s s', Control.run (Healer.firstUntried fun _ : Unit => [1, 2]) ImmuneMemory.outcomeLog
        (System.init ((createAgentPool 2).getD []) []) autoHealVPN = some s ∧
      Control.run (Healer.firstUntried fun _ : Unit => [1, 2]) ImmuneMemory.outcomeLog s escalateOnce = some s' ∧
      ∃ ch, s.chains.get? 0 = some ch ∧ (ch.phase = .scheduled ∨ ch.phase = .escalating) ∧
        (∀ e ∈ escalateOnce, e.chain? = some 0) ∧ s'.chains.get? 0 = none ∧
        ∃ n, n ≤ 1 ∧ s' = { s with orch := s'.orch, chains := s.chains.erase 0, exhausted := s.exhausted + n } ∧
          ∀ diagnose passes, (List.range (Event.diagnoses escalateOnce).length).map diagnose =
              Event.diagnoses escalateOnce →
            (List.range (Event.validations escalateOnce).length).map passes = Event.validations escalateOnce →
            healAgent (Healer.firstUntried fun _ : Unit => [1, 2]) ImmuneMemory.outcomeLog ch.agentId ch.trigger
              s.clock (Event.diagnoses escalateOnce).length diagnose passes s.orch = some s'.orch := by
  refine ⟨_, _, (Option.some_get (by rfl)).symm, (Option.some_get (by rfl)).symm, _,
    (Option.some_get (by rfl)).symm, .inl (by rfl), by decide, by rfl, ?_⟩
  exact healAgent_of_run_alone _ _ (Option.some_get (by rfl)).symm (.inl (by rfl)) (by decide)
    (Option.some_get (by rfl)).symm (by rfl)

-- ---------------------------------------------------------------------------
-- The sequential coroutine, run by the system
-- ---------------------------------------------------------------------------

/-- The segments of one round all belong to the chain. -/
theorem chain?_of_mem_round {d : Diagnosis Cat} {passed : Bool}
    (h : e ∈ [Event.chainResume cid d, .chainConsult cid, .chainSelect cid, .chainApplied cid passed]) :
    e.chain? = some cid := by
  simp only [List.mem_cons, List.mem_singleton, List.not_mem_nil, or_false] at h
  rcases h with rfl | rfl | rfl | rfl <;> rfl

/-- One round of a chain run alone, from its first segment to its end or to the
escalation sleep, as one pass through the body of `heal_agent`. -/
theorem run_round (hf : s.loopFree = true) (hg : s.chains.get? cid = some ch)
    (hp : ch.phase = .scheduled ∨ ch.phase = .escalating) (d : Diagnosis Cat) (passed : Bool) :
    match H.getNextAction d.diagnosisType (mem.getFailedActions s.orch.immuneMemory ch.agentId d.diagnosisType) with
    | none =>
      run H mem s [.chainResume cid d, .chainConsult cid, .chainSelect cid] =
        some { s with
          orch := (s.orch.healEnter ch.agentId).healExhausted ch.agentId
          chains := s.chains.erase cid
          exhausted := s.exhausted + 1 }
    | some action =>
      ∃ ch', ch'.agentId = ch.agentId ∧ ch'.trigger = ch.trigger ∧ ch'.phase = .escalating ∧
        run H mem s [.chainResume cid d, .chainConsult cid, .chainSelect cid, .chainApplied cid passed] =
          some { s with
            orch := (s.orch.healEnter ch.agentId).healRecord mem ch.agentId d action passed ch.trigger s.clock
            chains := if passed then s.chains.erase cid else s.chains.insert cid ch' } := by
  obtain ⟨t₁, h₁⟩ := resume_progress H mem hg hf hp d
  obtain ⟨ch₁, c₁, hp₁, rfl⟩ := resume_inv H mem h₁ hg hp
  obtain ⟨t₂, h₂⟩ := consult_progress H mem c₁.get hf hp₁
  obtain ⟨ch₂, c₂, hp₂, rfl⟩ := consult_inv H mem h₂ c₁.get hp₁
  obtain ⟨t₃, h₃⟩ := select_progress H mem c₂.get hf hp₂
  have hsel := select_inv H mem h₃ c₂.get hp₂
  simp only [healEnter_immuneMemory, c₁.agentId] at hsel
  split <;> rename_i hnext <;> simp only [hnext] at hsel
  · subst hsel
    rw [run, h₁, Option.some_bind, run, h₂, Option.some_bind, run, h₃]
    simp [run, c₁.agentId, c₂.agentId]
  · obtain ⟨ch₃, c₃, hp₃, rfl⟩ := hsel
    obtain ⟨t₄, h₄⟩ := applied_progress H mem c₃.get hf hp₃ passed
    have hrun : run H mem s [.chainResume cid d, .chainConsult cid, .chainSelect cid, .chainApplied cid passed] =
        some t₄ := by
      rw [run, h₁, Option.some_bind, run, h₂, Option.some_bind, run, h₃, Option.some_bind, run, h₄]
      rfl
    have happ := applied_inv H mem h₄ c₃.get hp₃
    have hx : ch₃.agentId = ch.agentId := c₃.agentId.trans (c₂.agentId.trans c₁.agentId)
    have ht : ch₃.trigger = ch.trigger := c₃.trigger.trans (c₂.trigger.trans c₁.trigger)
    cases passed
    · rw [if_neg Bool.false_ne_true] at happ
      obtain ⟨ch₄, c₄, hp₄, rfl⟩ := happ
      exact ⟨ch₄, c₄.agentId.trans hx, c₄.trigger.trans ht, hp₄, hrun.trans (by simp [hx, ht])⟩
    · rw [if_pos rfl] at happ
      subst happ
      exact ⟨{ ch with phase := .escalating }, rfl, rfl, rfl, hrun.trans (by simp [hx, ht])⟩

/-- Under first-fit selection and an exact immune memory, a chain that runs alone from
its start to its end, on diagnoses of one category, walks the actions of the policy
not yet failed in order, with the validation results its `apply_healing` returns
received, up to the first that passed, as `heal_agent` does. -/
theorem run_alone_first_fit [DecidableEq Act]
    (hH : ∀ c failed, H.getNextAction c failed = (H.getHealingPolicy c).find? (· ∉ failed))
    (hmem : mem.Exact) (hg : s.chains.get? cid = some ch) (hp : ch.phase = .scheduled ∨ ch.phase = .escalating)
    {es : List (Event Cat)} {s' : System Cat Act M} (hes : ∀ e ∈ es, e.chain? = some cid)
    (hrun : run H mem s es = some s') (hgone : s'.chains.get? cid = none) (c : Cat)
    (hc : ∀ d ∈ Event.diagnoses es, d.diagnosisType = c) :
    s'.orch = episodeResult mem s.orch ch.agentId ch.trigger s.clock c
      (attemptsOf (untriedOrder (H.getHealingPolicy c) (mem.getFailedActions s.orch.immuneMemory ch.agentId c))
        fun k => (Event.validations es).getD k false) := by
  obtain ⟨-, -, -, hheal⟩ := healAgent_of_solo_run H mem hg hp hes hrun hgone
  let diagnose k := (Event.diagnoses es).getD k ⟨c, 1, ""⟩
  have hcat : ∀ k, (diagnose k).diagnosisType = c := fun k => by
    by_cases hk : k < (Event.diagnoses es).length
    · exact hc _ (by simp only [diagnose, List.getD_eq_getElem _ _ hk]; exact List.getElem_mem hk)
    · simp only [diagnose, List.getD_eq_default _ _ (not_lt.1 hk)]
  have h := healAgent_fuel_mono H mem (le_max_left _ ((untriedOrder (H.getHealingPolicy c)
      (mem.getFailedActions s.orch.immuneMemory ch.agentId c)).length + 1))
    (hheal diagnose _ (map_range_getD _ _) (map_range_getD _ false))
  rw [healAgent_untried H mem hH hmem ch.agentId ch.trigger s.clock c _ _ diagnose _ s.orch hcat rfl
    (Nat.lt_of_lt_of_le (Nat.lt_succ_self _) (le_max_right _ _))] at h
  exact (Option.some.inj h).symm

theorem run_alone_first_fit_escalating :
    ∃ s s', Control.run (Healer.firstUntried fun _ : Unit => [1, 2]) ImmuneMemory.outcomeLog
        (System.init ((createAgentPool 2).getD []) []) autoHealVPN = some s ∧
      Control.run (Healer.firstUntried fun _ : Unit => [1, 2]) ImmuneMemory.outcomeLog s escalateOnce = some s' ∧
      ∃ ch, (∀ c failed, (Healer.firstUntried fun _ : Unit => [1, 2]).getNextAction c failed =
          ((Healer.firstUntried fun _ : Unit => [1, 2]).getHealingPolicy c).find? (· ∉ failed)) ∧
        (ImmuneMemory.outcomeLog : ImmuneMemory _ Unit Nat).Exact ∧
        s.chains.get? 0 = some ch ∧ (ch.phase = .scheduled ∨ ch.phase = .escalating) ∧
        (∀ e ∈ escalateOnce, e.chain? = some 0) ∧ s'.chains.get? 0 = none ∧
        (∀ d ∈ Event.diagnoses escalateOnce, d.diagnosisType = ()) ∧
        s'.orch = episodeResult ImmuneMemory.outcomeLog s.orch ch.agentId ch.trigger s.clock ()
          (attemptsOf (untriedOrder ((Healer.firstUntried fun _ : Unit => [1, 2]).getHealingPolicy ())
            (ImmuneMemory.outcomeLog.getFailedActions s.orch.immuneMemory ch.agentId ()))
            fun k => (Event.validations escalateOnce).getD k false) := by
  refine ⟨_, _, (Option.some_get (by rfl)).symm, (Option.some_get (by rfl)).symm, _, fun _ _ => rfl,
    ImmuneMemory.outcomeLog_exact, (Option.some_get (by rfl)).symm, .inl (by rfl), by decide, by rfl,
    fun _ _ => rfl, ?_⟩
  exact run_alone_first_fit _ _ (fun _ _ => rfl) ImmuneMemory.outcomeLog_exact (Option.some_get (by rfl)).symm
    (.inl (by rfl)) (by decide) (Option.some_get (by rfl)).symm (by rfl) () (fun _ _ => rfl)

end Control

end ImmuneSystem
