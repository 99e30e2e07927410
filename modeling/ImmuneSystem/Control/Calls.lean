-- SUMMARY: A call of the approval API whose critical sections run with nothing between them has the effect of the call made in one piece; so do `run()`'s forced calls, which then empty both approval maps.
import ImmuneSystem.Control.Solo

/-!
# A dashboard call run alone

The dashboard thread enters the approval API one critical section at a time
(`callerStep`), and other steps may run between its sections. When none does, a call
has the effect of the same call made in one piece: `callAtomic` runs the sequential
function of `Orchestrator.Approval` and schedules a heal chain for each infection it
returns, as the dashboard does with the result. A bulk call expands into the single
calls over its snapshot of keys, and its loop takes the same snapshot, so the two
agree key by key.

The same holds of the two calls `run()` forces at the start of its drain. With the
closed forms of the bulk calls this gives what the drain does when the dashboard
stays quiet: both approval maps end empty, one entry is logged per key, and the
drain gathers exactly one new chain per agent that was pending or rejected.
-/

namespace ImmuneSystem

namespace Control

variable {Cat Act M : Type} (H : Healer Cat Act) (mem : ImmuneMemory M Cat Act)

open Orchestrator

namespace System

-- ---------------------------------------------------------------------------
-- A call made in one piece
-- ---------------------------------------------------------------------------

/-- The heal chains of the `(agent_id, infection)` pairs a call returns, scheduled in order. -/
def scheduleAll (s : System Cat Act M) (trigger : String) :
    List (String × InfectionReport) → System Cat Act M
  | [] => s
  | (x, infection) :: rest => (s.schedule x infection trigger).scheduleAll trigger rest

/-- A call of the approval API made in one piece, with a heal chain scheduled for each
infection it returns. -/
def callAtomic (s : System Cat Act M) : Instr → System Cat Act M
  | .approveHealing x approved trigger =>
    match s.orch.approveHealing x approved s.clock with
    | ((some infection, true), o) => { s with orch := o }.schedule x infection trigger
    | (_, o) => { s with orch := o }
  | .approveAllPending approved trigger =>
    let (infections, o) := s.orch.approveAllPending approved s.clock
    { s with orch := o }.scheduleAll trigger infections
  | .startHealingExplicitly x trigger =>
    match s.orch.startHealingExplicitly x s.clock with
    | (some infection, o) => { s with orch := o }.schedule x infection trigger
    | (none, o) => { s with orch := o }
  | .startHealingAllRejected trigger =>
    let (infections, o) := s.orch.startHealingAllRejected s.clock
    { s with orch := o }.scheduleAll trigger infections

/-- The ids of the chains scheduled on the way from `s` to `t`. -/
def newCids (s t : System Cat Act M) : List Nat := List.range' s.nextCid (t.nextCid - s.nextCid)

variable {s t u : System Cat Act M} {c c' : Caller Cat}

theorem newCids_append (h₁ : s.nextCid ≤ t.nextCid) (h₂ : t.nextCid ≤ u.nextCid) :
    newCids s t ++ newCids t u = newCids s u := by
  have e : u.nextCid - s.nextCid = (u.nextCid - t.nextCid) + (t.nextCid - s.nextCid) := by omega
  have h := List.range'_append_1 s.nextCid (t.nextCid - s.nextCid) (u.nextCid - t.nextCid)
  rwa [Nat.add_sub_of_le h₁, ← e] at h

/-- A critical section reads and writes neither the other threads nor the drain. -/
theorem callerStep_frame (cs : List (Caller Cat)) (d : DrainPhase Cat) :
    callerStep { s with callers := cs, drain := d } c =
      (callerStep s c).map fun p => ({ p.1 with callers := cs, drain := d }, p.2) := by
  obtain ⟨program, _ | _, handedOut⟩ := c
  · cases program with
    | nil => rfl
    | cons i rest =>
      cases i with
      | approveHealing x approved trigger =>
        rcases hb : s.orch.approveHealingBegin x approved s.clock with ⟨_ | _ | _, o⟩ <;>
          simp only [callerStep, hb] <;> rfl
      | startHealingExplicitly x trigger =>
        rcases hb : s.orch.startHealingExplicitly x s.clock with ⟨_ | _, o⟩ <;>
          simp only [callerStep, hb] <;> rfl
      | _ => rfl
  · rfl

/-- Scheduling commutes with an update of fields that `schedule` neither reads nor writes. -/
theorem scheduleAll_comm (f : System Cat Act M → System Cat Act M) (trigger : String)
    (hf : ∀ s x infection, (f s).schedule x infection trigger = f (s.schedule x infection trigger))
    (l : List (String × InfectionReport)) :
    (f s).scheduleAll trigger l = f (s.scheduleAll trigger l) := by
  induction l generalizing s with
  | nil => rfl
  | cons p l ih => rw [scheduleAll, hf, ih]; rfl

theorem orch_scheduleAll (trigger : String) (l : List (String × InfectionReport)) :
    (s.scheduleAll trigger l).orch = s.orch := by
  have h := congrArg System.orch (scheduleAll_comm (s := s) (fun u => { u with orch := s.orch })
    trigger (fun _ _ _ => rfl) l)
  exact h

theorem clock_scheduleAll (trigger : String) (l : List (String × InfectionReport)) :
    (s.scheduleAll trigger l).clock = s.clock := by
  have h := congrArg System.clock (scheduleAll_comm (s := s) (fun u => { u with clock := s.clock })
    trigger (fun _ _ _ => rfl) l)
  exact h

theorem scheduleAll_with_orch (o : Orchestrator Cat Act M) {trigger : String}
    {l : List (String × InfectionReport)} (hu : s.scheduleAll trigger l = u) :
    { u with orch := o } = { s with orch := o }.scheduleAll trigger l := by
  subst hu
  exact (scheduleAll_comm (fun u => { u with orch := o }) trigger (fun _ _ _ => rfl) l).symm

theorem nextCid_scheduleAll (trigger : String) (l : List (String × InfectionReport)) :
    (s.scheduleAll trigger l).nextCid = s.nextCid + l.length := by
  induction l generalizing s with
  | nil => rfl
  | cons p l ih => simp only [scheduleAll, ih, schedule, List.length_cons]; omega

theorem callAtomic_frame (cs : List (Caller Cat)) (d : DrainPhase Cat) (i : Instr) :
    { s with callers := cs, drain := d }.callAtomic i =
      { s.callAtomic i with callers := cs, drain := d } := by
  cases i <;> simp only [callAtomic] <;> (try split) <;>
    first
    | rfl
    | exact scheduleAll_comm (s := { s with orch := _ }) (fun u => { u with callers := cs, drain := d }) _
        (fun _ _ _ => rfl) _

theorem foldl_callAtomic_frame (cs : List (Caller Cat)) (d : DrainPhase Cat) (is : List Instr) :
    is.foldl callAtomic { s with callers := cs, drain := d } =
      { is.foldl callAtomic s with callers := cs, drain := d } := by
  induction is generalizing s with
  | nil => rfl
  | cons i is ih => simp only [List.foldl_cons, callAtomic_frame, ih]

theorem le_nextCid_callAtomic (i : Instr) : s.nextCid ≤ (s.callAtomic i).nextCid := by
  cases i <;> simp only [callAtomic] <;> (try split) <;> simp [schedule, nextCid_scheduleAll]

theorem le_nextCid_foldl (is : List Instr) : s.nextCid ≤ (is.foldl callAtomic s).nextCid := by
  induction is generalizing s with
  | nil => exact le_refl _
  | cons i is ih => exact (le_nextCid_callAtomic i).trans ih

-- ---------------------------------------------------------------------------
-- A thread run alone
-- ---------------------------------------------------------------------------

/-- A thread at `p` reaches `q` by its own critical sections, nothing between them. -/
def CallerRuns : System Cat Act M × Caller Cat → System Cat Act M × Caller Cat → Prop :=
  Relation.ReflTransGen fun p q => callerStep p.1 p.2 = some q

/-- Made at `s` by a thread with nothing in flight, call `i` has the effect of the call
made in one piece, and the thread hands out the chains that scheduled. -/
def CallRunsAlone (s : System Cat Act M) (i : Instr) : Prop :=
  ∀ rest handedOut, CallerRuns (s, ⟨i :: rest, none, handedOut⟩)
    (s.callAtomic i, ⟨rest, none, handedOut ++ newCids s (s.callAtomic i)⟩)

theorem newCids_self : newCids s s = [] := by simp [newCids]

theorem newCids_orch (o : Orchestrator Cat Act M) : newCids s { s with orch := o } = [] := newCids_self

theorem newCids_schedule (o : Orchestrator Cat Act M) (x : String) (infection : InfectionReport)
    (trigger : String) : newCids s ({ s with orch := o }.schedule x infection trigger) = [s.nextCid] := by
  simp [newCids, schedule]

theorem callRunsAlone_approveHealing (x : String) (approved : Bool) (trigger : String) :
    s.CallRunsAlone (.approveHealing x approved trigger) := by
  intro rest handedOut
  rcases hb : s.orch.approveHealingBegin x approved s.clock with ⟨_ | infection | entry, o⟩
  case missing =>
    have ha : s.callAtomic (.approveHealing x approved trigger) = { s with orch := o } := by
      simp [callAtomic, approveHealing, hb]
    rw [ha, newCids_orch, List.append_nil]
    exact .single (by simp [callerStep, hb])
  case approved =>
    have ha : s.callAtomic (.approveHealing x approved trigger) =
        { s with orch := o }.schedule x infection trigger := by
      simp [callAtomic, approveHealing, hb]
    rw [ha, newCids_schedule]
    exact .single (by simp [callerStep, hb])
  case rejecting =>
    have ha : s.callAtomic (.approveHealing x approved trigger) =
        { s with orch := o.approveHealingReject x entry s.clock } := by
      simp [callAtomic, approveHealing, hb]
    rw [ha, newCids_orch, List.append_nil]
    have h₁ : callerStep s ⟨.approveHealing x approved trigger :: rest, none, handedOut⟩ =
        some ({ s with orch := o }, ⟨rest, some (x, entry), handedOut⟩) := by
      simp [callerStep, hb]
    exact .tail (.single h₁) rfl

theorem callRunsAlone_startHealingExplicitly (x : String) (trigger : String) :
    s.CallRunsAlone (.startHealingExplicitly x trigger) := by
  intro rest handedOut
  rcases hb : s.orch.startHealingExplicitly x s.clock with ⟨_ | infection, o⟩
  case none =>
    have ha : s.callAtomic (.startHealingExplicitly x trigger) = { s with orch := o } := by
      simp [callAtomic, hb]
    rw [ha, newCids_orch, List.append_nil]
    exact .single (by simp [callerStep, hb])
  case some =>
    have ha : s.callAtomic (.startHealingExplicitly x trigger) =
        { s with orch := o }.schedule x infection trigger := by
      simp [callAtomic, hb]
    rw [ha, newCids_schedule]
    exact .single (by simp [callerStep, hb])

/-- Calls that each run alone compose: the thread runs its program to the end. -/
theorem callerRuns_foldl (is : List Instr) (his : ∀ i ∈ is, ∀ s : System Cat Act M, s.CallRunsAlone i)
    (s : System Cat Act M) (rest : List Instr) (handedOut : List Nat) :
    CallerRuns (s, ⟨is ++ rest, none, handedOut⟩)
      (is.foldl callAtomic s, ⟨rest, none, handedOut ++ newCids s (is.foldl callAtomic s)⟩) := by
  induction is generalizing s handedOut with
  | nil => rw [List.foldl_nil, newCids_self, List.append_nil]; exact .refl
  | cons i is ih =>
    refine (his i (List.mem_cons_self _ _) s (is ++ rest) handedOut).trans ?_
    rw [List.foldl_cons, ← newCids_append (le_nextCid_callAtomic i) (le_nextCid_foldl is),
      ← List.append_assoc]
    exact ih (fun j hj => his j (List.mem_cons_of_mem _ hj)) _ _

theorem foldl_callAtomic_approveHealing (approved : Bool) (trigger : String) :
    ∀ (xs : List String) (s : System Cat Act M),
      (xs.map fun x => Instr.approveHealing x approved trigger).foldl callAtomic s =
        { s with orch := (approveEach approved s.clock xs s.orch).2 }.scheduleAll trigger
          (approveEach approved s.clock xs s.orch).1
  | [], s => rfl
  | x :: xs, s => by
    rcases hA : s.orch.approveHealing x approved s.clock with ⟨⟨_ | infection, _ | _⟩, o⟩ <;>
      simp only [List.map_cons, List.foldl_cons, callAtomic, hA, approveEach,
        foldl_callAtomic_approveHealing approved trigger xs]
    rfl

theorem foldl_callAtomic_startHealingExplicitly (trigger : String) :
    ∀ (xs : List String) (s : System Cat Act M),
      (xs.map fun x => Instr.startHealingExplicitly x trigger).foldl callAtomic s =
        { s with orch := (startHealingEach s.clock xs s.orch).2 }.scheduleAll trigger
          (startHealingEach s.clock xs s.orch).1
  | [], s => rfl
  | x :: xs, s => by
    rcases hA : s.orch.startHealingExplicitly x s.clock with ⟨_ | infection, o⟩ <;>
      simp only [List.map_cons, List.foldl_cons, callAtomic, hA, startHealingEach,
        foldl_callAtomic_startHealingExplicitly trigger xs]
    rfl

theorem callRunsAlone_approveAllPending (approved : Bool) (trigger : String) :
    s.CallRunsAlone (.approveAllPending approved trigger) := by
  intro rest handedOut
  have h := callerRuns_foldl
    (s.orch.pendingApprovals.keys.map fun x => .approveHealing x approved trigger)
    (fun i hi s => by
      obtain ⟨x, -, rfl⟩ := List.mem_map.1 hi
      exact callRunsAlone_approveHealing x approved trigger) s rest handedOut
  rw [foldl_callAtomic_approveHealing] at h
  exact .head rfl h

theorem callRunsAlone_startHealingAllRejected (trigger : String) :
    s.CallRunsAlone (.startHealingAllRejected trigger) := by
  intro rest handedOut
  have h := callerRuns_foldl
    (s.orch.rejectedApprovals.keys.map fun x => .startHealingExplicitly x trigger)
    (fun i hi s => by
      obtain ⟨x, -, rfl⟩ := List.mem_map.1 hi
      exact callRunsAlone_startHealingExplicitly x trigger) s rest handedOut
  rw [foldl_callAtomic_startHealingExplicitly] at h
  exact .head rfl h

theorem callRunsAlone_all (s : System Cat Act M) : ∀ i, s.CallRunsAlone i
  | .approveHealing x approved trigger => callRunsAlone_approveHealing x approved trigger
  | .approveAllPending approved trigger => callRunsAlone_approveAllPending approved trigger
  | .startHealingExplicitly x trigger => callRunsAlone_startHealingExplicitly x trigger
  | .startHealingAllRejected trigger => callRunsAlone_startHealingAllRejected trigger

/-- The closed forms of the bulk calls in one piece. -/
theorem callAtomic_approveAllPending_true (trigger : String) :
    s.callAtomic (.approveAllPending true trigger) =
      { s with orch := { s.orch.logCalls (logEach .userApproved s.clock s.orch.pendingApprovals.entries) with
          pendingApprovals := .empty } }.scheduleAll trigger
        (s.orch.pendingApprovals.entries.map fun e : String × PendingApproval Cat => (e.1, e.2.infection)) := by
  simp only [callAtomic, approveAllPending, PyDict.keys, approveEach_true s.clock _ s.orch rfl]

theorem callAtomic_startHealingAllRejected (trigger : String) :
    s.callAtomic (.startHealingAllRejected trigger) =
      { s with orch := { s.orch.logCalls (logEach .explicitHealRequested s.clock
          s.orch.rejectedApprovals.entries) with rejectedApprovals := .empty } }.scheduleAll trigger
        (s.orch.rejectedApprovals.entries.map fun e : String × RejectedApproval Cat =>
          (e.1, e.2.infection)) := by
  simp only [callAtomic, startHealingAllRejected, PyDict.keys, startHealingEach_all s.clock _ s.orch rfl]

end System

open System

variable {p q : System Cat Act M × Caller Cat}

-- ---------------------------------------------------------------------------
-- The dashboard's threads and the drain
-- ---------------------------------------------------------------------------

/-- A thread of the dashboard run alone: its `callerStep` events step it as its critical
sections do. -/
theorem System.CallerRuns.run_callerStep (h : CallerRuns p q) {i : Nat} (cs : List (Caller Cat))
    (hi : i < cs.length) (d : DrainPhase Cat) :
    ∃ k, run H mem { p.1 with callers := cs.set i p.2, drain := d } (List.replicate k (.callerStep i)) =
      some { q.1 with callers := cs.set i q.2, drain := d } := by
  induction h using Relation.ReflTransGen.head_induction_on with
  | refl => exact ⟨0, rfl⟩
  | head hab _ ih =>
    obtain ⟨k, hk⟩ := ih
    refine ⟨k + 1, ?_⟩
    rw [List.replicate_succ, run, step, List.getElem?_set_self hi]
    simp only [callerStep_frame, hab, Option.map_some', Option.some_bind, List.set_set]
    exact hk

/-- `run()`'s forced calls run alone: its `drainStep` events step them as their critical
sections do. -/
theorem System.CallerRuns.run_drainStep (h : CallerRuns p q) (cs : List (Caller Cat)) :
    ∃ k, run H mem { p.1 with callers := cs, drain := .forcing p.2 } (List.replicate k .drainStep) =
      some { q.1 with callers := cs, drain := .forcing q.2 } := by
  induction h using Relation.ReflTransGen.head_induction_on with
  | refl => exact ⟨0, rfl⟩
  | head hab _ ih =>
    obtain ⟨k, hk⟩ := ih
    refine ⟨k + 1, ?_⟩
    rw [List.replicate_succ, run, step]
    simp only [callerStep_frame, hab, Option.map_some', Option.some_bind]
    exact hk

theorem callers_foldl_callAtomic (s : System Cat Act M) (is : List Instr) :
    (is.foldl callAtomic s).callers = s.callers := by
  have h := congrArg System.callers (foldl_callAtomic_frame (s := s) s.callers s.drain is)
  exact h

theorem drain_foldl_callAtomic (s : System Cat Act M) (is : List Instr) :
    (is.foldl callAtomic s).drain = s.drain := by
  have h := congrArg System.drain (foldl_callAtomic_frame (s := s) s.callers s.drain is)
  exact h

/-- A call of the dashboard whose critical sections run with nothing between them has the
effect of the same calls made each in one piece, with a heal chain scheduled for each
infection they return; the thread ends holding the ids of those chains. -/
theorem call_runs_alone (s : System Cat Act M) (program : List Instr) :
    ∃ k, run H mem s (.call program :: List.replicate k (.callerStep s.callers.length)) =
      some { program.foldl callAtomic s with
        callers := s.callers ++ [⟨[], none, newCids s (program.foldl callAtomic s)⟩] } := by
  have h := callerRuns_foldl program (fun i _ s => callRunsAlone_all s i) s [] []
  rw [List.append_nil, List.nil_append] at h
  obtain ⟨k, hk⟩ := h.run_callerStep H mem (i := s.callers.length) (s.callers ++ [⟨program, none, []⟩])
    (by simp) s.drain
  simp only [List.set_append_right _ _ (le_refl _), Nat.sub_self, List.set_cons_zero] at hk
  refine ⟨k, ?_⟩
  rw [run, step, Option.some_bind, hk, ← drain_foldl_callAtomic s program]

/-- Its forced calls done, the drain gathers the chains they handed out. -/
theorem step_drainStep_forced (u : System Cat Act M) (handedOut : List Nat) :
    step H mem { u with drain := .forcing ⟨[], none, handedOut⟩ } .drainStep =
      some (if handedOut = [] then u.drainCheck else { u with drain := .gathering handedOut }) := rfl

/-- `run()`'s forced calls, run with nothing between their critical sections, have the
effect of `approve_all_pending(True)` and `start_healing_all_rejected()` made each in one
piece; the drain then gathers the chains they scheduled. -/
theorem forced_calls_atomic (s : System Cat Act M) (hd : s.drain = .waiting) :
    let t := [Instr.approveAllPending true "drain_approve", .startHealingAllRejected "drain_heal_now"].foldl
      callAtomic s
    ∃ k, run H mem s (.drainStarts :: List.replicate k .drainStep) =
      some (if newCids s t = [] then t.drainCheck else { t with drain := .gathering (newCids s t) }) := by
  intro t
  have h := callerRuns_foldl
    [.approveAllPending true "drain_approve", .startHealingAllRejected "drain_heal_now"]
    (fun i _ s => callRunsAlone_all s i) s [] []
  rw [List.append_nil, List.nil_append] at h
  obtain ⟨k, hk⟩ := h.run_drainStep H mem s.callers
  have h₀ : step H mem s .drainStarts = some { s with
      drain := .forcing ⟨[.approveAllPending true "drain_approve", .startHealingAllRejected "drain_heal_now"],
        none, []⟩ } := by
    simp only [step, loopFree, hd, if_true, loopStep]
  refine ⟨k + 1, ?_⟩
  rw [List.replicate_succ', ← List.cons_append, run_append, run, h₀, Option.some_bind, hk,
    Option.some_bind, ← callers_foldl_callAtomic s, run, step_drainStep_forced, Option.some_bind, run]

/-- When the dashboard makes no call during them, `run()`'s forced calls empty both approval
maps, log one entry per key, and schedule one heal chain per agent that was pending
(`drain_approve`) and then per agent that was rejected (`drain_heal_now`), in insertion
order; the drain then gathers exactly those chains, or goes straight to its poll if there
were none. -/
theorem forced_calls_alone (s : System Cat Act M) (hd : s.drain = .waiting) :
    let P := s.orch.pendingApprovals.entries
    let R := s.orch.rejectedApprovals.entries
    let t := ({ s with orch := { s.orch.logCalls (logEach .userApproved s.clock P ++
        logEach .explicitHealRequested s.clock R) with
          pendingApprovals := .empty, rejectedApprovals := .empty } }.scheduleAll "drain_approve"
        (P.map fun e : String × PendingApproval Cat => (e.1, e.2.infection))).scheduleAll "drain_heal_now"
        (R.map fun e : String × RejectedApproval Cat => (e.1, e.2.infection))
    ∃ k, run H mem s (.drainStarts :: List.replicate k .drainStep) =
      some (if P.length + R.length = 0 then t.drainCheck
        else { t with drain := .gathering (List.range' s.nextCid (P.length + R.length)) }) := by
  intro P R t
  have ht : [Instr.approveAllPending true "drain_approve", .startHealingAllRejected "drain_heal_now"].foldl
      callAtomic s = t := by
    rw [List.foldl_cons, callAtomic_approveAllPending_true, List.foldl_cons,
      callAtomic_startHealingAllRejected, List.foldl_nil, scheduleAll_with_orch _ rfl, orch_scheduleAll,
      clock_scheduleAll]
    simp only [t, logCalls_eq, List.foldl_append]
  have hn : newCids s t = List.range' s.nextCid (P.length + R.length) := by
    simp only [newCids, t, nextCid_scheduleAll, List.length_map, Nat.add_assoc,
      Nat.add_sub_cancel_left]
  have h := forced_calls_atomic H mem s hd
  dsimp only at h
  rw [ht, hn] at h
  simpa only [List.range'_eq_nil] using h

theorem forced_calls_alone_after_severe_sweep :
    ∃ s, Control.run (Healer.firstUntried fun _ : Unit => [()]) ImmuneMemory.outcomeLog
        (System.init ((createAgentPool 2).getD []) [])
        [.sentinelWakes, .sweep "VPN" (some ⟨"VPN", 8⟩) ⟨(), 1, ""⟩] = some s ∧
      s.drain = .waiting ∧
      let P := s.orch.pendingApprovals.entries
      let R := s.orch.rejectedApprovals.entries
      let t := ({ s with orch := { s.orch.logCalls (logEach .userApproved s.clock P ++
          logEach .explicitHealRequested s.clock R) with
            pendingApprovals := .empty, rejectedApprovals := .empty } }.scheduleAll "drain_approve"
          (P.map fun e : String × PendingApproval Unit => (e.1, e.2.infection))).scheduleAll "drain_heal_now"
          (R.map fun e : String × RejectedApproval Unit => (e.1, e.2.infection))
      ∃ k, Control.run (Healer.firstUntried fun _ : Unit => [()]) ImmuneMemory.outcomeLog s
          (.drainStarts :: List.replicate k .drainStep) =
        some (if P.length + R.length = 0 then t.drainCheck
          else { t with drain := .gathering (List.range' s.nextCid (P.length + R.length)) }) :=
  ⟨_, (Option.some_get (by rfl)).symm, by rfl, forced_calls_alone _ _ _ (by rfl)⟩

end Control

end ImmuneSystem