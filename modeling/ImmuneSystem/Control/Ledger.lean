-- SUMMARY: The bookkeeping behind the control-loop invariant: active faults as a multiset, and how quarantine, counters and agent statuses follow it.
import ImmuneSystem.Control.System

/-!
# Active faults

An agent has an active fault while it holds a pending entry, a rejected entry, a
rejection between its two critical sections, or a live heal chain. `owners`
collects these as a multiset; the invariant says it has no repeats, that the
quarantine set is exactly its support, that the controller's quarantine counter
counts the infections, and that every infection counted is either healed,
exhausted, or still one of these faults.

Every step moves the multiset in one of three ways: it stays, one agent is added
as it is quarantined, or one agent is removed as it is released. The three lemmas
`Ledger.same`, `Ledger.add` and `Ledger.remove` carry the invariant across each.
-/

namespace ImmuneSystem

namespace Control

variable {Cat Act M : Type}

/-- The agent a thread is filing as rejected, if any. -/
def Caller.rejectingId (c : Caller Cat) : List String := (c.rejecting.map Prod.fst).toList

namespace System

/-- The threads inside the approval API: the dashboard's and, while it forces, the drain's. -/
def allCallers (s : System Cat Act M) : List (Caller Cat) :=
  s.callers ++ match s.drain with
    | .forcing c => [c]
    | _ => []

/-- Agents whose rejection is between its two critical sections. -/
def rejectingIds (s : System Cat Act M) : Multiset String := ↑(s.allCallers.flatMap Caller.rejectingId)

/-- The agents of a table of heal chains. -/
def ids (d : PyDict Nat (HealChain Cat Act)) : Multiset String := ↑(d.entries.map (·.2.agentId))

/-- The agents of the started chains of a table. -/
def startedIds (d : PyDict Nat (HealChain Cat Act)) : Finset String :=
  ((d.entries.filter (·.2.started)).map (·.2.agentId)).toFinset

/-- The agents of the live heal chains, scheduled or started. -/
def chainIds (s : System Cat Act M) : Multiset String := ids s.chains

/-- Every active fault, by agent. -/
def owners (s : System Cat Act M) : Multiset String :=
  ↑s.orch.pendingApprovals.keys + ↑s.orch.rejectedApprovals.keys + s.rejectingIds + s.chainIds

/-- The agents of the started chains. -/
def healing (s : System Cat Act M) : Finset String := startedIds s.chains

-- ---------------------------------------------------------------------------
-- Tables of chains
-- ---------------------------------------------------------------------------

theorem ids_of_perm {d : PyDict Nat (HealChain Cat Act)} {l : List (Nat × HealChain Cat Act)}
    {e : Nat × HealChain Cat Act} (h : d.entries.Perm (e :: l)) :
    ids d = e.2.agentId ::ₘ ↑(l.map (·.2.agentId)) :=
  Multiset.coe_eq_coe.2 (h.map _)

theorem startedIds_of_perm {d : PyDict Nat (HealChain Cat Act)} {l : List (Nat × HealChain Cat Act)}
    {e : Nat × HealChain Cat Act} (h : d.entries.Perm (e :: l)) :
    startedIds d = if e.2.started then insert e.2.agentId ((l.filter (·.2.started)).map (·.2.agentId)).toFinset
      else ((l.filter (·.2.started)).map (·.2.agentId)).toFinset := by
  rw [startedIds, List.toFinset_eq_of_perm _ _ ((h.filter _).map _), List.filter_cons]
  split <;> simp_all

theorem ids_of_get? {d : PyDict Nat (HealChain Cat Act)} {cid : Nat} {ch : HealChain Cat Act}
    (h : d.get? cid = some ch) : ids d = ch.agentId ::ₘ ids (d.erase cid) :=
  ids_of_perm (PyDict.entries_perm_erase h)

theorem ids_insert (d : PyDict Nat (HealChain Cat Act)) (cid : Nat) (ch : HealChain Cat Act) :
    ids (d.insert cid ch) = ch.agentId ::ₘ ids (d.erase cid) :=
  ids_of_perm (PyDict.entries_perm_insert d cid ch)

theorem startedIds_of_get? {d : PyDict Nat (HealChain Cat Act)} {cid : Nat} {ch : HealChain Cat Act}
    (h : d.get? cid = some ch) : startedIds d =
      if ch.started then insert ch.agentId (startedIds (d.erase cid)) else startedIds (d.erase cid) :=
  startedIds_of_perm (PyDict.entries_perm_erase h)

theorem startedIds_insert (d : PyDict Nat (HealChain Cat Act)) (cid : Nat) (ch : HealChain Cat Act) :
    startedIds (d.insert cid ch) =
      if ch.started then insert ch.agentId (startedIds (d.erase cid)) else startedIds (d.erase cid) :=
  startedIds_of_perm (PyDict.entries_perm_insert d cid ch)

theorem mem_ids_of_mem_startedIds {d : PyDict Nat (HealChain Cat Act)} {x : String}
    (h : x ∈ startedIds d) : x ∈ ids d := by
  simp only [startedIds, List.mem_toFinset, List.mem_map, List.mem_filter] at h
  obtain ⟨e, ⟨he, -⟩, rfl⟩ := h
  exact Multiset.mem_coe.2 (List.mem_map_of_mem _ he)

theorem mem_ids_iff {d : PyDict Nat (HealChain Cat Act)} {x : String} :
    x ∈ ids d ↔ ∃ cid ch, d.get? cid = some ch ∧ ch.agentId = x := by
  simp only [ids, Multiset.mem_coe, List.mem_map]
  constructor
  · rintro ⟨⟨cid, ch⟩, he, rfl⟩
    exact ⟨cid, ch, PyDict.get?_of_mem_entries he, rfl⟩
  · rintro ⟨cid, ch, hg, rfl⟩
    exact ⟨(cid, ch), PyDict.mem_entries_of_get? hg, rfl⟩

theorem mem_startedIds_iff {d : PyDict Nat (HealChain Cat Act)} {x : String} :
    x ∈ startedIds d ↔ ∃ cid ch, d.get? cid = some ch ∧ ch.agentId = x ∧ ch.started = true := by
  simp only [startedIds, List.mem_toFinset, List.mem_map, List.mem_filter]
  constructor
  · rintro ⟨⟨cid, ch⟩, ⟨he, hst⟩, rfl⟩
    exact ⟨cid, ch, PyDict.get?_of_mem_entries he, rfl, hst⟩
  · rintro ⟨cid, ch, hg, rfl, hst⟩
    exact ⟨(cid, ch), ⟨PyDict.mem_entries_of_get? hg, hst⟩, rfl⟩

/-- The counting half of the invariant. -/
structure Ledger (s : System Cat Act M) : Prop where
  nodup : s.owners.Nodup
  quarantined : s.orch.quarantine.quarantined = s.owners.toFinset
  counted : s.orch.quarantine.totalQuarantines = s.orch.totalInfections
  conservation : s.orch.totalInfections = s.orch.totalHealed + s.exhausted + Multiset.card s.owners

theorem Ledger.same {s s' : System Cat Act M} (h : s.Ledger) (ho : s'.owners = s.owners)
    (hq : s'.orch.quarantine = s.orch.quarantine)
    (hi : s'.orch.totalInfections = s.orch.totalInfections)
    (hc : s'.orch.totalHealed + s'.exhausted = s.orch.totalHealed + s.exhausted) : s'.Ledger :=
  ⟨ho ▸ h.nodup, by rw [hq, ho, h.quarantined], by rw [hq, hi, h.counted],
    by rw [hi, h.conservation, ho]; omega⟩

theorem Ledger.add {s s' : System Cat Act M} {x : String} (h : s.Ledger) (hx : x ∉ s.owners)
    (ho : s'.owners = x ::ₘ s.owners) (hq : s'.orch.quarantine = s.orch.quarantine.quarantine x)
    (hi : s'.orch.totalInfections = s.orch.totalInfections + 1)
    (hc : s'.orch.totalHealed + s'.exhausted = s.orch.totalHealed + s.exhausted) : s'.Ledger := by
  refine ⟨ho ▸ Multiset.nodup_cons.2 ⟨hx, h.nodup⟩, ?_, ?_, ?_⟩
  · rw [hq, QuarantineController.quarantine_quarantined, ho, h.quarantined, Multiset.toFinset_cons]
  · rw [hq, hi, ← h.counted]
    rfl
  · rw [hi, h.conservation, ho, Multiset.card_cons]; omega

theorem Ledger.remove {s s' : System Cat Act M} {x : String} (h : s.Ledger)
    (ho : s.owners = x ::ₘ s'.owners) (hq : s'.orch.quarantine = s.orch.quarantine.release x)
    (hi : s'.orch.totalInfections = s.orch.totalInfections)
    (hc : s'.orch.totalHealed + s'.exhausted = s.orch.totalHealed + s.exhausted + 1) : s'.Ledger := by
  have hnd := h.nodup
  rw [ho, Multiset.nodup_cons] at hnd
  refine ⟨hnd.2, ?_, by rw [hq, hi, ← h.counted]; rfl, ?_⟩
  · rw [hq, QuarantineController.release_quarantined, h.quarantined, ho, Multiset.toFinset_cons,
      Finset.erase_insert (by simpa using hnd.1)]
  · have := h.conservation
    rw [ho, Multiset.card_cons] at this
    omega

-- ---------------------------------------------------------------------------
-- Agent statuses
-- ---------------------------------------------------------------------------

/-- An agent's status says quarantined only when the controller agrees, and outside
quarantine it says infected exactly when the agent is infected. -/
def Agrees (agents : PyDict String BaseAgent) (q : Finset String) : Prop :=
  ∀ x a, agents.get? x = some a →
    (a.status = .quarantined → x ∈ q) ∧ (x ∉ q → (a.status = .infected ↔ a.infected = true))

/-- A transition that leaves the status mirroring the flag: `infect`, `cure`, `release`. -/
def Mirrors (f : BaseAgent → BaseAgent) : Prop :=
  ∀ a, (f a).status ≠ .quarantined ∧ ((f a).status = .infected ↔ (f a).infected = true)

theorem mirrors_infect (t : String) : Mirrors (BaseAgent.infect · t) := fun _ => by simp
theorem mirrors_cure : Mirrors BaseAgent.cure := fun _ => by simp
theorem mirrors_release : Mirrors BaseAgent.release := fun a => by
  cases h : a.infected <;> simp [h]

theorem Agrees.modify_mirrors {agents : PyDict String BaseAgent} {q q' : Finset String}
    {x : String} {f : BaseAgent → BaseAgent} (h : Agrees agents q) (hf : Mirrors f)
    (hq : ∀ y, y ≠ x → (y ∈ q' ↔ y ∈ q)) : Agrees (agents.modify x f) q' := by
  intro y a hy
  rw [PyDict.get?_modify] at hy
  split at hy
  · obtain ⟨b, -, rfl⟩ := Option.map_eq_some'.1 hy
    exact ⟨fun hs => absurd hs (hf b).1, fun _ => (hf b).2⟩
  · rw [hq y ‹_›]
    exact h y a hy

theorem Agrees.modify_quarantine {agents : PyDict String BaseAgent} {q : Finset String}
    {x : String} (h : Agrees agents q) :
    Agrees (agents.modify x BaseAgent.quarantine) (insert x q) := by
  intro y a hy
  rw [PyDict.get?_modify] at hy
  split at hy
  · subst y
    exact ⟨fun _ => Finset.mem_insert_self _ _, fun hx => absurd (Finset.mem_insert_self _ _) hx⟩
  · have := h y a hy
    exact ⟨fun hs => Finset.mem_insert_of_mem (this.1 hs),
      fun hy' => this.2 (fun hq => hy' (Finset.mem_insert_of_mem hq))⟩

theorem Agrees.modify_execute {agents : PyDict String BaseAgent} {q : Finset String}
    {x : String} (h : Agrees agents q) : Agrees (agents.modify x BaseAgent.execute) q := by
  intro y a hy
  rw [PyDict.get?_modify] at hy
  split at hy
  · obtain ⟨b, hb, rfl⟩ := Option.map_eq_some'.1 hy
    simpa using h _ b (by subst y; exact hb)
  · exact h y a hy

-- ---------------------------------------------------------------------------
-- Moving one element of a list of threads
-- ---------------------------------------------------------------------------

/-- Replacing the `i`-th thread moves its contribution out and the new one in. -/
theorem flatMap_set_perm {α β : Type} (f : α → List β) {l : List α} {i : Nat} {c : α}
    (hc : l[i]? = some c) (c' : α) :
    ((l.set i c').flatMap f ++ f c).Perm (l.flatMap f ++ f c') := by
  obtain ⟨hi, rfl⟩ := List.getElem?_eq_some_iff.1 hc
  have hl : l = l.take i ++ l[i] :: l.drop (i + 1) := by
    conv_lhs => rw [← List.take_append_drop i l, List.drop_eq_getElem_cons hi]
  rw [List.set_eq_take_append_cons_drop, if_pos hi]
  conv_rhs => rw [hl]
  simp only [List.flatMap_append, List.flatMap_cons, List.append_assoc]
  refine List.Perm.append_left _ ?_
  rw [← Multiset.coe_eq_coe]
  simp only [← Multiset.coe_add]
  ac_rfl

end System

end Control

end ImmuneSystem
