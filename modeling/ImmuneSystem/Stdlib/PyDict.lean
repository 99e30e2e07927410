-- SUMMARY: Python dictionaries as insertion-ordered association lists whose keys cannot repeat.
import Mathlib.Data.Finset.Card

/-!
# Python dictionaries

The orchestrator keeps its agents and its two approval queues in `dict`s, and
`approve_all_pending` walks a snapshot of the keys in insertion order. A `PyDict`
is the list of entries in that order; its field `nodup_keys` makes a dictionary
with a repeated key impossible to build. Assigning to a present key replaces the
value in place, as in Python; `d.pop(k, None)` is `get?` followed by `erase`.
-/

namespace ImmuneSystem

/-- A `dict`: entries in insertion order, each key at most once. -/
structure PyDict (K V : Type) where
  entries : List (K × V)
  nodup_keys : (entries.map Prod.fst).Nodup

namespace PyDict

variable {K V : Type}

def keys (d : PyDict K V) : List K := d.entries.map Prod.fst

def size (d : PyDict K V) : Nat := d.entries.length

def empty : PyDict K V := ⟨[], List.nodup_nil⟩

theorem keys_nodup (d : PyDict K V) : d.keys.Nodup := d.nodup_keys

theorem ext {d d' : PyDict K V} (h : d.entries = d'.entries) : d = d' := by
  cases d; cases d'; cases h; rfl

theorem eq_empty_of_entries {d : PyDict K V} (h : d.entries = []) : d = empty := ext h

@[simp] theorem keys_empty : (empty : PyDict K V).keys = [] := rfl

@[simp] theorem size_eq_length_keys (d : PyDict K V) : d.size = d.keys.length := by
  simp [size, keys]

variable [DecidableEq K]

/-- `d.get(k)`. -/
def get? (d : PyDict K V) (k : K) : Option V :=
  (d.entries.find? (·.1 == k)).map Prod.snd

/-- `del d[k]`, a no-op when `k` is absent. -/
def erase (d : PyDict K V) (k : K) : PyDict K V :=
  ⟨d.entries.filter (·.1 != k), d.nodup_keys.sublist ((List.filter_sublist _).map _)⟩

/-- `d[k] = v`: a present key keeps its position and takes the new value. -/
def insert (d : PyDict K V) (k : K) (v : V) : PyDict K V :=
  if h : k ∈ d.keys then
    ⟨d.entries.map (fun e => if e.1 = k then (k, v) else e), by
      have : (d.entries.map (fun e => if e.1 = k then (k, v) else e)).map Prod.fst = d.keys := by
        simp only [keys, List.map_map]
        exact List.map_congr_left (fun e _ => by by_cases he : e.1 = k <;> simp [he])
      exact this ▸ d.nodup_keys⟩
  else
    ⟨d.entries ++ [(k, v)], by
      rw [List.map_append, List.nodup_append]
      exact ⟨d.nodup_keys, List.nodup_singleton _, by simpa [keys] using h⟩⟩

/-- `d[k] = f(d[k])` on a present key; nothing on an absent one. -/
def modify (d : PyDict K V) (k : K) (f : V → V) : PyDict K V :=
  ⟨d.entries.map (fun e => if e.1 = k then (k, f e.2) else e), by
    have : (d.entries.map (fun e => if e.1 = k then (k, f e.2) else e)).map Prod.fst = d.keys := by
      simp only [keys, List.map_map]
      exact List.map_congr_left (fun e _ => by by_cases he : e.1 = k <;> simp [he])
    exact this ▸ d.nodup_keys⟩

/-- The dictionary comprehension `{key(x): x for x in xs}`: later items overwrite. -/
def ofList (key : V → K) (xs : List V) : PyDict K V :=
  xs.foldl (fun d x => d.insert (key x) x) empty

-- ---------------------------------------------------------------------------
-- Keys
-- ---------------------------------------------------------------------------

theorem keys_erase (d : PyDict K V) (k : K) : (d.erase k).keys = d.keys.filter (· != k) := by
  simp only [keys, erase, List.filter_map]
  rfl

theorem keys_insert (d : PyDict K V) (k : K) (v : V) :
    (d.insert k v).keys = if k ∈ d.keys then d.keys else d.keys ++ [k] := by
  unfold insert
  split <;> rename_i h
  · simp only [keys, List.map_map, h, if_true]
    exact List.map_congr_left (fun e _ => by by_cases he : e.1 = k <;> simp [he])
  · simp [keys, h]

theorem mem_keys_insert {d : PyDict K V} {k j : K} {v : V} :
    j ∈ (d.insert k v).keys ↔ j ∈ d.keys ∨ j = k := by
  rw [keys_insert]
  split <;> rename_i h
  · exact ⟨Or.inl, fun hj => hj.elim id (fun hjk => hjk ▸ h)⟩
  · simp

theorem mem_keys_erase {d : PyDict K V} {k j : K} : j ∈ (d.erase k).keys ↔ j ∈ d.keys ∧ j ≠ k := by
  simp [keys_erase]

/-- Erasing a present key takes exactly that key out of the key list, up to order. -/
theorem keys_perm_erase {d : PyDict K V} {k : K} (h : k ∈ d.keys) :
    d.keys.Perm (k :: (d.erase k).keys) := by
  rw [keys_erase, ← d.keys_nodup.erase_eq_filter]
  exact List.perm_cons_erase h

theorem erase_of_not_mem {d : PyDict K V} {k : K} (h : k ∉ d.keys) : d.erase k = d := by
  obtain ⟨es, hes⟩ := d
  simp only [erase, mk.injEq]
  refine List.filter_eq_self.2 (fun e he => ?_)
  have : e.1 ≠ k := fun hk => h (hk ▸ List.mem_map_of_mem _ he)
  simpa using this

-- ---------------------------------------------------------------------------
-- Lookup
-- ---------------------------------------------------------------------------

theorem get?_eq_none_iff {d : PyDict K V} {k : K} : d.get? k = none ↔ k ∉ d.keys := by
  simp only [get?, Option.map_eq_none', List.find?_eq_none, beq_iff_eq, keys, List.mem_map]
  exact ⟨fun h ⟨e, he, hk⟩ => h e he hk, fun h e he hk => h ⟨e, he, hk⟩⟩

theorem mem_keys_of_get? {d : PyDict K V} {k : K} {v : V} (h : d.get? k = some v) :
    k ∈ d.keys := by
  by_contra hk
  rw [← get?_eq_none_iff] at hk
  simp_all

theorem mem_keys_iff_isSome {d : PyDict K V} {k : K} : k ∈ d.keys ↔ (d.get? k).isSome := by
  rw [← not_iff_not, ← get?_eq_none_iff, Option.not_isSome_iff_eq_none]

@[simp] theorem get?_erase (d : PyDict K V) (k j : K) :
    (d.erase k).get? j = if j = k then none else d.get? j := by
  split <;> rename_i h
  · exact get?_eq_none_iff.2 (by simp [mem_keys_erase, h])
  · simp only [get?, erase, List.find?_filter]
    congr 2
    funext e
    by_cases he : e.1 = j <;> simp [he, h]

@[simp] theorem get?_insert (d : PyDict K V) (k j : K) (v : V) :
    (d.insert k v).get? j = if j = k then some v else d.get? j := by
  unfold insert
  split <;> rename_i h
  · have hq : ((fun e : K × V => e.1 == j) ∘ fun e => if e.1 = k then (k, v) else e) =
        (fun e => e.1 == j) := by
      funext e; by_cases he : e.1 = k <;> simp [he]
    simp only [get?, List.find?_map, hq]
    cases hf : d.entries.find? (·.1 == j) with
    | none =>
      have hj : j ≠ k := fun hjk => get?_eq_none_iff.1 (by simp [get?, hf]) (hjk ▸ h)
      simp [hj]
    | some e =>
      have he : e.1 = j := by simpa using List.find?_some hf
      by_cases hj : j = k <;> simp [he, hj]
  · simp only [get?, List.find?_append, List.find?_cons, List.find?_nil, beq_iff_eq]
    by_cases hj : j = k
    · subst hj
      have : d.entries.find? (·.1 == j) = none := by
        simpa [get?] using get?_eq_none_iff.2 h
      simp [this]
    · have : (k == j) = false := by simpa using Ne.symm hj
      simp [this, hj]

theorem get?_insert_self (d : PyDict K V) (k : K) (v : V) : (d.insert k v).get? k = some v := by
  simp

@[simp] theorem keys_modify (d : PyDict K V) (k : K) (f : V → V) : (d.modify k f).keys = d.keys := by
  simp only [keys, modify, List.map_map]
  exact List.map_congr_left (fun e _ => by by_cases he : e.1 = k <;> simp [he])

@[simp] theorem get?_modify (d : PyDict K V) (k j : K) (f : V → V) :
    (d.modify k f).get? j = if j = k then (d.get? k).map f else d.get? j := by
  have hq : ((fun e : K × V => e.1 == j) ∘ fun e => if e.1 = k then (k, f e.2) else e) =
      (fun e => e.1 == j) := by
    funext e; by_cases he : e.1 = k <;> simp [he]
  simp only [get?, modify, List.find?_map, hq, Option.map_map]
  cases hf : d.entries.find? (·.1 == j) with
  | none =>
    by_cases hj : j = k
    · subst hj; simp [hf]
    · simp [hj]
  | some e =>
    have he : e.1 = j := by simpa using List.find?_some hf
    by_cases hj : j = k
    · subst hj; simp [he, hf]
    · simp [he, hj]

/-- A dictionary whose first entry is `(k, v)` gives `v` at `k` and loses exactly that
entry when `k` is erased: the step of every loop over a snapshot of the keys. -/
theorem erase_head {d : PyDict K V} {k : K} {v : V} {rest : List (K × V)}
    (h : d.entries = (k, v) :: rest) :
    d.get? k = some v ∧ (d.erase k).entries = rest := by
  have hk : k ∉ rest.map Prod.fst := by
    have := d.nodup_keys; rw [h] at this; exact (List.nodup_cons.1 this).1
  refine ⟨by simp [get?, h], ?_⟩
  simp only [erase, h, List.filter_cons, bne_self_eq_false, Bool.false_eq_true, if_false]
  exact List.filter_eq_self.2 (fun e he => by
    have : e.1 ≠ k := fun hek => hk (hek ▸ List.mem_map_of_mem _ he)
    simpa using this)

-- ---------------------------------------------------------------------------
-- Entries up to order
-- ---------------------------------------------------------------------------

theorem mem_entries_of_get? {d : PyDict K V} {k : K} {v : V} (h : d.get? k = some v) :
    (k, v) ∈ d.entries := by
  simp only [get?, Option.map_eq_some'] at h
  obtain ⟨e, he, rfl⟩ := h
  have hk : e.1 = k := by simpa using List.find?_some he
  exact hk ▸ List.mem_of_find?_eq_some he

omit [DecidableEq K] in
/-- The entry of a key splits the entries into two parts without that key. -/
theorem split_at_key {d : PyDict K V} {k : K} {v : V} (h : (k, v) ∈ d.entries) :
    ∃ l₁ l₂, d.entries = l₁ ++ (k, v) :: l₂ ∧ (∀ e ∈ l₁, e.1 ≠ k) ∧ (∀ e ∈ l₂, e.1 ≠ k) := by
  obtain ⟨l₁, l₂, hl⟩ := List.append_of_mem h
  have hnd := d.nodup_keys
  rw [hl, List.map_append, List.nodup_append, List.map_cons, List.nodup_cons] at hnd
  refine ⟨l₁, l₂, hl, fun e he hek => ?_, fun e he hek => ?_⟩
  · have := List.mem_map_of_mem Prod.fst he
    rw [hek] at this
    exact hnd.2.2 this (List.mem_cons_self _ _)
  · have := List.mem_map_of_mem Prod.fst he
    rw [hek] at this
    exact hnd.2.1.1 this

/-- Erasing a key undoes an assignment to it. -/
@[simp] theorem erase_insert (d : PyDict K V) (k : K) (v : V) : (d.insert k v).erase k = d.erase k := by
  apply ext
  unfold insert erase
  split
  · simp only [List.filter_map]
    induction d.entries with
    | nil => rfl
    | cons e es ih => by_cases he : e.1 = k <;> simp [he, ih]
  · simp

theorem entries_insert (d : PyDict K V) (k : K) (v : V) :
    (d.insert k v).entries =
      if k ∈ d.keys then d.entries.map (fun e => if e.1 = k then (k, v) else e) else d.entries ++ [(k, v)] := by
  unfold insert
  split <;> simp [*]

/-- A second assignment to a key overwrites the first. -/
@[simp] theorem insert_insert (d : PyDict K V) (k : K) (v w : V) :
    (d.insert k v).insert k w = d.insert k w := by
  apply ext
  rw [entries_insert, if_pos (mem_keys_insert.2 (Or.inr rfl)), entries_insert, entries_insert]
  by_cases h : k ∈ d.keys
  · simp only [h, if_true, List.map_map]
    exact List.map_congr_left fun e _ => by by_cases he : e.1 = k <;> simp [he]
  · have hne : ∀ e ∈ d.entries, e.1 ≠ k := fun e he hek => h (hek ▸ List.mem_map_of_mem _ he)
    simp only [h, if_false, List.map_append, List.map_cons, List.map_nil, if_true]
    congr 1
    exact (List.map_congr_left fun e he => by simp [hne e he]).trans (List.map_id _)

theorem get?_of_mem_entries {d : PyDict K V} {k : K} {v : V} (h : (k, v) ∈ d.entries) :
    d.get? k = some v := by
  obtain ⟨l₁, l₂, hl, h₁, -⟩ := split_at_key h
  rw [get?, hl, List.find?_append, List.find?_eq_none.2 (fun e he => by simpa using h₁ e he)]
  simp

theorem erase_entries_split {d : PyDict K V} {k : K} {l₁ l₂ : List (K × V)} {v : V}
    (hl : d.entries = l₁ ++ (k, v) :: l₂) (h₁ : ∀ e ∈ l₁, e.1 ≠ k) (h₂ : ∀ e ∈ l₂, e.1 ≠ k) :
    (d.erase k).entries = l₁ ++ l₂ := by
  simp only [erase, hl, List.filter_append, List.filter_cons, bne_self_eq_false,
    Bool.false_eq_true, if_false]
  rw [List.filter_eq_self.2 (fun e he => by simpa using h₁ e he),
    List.filter_eq_self.2 (fun e he => by simpa using h₂ e he)]

/-- Erasing a present key takes exactly its entry out. -/
theorem entries_perm_erase {d : PyDict K V} {k : K} {v : V} (h : d.get? k = some v) :
    d.entries.Perm ((k, v) :: (d.erase k).entries) := by
  obtain ⟨l₁, l₂, hl, h₁, h₂⟩ := split_at_key (mem_entries_of_get? h)
  rw [erase_entries_split hl h₁ h₂, hl]
  exact List.perm_middle

/-- Assigning a key, present or not, is erasing it and adding the new entry. -/
theorem entries_perm_insert (d : PyDict K V) (k : K) (v : V) :
    (d.insert k v).entries.Perm ((k, v) :: (d.erase k).entries) := by
  by_cases hk : k ∈ d.keys
  · obtain ⟨w, hw⟩ : ∃ w, (k, w) ∈ d.entries := by simpa [keys] using hk
    obtain ⟨l₁, l₂, hl, h₁, h₂⟩ := split_at_key hw
    have hmap : d.entries.map (fun e => if e.1 = k then (k, v) else e) = l₁ ++ (k, v) :: l₂ := by
      rw [hl, List.map_append, List.map_cons, if_pos rfl,
        List.map_congr_left (fun e he => if_neg (h₁ e he)), List.map_id',
        List.map_congr_left (fun e he => if_neg (h₂ e he)), List.map_id']
    simp only [insert, hk, dite_true, hmap, erase_entries_split hl h₁ h₂]
    exact List.perm_middle
  · simp only [insert, hk, dite_false, erase_of_not_mem hk]
    exact List.perm_append_singleton _ _

-- ---------------------------------------------------------------------------
-- Comprehensions
-- ---------------------------------------------------------------------------

theorem mem_keys_foldl_insert (key : V → K) (xs : List V) (d : PyDict K V) (j : K) :
    j ∈ (xs.foldl (fun d x => d.insert (key x) x) d).keys ↔ j ∈ d.keys ∨ j ∈ xs.map key := by
  induction xs generalizing d with
  | nil => simp
  | cons x xs ih => rw [List.foldl_cons, ih, mem_keys_insert]; simp [or_assoc, eq_comm]

theorem mem_of_get?_foldl_insert (key : V → K) (xs : List V) (d : PyDict K V) {k : K} {v : V}
    (h : (xs.foldl (fun d x => d.insert (key x) x) d).get? k = some v) : v ∈ xs ∨ d.get? k = some v := by
  induction xs generalizing d with
  | nil => exact .inr h
  | cons x xs ih =>
    rcases ih _ h with h | h
    · exact .inl (List.mem_cons_of_mem _ h)
    · rw [get?_insert] at h
      split at h
      · exact .inl (Option.some.inj h ▸ List.mem_cons_self _ _)
      · exact .inr h

/-- Every value of a comprehension is one of the listed values. -/
theorem mem_of_get?_ofList {key : V → K} {xs : List V} {k : K} {v : V}
    (h : (ofList key xs).get? k = some v) : v ∈ xs :=
  (mem_of_get?_foldl_insert key xs empty h).resolve_right (by simp [get?, empty])

/-- A comprehension keeps one entry per distinct key: later duplicates overwrite. -/
theorem size_ofList (key : V → K) (xs : List V) :
    (ofList key xs).size = (xs.map key).toFinset.card := by
  rw [size_eq_length_keys, ← List.toFinset_card_of_nodup (keys_nodup _)]
  congr 1
  ext j
  simp [ofList, mem_keys_foldl_insert]

end PyDict

end ImmuneSystem
