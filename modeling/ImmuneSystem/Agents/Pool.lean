-- SUMMARY: `create_agent_pool`: the four agent classes, the name, model and MCP tables, and the cyclic assignment of all three.
import ImmuneSystem.Agents.Agent

/-!
# The agent pool

`create_agent_pool(count)` names agent `i` from the list
`(AGENT_NAMES * (count // 15 + 1))[:count]`, gives it the class `i mod 4`, the model
`i mod 6` and the MCP preset `i mod 6`. Every index is taken with Python's
bounds-checked `[]`, modelled with `[]?` in `Option`, so a read past the end of
a table would show up as `none`. The main result says none happens, for every
`count`, and gives each agent in closed form.
-/

namespace ImmuneSystem

/-- The four subclasses of `BaseAgent`; they differ only in their random baselines. -/
inductive AgentClass
  | researchAgent
  | dataAgent
  | analyticsAgent
  | coordinatorAgent
  deriving DecidableEq, Repr

/-- The `agent_type` each subclass passes to `BaseAgent.__init__`. -/
def AgentClass.agentType : AgentClass → String
  | .researchAgent => "Research"
  | .dataAgent => "Data"
  | .analyticsAgent => "Analytics"
  | .coordinatorAgent => "Coordinator"

/-- `agent_cls(agent_id)`. -/
def AgentClass.create (cls : AgentClass) (agentId : String) : BaseAgent :=
  { agentId, agentType := cls.agentType }

def agentNames : List String :=
  ["VPN", "Docker", "Slack", "Postgres", "Network", "GitHub", "Kubernetes", "Nginx", "Redis",
    "Elasticsearch", "Notion", "Figma", "Linear", "SendGrid", "Brave Search"]

def models : List String :=
  ["GPT-5", "Claude Sonnet 4", "Claude Opus 4", "Gemini 2.0", "GPT-4o", "Claude Sonnet 3.5"]

def mcpServerPresets : List (List String) :=
  [["filesystem", "github", "slack"], ["postgres", "web-fetch", "notion"],
    ["google-drive", "figma", "linear"], ["brave-search", "fetch", "memory"],
    ["filesystem", "postgres", "sendgrid"], ["github", "slack", "notion"]]

def agentClasses : List AgentClass :=
  [.researchAgent, .dataAgent, .analyticsAgent, .coordinatorAgent]

/-- `create_agent_pool`. -/
def createAgentPool (count : Nat) : Option (List BaseAgent) :=
  let names := ((List.replicate (count / agentNames.length + 1) agentNames).flatten).take count
  (List.range count).mapM fun i => do
    let agentCls ← agentClasses[i % agentClasses.length]?
    let name ← names[i]?
    let modelName ← models[i % models.length]?
    let mcpServers ← mcpServerPresets[i % mcpServerPresets.length]?
    pure { agentCls.create name with modelName, mcpServers }

@[simp] theorem agentNames_length : agentNames.length = 15 := rfl

theorem agentNames_nodup : agentNames.Nodup := by decide

-- ---------------------------------------------------------------------------
-- Indexing the repeated name list
-- ---------------------------------------------------------------------------

/-- Position `i` of `l * k` is position `i mod len l` of `l`, as long as `i` is inside. -/
theorem getElem?_flatten_replicate {α : Type} (l : List α) (k i : Nat) (h : i < k * l.length) :
    ((List.replicate k l).flatten)[i]? = l[i % l.length]? := by
  induction k generalizing i with
  | zero => simp at h
  | succ k ih =>
    rw [List.replicate_succ, List.flatten_cons]
    by_cases hi : i < l.length
    · rw [List.getElem?_append_left hi, Nat.mod_eq_of_lt hi]
    · have hle : l.length ≤ i := Nat.le_of_not_lt hi
      rw [List.getElem?_append_right hle, ih _ (by rw [Nat.succ_mul] at h; omega),
        Nat.mod_eq_sub_mod hle]

/-- The name of agent `i`: the repeated list is long enough, since
`15 * (count / 15 + 1) > count`. -/
theorem poolName_getElem? (count i : Nat) (hi : i < count) :
    (((List.replicate (count / agentNames.length + 1) agentNames).flatten).take count)[i]? =
      agentNames[i % 15]? := by
  rw [List.getElem?_take_of_lt hi, getElem?_flatten_replicate _ _ _ (by simp; omega)]
  rfl

/-- Agent `i` of the pool, in closed form. -/
def poolAgent (i : Nat) : BaseAgent :=
  { (agentClasses.getD (i % 4) .researchAgent).create (agentNames.getD (i % 15) "") with
      modelName := models.getD (i % 6) "", mcpServers := mcpServerPresets.getD (i % 6) [] }

/-- A `mapM` in `Option` whose every call succeeds is a `map`. -/
theorem mapM_option_eq_some {α β : Type} (f : α → Option β) (g : α → β) :
    ∀ (xs : List α), (∀ x ∈ xs, f x = some (g x)) → xs.mapM f = some (xs.map g)
  | [], _ => rfl
  | x :: xs, h => by
    rw [List.mapM_cons, h x (List.mem_cons_self _ _),
      mapM_option_eq_some f g xs (fun y hy => h y (List.mem_cons_of_mem _ hy))]
    rfl

theorem createAgentPool_eq (count : Nat) :
    createAgentPool count = some ((List.range count).map poolAgent) := by
  refine mapM_option_eq_some _ _ _ (fun i hi => ?_)
  have hi : i < count := List.mem_range.1 hi
  have h4 : i % 4 < 4 := Nat.mod_lt _ (by decide)
  have h6 : i % 6 < 6 := Nat.mod_lt _ (by decide)
  have h15 : i % 15 < 15 := Nat.mod_lt _ (by decide)
  simp only [poolName_getElem? count i hi, poolAgent, List.getD_eq_getElem?_getD]
  simp [agentClasses, models, mcpServerPresets, agentNames, List.getElem?_eq_getElem, h4, h6, h15]

/-- `create_agent_pool(count)` succeeds for every `count`, with exactly `count` agents,
agent `i` being named, typed, and given a model and MCP preset cyclically. -/
theorem createAgentPool_cyclic (count : Nat) :
    ∃ agents, createAgentPool count = some agents ∧ agents.length = count ∧
      ∀ i < count, ∃ a, agents[i]? = some a ∧
        some a.agentId = agentNames[i % 15]? ∧
        some a.agentType = agentClasses[i % 4]?.map AgentClass.agentType ∧
        some a.modelName = models[i % 6]? ∧
        some a.mcpServers = mcpServerPresets[i % 6]? := by
  refine ⟨_, createAgentPool_eq count, by simp, fun i hi => ⟨poolAgent i, by simp [hi], ?_⟩⟩
  have h4 : i % 4 < 4 := Nat.mod_lt _ (by decide)
  have h6 : i % 6 < 6 := Nat.mod_lt _ (by decide)
  have h15 : i % 15 < 15 := Nat.mod_lt _ (by decide)
  simp [poolAgent, AgentClass.create, List.getD_eq_getElem?_getD, agentClasses, models,
    mcpServerPresets, agentNames, List.getElem?_eq_getElem, h4, h6, h15]

end ImmuneSystem
