import QueryBinding.Proofs.Workspace.Coherence

/-! Runs of a process. Callers make configurations and caches, put configurations in
force, look at the shared cache, use and clear caches and parse statements, in any
order. An outline of such a run forgets the caches and the serial numbers and keeps
only which configurations there are and which is in force. What a statement is parsed
to can be told from the outline. -/

namespace QueryBinding

/-- What a caller can do. A configuration is named by its place among those that the
caller has got, and a cache by its serial number. -/
inductive Operation where
  | newConfig (c : Config)
  | install (config : Nat)
  | current
  | newCache (size : Int) (rules : Rules) (counted : Bool)
  | shared
  | clearShared
  | get (cache : Nat) (sql : String)
  | fetch (cache : Nat) (sql : String)
  | clear (cache : Nat)
  | statement (sql : String) (cache : Option Nat)

/-- A workspace with the configurations that the caller has got. -/
structure Process where
  world : Workspace
  configs : List (Tagged Config)

namespace Process

def after {α : Type} (p : Process) (a : Action α) : Process := { p with world := (a.on p.world).2 }

/-- The caller keeps the configuration that an action yields. -/
def learn (p : Process) (a : Action (Tagged Config)) : Process :=
  ⟨(a.on p.world).2, p.configs ++ (a.on p.world).1.toOption.toList⟩

def step (p : Process) : Operation → Process
  | .newConfig c => p.learn (Action.newConfig c)
  | .install k =>
    match p.configs[k]? with
    | some c => p.after (Action.installConfig c)
    | none => p
  | .current => p.learn Action.currentConfig
  | .newCache size rules counted => p.after (Action.newCache size rules counted)
  | .shared => p.after Action.sharedCache
  | .clearShared => p.after Action.clearShared
  | .get k sql => p.after (Action.getCached k sql)
  | .fetch k sql => p.after (Action.fetch k sql)
  | .clear k => p.after (Action.clearCache k)
  | .statement sql cache => p.after (Action.statement sql cache)

/-- A process in which nothing was configured or cached. -/
def start (w : Workspace) : Process := ⟨{ w with config := none, shared := none, caches := [] }, []⟩

def run (w : Workspace) (ops : List Operation) : Process := ops.foldl step (start w)

end Process

/-- What a run comes down to without caches. -/
structure Outline where
  configs : List Config := []
  inForce : Config := {}

namespace Outline

def step (o : Outline) : Operation → Outline
  | .newConfig c => { o with configs := o.configs ++ [c] }
  | .install k =>
    match o.configs[k]? with
    | some c => if c.flaws = [] then { o with inForce := c } else o
    | none => o
  | .current => { o with configs := o.configs ++ [o.inForce] }
  | _ => o

def run (ops : List Operation) : Outline := ops.foldl step {}

end Outline

namespace Process

/-- A process is coherent, and its configurations are those of the outline. -/
structure Matches (v : Registry) (p : Process) (o : Outline) : Prop where
  coherent : Coherent v p.world
  known : ∀ c ∈ p.configs, Known v p.world c
  configs : p.configs.map Tagged.value = o.configs
  inForce : p.world.inForce = o.inForce

namespace Matches

variable {v : Registry} {p : Process} {o : Outline}

theorem start (v : Registry) (w : Workspace) : Matches v (Process.start w) {} where
  coherent := {
    known := nofun
    flawless := nofun
    stale := nofun
    shared := nofun
    fresh := nofun
    sound := nofun }
  known := nofun
  configs := rfl
  inForce := rfl

/-- An action that puts nothing in force leaves the outline as it is. -/
theorem quiet {α : Type} {a : Action α} {r : Except Error α} {v' : Registry} {w' : Workspace}
    (h : Matches v p o) (hon : a.on p.world = (r, w')) (hf : Follows v p.world v' w')
    (hforce : w'.inForce = p.world.inForce) :
    Matches v' (p.after a) o ∧ Follows v p.world v' (p.after a).world := by
  have hworld : (p.after a).world = w' := by rw [after, hon]
  rw [← hworld] at hf hforce
  exact ⟨⟨hf.coherent, fun c hc => (h.known c hc).of_follows hf, h.configs,
    hforce.trans h.inForce⟩, hf⟩

theorem learn {a : Action (Tagged Config)} {c : Tagged Config} {v' : Registry} {w' : Workspace}
    (h : Matches v p o) (hon : a.on p.world = (.ok c, w')) (hf : Follows v p.world v' w')
    (hforce : w'.inForce = p.world.inForce) (hc : Known v' w' c) :
    Matches v' (p.learn a) { o with configs := o.configs ++ [c.value] } ∧
      Follows v p.world v' (p.learn a).world := by
  have hp : p.learn a = ⟨w', p.configs ++ [c]⟩ := by
    rw [Process.learn, hon]
    rfl
  rw [hp]
  refine ⟨⟨hf.coherent, fun d hd => ?_, ?_, hforce.trans h.inForce⟩, hf⟩
  · rcases List.mem_append.mp hd with hd | hd
    · exact (h.known d hd).of_follows hf
    · rwa [List.mem_singleton.mp hd]
  · rw [List.map_append, h.configs]
    rfl

theorem install (h : Matches v p o) (k : Nat) :
    Matches v (p.step (.install k)) (o.step (.install k)) ∧
      Follows v p.world v (p.step (.install k)).world := by
  have hget : o.configs[k]? = p.configs[k]?.map Tagged.value := by
    rw [← h.configs, List.getElem?_map]
  cases hk : p.configs[k]? with
  | none =>
    rw [hk, Option.map_none] at hget
    simp only [step, Outline.step, hk, hget]
    exact ⟨h, h.coherent.refl⟩
  | some c =>
    rw [hk, Option.map_some] at hget
    simp only [step, Outline.step, hk, hget]
    have hc := h.known c (List.mem_of_getElem? hk)
    obtain ⟨r, w', hon, hf, hforce⟩ := h.coherent.installConfig hc
    have hworld : (p.after (Action.installConfig c)).world = w' := by rw [after, hon]
    rw [← hworld] at hf hforce
    refine ⟨⟨hf.coherent, fun d hd => (h.known d hd).of_follows hf, ?_, ?_⟩, hf⟩
    · rw [after, h.configs]
      split_ifs <;> rfl
    · rw [hforce, h.inForce]
      split_ifs <;> rfl

/-- Every operation keeps a process coherent and in step with its outline. -/
theorem step (h : Matches v p o) (op : Operation) : ∃ v', Matches v' (p.step op) (o.step op) ∧
    Follows v p.world v' (p.step op).world := by
  have hco := h.coherent
  cases op with
  | newConfig c =>
    obtain ⟨t, v', w', hon, hf, hforce, hknown, rfl⟩ := hco.newConfig c
    exact ⟨v', h.learn hon hf hforce hknown⟩
  | install k => exact ⟨v, h.install k⟩
  | current =>
    obtain ⟨c, v', w', hon, hf, hc, hvalue⟩ := hco.currentConfig
    have hforce := (Workspace.inForce_of_config hc).trans hvalue
    have := h.learn hon hf hforce (hf.coherent.known c hc)
    rw [hvalue, h.inForce] at this
    exact ⟨v', this⟩
  | newCache size rules counted =>
    obtain ⟨r, w', hon, hf, hforce⟩ := hco.newCache size rules counted
    exact ⟨v, h.quiet hon hf hforce⟩
  | shared =>
    obtain ⟨k, c, v', w', hon, hf, hserves, hvalue, -⟩ := hco.sharedCache
    have hforce := (Workspace.inForce_of_config hserves.config).trans hvalue
    exact ⟨v', h.quiet hon hf hforce⟩
  | clearShared =>
    obtain ⟨r, w', hon, hf, hforce⟩ := hco.clearShared
    exact ⟨v, h.quiet hon hf hforce⟩
  | get k sql =>
    obtain ⟨r, w', hon, hf, hforce⟩ := hco.getCached k sql
    exact ⟨v, h.quiet hon hf hforce⟩
  | fetch k sql =>
    obtain ⟨r, w', hon, hf, hconfig, -⟩ := hco.fetch k sql
    exact ⟨v, h.quiet hon hf (Workspace.inForce_congr hconfig)⟩
  | clear k =>
    obtain ⟨r, w', hon, hf, hforce⟩ := hco.clearCache k
    exact ⟨v, h.quiet hon hf hforce⟩
  | statement sql cache =>
    cases cache with
    | none =>
      obtain ⟨r, v', w', hon, hf, hforce, -⟩ := hco.statement sql
      exact ⟨v', h.quiet hon hf hforce⟩
    | some k =>
      obtain ⟨r, w', hon, hf, hconfig, -⟩ := hco.fetch k sql
      exact ⟨v, h.quiet (a := Action.statement sql (some k)) hon hf
        (Workspace.inForce_congr hconfig)⟩

theorem foldl (h : Matches v p o) (ops : List Operation) : ∃ v',
    Matches v' (ops.foldl Process.step p) (ops.foldl Outline.step o) ∧
      Follows v p.world v' (ops.foldl Process.step p).world := by
  induction ops generalizing v p o with
  | nil => exact ⟨v, h, h.coherent.refl⟩
  | cons op ops ih =>
    obtain ⟨v', h', hf⟩ := h.step op
    obtain ⟨v'', h'', hf'⟩ := ih h'
    exact ⟨v'', h'', hf.trans hf'⟩

end Matches

/-- After a run a statement is parsed as if there were no caches: by the rules of the
configuration in force, or by those of the cache that is given with it. Such a cache
keeps its rules for good, and its use touches neither the configuration nor the shared
cache nor any other. -/
structure Transparent (w : Workspace) (ops : List Operation) : Prop where
  inForce : (run w ops).world.inForce = (Outline.run ops).inForce
  plain (sql : String) : ((Action.statement sql none).on (run w ops).world).1.map Tagged.value =
    (Template.parse (Outline.run ops).inForce.parser.rules sql).map Parsed.template
  given (k : Nat) (cache : TemplateCache) (more : List Operation) (sql : String) :
    (run w ops).world.caches.lookup k = some cache →
      ((Action.statement sql (some k)).on (run w (ops ++ more)).world).1.map Tagged.value =
        (Template.parse cache.rules sql).map Parsed.template
  config (k : Nat) (sql : String) :
    ((Action.statement sql (some k)).on (run w ops).world).2.config = (run w ops).world.config
  shared (k : Nat) (sql : String) :
    ((Action.statement sql (some k)).on (run w ops).world).2.shared = (run w ops).world.shared
  others (k j : Nat) (sql : String) : j ≠ k →
    ((Action.statement sql (some k)).on (run w ops).world).2.caches.lookup j =
      (run w ops).world.caches.lookup j

theorem run_append (w : Workspace) (ops more : List Operation) :
    run w (ops ++ more) = more.foldl step (run w ops) := List.foldl_append

/-- Caches cannot be told from the parser, whatever was done before. -/
theorem transparent (w : Workspace) (ops : List Operation) : Transparent w ops := by
  obtain ⟨v, h, -⟩ := (Matches.start (fun _ => {}) w).foldl ops
  have hgiven : ∀ k sql, ∃ r w', (Action.statement sql (some k)).on (run w ops).world = (r, w') ∧
      w'.config = (run w ops).world.config ∧ w'.shared = (run w ops).world.shared ∧
        ∀ j, j ≠ k → w'.caches.lookup j = (run w ops).world.caches.lookup j := by
    intro k sql
    obtain ⟨r, w', hon, -, hconfig, hshared, hothers, -⟩ := h.coherent.fetch k sql
    exact ⟨r, w', hon, hconfig, hshared, hothers⟩
  constructor
  · exact h.inForce
  · intro sql
    obtain ⟨r, v', w', hon, -, -, hr⟩ := h.coherent.statement sql
    rw [h.inForce] at hr
    show ((Action.statement sql none).on (ops.foldl step (start w)).world).1.map Tagged.value = _
    rw [hon]
    exact hr
  · intro k cache more sql hk
    obtain ⟨v', h', hf⟩ := h.foldl more
    obtain ⟨cache', hk', hrules⟩ := hf.rules k cache hk
    obtain ⟨r, w', hon, -, -, -, -, hr⟩ := h'.coherent.fetch k sql
    rw [run_append, ← hrules, ← hr cache' hk']
    exact congrArg (fun o => o.1.map Tagged.value) hon
  · intro k sql
    obtain ⟨r, w', hon, hconfig, -⟩ := hgiven k sql
    rw [hon]
    exact hconfig
  · intro k sql
    obtain ⟨r, w', hon, -, hshared, -⟩ := hgiven k sql
    rw [hon]
    exact hshared
  · intro k j sql hj
    obtain ⟨r, w', hon, -, -, hothers⟩ := hgiven k sql
    rw [hon]
    exact hothers j hj

/-- A cached text is refused once strict rules are in force. -/
example : ((Action.statement "a : b" none).on (run {} [.statement "a : b" none,
    .newConfig { parser := { strict := true } }, .install 0]).world).1.map Tagged.value =
      .error (.malformed 2 "a : b") := rfl

end Process

end QueryBinding
