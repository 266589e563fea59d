import NativeVariants.Proofs.Lineage

/-!
# Forests of deferred values

Deferred values grow from each other: roots are planted, and mapped values branch off other values.
In between, values are demanded. `Plan` tells from the actions alone what the lineage of each value is
and how often demands reached each root. Every run goes by its plan (`Forest.accords_run`), so each
demand gives what the lineage says, transforms run once for each demand that gets to them, plain
suppliers run once for each demand, and memoized ones until they first succeed
(`Forest.accounted_run`).
-/

namespace NativeVariants

structure Forest where
  nodes : List (Deferred Trace) := []
  memory : Memory Trace := ⟨[], []⟩

namespace Forest

/-- A root is planted, a mapped value branches off a value that is there, or a value is read, possibly
with a default. -/
inductive Action where
  | plant (root : Root)
  | branch (source : Nat) (transform : Transform)
  | demand (node : Nat) (default? : Option Value)

def grow (f : Forest) (d : Deferred Trace) : Forest :=
  { f with nodes := f.nodes ++ [d] }

def step (f : Forest) : Action → Forest
  | .plant root => f.grow (root.deferred f.nodes.length)
  | .branch source transform =>
    match f.nodes[source]? with
    | some d => f.grow (d.map (recorded f.nodes.length transform))
    | none => f
  | .demand node default? =>
    match f.nodes[node]? with
    | some d => { f with memory := (d.demand default? f.memory).2 }
    | none => f

def run (actions : List Action) : Forest :=
  actions.foldl step {}

def trace (f : Forest) : Trace :=
  f.memory.world

def answer? (f : Forest) (node : Nat) (default? : Option Value) : Option (Except Failure Value) :=
  f.nodes[node]?.map fun d => (d.demand default? f.memory).1

/-- What the actions alone tell of the values. -/
structure Plan where
  lineages : List Lineage := []
  /-- The roots that demands reached. -/
  reached : List Nat := []

namespace Plan

def root? (p : Plan) (n : Nat) : Option Root :=
  (p.lineages[n]?).bind fun l => if l.path.isEmpty then some l.kind else none

def grow (p : Plan) (l : Lineage) : Plan :=
  { p with lineages := p.lineages ++ [l] }

def step (p : Plan) : Action → Plan
  | .plant root => p.grow ⟨p.lineages.length, root, []⟩
  | .branch source transform =>
    match p.lineages[source]? with
    | some l => p.grow { l with path := l.path ++ [(p.lineages.length, transform)] }
    | none => p
  | .demand node _ =>
    match p.lineages[node]? with
    | some l => { p with reached := p.reached ++ [l.root] }
    | none => p

def ofActions (actions : List Action) : Plan :=
  actions.foldl step {}

variable {p : Plan} {l : Lineage}

theorem root?_grow (p : Plan) (l : Lineage) (n : Nat) : (p.grow l).root? n =
    if n = p.lineages.length then (if l.path.isEmpty then some l.kind else none) else p.root? n := by
  unfold grow root?
  by_cases hn : n = p.lineages.length
  · subst hn
    simp
  · rw [if_neg hn]
    by_cases hlt : n < p.lineages.length
    · rw [List.getElem?_append_left hlt]
    · have hle : p.lineages.length + 1 ≤ n := by omega
      rw [List.getElem?_eq_none (by simpa using hle), List.getElem?_eq_none (by omega)]

theorem root?_length (p : Plan) : p.root? p.lineages.length = none := by
  rw [root?, List.getElem?_eq_none (Nat.le_refl _)]
  rfl

theorem root?_grow_of_isSome {n : Nat} (h : (p.root? n).isSome) (l : Lineage) :
    (p.grow l).root? n = p.root? n := by
  rw [root?_grow, if_neg]
  rintro rfl
  rw [root?_length] at h
  cases h

theorem prefix_step (p : Plan) (a : Action) :
    p.lineages <+: (p.step a).lineages ∧ p.reached <+: (p.step a).reached := by
  cases a with
  | plant root => exact ⟨List.prefix_append _ _, List.prefix_rfl⟩
  | branch source transform =>
    rw [step]
    cases p.lineages[source]? with
    | some l => exact ⟨List.prefix_append _ _, List.prefix_rfl⟩
    | none => exact ⟨List.prefix_rfl, List.prefix_rfl⟩
  | demand node default? =>
    rw [step]
    cases p.lineages[node]? with
    | some l => exact ⟨List.prefix_rfl, List.prefix_append _ _⟩
    | none => exact ⟨List.prefix_rfl, List.prefix_rfl⟩

theorem prefix_append (actions more : List Action) :
    (ofActions actions).lineages <+: (ofActions (actions ++ more)).lineages ∧
      (ofActions actions).reached <+: (ofActions (actions ++ more)).reached := by
  rw [ofActions, ofActions, List.foldl_append]
  generalize actions.foldl step {} = p
  induction more generalizing p with
  | nil => exact ⟨List.prefix_rfl, List.prefix_rfl⟩
  | cons a more ih =>
    obtain ⟨hl, hr⟩ := p.prefix_step a
    obtain ⟨hl', hr'⟩ := ih (p.step a)
    exact ⟨hl.trans hl', hr.trans hr'⟩

theorem getElem?_lineages_append {actions : List Action} {n : Nat}
    (h : (ofActions actions).lineages[n]? = some l) (more : List Action) :
    (ofActions (actions ++ more)).lineages[n]? = some l := by
  obtain ⟨rest, hrest⟩ := (prefix_append actions more).1
  obtain ⟨hlt, -⟩ := List.getElem?_eq_some_iff.1 h
  rw [← hrest, List.getElem?_append_left hlt, h]

end Plan

variable {f : Forest} {p : Plan} {l : Lineage}

/-- The forest went by the plan. -/
structure Accords (f : Forest) (p : Plan) : Prop where
  nodes : f.nodes = p.lineages.map Lineage.deferred
  rooted : ∀ l ∈ p.lineages, p.root? l.root = some l.kind
  reached : ∀ n ∈ p.reached, (p.root? n).isSome
  supplied : ∀ n, outcomes n f.trace = (p.root? n).elim [] (·.expected (p.reached.count n))
  cells : ∀ n, f.memory.cell? n =
    if (p.root? n).any (·.isMemoized) then firstOk? (outcomes n f.trace) else none

namespace Accords

theorem empty : Accords {} {} where
  nodes := rfl
  rooted := nofun
  reached := nofun
  supplied _ := rfl
  cells _ := rfl

theorem getElem?_nodes (h : f.Accords p) (n : Nat) :
    f.nodes[n]? = (p.lineages[n]?).map Lineage.deferred := by
  rw [h.nodes, List.getElem?_map]

theorem length_nodes (h : f.Accords p) : f.nodes.length = p.lineages.length := by
  rw [h.nodes, List.length_map]

/-- Nothing was demanded of a root that is to come. -/
theorem count_length (h : f.Accords p) : p.reached.count p.lineages.length = 0 := by
  rw [List.count_eq_zero]
  intro hmem
  have hroot := h.reached _ hmem
  rw [p.root?_length] at hroot
  cases hroot

theorem outcomes_length (h : f.Accords p) : outcomes p.lineages.length f.trace = [] := by
  rw [h.supplied, p.root?_length]
  rfl

theorem grow (h : f.Accords p) {d : Deferred Trace} (hd : d = l.deferred)
    (hself : l.path.isEmpty → l.root = p.lineages.length)
    (hsource : l.path.isEmpty = false → p.root? l.root = some l.kind) :
    (f.grow d).Accords (p.grow l) where
  nodes := by
    rw [Forest.grow, Plan.grow, List.map_append, h.nodes, hd]
    rfl
  rooted := by
    intro l' hl'
    rcases List.mem_append.1 hl' with hl' | hl'
    · have hroot := h.rooted l' hl'
      rw [Plan.root?_grow_of_isSome (Option.isSome_of_eq_some hroot), hroot]
    · rw [List.mem_singleton.1 hl']
      cases hpath : l.path.isEmpty with
      | true => rw [Plan.root?_grow, if_pos (hself hpath), if_pos hpath]
      | false =>
        have hroot := hsource hpath
        rw [Plan.root?_grow_of_isSome (Option.isSome_of_eq_some hroot), hroot]
  reached := by
    intro n hn
    rw [Plan.root?_grow_of_isSome (h.reached n hn)]
    exact h.reached n hn
  supplied := by
    intro n
    by_cases hn : n = p.lineages.length
    · subst hn
      refine h.outcomes_length.trans ?_
      rw [Plan.grow, h.count_length]
      cases Plan.root? _ _ with
      | none => rfl
      | some kind => exact kind.expected_zero.symm
    · rw [Plan.root?_grow, if_neg hn]
      exact h.supplied n
  cells := by
    intro n
    by_cases hn : n = p.lineages.length
    · subst hn
      have hcell := h.cells p.lineages.length
      rw [p.root?_length] at hcell
      -- the cell of a root that is new is empty, whatever its kind
      have hfirst : firstOk? (outcomes p.lineages.length (f.grow d).trace) = none :=
        congrArg firstOk? h.outcomes_length
      rw [hfirst, ite_self]
      exact hcell
    · rw [Plan.root?_grow, if_neg hn]
      exact h.cells n

theorem kept (h : f.Accords p) (hl : l ∈ p.lineages) (hm : l.kind.isMemoized) :
    f.memory.cell? l.root = firstOk? (outcomes l.root f.memory.world) := by
  rw [h.cells, h.rooted l hl, Option.any_some, if_pos hm]
  rfl

theorem outcomes_demand_of_ne {n : Nat} (hn : n ≠ l.root) (T : Trace) :
    outcomes n (T ++ l.events T) = outcomes n T := by
  rw [outcomes_append, Lineage.outcomes_events, Root.outcomes_runs, if_neg fun hand => hn hand.1,
    List.append_nil]

theorem supplied_demand (h : f.Accords p) (hl : l ∈ p.lineages) (n : Nat) :
    outcomes n (f.trace ++ l.events f.trace) =
      (p.root? n).elim [] (·.expected ((p.reached ++ [l.root]).count n)) := by
  by_cases hn : n = l.root
  · have hbefore := h.supplied l.root
    rw [h.rooted l hl] at hbefore
    have hsucc := Root.expected_succ hbefore
    rw [outcomes_append, ← Lineage.outcomes_events, ← outcomes_append] at hsucc
    rw [hn, h.rooted l hl, Option.elim_some, List.count_append, List.count_singleton_self, hsucc]
  · have hcount : (p.reached ++ [l.root]).count n = p.reached.count n := by
      rw [List.count_append, List.count_singleton, if_neg (by simpa using Ne.symm hn), Nat.add_zero]
    rw [hcount, outcomes_demand_of_ne hn, h.supplied n]

theorem demand (h : f.Accords p) (hl : l ∈ p.lineages) (default? : Option Value) :
    Accords { f with memory := (l.deferred.demand default? f.memory).2 }
      { p with reached := p.reached ++ [l.root] } := by
  obtain ⟨cells, hdemand, hself, hother⟩ := Lineage.demand_deferred default? (h.kept hl)
  rw [hdemand]
  have hroot := h.rooted l hl
  have hreached : ∀ n ∈ p.reached ++ [l.root], (p.root? n).isSome := by
    intro n hn
    rcases List.mem_append.1 hn with hn | hn
    · exact h.reached n hn
    · rw [List.mem_singleton.1 hn]
      exact Option.isSome_of_eq_some hroot
  have hcells : ∀ n, cells.lookup n =
      if (p.root? n).any (·.isMemoized) then firstOk? (outcomes n (f.trace ++ l.events f.trace))
      else none := by
    intro n
    have hcell := h.cells n
    by_cases hn : n = l.root
    · subst hn
      rw [hroot, Option.any_some] at hcell ⊢
      cases hm : l.kind.isMemoized with
      | true => exact hself hm
      | false =>
        rw [hm] at hcell
        exact (hother l.root (.inr hm)).trans hcell
    · rw [hother n (.inl hn), outcomes_demand_of_ne hn]
      exact hcell
  exact ⟨h.nodes, h.rooted, hreached, h.supplied_demand hl, hcells⟩

theorem step (h : f.Accords p) (a : Action) : (f.step a).Accords (p.step a) := by
  cases a with
  | plant root =>
    refine h.grow (l := ⟨p.lineages.length, root, []⟩) ?_ (fun _ => rfl) nofun
    rw [h.length_nodes]
    rfl
  | branch source transform =>
    rw [Forest.step, Plan.step, h.getElem?_nodes]
    cases hl : p.lineages[source]? with
    | none => exact h
    | some l =>
      refine h.grow ?_ (fun hpath => ?_) fun _ => h.rooted l (List.mem_of_getElem? hl)
      · rw [h.length_nodes]
        exact (Deferred.along_concat l.path p.lineages.length transform _).symm
      · simp at hpath
  | demand node default? =>
    rw [Forest.step, Plan.step, h.getElem?_nodes]
    cases hl : p.lineages[node]? with
    | none => exact h
    | some l => exact h.demand (List.mem_of_getElem? hl) default?

end Accords

theorem accords_foldl (h : f.Accords p) (actions : List Action) :
    (actions.foldl Forest.step f).Accords (actions.foldl Plan.step p) := by
  induction actions generalizing f p with
  | nil => exact h
  | cons a actions ih => exact ih (h.step a)

/-- Every run goes by the plan of its actions. -/
theorem accords_run (actions : List Action) : (run actions).Accords (.ofActions actions) :=
  accords_foldl .empty actions

theorem run_concat (actions : List Action) (a : Action) :
    run (actions ++ [a]) = (run actions).step a := by
  rw [run, List.foldl_append]
  rfl

def isEvaluated (f : Forest) (node : Nat) : Bool :=
  f.nodes[node]?.any fun d => d.isEvaluated f.memory

def isPresent (f : Forest) (node : Nat) : Bool :=
  f.nodes[node]?.any fun d => d.isPresent

variable {actions : List Action} {node : Nat}

theorem getElem?_nodes_run (hl : (Plan.ofActions actions).lineages[node]? = some l) :
    (run actions).nodes[node]? = some l.deferred := by
  rw [(accords_run actions).getElem?_nodes, hl]
  rfl

theorem kept_run (hl : (Plan.ofActions actions).lineages[node]? = some l)
    (hm : l.kind.isMemoized) :
    (run actions).memory.cell? l.root = firstOk? (outcomes l.root (run actions).trace) :=
  (accords_run actions).kept (List.mem_of_getElem? hl) hm

theorem answer?_run (hl : (Plan.ofActions actions).lineages[node]? = some l)
    (default? : Option Value) :
    (run actions).answer? node default? = some (l.answer default? (run actions).trace) := by
  obtain ⟨cells, hdemand, -, -⟩ := Lineage.demand_deferred default? (kept_run hl)
  rw [answer?, getElem?_nodes_run hl, Option.map_some, hdemand]
  rfl

theorem trace_demand (hl : (Plan.ofActions actions).lineages[node]? = some l)
    (default? : Option Value) :
    (run (actions ++ [.demand node default?])).trace =
      (run actions).trace ++ l.events (run actions).trace := by
  obtain ⟨cells, hdemand, -, -⟩ := Lineage.demand_deferred default? (kept_run hl)
  rw [run_concat, step, getElem?_nodes_run hl]
  dsimp only
  rw [hdemand]
  rfl

theorem trace_concat_of_ne {a : Action} (h : ∀ node default?, a ≠ .demand node default?) :
    (run (actions ++ [a])).trace = (run actions).trace := by
  rw [run_concat]
  cases a with
  | plant root => rfl
  | branch source transform =>
    rw [step]
    split <;> rfl
  | demand node default? => exact absurd rfl (h node default?)

theorem outcomes_root (hl : (Plan.ofActions actions).lineages[node]? = some l) :
    outcomes l.root (run actions).trace =
      l.kind.expected ((Plan.ofActions actions).reached.count l.root) := by
  have h := accords_run actions
  rw [h.supplied, h.rooted l (List.mem_of_getElem? hl)]
  rfl

/-- A memoized supplier that has succeeded runs no more. -/
theorem outcomes_run_append (hl : (Plan.ofActions actions).lineages[node]? = some l)
    (hm : l.kind.isMemoized) (hs : (firstOk? (outcomes l.root (run actions).trace)).isSome)
    (more : List Action) :
    outcomes l.root (run (actions ++ more)).trace = outcomes l.root (run actions).trace := by
  obtain ⟨rest, hrest⟩ := (Plan.prefix_append actions more).2
  rw [outcomes_root hl] at hs ⊢
  rw [outcomes_root (Plan.getElem?_lineages_append hl more), ← hrest, List.count_append]
  exact Root.expected_add hm hs _

theorem isEvaluated_run_iff (hl : (Plan.ofActions actions).lineages[node]? = some l) :
    (run actions).isEvaluated node ↔
      l.path = [] ∧ l.kind.isMemoized ∧ (firstOk? (outcomes l.root (run actions).trace)).isSome := by
  have hcell := kept_run hl
  rw [isEvaluated, getElem?_nodes_run hl, Option.any_some, Deferred.isEvaluated]
  obtain ⟨root, kind, path⟩ := l
  by_cases hpath : path = []
  · subst hpath
    cases kind with
    | memoized script description =>
      have hkept : (Lineage.deferred ⟨root, .memoized script description, []⟩).kept?
          (run actions).memory = (run actions).memory.cell? root := rfl
      rw [hkept, hcell rfl]
      simp [Root.isMemoized]
    | _ => exact iff_of_false Bool.false_ne_true fun h => Bool.false_ne_true h.2.1
  · rw [Lineage.deferred, Deferred.kept?_along hpath]
    exact iff_of_false Bool.false_ne_true fun h => hpath h.1

/-- From its first success on, a memoized supplier stands for that value. -/
theorem settled_run {v : Value} (hl : (Plan.ofActions actions).lineages[node]? = some l)
    (hm : l.kind.isMemoized) (hv : firstOk? (outcomes l.root (run actions).trace) = some v)
    (more : List Action) :
    outcomes l.root (run (actions ++ more)).trace = outcomes l.root (run actions).trace ∧
      (∀ default?, (run (actions ++ more)).answer? node default? = some (compose l.path v)) ∧
      (l.path = [] → (run (actions ++ more)).isEvaluated node) := by
  have hsame := outcomes_run_append hl hm (Option.isSome_of_eq_some hv) more
  have hlater := Plan.getElem?_lineages_append hl more
  have hfirst : firstOk? (outcomes l.root (run (actions ++ more)).trace) = some v := by
    rw [hsame, hv]
  refine ⟨hsame, fun default? => ?_, fun hpath => ?_⟩
  · rw [answer?_run hlater]
    obtain ⟨root, kind, path⟩ := l
    cases kind with
    | memoized script description =>
      have houtcome := (Root.outcome_of_some hfirst script description).1
      have hanswer : Lineage.answer ⟨root, .memoized script description, path⟩ default?
          (run (actions ++ more)).trace =
            (Root.memoized script description).outcome root (run (actions ++ more)).trace >>=
              compose path := by
        cases default? <;> rfl
      rw [hanswer, houtcome]
      rfl
    | _ => cases hm
  · exact (isEvaluated_run_iff hlater).2 ⟨hpath, hm, Option.isSome_of_eq_some hfirst⟩

/-- After these actions, and whatever follows them, all values behave as their lineages say. -/
structure Accounted (actions : List Action) : Prop where
  /-- A demand gives the root's value, transformed along the path, and runs what that takes. -/
  demand : ∀ node l default?, (Plan.ofActions actions).lineages[node]? = some l →
    (run actions).answer? node default? = some (l.answer default? (run actions).trace) ∧
      (run (actions ++ [.demand node default?])).trace =
        (run actions).trace ++ l.events (run actions).trace
  idle : ∀ a, (∀ node default?, a ≠ .demand node default?) →
    (run (actions ++ [a])).trace = (run actions).trace
  /-- A supplier ran as often as its root's kind says for the demands that reached the root. -/
  supplied : ∀ n kind, (Plan.ofActions actions).root? n = some kind →
    outcomes n (run actions).trace = kind.expected ((Plan.ofActions actions).reached.count n)
  /-- A memoized supplier that has succeeded runs no more, and its value is what is demanded. -/
  settled : ∀ node l v, (Plan.ofActions actions).lineages[node]? = some l → l.kind.isMemoized →
    firstOk? (outcomes l.root (run actions).trace) = some v → ∀ more,
      outcomes l.root (run (actions ++ more)).trace = outcomes l.root (run actions).trace ∧
        (∀ default?, (run (actions ++ more)).answer? node default? = some (compose l.path v)) ∧
        (l.path = [] → (run (actions ++ more)).isEvaluated node)
  /-- Nothing runs for a value that was never given. -/
  present : ∀ node l, (Plan.ofActions actions).lineages[node]? = some l →
    (run actions).isPresent node = l.kind.isDefined ∧
      (l.kind.isDefined = false → ∀ T, l.events T = [])
  /-- Evaluated are the memoized roots whose supplier succeeded. -/
  evaluated : ∀ node l, (Plan.ofActions actions).lineages[node]? = some l →
    ((run actions).isEvaluated node ↔
      l.path = [] ∧ l.kind.isMemoized ∧ (firstOk? (outcomes l.root (run actions).trace)).isSome)

/-- Every demand of every run is answered, and runs what it runs, as the lineages tell. -/
theorem accounted_run (actions : List Action) : Accounted actions where
  demand _ _ default? hl := ⟨answer?_run hl default?, trace_demand hl default?⟩
  idle _ := trace_concat_of_ne
  supplied n kind hn := by
    rw [(accords_run actions).supplied, hn]
    rfl
  settled _ _ _ := settled_run
  present _ l hl := by
    refine ⟨?_, l.events_of_not_isDefined⟩
    rw [isPresent, getElem?_nodes_run hl, Option.any_some, Lineage.isPresent_deferred]
  evaluated _ _ := isEvaluated_run_iff

end Forest

end NativeVariants
