import Mathlib.Data.List.Induction
import NativeVariants.Deferred

/-!
# Lineages of deferred values

A deferred value is a root, or it comes from one by a path of transforms. The world here is the trace of
what ran: the suppliers of roots, each by its own script, and the transforms. What a value gives, and
what runs for it, is told by its lineage and the trace alone (`Lineage.demand_deferred`), as long as the
cell of a memoized root holds the first success of its supplier, which reading keeps up.
-/

namespace NativeVariants

/-- What runs when deferred values are read. -/
inductive Event where
  | supplied (node : Nat) (outcome : Except Failure Value)
  | transformed (node : Nat) (input : Value) (outcome : Except Failure Value)

abbrev Trace := List Event

/-- The outcomes of a supplier, run by run. -/
abbrev Script := Nat → Except Failure Value

abbrev Transform := Value → Except Failure Value

namespace Event

def suppliedBy (node : Nat) : Event → Option (Except Failure Value)
  | supplied n outcome => if n = node then some outcome else none
  | transformed _ _ _ => none

end Event

def outcomes (node : Nat) (T : Trace) : List (Except Failure Value) :=
  T.filterMap (Event.suppliedBy node)

def firstOk? (outcomes : List (Except Failure Value)) : Option Value :=
  outcomes.findSome? Except.toOption

def untilOk : List (Except Failure Value) → List (Except Failure Value)
  | [] => []
  | .ok v :: _ => [.ok v]
  | .error failure :: rest => .error failure :: untilOk rest

/-- The supplier that goes by a script, run after run. -/
def supplier (node : Nat) (script : Script) : Supplier Trace := fun T =>
  (script (outcomes node T).length, T ++ [.supplied node (script (outcomes node T).length)])

/-- A transform whose runs show in the trace. -/
def recorded (node : Nat) (transform : Transform) (v : Value) : Supplier Trace := fun T =>
  (transform v, T ++ [.transformed node v (transform v)])

/-- How a value comes about that is not mapped from another one. -/
inductive Root where
  | value (l : Label)
  | undefined (description : Option String)
  | plain (script : Script) (description : Option String)
  | memoized (script : Script) (description : Option String)

/-- A root by itself; the cell of a memoized one has the root's number. -/
def Root.deferred (node : Nat) : Root → Deferred Trace
  | value l => .of l
  | undefined description => .undefined description
  | plain script description => .plain (supplier node script) description
  | memoized script description => .memoized node (supplier node script) description

/-- Where a value comes from: the root, and the transforms from there on. -/
structure Lineage where
  root : Nat
  kind : Root
  path : List (Nat × Transform)

/-! ### What is to be expected -/

def compose (path : List (Nat × Transform)) (v : Value) : Except Failure Value :=
  path.foldlM (fun v step => step.2 v) v

/-- The runs of these transforms, up to one that fails. -/
def passes : List (Nat × Transform) → Value → Trace
  | [], _ => []
  | (node, transform) :: path, v =>
    .transformed node v (transform v) ::
      match transform v with
      | .ok u => passes path u
      | .error _ => []

namespace Root

/-- What a value is called that is missing. -/
def missing : Option String → String
  | none | some "" => "deferred value"
  | some description => description

/-- What the root gives after `T`. -/
def outcome (node : Nat) (T : Trace) : Root → Except Failure Value
  | value l => .ok l.value
  | undefined description => .error (.missingValue (missing description))
  | plain script _ => script (outcomes node T).length
  | memoized script _ =>
    match firstOk? (outcomes node T) with
    | some v => .ok v
    | none => script (outcomes node T).length

/-- Whether the supplier runs for that. -/
def asks (node : Nat) (T : Trace) : Root → Bool
  | value _ | undefined _ => false
  | plain _ _ => true
  | memoized _ _ => (firstOk? (outcomes node T)).isNone

def runs (node : Nat) (T : Trace) (kind : Root) : Trace :=
  if kind.asks node T then [.supplied node (kind.outcome node T)] else []

/-- The outcomes of the supplier's runs after `n` demands. -/
def expected (n : Nat) : Root → List (Except Failure Value)
  | value _ | undefined _ => []
  | plain script _ => (List.range n).map script
  | memoized script _ => untilOk ((List.range n).map script)

def isMemoized : Root → Bool
  | memoized _ _ => true
  | _ => false

def isDefined : Root → Bool
  | undefined _ => false
  | _ => true

end Root

namespace Lineage

/-- What a demand gives after `T`. -/
def answer (l : Lineage) (default? : Option Value) (T : Trace) : Except Failure Value :=
  match l.kind, default? with
  | .undefined _, some default => .ok default
  | kind, _ => kind.outcome l.root T >>= compose l.path

def events (l : Lineage) (T : Trace) : Trace :=
  l.kind.runs l.root T ++
    match l.kind.outcome l.root T with
    | .ok v => passes l.path v
    | .error _ => []

end Lineage

/-- Reads a value, or gives the default, if there is one and no value was ever given. -/
def Deferred.demand {σ : Type} (d : Deferred σ) (default? : Option Value) (m : Memory σ) :
    Except Failure Value × Memory σ :=
  match default? with
  | none => d.get m
  | some default => d.getOrElse default m

/-! ### Traces, scripts and paths -/

theorem outcomes_append (node : Nat) (T T' : Trace) :
    outcomes node (T ++ T') = outcomes node T ++ outcomes node T' :=
  List.filterMap_append

theorem outcomes_passes (node : Nat) (path : List (Nat × Transform)) (v : Value) :
    outcomes node (passes path v) = [] := by
  induction path generalizing v with
  | nil => rfl
  | cons step path ih =>
    rw [passes, outcomes, List.filterMap_cons_none rfl]
    cases step.2 v with
    | ok u => exact ih u
    | error failure => rfl

theorem untilOk_eq_self {l : List (Except Failure Value)} (h : firstOk? (untilOk l) = none) :
    untilOk l = l := by
  induction l with
  | nil => rfl
  | cons r l ih =>
    cases r with
    | ok v => cases h
    | error failure => rw [untilOk, ih h]

theorem untilOk_concat (l : List (Except Failure Value)) (r : Except Failure Value) :
    untilOk (l ++ [r]) =
      if (firstOk? (untilOk l)).isNone then untilOk l ++ [r] else untilOk l := by
  induction l with
  | nil => cases r <;> rfl
  | cons q l ih =>
    cases q with
    | ok v => rfl
    | error failure =>
      rw [List.cons_append, untilOk, ih, untilOk]
      have hfirst : firstOk? (.error failure :: untilOk l) = firstOk? (untilOk l) := rfl
      rw [hfirst]
      split <;> rfl

theorem untilOk_append {l : List (Except Failure Value)} (h : (firstOk? (untilOk l)).isSome)
    (l' : List (Except Failure Value)) : untilOk (l ++ l') = untilOk l := by
  induction l with
  | nil => cases h
  | cons r l ih =>
    cases r with
    | ok v => rfl
    | error failure =>
      have hrest : (firstOk? (untilOk l)).isSome := h
      rw [List.cons_append, untilOk, untilOk, ih hrest]

theorem compose_concat (path : List (Nat × Transform)) (node : Nat) (transform : Transform)
    (v : Value) : compose (path ++ [(node, transform)]) v = compose path v >>= transform := by
  have hlast : ∀ u, [(node, transform)].foldlM (fun v step => step.2 v) u = transform u := by
    intro u
    exact bind_pure (transform u)
  rw [compose, List.foldlM_append, ← compose]
  simp only [hlast]

theorem passes_concat (path : List (Nat × Transform)) (node : Nat) (transform : Transform)
    (v : Value) : passes (path ++ [(node, transform)]) v = passes path v ++
      match compose path v with
      | .ok u => [.transformed node u (transform u)]
      | .error _ => [] := by
  induction path generalizing v with
  | nil =>
    have hpass : passes [(node, transform)] v = [.transformed node v (transform v)] := by
      rw [passes]
      cases transform v <;> rfl
    exact hpass
  | cons step path ih =>
    rw [List.cons_append, passes, passes, compose, List.foldlM_cons]
    cases step.2 v with
    | error failure => rfl
    | ok u =>
      dsimp only
      rw [ih u]
      rfl

/-! ### Reading -/

namespace Deferred

/-- The value that branches off along a path. -/
def along (path : List (Nat × Transform)) (d : Deferred Trace) : Deferred Trace :=
  path.foldl (fun d step => d.map (recorded step.1 step.2)) d

theorem along_concat (path : List (Nat × Transform)) (node : Nat) (transform : Transform)
    (d : Deferred Trace) :
    along (path ++ [(node, transform)]) d = (along path d).map (recorded node transform) := by
  rw [along, List.foldl_append]
  rfl

theorem isPresent_along (path : List (Nat × Transform)) (d : Deferred Trace) :
    (along path d).isPresent = d.isPresent := by
  induction path using List.reverseRecOn with
  | nil => rfl
  | append_singleton path step ih => rw [along_concat, isPresent_map, ih]

theorem kept?_along {path : List (Nat × Transform)} (h : path ≠ []) (d : Deferred Trace)
    (m : Memory Trace) : (along path d).kept? m = none := by
  induction path using List.reverseRecOn with
  | nil => exact absurd rfl h
  | append_singleton path step _ => rw [along_concat, kept?_map]

/-- What is read along a path is what the root gives, transformed, and the transforms run once. -/
theorem get_along (path : List (Nat × Transform)) (d : Deferred Trace) (m : Memory Trace) :
    (along path d).get m =
      match d.get m with
      | (.ok v, m) => (compose path v, { m with world := m.world ++ passes path v })
      | (.error failure, m) => (.error failure, m) := by
  -- a value that is read asks the one it was mapped from first, so the path is followed from its end
  induction path using List.reverseRecOn with
  | nil =>
    rcases hd : d.get m with ⟨failure | v, m'⟩
    · exact hd
    · dsimp only
      rw [passes, List.append_nil]
      exact hd
  | append_singleton path step ih =>
    rw [along_concat, get_map, ih]
    rcases d.get m with ⟨failure | v, m'⟩
    · rfl
    · dsimp only
      rw [compose_concat, passes_concat]
      cases compose path v with
      | error failure =>
        rw [List.append_nil]
        rfl
      | ok u =>
        simp only [Memory.ask, recorded, List.append_assoc]
        rfl

end Deferred

namespace Root

variable {kind : Root} {node : Nat} {T : Trace} {m : Memory Trace}

theorem outcomes_runs (n : Nat) : outcomes n (kind.runs node T) =
    if n = node ∧ kind.asks node T then [kind.outcome node T] else [] := by
  unfold runs
  cases kind.asks node T with
  | false => simp [outcomes]
  | true =>
    by_cases hn : n = node
    · simp [outcomes, Event.suppliedBy, hn]
    · have hn' : node ≠ n := fun h => hn h.symm
      simp [outcomes, Event.suppliedBy, hn, hn']

theorem expected_succ {n : Nat} (h : outcomes node T = kind.expected n) :
    kind.expected (n + 1) = outcomes node (T ++ kind.runs node T) := by
  rw [outcomes_append, outcomes_runs, h]
  cases kind with
  | value v => simp [Root.expected, asks]
  | undefined description => simp [Root.expected, asks]
  | plain script description =>
    have hlength : (outcomes node T).length = n := by rw [h]; simp [Root.expected]
    simp [Root.expected, asks, outcome, hlength, List.range_succ]
  | memoized script description =>
    have hscript : (memoized script description).expected n = untilOk ((List.range n).map script) := rfl
    rw [hscript] at h ⊢
    rw [Root.expected, List.range_succ, List.map_append, List.map_singleton, untilOk_concat]
    cases hfirst : firstOk? (untilOk ((List.range n).map script)) with
    | some v => simp [asks, h, hfirst]
    | none =>
      have hlength : (outcomes node T).length = n := by
        rw [h, untilOk_eq_self hfirst]
        simp
      simp [asks, outcome, h, hfirst, h ▸ hlength]

theorem outcome_of_some {v : Value} (h : firstOk? (outcomes node T) = some v) (script : Script)
    (description : Option String) :
    (memoized script description).outcome node T = .ok v ∧
      (memoized script description).runs node T = [] := by
  simp [outcome, runs, asks, h]

theorem outcome_of_none (h : firstOk? (outcomes node T) = none) (script : Script)
    (description : Option String) :
    (memoized script description).outcome node T = script (outcomes node T).length ∧
      (memoized script description).runs node T =
        [.supplied node (script (outcomes node T).length)] := by
  simp [outcome, runs, asks, h]

theorem firstOk?_concat {l : List (Except Failure Value)} (h : firstOk? l = none)
    (r : Except Failure Value) : firstOk? (l ++ [r]) = r.toOption := by
  unfold firstOk? at *
  rw [List.findSome?_append, h, Option.none_or, List.findSome?_singleton]

theorem get_memoized {script : Script} {description : Option String}
    (h : m.cell? node = firstOk? (outcomes node m.world)) :
    ∃ cells, (Deferred.memoized node (supplier node script) description).get m =
        ((memoized script description).outcome node m.world,
          ⟨m.world ++ (memoized script description).runs node m.world, cells⟩) ∧
      cells.lookup node =
        firstOk? (outcomes node (m.world ++ (memoized script description).runs node m.world)) ∧
      ∀ n, n ≠ node → cells.lookup n = m.cell? n := by
  cases hfirst : firstOk? (outcomes node m.world) with
  | some v =>
    obtain ⟨houtcome, hruns⟩ := outcome_of_some hfirst script description
    rw [hfirst] at h
    refine ⟨m.cells, ?_, ?_, fun n _ => rfl⟩
    · rw [houtcome, hruns, List.append_nil, Deferred.get, h]
    · rw [hruns, List.append_nil, hfirst]
      exact h
  | none =>
    obtain ⟨houtcome, hruns⟩ := outcome_of_none hfirst script description
    have hafter := outcomes_append node m.world
      [.supplied node (script (outcomes node m.world).length)]
    have hrun : outcomes node [.supplied node (script (outcomes node m.world).length)] =
        [script (outcomes node m.world).length] := by
      simp [outcomes, Event.suppliedBy]
    rw [hfirst] at h
    rw [houtcome, hruns, hafter, hrun, firstOk?_concat hfirst, Deferred.get, h]
    dsimp only
    simp only [Memory.fill, Memory.ask, supplier]
    cases script (outcomes node m.world).length with
    | ok v =>
      refine ⟨_, rfl, List.lookup_cons_self, fun n hn => ?_⟩
      rw [List.lookup_cons, beq_false_of_ne hn]
      rfl
    | error failure => exact ⟨_, rfl, h, fun n _ => rfl⟩

/-- Reading a root gives its outcome and runs what it takes; the first success is kept. -/
theorem get_deferred (h : kind.isMemoized → m.cell? node = firstOk? (outcomes node m.world)) :
    ∃ cells, (kind.deferred node).get m =
        (kind.outcome node m.world, ⟨m.world ++ kind.runs node m.world, cells⟩) ∧
      (kind.isMemoized →
        cells.lookup node = firstOk? (outcomes node (m.world ++ kind.runs node m.world))) ∧
      ∀ n, n ≠ node ∨ kind.isMemoized = false → cells.lookup n = m.cell? n := by
  cases kind with
  | value v =>
    have hworld : m.world ++ (value v).runs node m.world = m.world := List.append_nil _
    exact ⟨m.cells, by rw [hworld]; rfl, fun h => absurd h Bool.false_ne_true, fun _ _ => rfl⟩
  | undefined description =>
    have hworld : m.world ++ (undefined description).runs node m.world = m.world :=
      List.append_nil _
    refine ⟨m.cells, ?_, fun h => absurd h Bool.false_ne_true, fun _ _ => rfl⟩
    rw [hworld, deferred, Deferred.get, Deferred.label?, Deferred.description]
    unfold outcome missing
    split <;> simp_all
  | plain script description => exact ⟨m.cells, rfl, fun h => absurd h Bool.false_ne_true, fun _ _ => rfl⟩
  | memoized script description =>
    obtain ⟨cells, hget, hself, hother⟩ := get_memoized (h rfl)
    refine ⟨cells, hget, fun _ => hself, fun n hn => hother n ?_⟩
    rcases hn with hn | hn
    · exact hn
    · cases hn

theorem isPresent_deferred : (kind.deferred node).isPresent = kind.isDefined := by
  cases kind <;> rfl

/-- Once a memoized supplier has succeeded, it runs no more. -/
theorem expected_add {n : Nat} (hm : kind.isMemoized) (h : (firstOk? (kind.expected n)).isSome)
    (k : Nat) : kind.expected (n + k) = kind.expected n := by
  cases kind with
  | memoized script description =>
    rw [expected, List.range_add, List.map_append]
    exact untilOk_append h _
  | _ => cases hm

theorem expected_zero (kind : Root) : kind.expected 0 = [] := by
  cases kind <;> rfl

end Root

namespace Lineage

variable {l : Lineage} {m : Memory Trace}

def deferred (l : Lineage) : Deferred Trace :=
  (l.kind.deferred l.root).along l.path

theorem isPresent_deferred : l.deferred.isPresent = l.kind.isDefined := by
  rw [deferred, Deferred.isPresent_along, Root.isPresent_deferred]

theorem events_of_not_isDefined (l : Lineage) (h : l.kind.isDefined = false) (T : Trace) :
    l.events T = [] := by
  obtain ⟨root, kind, path⟩ := l
  cases kind with
  | undefined description => rfl
  | _ => cases h

theorem outcomes_events (n : Nat) (T : Trace) :
    outcomes n (l.events T) = outcomes n (l.kind.runs l.root T) := by
  rw [events, outcomes_append]
  cases l.kind.outcome l.root T with
  | ok v => rw [outcomes_passes, List.append_nil]
  | error failure => exact List.append_nil _

/-- What a demand of a value gives, and what runs for it. -/
theorem get_deferred (h : l.kind.isMemoized → m.cell? l.root = firstOk? (outcomes l.root m.world)) :
    ∃ cells, l.deferred.get m = (l.answer none m.world, ⟨m.world ++ l.events m.world, cells⟩) ∧
      (l.kind.isMemoized →
        cells.lookup l.root = firstOk? (outcomes l.root (m.world ++ l.events m.world))) ∧
      ∀ n, n ≠ l.root ∨ l.kind.isMemoized = false → cells.lookup n = m.cell? n := by
  obtain ⟨cells, hget, hself, hother⟩ := Root.get_deferred h
  refine ⟨cells, ?_, fun hm => ?_, hother⟩
  · have hanswer : l.answer none m.world = l.kind.outcome l.root m.world >>= compose l.path := by
      unfold answer
      split
      · contradiction
      · rfl
    rw [deferred, Deferred.get_along, hget, hanswer, events]
    cases l.kind.outcome l.root m.world with
    | ok v =>
      rw [← List.append_assoc]
      rfl
    | error failure =>
      rw [List.append_nil]
      rfl
  · rw [hself hm, outcomes_append, outcomes_append, outcomes_events]

theorem demand_deferred (default? : Option Value)
    (h : l.kind.isMemoized → m.cell? l.root = firstOk? (outcomes l.root m.world)) :
    ∃ cells,
      l.deferred.demand default? m =
        (l.answer default? m.world, ⟨m.world ++ l.events m.world, cells⟩) ∧
      (l.kind.isMemoized →
        cells.lookup l.root = firstOk? (outcomes l.root (m.world ++ l.events m.world))) ∧
      ∀ n, n ≠ l.root ∨ l.kind.isMemoized = false → cells.lookup n = m.cell? n := by
  cases default? with
  | none => exact get_deferred h
  | some default =>
    rw [Deferred.demand, Deferred.getOrElse, isPresent_deferred]
    obtain ⟨root, kind, path⟩ := l
    cases kind with
    | undefined description =>
      refine ⟨m.cells, ?_, fun h => absurd h Bool.false_ne_true, fun n _ => rfl⟩
      have hevents := events_of_not_isDefined ⟨root, .undefined description, path⟩ rfl m.world
      rw [hevents, List.append_nil]
      rfl
    | value v => exact get_deferred h
    | plain script description => exact get_deferred h
    | memoized script description => exact get_deferred h

end Lineage

end NativeVariants
