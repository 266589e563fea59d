import NativeVariants.Proofs.Configuration

/-!
# Calls of factories

`callSequence` says which factories a host calls for which variants, variant by variant. A run
`Follows` such a sequence if it makes all of its calls, each of them answering, or makes them up to
the first that fails, whose failure is then the run's. Every build follows the sequence of its
variants.
-/

namespace NativeVariants

variable {φ σ β : Type}

namespace Registry

/-- The factories that a host of the given family calls for a variant: none for machines of another
family, the preferred one of the linkage's kind, or all of them where there is no linkage. -/
def factoriesFor (r : Registry φ) (host : String) (v : Variant) : List φ :=
  if v.combination.machine.family ≠ host then []
  else
    match v.combination.linkage with
    | some linkage => (r.select linkage.kind).toList
    | none => r.allFactories

/-- The calls for all variants, in their order. -/
def callSequence (r : Registry φ) (host : String) (variants : List Variant) : List (φ × Variant) :=
  variants.flatMap fun v => (r.factoriesFor host v).map (·, v)

theorem filterMap_call?_steps (r : Registry φ) (host : String) (v : Variant) :
    (r.steps host v).filterMap DispatchStep.call? = (r.factoriesFor host v).map (·, v) := by
  unfold steps factoriesFor
  split_ifs
  · rfl
  · cases v.combination.linkage with
    | some linkage => cases h : r.select linkage.kind <;> simp [h, DispatchStep.call?]
    | none => simp [Function.comp_def, DispatchStep.call?]

theorem filterMap_call?_plan (r : Registry φ) (host : String) (variants : List Variant) :
    (r.plan host variants).filterMap DispatchStep.call? = r.callSequence host variants := by
  simp only [plan, callSequence, List.filterMap_flatMap, filterMap_call?_steps]

theorem mem_callSequence {r : Registry φ} {host : String} {variants : List Variant}
    {call : φ × Variant} :
    call ∈ r.callSequence host variants ↔
      call.2 ∈ variants ∧ call.1 ∈ r.factoriesFor host call.2 := by
  simp only [callSequence, List.mem_flatMap, List.mem_map]
  constructor
  · rintro ⟨v, hv, factory, hf, rfl⟩; exact ⟨hv, hf⟩
  · rintro ⟨hv, hf⟩; exact ⟨_, hv, _, hf, rfl⟩

theorem family_of_mem_factoriesFor {r : Registry φ} {host : String} {v : Variant} {factory : φ}
    (h : factory ∈ r.factoriesFor host v) : v.combination.machine.family = host := by
  by_contra hne
  simp [factoriesFor, hne] at h

end Registry

/-- Calls that all succeed, with the binaries that they make and the state that they leave. -/
inductive Answers (make : Make φ σ β) : σ → List (φ × Variant) → List β → σ → Prop where
  | nil {state : σ} : Answers make state [] [] state
  | cons {state middle after : σ} {factory : φ} {v : Variant} {binary : β}
      {calls : List (φ × Variant)} {binaries : List β}
      (head : make factory v state = (.ok binary, middle))
      (tail : Answers make middle calls binaries after) :
      Answers make state ((factory, v) :: calls) (binary :: binaries) after

namespace DispatchRun

/-- A run that makes the given calls in order, up to the first that fails. -/
inductive Follows (make : Make φ σ β) (state : σ) (calls : List (φ × Variant)) :
    DispatchRun φ σ β → Prop where
  | completed {binaries : List β} {journal : List Entry} {after : σ}
      (answers : Answers make state calls binaries after) :
      Follows make state calls ⟨.ok binaries, calls, journal, after⟩
  | stopped {made rest : List (φ × Variant)} {binaries : List β} {middle after : σ} {factory : φ}
      {v : Variant} {failure : Failure} {journal : List Entry}
      (split : calls = made ++ (factory, v) :: rest)
      (answers : Answers make state made binaries middle)
      (fails : make factory v middle = (.error failure, after)) :
      Follows make state calls ⟨.error failure, made ++ [(factory, v)], journal, after⟩

namespace Follows

variable {make : Make φ σ β} {state : σ} {calls : List (φ × Variant)} {run : DispatchRun φ σ β}

theorem withJournal (h : run.Follows make state calls) (journal : List Entry) :
    ({ run with journal } : DispatchRun φ σ β).Follows make state calls := by
  cases h with
  | completed answers => exact .completed answers
  | stopped split answers fails => exact .stopped split answers fails

/-- A call that succeeds goes before a run. -/
theorem cons {factory : φ} {v : Variant} {binary : β} {middle : σ}
    (head : make factory v state = (.ok binary, middle)) (h : run.Follows make middle calls) :
    ({ run with
      result := run.result.map (binary :: ·)
      calls := (factory, v) :: run.calls } : DispatchRun φ σ β).Follows make state
        ((factory, v) :: calls) := by
  cases h with
  | completed answers => exact .completed (.cons head answers)
  | @stopped made rest _ _ _ factory' v' _ _ split answers fails =>
    have hsplit : (factory, v) :: calls = (factory, v) :: made ++ (factory', v') :: rest := by
      rw [split, List.cons_append]
    exact .stopped hsplit (.cons head answers) fails

theorem mem_calls (h : run.Follows make state calls) {call : φ × Variant} (hc : call ∈ run.calls) :
    call ∈ calls := by
  cases h with
  | completed answers => exact hc
  | stopped split answers fails =>
    rw [split]
    rcases List.mem_append.1 hc with hc | hc
    · exact List.mem_append_left _ hc
    · rw [List.mem_singleton.1 hc]; simp

/-- The calls of a run that succeeds are those of the whole sequence. -/
theorem of_ok {binaries : List β} (h : run.Follows make state calls) (hr : run.result = .ok binaries) :
    run.calls = calls ∧ Answers make state calls binaries run.state := by
  cases h with
  | completed answers => cases hr; exact ⟨rfl, answers⟩
  | stopped split answers fails => cases hr

/-- A run that fails does so with the failure of its last call. -/
theorem of_error {failure : Failure} (h : run.Follows make state calls)
    (hr : run.result = .error failure) :
    ∃ made rest call binaries middle, calls = made ++ call :: rest ∧ run.calls = made ++ [call] ∧
      Answers make state made binaries middle ∧
      make call.1 call.2 middle = (.error failure, run.state) := by
  cases h with
  | completed answers => cases hr
  | stopped split answers fails => cases hr; exact ⟨_, _, _, _, _, split, rfl, answers, fails⟩

end Follows

end DispatchRun

/-- Taking the steps of a plan follows the calls among them. -/
theorem runSteps_follows (make : Make φ σ β) (host : String) (steps : List (DispatchStep φ))
    (state : σ) :
    (runSteps make host steps state).Follows make state (steps.filterMap DispatchStep.call?) := by
  induction steps generalizing state with
  | nil => exact .completed .nil
  | cons step rest ih =>
    cases step with
    | skip v => exact (ih state).withJournal _
    | unserved kind v => exact (ih state).withJournal _
    | call factory v =>
      simp only [runSteps, List.filterMap_cons, DispatchStep.call?]
      cases hm : make factory v state with
      | mk result middle =>
        cases result with
        | ok binary => exact (ih middle).cons hm
        | error failure => exact .stopped (List.nil_append _).symm .nil hm

namespace Configuration

variable {c : Configuration φ}

/-- The build of a configuration that is not valid makes no call and fails as `validate` does. -/
theorem build_of_not_valid (h : ¬ c.Valid) (make : Make φ σ β) (state : σ) :
    ∃ fault journal, c.build make state = ⟨.error (.configuration fault), [], journal, state⟩ := by
  obtain ⟨fault, hf⟩ := identifyVariants_of_not_valid h
  exact ⟨fault, c.identifyVariants.journal, by simp only [build, hf]⟩

theorem valid_of_result_build {make : Make φ σ β} {state : σ} {binaries : List β}
    (h : (c.build make state).result = .ok binaries) : c.Valid := by
  by_contra hv
  obtain ⟨fault, journal, hf⟩ := build_of_not_valid hv make state
  rw [hf] at h
  cases h

theorem Valid.build_follows (h : c.Valid) (make : Make φ σ β) (state : σ) :
    (c.build make state).Follows make state (c.registry.callSequence c.hostFamily c.variants) := by
  rw [← Registry.filterMap_call?_plan]
  simp only [build, h.identifyVariants]
  exact (runSteps_follows make c.hostFamily _ state).withJournal _

/-- A build takes the variants in the order of expansion and calls for each what `factoriesFor`
says, in this order, until a call fails; no call is for a machine of another family. -/
theorem build_follows_callSequence (make : Make φ σ β) (state : σ) (h : c.validate = .ok ()) :
    c.variants.map (·.combination) = combinations c.buildTypes c.machines c.linkageDimension ∧
      (c.build make state).Follows make state
        (c.registry.callSequence c.hostFamily c.variants) ∧
      ∀ call ∈ (c.build make state).calls, call.2.combination.machine.family = c.hostFamily := by
  have hf := (validate_eq_ok_iff.1 h).build_follows make state
  refine ⟨c.map_combination_variants, hf, fun call hc => ?_⟩
  exact Registry.family_of_mem_factoriesFor (Registry.mem_callSequence.1 (hf.mem_calls hc)).2

/-- A factory that counts the calls of all factories and fails at the second. -/
def failSecond : Make String Nat String := fun factory v n =>
  if n = 1 then (.error (.raised (.other "RuntimeError") "toolchain missing"), n + 1)
  else (.ok (factory ++ " " ++ v.name), n + 1)

/-- Two kinds of factories without linkage, for the host and for another family. -/
def mixed : Configuration String where
  component := "component"
  buildTypes := BuildType.defaults
  machines := [⟨"windows", "x86"⟩, ⟨"linux", "x86"⟩]
  linkages := []
  names := ⟨.undefined none, .undefined none, .undefined none⟩
  registry := { executable := [⟨genericPriority, "exe"⟩], sharedLibrary := [⟨genericPriority, "so"⟩] }
  hostFamily := "linux"
  requireLinkage := false
  requireFactory := true

theorem build_follows_callSequence_mixed : mixed.validate = .ok () ∧
    mixed.variants.map (·.combination) =
      [⟨.debug, ⟨"windows", "x86"⟩, none⟩, ⟨.debug, ⟨"linux", "x86"⟩, none⟩,
        ⟨.release, ⟨"windows", "x86"⟩, none⟩, ⟨.release, ⟨"linux", "x86"⟩, none⟩] ∧
    (mixed.build failSecond 0).Follows failSecond 0
      (mixed.registry.callSequence "linux" mixed.variants) ∧
    (mixed.registry.callSequence "linux" mixed.variants).map (fun call => (call.1, call.2.name)) =
      [("so", "debugLinux"), ("exe", "debugLinux"), ("so", "releaseLinux"), ("exe", "releaseLinux")] ∧
    (mixed.build failSecond 0).calls.map (fun call => (call.1, call.2.name)) =
      [("so", "debugLinux"), ("exe", "debugLinux")] ∧
    ∀ call ∈ (mixed.build failSecond 0).calls, call.2.combination.machine.family = "linux" := by
  have h : mixed.validate = .ok () := by decide +kernel
  obtain ⟨hcombinations, hfollows, hfamily⟩ := build_follows_callSequence failSecond 0 h
  refine ⟨h, hcombinations.trans ?_, hfollows, ?_, ?_, hfamily⟩
  · decide +kernel
  · decide +kernel
  · decide +kernel

end Configuration

end NativeVariants
