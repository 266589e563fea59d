import NativeVariants.Proofs.Builder

/-!
# Runs of a builder

A `Workbench` is a builder with everything its reads depend on: the project and the host, which may
change at any time, and the state of the factories. A run takes actions in any order. A memo is
filled by one read and kept from then on (`exists_first_read`), and once there are binaries nothing
but the variants may still be worked out (`builder_run_of_built`).
-/

namespace NativeVariants

variable {φ σ β : Type}

/-- A builder with its surroundings. -/
structure Workbench (φ σ β : Type) where
  builder : Builder φ β
  project : Project
  host : Host
  state : σ

namespace Workbench

inductive Action (φ σ : Type) where
  | declare (d : Declaration φ)
  | readVariants
  | readBinaries
  /-- Something else changes the surroundings. -/
  | change (project : Project) (host : Host) (state : σ)

def new (component : String) (project : Project) (host : Host) (state : σ) : Workbench φ σ β :=
  ⟨Builder.ofComponent component, project, host, state⟩

/-- What is declared by now. -/
def configuration (w : Workbench φ σ β) : Configuration φ :=
  w.builder.configuration w.project w.host

/-- What a build would come to now. -/
def build (make : Make φ σ β) (w : Workbench φ σ β) : DispatchRun φ σ β :=
  w.configuration.build make w.state

def step (make : Make φ σ β) (w : Workbench φ σ β) : Action φ σ → Workbench φ σ β
  | .declare d => { w with builder := (w.builder.declare d).2 }
  | .readVariants => { w with builder := (w.builder.variants w.project w.host).2 }
  | .readBinaries =>
    let (run, builder) := w.builder.binaries make w.project w.host w.state
    { w with builder, state := run.state }
  | .change project host state => { w with project, host, state }

def run (make : Make φ σ β) (w : Workbench φ σ β) (actions : List (Action φ σ)) :
    Workbench φ σ β :=
  actions.foldl (step make) w

variable {make : Make φ σ β} {w : Workbench φ σ β} {a : Action φ σ} {actions : List (Action φ σ)}

@[simp] theorem run_nil (make : Make φ σ β) (w : Workbench φ σ β) : w.run make [] = w := rfl

@[simp] theorem run_cons (make : Make φ σ β) (w : Workbench φ σ β) (a : Action φ σ)
    (actions : List (Action φ σ)) : w.run make (a :: actions) = (w.step make a).run make actions :=
  rfl

theorem run_append (make : Make φ σ β) (w : Workbench φ σ β) (before after : List (Action φ σ)) :
    w.run make (before ++ after) = (w.run make before).run make after :=
  List.foldl_append

section Memo

variable {γ : Type} {m : Workbench φ σ β → Option γ} {x : γ}

/-- What every step keeps, a run keeps. -/
theorem run_of_step_keeps (keep : ∀ w a x, m w = some x → m (w.step make a) = some x)
    (h : m w = some x) (actions : List (Action φ σ)) : m (w.run make actions) = some x := by
  induction actions generalizing w with
  | nil => exact h
  | cons a rest ih => exact ih (keep w a x h)

/-- A memo that is filled in the end was filled by one of the actions. -/
theorem exists_first_read (keep : ∀ w a x, m w = some x → m (w.step make a) = some x)
    (hn : m w = none) (h : m (w.run make actions) = some x) :
    ∃ before a after, actions = before ++ a :: after ∧ m (w.run make before) = none ∧
      m ((w.run make before).step make a) = some x := by
  induction actions generalizing w with
  | nil => rw [run_nil, hn] at h; cases h
  | cons a rest ih =>
    cases hs : m (w.step make a) with
    | none =>
      obtain ⟨before, a', after, rfl, hbefore, hstep⟩ := ih hs h
      exact ⟨a :: before, a', after, rfl, hbefore, hstep⟩
    | some y =>
      have hy : m (w.run make (a :: rest)) = some y := run_of_step_keeps keep hs rest
      rw [h] at hy
      exact ⟨[], a, rest, rfl, hn, hs.trans hy.symm⟩

end Memo

theorem variants?_step_of_some (w : Workbench φ σ β) (a : Action φ σ) (variants : List Variant)
    (h : w.builder.variants? = some variants) :
    (w.step make a).builder.variants? = some variants := by
  cases a with
  | declare d => exact (w.builder.variants?_declare d).trans h
  | readVariants => simp only [step, Builder.variants_eq, h, Option.some_or]
  | readBinaries => simp only [step, Builder.binaries_eq, h]
  | change project host state => exact h

theorem binaries?_step_of_some (w : Workbench φ σ β) (a : Action φ σ) (binaries : List β)
    (h : w.builder.binaries? = some binaries) :
    (w.step make a).builder.binaries? = some binaries := by
  cases a with
  | declare d => exact (w.builder.binaries?_declare d).trans h
  | readVariants => simp only [step, Builder.variants_eq, h]
  | readBinaries => simp only [step, Builder.binaries_eq, h, Option.some_or]
  | change project host state => exact h

theorem binaries?_run_of_some {binaries : List β} (h : w.builder.binaries? = some binaries)
    (actions : List (Action φ σ)) : (w.run make actions).builder.binaries? = some binaries :=
  run_of_step_keeps (m := (·.builder.binaries?)) binaries?_step_of_some h actions

/-- Only a read of the variants fills their memo, with those of a valid configuration. -/
theorem eq_readVariants {variants : List Variant} (hn : w.builder.variants? = none)
    (h : (w.step make a).builder.variants? = some variants) :
    a = .readVariants ∧ w.configuration.Valid ∧ variants = w.configuration.variants := by
  cases a with
  | declare d => rw [step, Builder.variants?_declare, hn] at h; cases h
  | readVariants =>
    refine ⟨rfl, ?_⟩
    rw [step, Builder.variants_eq, hn, Option.none_or] at h
    by_cases hv : w.configuration.Valid
    · change w.configuration.identifyVariants.result.toOption = some variants at h
      rw [hv.identifyVariants] at h
      exact ⟨hv, (Option.some.inj h).symm⟩
    · obtain ⟨fault, hf⟩ := Configuration.identifyVariants_of_not_valid hv
      change w.configuration.identifyVariants.result.toOption = some variants at h
      rw [hf] at h
      cases h
  | readBinaries => simp only [step, Builder.binaries_eq, hn] at h; cases h
  | change project host state => rw [step, hn] at h; cases h

/-- Only a build fills the memo of the binaries, and only if it succeeds. -/
theorem eq_readBinaries {binaries : List β} (hn : w.builder.binaries? = none)
    (h : (w.step make a).builder.binaries? = some binaries) :
    a = .readBinaries ∧ (w.build make).result = .ok binaries := by
  cases a with
  | declare d => rw [step, Builder.binaries?_declare, hn] at h; cases h
  | readVariants => simp only [step, Builder.variants_eq, hn] at h; cases h
  | readBinaries =>
    refine ⟨rfl, ?_⟩
    simp only [step, Builder.binaries_eq, hn, Option.none_or] at h
    change (w.build make).result.toOption = some binaries at h
    cases hr : (w.build make).result with
    | ok made => rw [hr] at h; rw [Option.some.inj h]
    | error failure => rw [hr] at h; cases h
  | change project host state => rw [step, hn] at h; cases h

/-- A build changes the builder in nothing but the memo of its binaries. -/
theorem builder_step_readBinaries (make : Make φ σ β) (w : Workbench φ σ β) :
    (w.step make .readBinaries).builder =
      { w.builder with binaries? := (w.step make .readBinaries).builder.binaries? } := by
  simp only [step, Builder.binaries_eq]

/-- Once there are binaries, a builder changes in nothing but the memo of its variants. -/
theorem builder_step_of_built {binaries : List β} (h : w.builder.binaries? = some binaries)
    (make : Make φ σ β) (a : Action φ σ) :
    ∃ variants?, (w.step make a).builder = { w.builder with variants? } := by
  cases a with
  | declare d =>
    exact ⟨_, Builder.declare_of_isBuilt (by rw [Builder.isBuilt, h, Option.isSome_some]) d⟩
  | readVariants => exact ⟨_, Builder.variants_eq ..⟩
  | readBinaries =>
    refine ⟨w.builder.variants?, ?_⟩
    simp only [step, Builder.binaries_eq, h, Option.some_or]
  | change project host state => exact ⟨_, rfl⟩

theorem builder_run_of_built {binaries : List β} (h : w.builder.binaries? = some binaries)
    (actions : List (Action φ σ)) :
    ∃ variants?, (w.run make actions).builder = { w.builder with variants? } := by
  induction actions generalizing w with
  | nil => exact ⟨_, rfl⟩
  | cons a rest ih =>
    obtain ⟨_, hstep⟩ := builder_step_of_built h make a
    obtain ⟨variants?, hrun⟩ := ih (binaries?_step_of_some w a binaries h)
    exact ⟨variants?, by rw [run_cons, hrun, hstep]⟩

end Workbench

end NativeVariants
