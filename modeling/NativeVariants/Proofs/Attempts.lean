import NativeVariants.Proofs.Workbench

/-!
# Attempts to build

A read of the binaries is an attempt to build them until one succeeds. An attempt comes to the build
of what is declared at its time, and one that fails changes nothing but the state of the factories:
after any number of them the builder is what the declarations alone make of it
(`builder_run_of_allFail`). So the binaries of the first attempt that succeeds are those that its
own calls have made, and where factories make a new binary at every call, none is left from an
earlier attempt.
-/

namespace NativeVariants

variable {φ σ β : Type}

/-- The binaries that calls make in turn, up to the first call that fails. -/
def madeBy (make : Make φ σ β) : σ → List (φ × Variant) → List β
  | _, [] => []
  | state, (factory, v) :: rest =>
    match make factory v state with
    | (.ok binary, state) => binary :: madeBy make state rest
    | (.error _, _) => []

/-- The state that calls in turn leave the factories in. -/
def stateAfter (make : Make φ σ β) (state : σ) (calls : List (φ × Variant)) : σ :=
  calls.foldl (fun state call => (make call.1 call.2 state).2) state

theorem Answers.madeBy_eq {make : Make φ σ β} {state after : σ} {calls : List (φ × Variant)}
    {binaries : List β} (h : Answers make state calls binaries after) :
    madeBy make state calls = binaries := by
  induction h with
  | nil => rfl
  | cons head tail ih => rw [madeBy, head]; exact congrArg _ ih

theorem Answers.stateAfter_eq {make : Make φ σ β} {state after : σ} {calls : List (φ × Variant)}
    {binaries : List β} (h : Answers make state calls binaries after) :
    stateAfter make state calls = after := by
  induction h with
  | nil => rfl
  | cons head tail ih =>
    rw [stateAfter, List.foldl_cons, head]
    exact ih

namespace DispatchRun.Follows

variable {make : Make φ σ β} {state : σ} {calls : List (φ × Variant)} {run : DispatchRun φ σ β}

theorem state_eq (h : run.Follows make state calls) :
    run.state = stateAfter make state run.calls := by
  cases h with
  | completed answers => exact answers.stateAfter_eq.symm
  | @stopped made _ _ _ _ factory v _ _ split answers fails =>
    show _ = (made ++ [(factory, v)]).foldl _ state
    have hmade : made.foldl (fun state call => (make call.1 call.2 state).2) state = _ :=
      answers.stateAfter_eq
    rw [List.foldl_append, hmade, List.foldl_cons, List.foldl_nil, fails]

theorem madeBy_eq {binaries : List β} (h : run.Follows make state calls)
    (hr : run.result = .ok binaries) : madeBy make state run.calls = binaries := by
  obtain ⟨hcalls, answers⟩ := h.of_ok hr
  rw [hcalls]
  exact answers.madeBy_eq

end DispatchRun.Follows

/-- Factories that make a new binary at every call: a clock never goes back, and every binary is
made between its readings before and after the call. -/
structure MakesNew (make : Make φ σ β) (clock : σ → Nat) (born : β → Nat) : Prop where
  onward : ∀ factory v state, clock state ≤ clock (make factory v state).2
  born : ∀ factory v state binary, (make factory v state).1 = .ok binary →
    clock state ≤ born binary ∧ born binary < clock (make factory v state).2

namespace MakesNew

variable {make : Make φ σ β} {clock : σ → Nat} {born : β → Nat}

theorem onward_calls (h : MakesNew make clock born) (state : σ) (calls : List (φ × Variant)) :
    clock state ≤ clock (stateAfter make state calls) := by
  induction calls generalizing state with
  | nil => exact Nat.le_refl _
  | cons call rest ih => exact Nat.le_trans (h.onward call.1 call.2 state) (ih _)

theorem born_calls (h : MakesNew make clock born) {state : σ} {calls : List (φ × Variant)}
    {binary : β} (hb : binary ∈ madeBy make state calls) :
    clock state ≤ born binary ∧ born binary < clock (stateAfter make state calls) := by
  induction calls generalizing state with
  | nil => cases hb
  | cons call rest ih =>
    obtain ⟨factory, v⟩ := call
    have honward := h.onward factory v state
    have hrest := h.onward_calls (make factory v state).2 rest
    rw [madeBy] at hb
    show _ ∧ _ < clock (stateAfter make (make factory v state).2 rest)
    cases hm : make factory v state with
    | mk result middle =>
      rw [hm] at hb honward hrest
      cases result with
      | error failure => cases hb
      | ok first =>
        rcases List.mem_cons.1 hb with rfl | hb
        · have hfirst := h.born factory v state binary (by rw [hm])
          rw [hm] at hfirst
          exact ⟨hfirst.1, Nat.lt_of_lt_of_le hfirst.2 hrest⟩
        · obtain ⟨hlow, hhigh⟩ := ih hb
          exact ⟨Nat.le_trans honward hlow, hhigh⟩

end MakesNew

namespace Builder

/-- Takes declarations into account, one after the other. -/
def acceptAll (b : Builder φ β) (declarations : List (Declaration φ)) : Builder φ β :=
  declarations.foldl (fun b d => (b.accept d).2) b

theorem accept_variants? (b : Builder φ β) (variants? : Option (List Variant)) (d : Declaration φ) :
    (({ b with variants? } : Builder φ β).accept d).2 = { (b.accept d).2 with variants? } := by
  cases d with
  | linkages names required =>
    unfold accept
    dsimp only
    split <;> rfl
  | _ => rfl

theorem acceptAll_variants? (b : Builder φ β) (variants? : Option (List Variant))
    (declarations : List (Declaration φ)) :
    ({ b with variants? } : Builder φ β).acceptAll declarations =
      { b.acceptAll declarations with variants? } := by
  induction declarations generalizing b with
  | nil => rfl
  | cons d rest ih =>
    simp only [acceptAll, List.foldl_cons, accept_variants?]
    exact ih (b.accept d).2

theorem stateName_of_some {b : Builder φ β} {binaries : List β} (h : b.binaries? = some binaries) :
    b.stateName = "built" := by
  simp [stateName, isBuilt, h]

theorem stateName_of_none {b : Builder φ β} (h : b.binaries? = none) :
    b.stateName = "configuring" := by
  simp [stateName, isBuilt, h]

theorem declare_of_none {b : Builder φ β} (h : b.binaries? = none) (d : Declaration φ) :
    b.declare d = (Logged.lift (b.accept d).1, (b.accept d).2) := by
  simp [declare, isBuilt, h]

end Builder

namespace Workbench

variable {make : Make φ σ β} {w : Workbench φ σ β} {a : Action φ σ} {actions : List (Action φ σ)}
  {binaries : List β}

/-- What a read of the binaries comes to. -/
def attempt (make : Make φ σ β) (w : Workbench φ σ β) : DispatchRun φ σ β :=
  (w.builder.binaries make w.project w.host w.state).1

theorem attempt_of_some (h : w.builder.binaries? = some binaries) :
    w.attempt make = ⟨.ok binaries, [], [], w.state⟩ := by
  simp only [attempt, Builder.binaries, h]

theorem attempt_of_none (h : w.builder.binaries? = none) :
    w.attempt make =
      { w.build make with
        journal := Builder.announcement w.configuration :: (w.build make).journal } := by
  unfold attempt Builder.binaries
  rw [h]
  dsimp only
  split <;> rfl

@[simp] theorem state_step_readBinaries (make : Make φ σ β) (w : Workbench φ σ β) :
    (w.step make .readBinaries).state = (w.attempt make).state := rfl

theorem binaries?_step_readBinaries (make : Make φ σ β) (w : Workbench φ σ β) :
    (w.step make .readBinaries).builder.binaries? = (w.attempt make).result.toOption := by
  simp only [step, Builder.binaries_eq]
  cases h : w.builder.binaries? with
  | some binaries => rw [attempt_of_some h]; rfl
  | none => rw [attempt_of_none h]; rfl

theorem builder_step_of_error {failure : Failure} (h : (w.attempt make).result = .error failure) :
    (w.step make .readBinaries).builder = w.builder := by
  have hmemo := binaries?_step_readBinaries make w
  rw [h] at hmemo
  have hn : w.builder.binaries? = none := by
    cases hb : w.builder.binaries? with
    | none => rfl
    | some binaries => rw [attempt_of_some hb] at h; cases h
  rw [builder_step_readBinaries, hmemo]
  exact congrArg (fun binaries? => { w.builder with binaries? }) hn.symm

/-! ### Calls and binaries of a run -/

/-- The factories that an action calls, and for which variants. -/
def calls (make : Make φ σ β) (w : Workbench φ σ β) : Action φ σ → List (φ × Variant)
  | .readBinaries => (w.attempt make).calls
  | _ => []

def callsIn (make : Make φ σ β) : Workbench φ σ β → List (Action φ σ) → List (φ × Variant)
  | _, [] => []
  | w, a :: rest => w.calls make a ++ callsIn make (w.step make a) rest

/-- The binaries that the calls of all actions of a run have made, also where a later call of the
same action has failed. -/
def madeIn (make : Make φ σ β) : Workbench φ σ β → List (Action φ σ) → List β
  | _, [] => []
  | w, a :: rest => madeBy make w.state (w.calls make a) ++ madeIn make (w.step make a) rest

/-- What holds of every action of a run, in the state that it meets. -/
def Throughout (make : Make φ σ β) (P : Workbench φ σ β → Action φ σ → Prop) :
    Workbench φ σ β → List (Action φ σ) → Prop
  | _, [] => True
  | w, a :: rest => P w a ∧ Throughout make P (w.step make a) rest

def AllFail (make : Make φ σ β) : Workbench φ σ β → List (Action φ σ) → Prop :=
  Throughout make fun w a => a = .readBinaries → ∃ failure, (w.attempt make).result = .error failure

/-- No action of a run turns the clock back. -/
def NeverBack (make : Make φ σ β) (clock : σ → Nat) : Workbench φ σ β → List (Action φ σ) → Prop :=
  Throughout make fun w a => clock w.state ≤ clock (w.step make a).state

/-! ### Failing attempts -/

/-- What an action declares. -/
def Action.declaration? : Action φ σ → Option (Declaration φ)
  | .declare d => some d
  | _ => none

/-- Without binaries only declarations count, and the memo of the variants may be filled. -/
theorem builder_step_of_none (hn : w.builder.binaries? = none)
    (hf : a = .readBinaries → ∃ failure, (w.attempt make).result = .error failure) :
    ∃ variants?, (w.step make a).builder =
      { w.builder.acceptAll a.declaration?.toList with variants? } := by
  cases a with
  | declare d =>
    refine ⟨(w.builder.accept d).2.variants?, ?_⟩
    simp only [step, Builder.declare_of_none hn]
    rfl
  | readVariants => exact ⟨_, Builder.variants_eq ..⟩
  | readBinaries =>
    obtain ⟨failure, hr⟩ := hf rfl
    exact ⟨w.builder.variants?, builder_step_of_error hr⟩
  | change project host state => exact ⟨w.builder.variants?, rfl⟩

theorem binaries?_step_of_none (hn : w.builder.binaries? = none)
    (hf : a = .readBinaries → ∃ failure, (w.attempt make).result = .error failure) :
    (w.step make a).builder.binaries? = none := by
  cases a with
  | declare d => exact (w.builder.binaries?_declare d).trans hn
  | readVariants => simp only [step, Builder.variants_eq, hn]
  | readBinaries =>
    obtain ⟨failure, hr⟩ := hf rfl
    rw [binaries?_step_readBinaries, hr]
    rfl
  | change project host state => exact hn

/-- All that is declared in a run. -/
def declarations (actions : List (Action φ σ)) : List (Declaration φ) :=
  actions.flatMap fun a => a.declaration?.toList

/-- A run whose attempts all fail leaves the builder that its declarations make, but for the memo of
the variants. -/
theorem builder_run_of_allFail (hn : w.builder.binaries? = none) (hf : AllFail make w actions) :
    (w.run make actions).builder.binaries? = none ∧ ∃ variants?, (w.run make actions).builder =
      { w.builder.acceptAll (declarations actions) with variants? } := by
  induction actions generalizing w with
  | nil => exact ⟨hn, w.builder.variants?, rfl⟩
  | cons a rest ih =>
    obtain ⟨ha, hrest⟩ := hf
    obtain ⟨hnone, variants?, hrun⟩ := ih (binaries?_step_of_none hn ha) hrest
    obtain ⟨listed?, hstep⟩ := builder_step_of_none hn ha
    refine ⟨hnone, variants?, ?_⟩
    -- what the first action has listed is overwritten by what the rest of the run lists
    have hall : w.builder.acceptAll (declarations (a :: rest)) =
        (w.builder.acceptAll a.declaration?.toList).acceptAll (declarations rest) := by
      rw [declarations, List.flatMap_cons]
      exact List.foldl_append
    rw [run_cons, hrun, hstep, Builder.acceptAll_variants?, hall]

/-! ### New binaries -/

theorem state_attempt (make : Make φ σ β) (w : Workbench φ σ β) :
    (w.attempt make).state = stateAfter make w.state (w.attempt make).calls := by
  cases hb : w.builder.binaries? with
  | some binaries => rw [attempt_of_some hb]; rfl
  | none =>
    rw [attempt_of_none hb]
    by_cases hv : w.configuration.Valid
    · exact (hv.build_follows make w.state).state_eq
    · obtain ⟨fault, journal, hrun⟩ := Configuration.build_of_not_valid hv make w.state
      have hbuild : w.build make = ⟨.error (.configuration fault), [], journal, w.state⟩ := hrun
      rw [hbuild]
      rfl

theorem madeBy_attempt (hn : w.builder.binaries? = none)
    (hr : (w.attempt make).result = .ok binaries) :
    madeBy make w.state (w.attempt make).calls = binaries := by
  rw [attempt_of_none hn] at hr ⊢
  have hv : w.configuration.Valid := Configuration.valid_of_result_build hr
  exact (hv.build_follows make w.state).madeBy_eq hr

section Clock

variable {clock : σ → Nat} {born : β → Nat}

theorem NeverBack.onward (h : NeverBack make clock w actions) :
    clock w.state ≤ clock (w.run make actions).state := by
  induction actions generalizing w with
  | nil => exact Nat.le_refl _
  | cons a rest ih => exact Nat.le_trans h.1 (ih h.2)

theorem born_lt_of_mem_madeIn (hm : MakesNew make clock born) (h : NeverBack make clock w actions)
    {binary : β} (hb : binary ∈ madeIn make w actions) :
    born binary < clock (w.run make actions).state := by
  induction actions generalizing w with
  | nil => cases hb
  | cons a rest ih =>
    rcases List.mem_append.1 hb with hb | hb
    · cases a with
      | readBinaries =>
        -- made before the attempt ends, and the clock only goes on from there
        have hborn := (hm.born_calls hb).2
        have hrest := NeverBack.onward h.2
        rw [state_step_readBinaries, state_attempt] at hrest
        exact Nat.lt_of_lt_of_le hborn hrest
      | _ => cases hb
    · exact ih h.2 hb

theorem disjoint_madeIn_attempt (hm : MakesNew make clock born)
    (h : NeverBack make clock w actions) (hn : (w.run make actions).builder.binaries? = none)
    (hr : ((w.run make actions).attempt make).result = .ok binaries) :
    (madeIn make w actions).Disjoint binaries := by
  intro binary hold hnew
  rw [← madeBy_attempt hn hr] at hnew
  have hlt := born_lt_of_mem_madeIn hm h hold
  have hle := (hm.born_calls hnew).1
  omega

end Clock

/-- How a builder of a run from `w` stands `now`, when its attempts so far have left no trace. -/
structure NoTrace (make : Make φ σ β) (w : Workbench φ σ β) (actions : List (Action φ σ))
    (now : Workbench φ σ β) : Prop where
  state : now.builder.stateName = "configuring"
  /-- It is what the declarations alone have made of it. -/
  declared : ∃ variants?, now.builder =
    { w.builder.acceptAll (declarations actions) with variants? }
  /-- Declarations still count. -/
  accepts : ∀ d, now.builder.declare d =
    (Logged.lift (now.builder.accept d).1, (now.builder.accept d).2)
  /-- Another attempt is the build of what is declared now. -/
  attempt : now.attempt make =
    { now.build make with
      journal := Builder.announcement now.configuration :: (now.build make).journal }
  /-- If it fails, the builder and its configuration stay as they are. -/
  failing : ∀ failure, (now.attempt make).result = .error failure →
    (now.step make .readBinaries).builder = now.builder ∧
      (now.step make .readBinaries).configuration = now.configuration
  /-- If it succeeds, what it keeps are the binaries that its own calls have made, and none made by
  an earlier attempt where factories make new ones. -/
  succeeding : ∀ binaries, (now.attempt make).result = .ok binaries →
    (now.step make .readBinaries).builder.binaries? = some binaries ∧
      madeBy make now.state (now.attempt make).calls = binaries ∧
      ∀ clock born, MakesNew make clock born → NeverBack make clock w actions →
        (madeIn make w actions).Disjoint binaries

/-- Attempts that fail leave no trace, however many there are and whatever is declared between
them. -/
theorem noTrace_of_allFail (hn : w.builder.binaries? = none) (hf : AllFail make w actions) :
    NoTrace make w actions (w.run make actions) := by
  obtain ⟨hnone, hdeclared⟩ := builder_run_of_allFail hn hf
  refine
    { state := Builder.stateName_of_none hnone
      declared := hdeclared
      accepts := Builder.declare_of_none hnone
      attempt := attempt_of_none hnone
      failing := fun failure hr => ?_
      succeeding := fun binaries hr => ⟨?_, madeBy_attempt hnone hr, ?_⟩ }
  · have hbuilder := builder_step_of_error hr
    refine ⟨hbuilder, ?_⟩
    simp only [configuration, hbuilder]
    rfl
  · rw [binaries?_step_readBinaries, hr]
    rfl
  · intro clock born hm hk
    exact disjoint_madeIn_attempt hm hk hnone hr

/-- Factories that number their binaries, the second of which cannot be made. -/
def numbering : Make String Nat (Nat × String) := fun factory v n =>
  if n = 1 then (.error (.raised (.other "RuntimeError") "toolchain missing"), n + 1)
  else (.ok (n, factory ++ " " ++ v.name), n + 1)

theorem makesNew_numbering : MakesNew numbering id Prod.fst where
  onward factory v n := by
    unfold numbering
    split <;> exact Nat.le_succ n
  born factory v n binary h := by
    unfold numbering at h ⊢
    split at h
    · cases h
    · rename_i hn
      cases h
      rw [if_neg hn]
      exact ⟨Nat.le_refl n, Nat.lt_succ_self n⟩

def application : Workbench String Nat (Nat × String) :=
  new "application" ⟨.string "app", .string "", .string "1.0"⟩ {} 0

/-- An attempt without machines, one that fails after its first binary, and what is declared after
them. -/
def failures : List (Action String Nat) :=
  [.declare (.factory (.string "executable") "exe" genericPriority), .readBinaries,
    .declare (.machines [⟨"linux", "x86-64"⟩]), .readBinaries,
    .declare (.buildTypes [BuildType.release])]

theorem neverBack_failures : NeverBack numbering id application failures :=
  ⟨by decide +kernel, by decide +kernel, by decide +kernel, by decide +kernel, by decide +kernel,
    trivial⟩

theorem noTrace_of_allFail_failures :
    application.builder.binaries? = none ∧ AllFail numbering application failures ∧
      MakesNew numbering id Prod.fst ∧ NeverBack numbering id application failures ∧
      NoTrace numbering application failures (application.run numbering failures) :=
  have hf : AllFail numbering application failures :=
    ⟨nofun, fun _ => ⟨_, rfl⟩, nofun, fun _ => ⟨_, rfl⟩, nofun, trivial⟩
  ⟨rfl, hf, makesNew_numbering, neverBack_failures, noTrace_of_allFail rfl hf⟩

example : madeIn numbering application failures = [(0, "exe debug")] ∧
    ((application.run numbering failures).attempt numbering).result = .ok [(2, "exe release")] :=
  ⟨by decide +kernel, by rfl⟩

end Workbench

end NativeVariants
