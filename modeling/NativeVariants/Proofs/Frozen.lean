import NativeVariants.Proofs.Attempts

/-!
# Builders that have built

Once an attempt has succeeded, a builder is `Frozen`: it answers every read of the binaries with the
list that it has kept, without calling a factory, and every declaration with one warning, and it
gives the configuration of that attempt, in which only what follows the project and the host may
change. The invariant that carries this through a run is that the builder changes in nothing but the
memo of its variants (`builder_run_of_built`).
-/

namespace NativeVariants

variable {φ σ β : Type}

/-- The family of hosts that was declared, if it has a name. -/
def Builder.declaredFamily? (b : Builder φ β) : Option String :=
  b.hostFamily.filter (· ≠ "")

theorem Builder.hostFamily_configuration_eq (b : Builder φ β) (project : Project) (host : Host) :
    (b.configuration project host).hostFamily = b.declaredFamily?.getD host.family := by
  cases h : b.hostFamily with
  | none => simp only [configuration, declaredFamily?, h, Option.filter_none, Option.getD_none]
  | some family =>
    by_cases hf : family = ""
    · subst hf
      simp [configuration, declaredFamily?, h, Option.filter_some]
    · rw [b.hostFamily_configuration h hf]
      simp [declaredFamily?, h, hf, Option.filter_some]

/-- The entry that answers a declaration to a builder that has built. -/
def Declaration.tooLate (d : Declaration φ) (component : String) : Entry :=
  ⟨.warning, s!"Ignoring {d.subject} for the {component}: its binaries have already been built.", 0⟩

namespace Workbench

variable {make : Make φ σ β} {w building : Workbench φ σ β} {actions : List (Action φ σ)}
  {binaries : List β}

/-- How a builder that has made `binaries` of the declarations in `building` stands in `w`. -/
structure Frozen (make : Make φ σ β) (building : Workbench φ σ β) (binaries : List β)
    (w : Workbench φ σ β) : Prop where
  state : w.builder.stateName = "built"
  /-- A read gives the list that is kept: no call, no entry, and no change of any kind. -/
  kept : w.builder.binaries make w.project w.host w.state =
    (⟨.ok binaries, [], [], w.state⟩, w.builder)
  /-- A declaration of any kind does not fail, writes one warning and changes nothing. -/
  ignored : ∀ d : Declaration φ, w.builder.declare d =
    (⟨.ok (), [d.tooLate building.builder.component]⟩, w.builder)
  /-- Of the configuration, the group and the version follow the project as it is called now, and
  the family follows the host if none was declared. All else is as it was built. -/
  configuration : w.configuration =
    { building.configuration with
      names :=
        { building.configuration.names with
          group := w.project.groupProvider
          version := w.project.versionProvider }
      hostFamily := building.builder.declaredFamily?.getD w.host.family }

/-- A builder is frozen if it is the one that was built, but for the memo of its variants. -/
theorem frozen_of_builder_eq {variants? : Option (List Variant)}
    (h : w.builder = { building.builder with variants?, binaries? := some binaries }) :
    Frozen make building binaries w := by
  have hbinaries : w.builder.binaries? = some binaries := by rw [h]
  have hbuilt : w.builder.isBuilt := by rw [Builder.isBuilt, hbinaries, Option.isSome_some]
  refine
    { state := Builder.stateName_of_some hbinaries
      kept := by simp only [Builder.binaries, hbinaries]
      ignored := fun d => ?_
      configuration := ?_ }
  · have hcomponent : w.builder.component = building.builder.component := by rw [h]
    simp only [Builder.declare, hbuilt, if_true, hcomponent]
    rfl
  · have hfamily :
        w.configuration.hostFamily = building.builder.declaredFamily?.getD w.host.family := by
      rw [Workbench.configuration, Builder.hostFamily_configuration_eq, h]
      rfl
    rw [← hfamily]
    simp only [Workbench.configuration, Builder.configuration, h]

theorem callsIn_of_some (h : w.builder.binaries? = some binaries) (actions : List (Action φ σ)) :
    callsIn make w actions = [] := by
  induction actions generalizing w with
  | nil => rfl
  | cons a rest ih =>
    have hcalls : w.calls make a = [] := by
      cases a with
      | readBinaries => rw [calls, attempt_of_some h]
      | _ => rfl
    rw [callsIn, hcalls, List.nil_append]
    exact ih (binaries?_step_of_some w a binaries h)

/-- Once a read of the binaries has succeeded, the builder is frozen through all that follows, and
no factory is called. -/
theorem frozen_of_built (h : (w.attempt make).result = .ok binaries) (actions : List (Action φ σ)) :
    Frozen make w binaries ((w.step make .readBinaries).run make actions) ∧
      callsIn make (w.step make .readBinaries) actions = [] := by
  have hbinaries : (w.step make .readBinaries).builder.binaries? = some binaries := by
    rw [binaries?_step_readBinaries, h]
    rfl
  refine ⟨?_, callsIn_of_some hbinaries actions⟩
  obtain ⟨variants?, hrun⟩ : ∃ variants?, ((w.step make .readBinaries).run make actions).builder =
      { (w.step make .readBinaries).builder with variants? } :=
    builder_run_of_built hbinaries actions
  rw [builder_step_readBinaries, hbinaries] at hrun
  exact frozen_of_builder_eq hrun

/-- Declarations that come too late, also such as could not be taken into account, another project
and another host. -/
def latecomers : List (Action String Nat) :=
  [.declare (.linkages [.string "dynamic"] true),
    .change ⟨.string "lib", .null, .int 2⟩ { system := "Darwin", machine := "arm64" } 1, .readVariants,
    .declare (.factory (.string "plugin") "late" .null), .declare (.buildTypes []), .readBinaries]

/-- A builder that is about to build, after attempts that have failed. -/
def prepared : Workbench String Nat (Nat × String) :=
  application.run numbering failures

theorem frozen_of_built_latecomers :
    ∃ binaries, (prepared.attempt numbering).result = .ok binaries ∧
      Frozen numbering prepared binaries
        ((prepared.step numbering .readBinaries).run numbering latecomers) ∧
      callsIn numbering (prepared.step numbering .readBinaries) latecomers = [] :=
  have h : (prepared.attempt numbering).result = .ok [(2, "exe release")] := by rfl
  ⟨_, h, frozen_of_built h latecomers⟩

end Workbench

end NativeVariants
