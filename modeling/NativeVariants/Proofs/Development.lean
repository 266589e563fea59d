import NativeVariants.Proofs.Configuring
import NativeVariants.Proofs.Publications

/-!
# Development binaries

The development binary of a component is given by its position, and `Develops` says which binary
stands there. Configuring moves it to the last binary that may be one, and leaves it where it is if
there is none (`Develops.withBinaries`). The binaries of a new component come in the order of its
combinations, so the last of them is told by the build types, the machines and the linkages alone
(`developmentCombination?`). In a run the development binary may be one of an earlier configuring,
but it stays one of the binaries and for debugging (`DevelopsForDebugging.run`).
-/

namespace NativeVariants

section
variable {α β γ : Type}

theorem flatMap_ite_nil (p : α → Bool) (f : α → List β) (l : List α) :
    (l.flatMap fun a => if p a then f a else []) = (l.filter p).flatMap f := by
  induction l with
  | nil => rfl
  | cons a l ih =>
    rw [List.flatMap_cons, List.filter_cons, ih]
    split_ifs <;> rfl

/-- The last item of a product is that of the last items, if both lists have one. -/
theorem getLast?_product (f : α → β → γ) (as : List α) (bs : List β) :
    (as.flatMap fun a => bs.map (f a)).getLast? =
      as.getLast?.bind fun a => bs.getLast?.map (f a) := by
  rcases List.eq_nil_or_concat as with rfl | ⟨init, a, rfl⟩
  · rfl
  · rw [List.concat_eq_append, List.flatMap_append, List.flatMap_singleton, List.getLast?_append,
      List.getLast?_map, List.getLast?_concat, Option.bind_some]
    cases bs with
    | nil => simp
    | cons b bs => simp [List.getLast?_cons]

end

/-- The combinations of some build types, some machines and one linkage. -/
theorem filter_combinations {buildTypes : List BuildType} {machines : List Machine}
    {linkages : List (Option Linkage)} {x : Option Linkage} (hx : x ∈ distinctOr none linkages)
    (p : BuildType → Bool) (q : Machine → Bool) :
    (combinations buildTypes machines linkages).filter
        (fun c => p c.buildType && q c.machine && c.linkage == x) =
      (buildTypes.eraseDups.filter p).flatMap fun b =>
        (machines.eraseDups.filter q).map fun m => ⟨b, m, x⟩ := by
  have hlinkage : (distinctOr none linkages).filter (· == x) = [x] := by
    rw [List.filter_beq, List.count_eq_one_of_mem (nodup_distinctOr none linkages) hx]
    rfl
  have hone (b : BuildType) (m : Machine) :
      ((distinctOr none linkages).map fun l => (⟨b, m, l⟩ : Combination)).filter
          (fun c => p c.buildType && q c.machine && c.linkage == x) =
        if p b then if q m then [⟨b, m, x⟩] else [] else [] := by
    rw [List.filter_map]
    cases hp : p b <;> cases hq : q m <;> simp [Function.comp_def, hp, hq, hlinkage]
  have hmachines (b : BuildType) : (machines.eraseDups.flatMap fun m =>
      if p b then if q m then [(⟨b, m, x⟩ : Combination)] else [] else []) =
        if p b then (machines.eraseDups.filter q).map fun m => ⟨b, m, x⟩ else [] := by
    cases p b
    · simp
    · simp only [if_true, flatMap_ite_nil]
      exact List.flatMap_pure_eq_map ..
  unfold combinations
  simp only [List.filter_flatMap, hone, hmachines, flatMap_ite_nil]

namespace Component

variable {c : Component} {request : ConfigureRequest} {l : Language} {linkages : List Linkage}
  {project : Project} {host : Host}

/-- Which binary the position of the development binary is that of, if any. -/
def Develops (c : Component) : Option Binary → Prop
  | none => c.development = none
  | some b => ∃ i, c.development = some i ∧ c.binaries[i]? = some b

theorem lastDevelopment?_cases (c : Component) (binaries : List Binary) :
    ((binaries.filter c.mayDevelop).getLast? = none ∧ c.lastDevelopment? binaries = none) ∨
      ∃ b i, (binaries.filter c.mayDevelop).getLast? = some b ∧
        c.lastDevelopment? binaries = some i ∧ binaries[i]? = some b := by
  have hposition : c.lastDevelopment? binaries =
      (binaries.zipIdx.filter (c.mayDevelop ∘ Prod.fst)).getLast?.map Prod.snd := rfl
  have hfirst : (binaries.zipIdx.filter (c.mayDevelop ∘ Prod.fst)).getLast?.map Prod.fst =
      (binaries.filter c.mayDevelop).getLast? := by
    rw [← List.getLast?_map, ← List.filter_map, List.zipIdx_map_fst]
  rw [hposition, ← hfirst]
  cases hlast : (binaries.zipIdx.filter (c.mayDevelop ∘ Prod.fst)).getLast? with
  | none => exact .inl ⟨rfl, rfl⟩
  | some found =>
    have hmem := (List.mem_filter.1 (List.mem_of_getLast? hlast)).1
    exact .inr ⟨found.1, found.2, rfl, rfl, List.mem_zipIdx_iff_getElem?.1 hmem⟩

theorem Develops.withBinaries {b? : Option Binary} (h : c.Develops b?) (added : List Binary) :
    (c.withBinaries added).Develops
      (((c.binaries ++ added).filter c.mayDevelop).getLast?.or b?) := by
  have hdevelopment : (c.withBinaries added).development =
      (c.lastDevelopment? (c.binaries ++ added)).or c.development := rfl
  rcases c.lastDevelopment?_cases (c.binaries ++ added) with
    ⟨hnone, hlast⟩ | ⟨b, i, hsome, hlast, hi⟩
  · rw [hnone, Option.none_or]
    rw [hlast, Option.none_or] at hdevelopment
    cases b? with
    | none => exact hdevelopment.trans h
    | some b =>
      obtain ⟨i, hi, hb⟩ := h
      have hlt := (List.getElem?_eq_some_iff.1 hb).1
      refine ⟨i, hdevelopment.trans hi, ?_⟩
      show (c.binaries ++ added)[i]? = some b
      rw [List.getElem?_append_left hlt, hb]
  · rw [hsome, Option.some_or]
    rw [hlast, Option.some_or] at hdevelopment
    exact ⟨i, hdevelopment, hi⟩

/-- The linkage that the development binary has: shared is preferred, and static taken otherwise. -/
def developmentLinkage (c : Component) : Option Linkage :=
  if c.type = .library then
    some (if (c.linkages.getD []).contains (.string Linkage.shared.name) then .shared else .static)
  else none

/-- The machines of a component that a family of hosts builds for. -/
def machinesOn (c : Component) (family : String) : List Machine :=
  c.machines.eraseDups.filter fun m => m.family = family

/-- The combination of the development binary of a new component: the last debuggable build type
for the last machine of the hosts' family. -/
def developmentCombination? (c : Component) (request : ConfigureRequest) (host : Host) :
    Option Combination :=
  (request.distinctBuildTypes.filter (·.debuggable)).getLast?.bind fun buildType =>
    (c.machinesOn (request.family host)).getLast?.map fun machine =>
      ⟨buildType, machine, c.developmentLinkage⟩

theorem developmentCombination?_eq_none_iff :
    c.developmentCombination? request host = none ↔
      (∀ t ∈ request.distinctBuildTypes, t.debuggable = false) ∨
        ∀ m ∈ c.machines, m.family ≠ request.family host := by
  have hbuildTypes : (request.distinctBuildTypes.filter (·.debuggable)).getLast? = none ↔
      ∀ t ∈ request.distinctBuildTypes, t.debuggable = false := by
    simp
  have hmachines : (c.machinesOn (request.family host)).getLast? = none ↔
      ∀ m ∈ c.machines, m.family ≠ request.family host := by
    simp [machinesOn]
  rw [← hbuildTypes, ← hmachines, developmentCombination?]
  cases (request.distinctBuildTypes.filter (·.debuggable)).getLast? <;> simp

theorem Accepted.contains_shared (h : c.Accepted request l linkages) (hc : c.type = .library) :
    (c.linkages.getD []).contains (.string Linkage.shared.name) = decide (.shared ∈ linkages) := by
  have hname (x : Linkage) :
      (Value.string Linkage.shared.name == Value.string x.name) = decide (x = .shared) := by
    cases x <;> decide
  rw [Linkage.mapM_ofValue_eq_ok_iff.1 (h.library hc).1, Bool.eq_iff_iff, List.contains_map]
  simp [hname]

theorem Accepted.developmentLinkage_mem (h : c.Accepted request l linkages)
    (hc : c.type = .library) : ∃ x ∈ linkages, c.developmentLinkage = some x := by
  rw [developmentLinkage, if_pos hc, h.contains_shared hc]
  by_cases hshared : Linkage.shared ∈ linkages
  · exact ⟨.shared, hshared, by simp [hshared]⟩
  · obtain ⟨x, hx⟩ := List.exists_mem_of_ne_nil _ (h.library hc).2
    cases x with
    | shared => exact absurd hx hshared
    | static => exact ⟨.static, hx, by simp [hshared]⟩

/-- Of the binaries of an accepted component, those for debugging may be developed that have its
development linkage. -/
theorem Accepted.mayDevelop_binaryOf (h : c.Accepted request l linkages) {v : Variant}
    (hv : v ∈ (c.configuration request l linkages project host).variants) :
    c.mayDevelop (c.binaryOf l v) =
      (v.identity.debuggable && v.combination.linkage == c.developmentLinkage) := by
  rcases h.linkage_eq hv with ⟨hc, x, hx, hlinkage⟩ | ⟨hc, hlinkage⟩
  · simp only [mayDevelop, developmentLinkage, binaryOf, Binary.isDebuggable, Variant.kind, hc,
      hlinkage, h.contains_shared hc, if_true]
    congr 1
    -- a library without the shared linkage has no shared binaries that could be preferred
    by_cases hshared : Linkage.shared ∈ linkages
    · rw [decide_eq_true hshared]
      cases x <;> rfl
    · rw [decide_eq_false hshared]
      cases x with
      | shared => exact absurd hx hshared
      | static => rfl
  · simp [mayDevelop, developmentLinkage, binaryOf, Binary.isDebuggable, hc, hlinkage]

theorem Accepted.developmentLinkage_mem_dimension (h : c.Accepted request l linkages) :
    c.developmentLinkage ∈
      distinctOr none (c.configuration request l linkages project host).linkageDimension := by
  rw [Configuration.linkageDimension, h.linkages_configuration]
  rcases h.type with hc | hc
  · obtain ⟨x, hx, hlinkage⟩ := h.developmentLinkage_mem hc
    have hmem : some x ∈ linkages.eraseDups.map some := by
      simpa using hx
    rw [distinctOr_of_ne_nil _ (List.ne_nil_of_mem hmem), List.mem_eraseDups, hlinkage]
    exact hmem
  · simp [h.application hc, developmentLinkage, hc, distinctOr]

/-- The binaries that may be developed come by build types, then by machines. -/
theorem Accepted.filter_made (h : c.Accepted request l linkages) :
    (c.made request l linkages project host).filter c.mayDevelop =
      (request.distinctBuildTypes.filter (·.debuggable)).flatMap fun buildType =>
        (c.machinesOn (request.family host)).map fun machine =>
          c.binaryOf l ((c.configuration request l linkages project host).variantOf
            ⟨buildType, machine, c.developmentLinkage⟩) := by
  -- whether a variant is made and developed depends on its combination alone
  have hpredicate (v : Variant)
      (hv : v ∈ (c.configuration request l linkages project host).variants) :
      ((c.mayDevelop ∘ c.binaryOf l) v &&
          decide (v.combination.machine.family = request.family host)) =
        ((fun x => x.buildType.debuggable && decide (x.machine.family = request.family host) &&
          x.linkage == c.developmentLinkage) ∘ Variant.combination) v := by
    rw [Function.comp_apply, h.mayDevelop_binaryOf hv, (Configuration.mem_variants.1 hv).2]
    exact Bool.and_right_comm ..
  have hbuildTypes : (c.configuration request l linkages project host).buildTypes =
      request.distinctBuildTypes := rfl
  have hmachines : (c.configuration request l linkages project host).machines =
      c.machines.eraseDups := rfl
  rw [made, List.filter_map, List.filter_filter, List.filter_congr hpredicate,
    Configuration.variants_eq_map, List.filter_map, Function.comp_assoc]
  have hcomp : Variant.combination ∘ (c.configuration request l linkages project host).variantOf =
      id := rfl
  rw [hcomp, Function.comp_id, filter_combinations h.developmentLinkage_mem_dimension
    BuildType.debuggable fun m => decide (m.family = request.family host), hbuildTypes, hmachines]
  simp [machinesOn, List.map_flatMap, Function.comp_def, ConfigureRequest.distinctBuildTypes]

theorem Develops.development_eq_none_iff {b? : Option Binary} (h : c.Develops b?) :
    c.development = none ↔ b? = none := by
  cases b? with
  | none => exact iff_of_true h rfl
  | some b =>
    obtain ⟨i, hi, -⟩ := h
    simp [hi]

/-- A new component that is configured develops the binary of the last debuggable build type for the
last machine of the hosts' family: the shared one if it has that linkage, else the static one, and
the executable if it is an application. It develops none exactly if there is no such build type or
no such machine. -/
theorem develops_configure (hbinaries : c.binaries = []) (hdevelopment : c.development = none)
    (h : (c.configure project host request).1.result.isOk) :
    ∃ l linkages, c.Accepted request l linkages ∧
      (c.configure project host request).2.Develops
        ((c.developmentCombination? request host).map fun x =>
          c.binaryOf l ((c.configuration request l linkages project host).variantOf x)) ∧
      ((c.configure project host request).2.development = none ↔
        (∀ t ∈ request.distinctBuildTypes, t.debuggable = false) ∨
          ∀ m ∈ c.machines, m.family ≠ request.family host) := by
  obtain ⟨l, linkages, haccepted, hafter⟩ := exists_accepted_of_isOk h
  have hnone : c.Develops none := hdevelopment
  have hdevelops : (c.configure project host request).2.Develops
      ((c.developmentCombination? request host).map fun x =>
        c.binaryOf l ((c.configuration request l linkages project host).variantOf x)) := by
    have hlast := hnone.withBinaries (c.made request l linkages project host)
    rw [hbinaries, List.nil_append, haccepted.filter_made, getLast?_product,
      Option.or_none] at hlast
    rw [hafter, developmentCombination?, Option.map_bind]
    simpa [Function.comp_def] using hlast
  refine ⟨l, linkages, haccepted, hdevelops, ?_⟩
  rw [hdevelops.development_eq_none_iff, Option.map_eq_none_iff,
    developmentCombination?_eq_none_iff]

/-- A new library for several machines, with a linkage and a machine named twice. -/
def lantern : Component where
  type := .library
  module := .string "Lantern"
  baseName := .string "lantern"
  machines := [⟨"linux", "arm64"⟩, ⟨"linux", "x86-64"⟩, ⟨"windows", "x86-64"⟩, ⟨"linux", "arm64"⟩]
  linkages := some [.string "shared", .string "static", .string "shared"]

/-- A request for more build types than the usual ones, some of them twice. -/
def profiling : ConfigureRequest where
  language := " Swift "
  hostFamily := some "linux"
  buildTypes := [.debug, ⟨"profile", true, true⟩, .release, .debug]

theorem develops_configure_lantern :
    lantern.Accepted profiling .swift [.shared, .static, .shared] ∧
    (lantern.configure ⟨.string "lantern", .null, .null⟩ {} profiling).2.Develops
      (some (lantern.binaryOf .swift ((lantern.configuration profiling .swift
        [.shared, .static, .shared] ⟨.string "lantern", .null, .null⟩ {}).variantOf
          ⟨⟨"profile", true, true⟩, ⟨"linux", "x86-64"⟩, some .shared⟩))) ∧
    (lantern.configure ⟨.string "lantern", .null, .null⟩ {} profiling).2.development ≠ none := by
  have hisOk : (lantern.configure ⟨.string "lantern", .null, .null⟩ {} profiling).1.result.isOk := by
    decide +kernel
  obtain ⟨l, linkages, haccepted, hdevelops, hnone⟩ := develops_configure rfl rfl hisOk
  have hlanguage : Language.ofText profiling.language = .ok .swift := by decide +kernel
  have hlinkages : (lantern.linkages.getD []).mapM Linkage.ofValue =
      .ok [.shared, .static, .shared] := by decide +kernel
  have hcombination : lantern.developmentCombination? profiling {} =
      some ⟨⟨"profile", true, true⟩, ⟨"linux", "x86-64"⟩, some .shared⟩ := by decide +kernel
  obtain rfl : l = .swift := Except.ok.inj (haccepted.language.symm.trans hlanguage)
  obtain rfl := Except.ok.inj ((haccepted.library rfl).1.symm.trans hlinkages)
  rw [hcombination] at hdevelops
  exact ⟨haccepted, hdevelops, mt hnone.1 (by decide +kernel)⟩

/-- The development binary, if there is one, is among the binaries and for debugging. -/
def DevelopsForDebugging (c : Component) : Prop :=
  ∃ b? : Option Binary, c.Develops b? ∧ ∀ b ∈ b?, b.isDebuggable

theorem DevelopsForDebugging.withBinaries (h : c.DevelopsForDebugging) (added : List Binary) :
    (c.withBinaries added).DevelopsForDebugging := by
  obtain ⟨b?, hdevelops, hdebuggable⟩ := h
  refine ⟨_, hdevelops.withBinaries added, fun b hb => ?_⟩
  rcases Option.or_eq_some_iff.1 hb with hb | ⟨-, hb⟩
  · have hmay := (List.mem_filter.1 (List.mem_of_getLast? hb)).2
    exact (Bool.and_eq_true_iff.1 hmay).1
  · exact hdebuggable b hb

theorem DevelopsForDebugging.step (h : c.DevelopsForDebugging) (a : Action) :
    (c.step a).DevelopsForDebugging := by
  cases a with
  | adjust name module baseName machines linkages => exact h
  | configure project host request =>
    show (c.configure project host request).2.DevelopsForDebugging
    rcases c.configure_cases project host request with ⟨failure, -, hsame⟩ | ⟨b, added, -, hadded⟩
    · rwa [hsame]
    · rw [hadded]
      exact h.withBinaries added

theorem DevelopsForDebugging.run (h : c.DevelopsForDebugging) (actions : List Action) :
    (c.run actions).DevelopsForDebugging := by
  induction actions generalizing c with
  | nil => exact h
  | cons a rest ih => exact ih (h.step a)

/-- What comes of a project's component in some run. -/
def Reachable (c : Component) : Prop :=
  ∃ type projectName actions, c = (ofProject type projectName).run actions

/-- However a component has come about, its development binary is one of its binaries and for
debugging. It is refused exactly for the causes in `Refusal`, and then stays as it is. -/
theorem Reachable.unharmed (h : c.Reachable) (project : Project) (host : Host)
    (request : ConfigureRequest) :
    c.DevelopsForDebugging ∧
      ((∃ failure, (c.configure project host request).1.result = .error failure) ↔
        ∃ failure, c.Refusal request failure) ∧
      ∀ failure, (c.configure project host request).1.result = .error failure →
        c.Refusal request failure ∧ (c.configure project host request).2 = c := by
  refine ⟨?_, refused_iff, fun failure => refusal_of_error⟩
  obtain ⟨type, projectName, actions, rfl⟩ := h
  have hnew : (ofProject type projectName).DevelopsForDebugging := ⟨none, rfl, by simp⟩
  exact hnew.run actions

/-- A library that was configured, lost its shared linkage, and was configured again with nothing to
debug. -/
def relinked : Component :=
  (ofProject .library "ring").run
    [.adjust "main" (.string "Ring") (.string "ring") [⟨"linux", "x86-64"⟩]
        (some [.string "shared"]),
      .configure ⟨.string "ring", .null, .null⟩ {} {},
      .adjust "main" (.string "Ring") (.string "ring") [⟨"linux", "x86-64"⟩]
        (some [.string "static"]),
      .configure ⟨.string "ring", .null, .null⟩ {} { buildTypes := [.release] }]

/-- A request in a language that is not supported. -/
def rusty : ConfigureRequest where
  language := "rust"

theorem Reachable.unharmed_relinked : relinked.Reachable ∧ relinked.DevelopsForDebugging ∧
    ((∃ failure, (relinked.configure ⟨.string "ring", .null, .null⟩ {} rusty).1.result =
        .error failure) ↔
      ∃ failure, relinked.Refusal rusty failure) ∧
    ∀ failure, (relinked.configure ⟨.string "ring", .null, .null⟩ {} rusty).1.result =
        .error failure →
      relinked.Refusal rusty failure ∧
        (relinked.configure ⟨.string "ring", .null, .null⟩ {} rusty).2 = relinked :=
  have h : relinked.Reachable := ⟨_, _, _, rfl⟩
  ⟨h, h.unharmed _ _ _⟩

example : relinked.development = some 0 ∧
    relinked.binaries.map (fun b => (b.kind, b.name)) =
      [(.sharedLibrary, "debug"), (.sharedLibrary, "release"), (.staticLibrary, "release")] := by
  decide +kernel

end Component

end NativeVariants
