import NativeVariants.Component
import NativeVariants.Proofs.Builder

/-!
# Configuring a component

A component that can be configured gets the builder `prepared` for it: its own dimensions, and the
factories of its language in front of the general ones. The factories of languages never fail, so
configuring builds one binary for each call of the builder's configuration, and fails only where
this configuration is not valid.
-/

namespace NativeVariants

@[simp] theorem Linkage.ofValue_name (l : Linkage) : Linkage.ofValue (.string l.name) = .ok l := by
  cases l <;> rfl

theorem Linkage.mapM_ofValue_names (linkages : List Linkage) :
    (linkages.map fun l => Value.string l.name).mapM Linkage.ofValue = .ok linkages := by
  induction linkages with
  | nil => rfl
  | cons l linkages ih => simp [List.mapM_cons, ih]; rfl

/-- Only the name of a member is read as one. -/
theorem exists_of_memberOf {α : Type} {enumeration : String} {ofName? : String → Option α} {v : Value}
    {member : α} (h : memberOf enumeration ofName? v = .ok member) :
    ∃ s, v = .string s ∧ ofName? s = some member := by
  unfold memberOf at h
  split at h
  · rename_i hfound
    obtain ⟨s, hs, hname⟩ := Option.bind_eq_some_iff.1 hfound
    rw [Except.ok.inj h] at hname
    cases v with
    | string _ => exact ⟨s, congrArg Value.string (Option.some.inj hs), hname⟩
    | _ => cases hs
  · obtain ⟨_, -, h⟩ := Logged.bind_eq_ok_iff.1 h
    cases h

theorem Linkage.eq_of_ofValue {v : Value} {l : Linkage} (h : Linkage.ofValue v = .ok l) :
    v = .string l.name := by
  obtain ⟨s, rfl, hs⟩ := exists_of_memberOf h
  unfold ofName? at hs
  split_ifs at hs with hshared hstatic <;> cases hs
  · rw [hshared, name]
  · rw [hstatic, name]

/-- Only the names of linkages can be read as linkages. -/
theorem Linkage.mapM_ofValue_eq_ok_iff {names : List Value} {linkages : List Linkage} :
    names.mapM Linkage.ofValue = .ok linkages ↔ names = linkages.map fun l => .string l.name := by
  constructor
  · intro h
    induction names generalizing linkages with
    | nil =>
      cases h
      rfl
    | cons v names ih =>
      rw [List.mapM_cons] at h
      cases hl : Linkage.ofValue v with
      | error failure =>
        rw [hl] at h
        cases h
      | ok l =>
        cases hr : names.mapM Linkage.ofValue with
        | error failure =>
          rw [hl, hr] at h
          cases h
        | ok rest =>
          rw [hl, hr] at h
          cases h
          rw [List.map_cons, ← ih hr, ← eq_of_ofValue hl]
  · rintro rfl
    exact mapM_ofValue_names linkages

theorem Linkage.ne_nil_of_mapM_ofValue {names : List Value} {linkages : List Linkage}
    (h : names.mapM Linkage.ofValue = .ok linkages) (hn : names ≠ []) : linkages ≠ [] := by
  rintro rfl
  exact hn (mapM_ofValue_eq_ok_iff.1 h)

/-- What a factory makes of a variant. -/
def LanguageFactory.binary (factory : LanguageFactory) (v : Variant) : Binary :=
  ⟨factory.kind, v, factory.language, factory.module⟩

/-- The binaries that the factories of languages make for a configuration. -/
def languageBinaries (c : Configuration LanguageFactory) : List Binary :=
  (c.registry.callSequence c.hostFamily c.variants).map fun call => call.1.binary call.2

theorem Answers.binaries_eq {calls : List (LanguageFactory × Variant)} {binaries : List Binary}
    {state after : Unit} (h : Answers LanguageFactory.make state calls binaries after) :
    binaries = calls.map fun call => call.1.binary call.2 := by
  induction h with
  | nil => rfl
  | cons head _ ih =>
    cases head
    rw [ih, List.map_cons]; rfl

theorem result_build_languageFactory {c : Configuration LanguageFactory} (h : c.Valid) :
    (c.build LanguageFactory.make ()).result = .ok (languageBinaries c) := by
  have hf := h.build_follows LanguageFactory.make ()
  cases hr : (c.build LanguageFactory.make ()).result with
  | ok binaries => rw [(hf.of_ok hr).2.binaries_eq, languageBinaries]
  | error failure =>
    obtain ⟨_, _, _, _, _, -, -, -, hfail⟩ := hf.of_error hr
    cases hfail

namespace Component

variable {c : Component} {request : ConfigureRequest} {l : Language}

/-- The factories for a language, the language's own first. -/
def registry (c : Component) (l : Language) : Registry LanguageFactory :=
  let entries (kind : BinaryKind) : List (Registration LanguageFactory) :=
    ⟨languagePriority, kind, l, c.module⟩ ::
      if l = .cpp then [] else [⟨genericPriority, kind, .cpp, c.module⟩]
  match c.type with
  | .library => { sharedLibrary := entries .sharedLibrary, staticLibrary := entries .staticLibrary }
  | _ => { executable := [⟨languagePriority, .executable, l, c.module⟩] }

/-- The builder of a component with the given linkages, before anything is built. -/
def prepared (c : Component) (request : ConfigureRequest) (l : Language)
    (linkages : List Linkage) : ComponentBuilder where
  component := c.type.name
  buildTypes := if request.buildTypes.isEmpty then BuildType.defaults else request.buildTypes
  machines := c.machines
  linkages := if c.type = .library then linkages else []
  baseName := Deferred.of c.baseName
  hostFamily := request.hostFamily
  registry := c.registry l
  requireLinkage := c.type = .library
  requireFactory := c.type ≠ .library

theorem result_declareAll_cons {b b' : ComponentBuilder} (h : b.isBuilt = false)
    {d : Declaration LanguageFactory} {rest : List (Declaration LanguageFactory)}
    (hd : b.accept d = (.ok (), b')) :
    (declareAll b (d :: rest)).result = (declareAll b' rest).result := by
  simp [declareAll, Builder.declare, h, hd, Except.bind]

theorem result_declareAll_library (hc : c.type = .library) {linkages : List Linkage}
    (hl : (c.linkages.getD []).mapM Linkage.ofValue = .ok linkages) :
    (declareAll (Builder.ofComponent c.type.name) (c.declarations l request)).result =
      .ok (c.prepared request l linkages) := by
  obtain ⟨type, name, module, baseName, machines, names, binaries, development, publications⟩ := c
  subst hc
  have hlinks (b : ComponentBuilder) : b.accept (.linkages (names.getD []) true) =
      (.ok (), { b with linkages, requireLinkage := true }) := by
    simp only [Builder.accept, hl]
  -- the dimensions first, which do not depend on the language
  show (declareAll _ (_ :: _ :: _ :: _ :: _ :: _)).result = _
  rw [result_declareAll_cons rfl rfl, result_declareAll_cons rfl rfl, result_declareAll_cons rfl rfl,
    result_declareAll_cons rfl rfl, result_declareAll_cons rfl (hlinks _)]
  cases l <;> rfl

theorem result_declareAll_application (hc : c.type = .application) :
    (declareAll (Builder.ofComponent c.type.name) (c.declarations l request)).result =
      .ok (c.prepared request l []) := by
  obtain ⟨type, name, module, baseName, machines, names, binaries, development, publications⟩ := c
  subst hc
  rfl

theorem builder_library (hc : c.type = .library) (hl : Language.ofText request.language = .ok l)
    (hm : c.machines ≠ []) {linkages : List Linkage} (hn : linkages ≠ [])
    (hr : (c.linkages.getD []).mapM Linkage.ofValue = .ok linkages) :
    (c.builder request).result = .ok (c.prepared request l linkages) := by
  have hne : c.linkages.getD [] ≠ [] := by
    intro h
    rw [h] at hr
    cases hr
    exact hn rfl
  rw [← result_declareAll_library hc hr]
  simp [builder, hc, hl, hm, hne, Except.bind]

theorem builder_application (hc : c.type = .application)
    (hl : Language.ofText request.language = .ok l) (hm : c.machines ≠ []) :
    (c.builder request).result = .ok (c.prepared request l []) := by
  rw [← result_declareAll_application hc]
  simp [builder, hc, hl, hm, Except.bind]

theorem builder_of_general (hc : c.type = .general) :
    (c.builder request).result = .error .wrongType := by
  simp [builder, hc, Except.bind]

/-- A component in a language that is not supported is not configured. -/
theorem builder_of_language_fault {failure : Failure} (hc : c.type ≠ .general)
    (hl : Language.ofText request.language = .error failure) :
    (c.builder request).result = .error failure := by
  simp [builder, hc, hl, Except.bind]

theorem builder_without_machine (hc : c.type ≠ .general)
    (hl : Language.ofText request.language = .ok l) (hm : c.machines = []) :
    (c.builder request).result = .error (.configuration (.noTargetMachine c.type.name)) := by
  simp [builder, hc, hl, hm, Except.bind]

theorem builder_without_linkage (hc : c.type = .library)
    (hl : Language.ofText request.language = .ok l) (hm : c.machines ≠ [])
    (hn : c.linkages.getD [] = []) :
    (c.builder request).result = .error (.configuration (.noLinkage "library")) := by
  simp [builder, hc, hl, hm, hn, Except.bind]

theorem result_declareAll_of_error {b : ComponentBuilder} (h : b.isBuilt = false)
    {d : Declaration LanguageFactory} {rest : List (Declaration LanguageFactory)}
    {failure : Failure} (hd : (b.accept d).1 = .error failure) :
    (declareAll b (d :: rest)).result = .error failure := by
  simp [declareAll, Builder.declare, h, hd, Except.bind]

/-- A library with a linkage that is none is refused when its linkages are declared. -/
theorem builder_of_linkage_fault {failure : Failure} (hc : c.type = .library)
    (hl : Language.ofText request.language = .ok l) (hm : c.machines ≠ [])
    (hr : (c.linkages.getD []).mapM Linkage.ofValue = .error failure) :
    (c.builder request).result = .error failure := by
  have hne : c.linkages.getD [] ≠ [] := by
    intro h
    rw [h] at hr
    cases hr
  have hlinks (b : ComponentBuilder) :
      (b.accept (.linkages (c.linkages.getD []) true)).1 = .error failure := by
    simp only [Builder.accept, hr]
  have hall : (declareAll (Builder.ofComponent c.type.name) (c.declarations l request)).result =
      .error failure := by
    rw [declarations, hc]
    show (declareAll _ (_ :: _ :: _ :: _ :: _ :: _)).result = _
    rw [result_declareAll_cons rfl rfl, result_declareAll_cons rfl rfl,
      result_declareAll_cons rfl rfl, result_declareAll_cons rfl rfl,
      result_declareAll_of_error rfl (hlinks _)]
  rw [← hall]
  simp [builder, hc, hl, hm, hne, Except.bind]

/-- A component whose builder cannot be prepared stays as it is. -/
theorem configure_of_error {failure : Failure} (hb : (c.builder request).result = .error failure)
    (project : Project) (host : Host) :
    (c.configure project host request).1.result = .error failure ∧
      (c.configure project host request).2 = c := by
  constructor <;> simp only [configure, hb]

section
variable {b : ComponentBuilder} {project : Project} {host : Host}
  (hb : (c.builder request).result = .ok b) (hn : b.binaries? = none)
include hb hn

/-- Configuring adds a binary for each call, if the configuration is valid. -/
theorem configure_of_valid (hv : (b.configuration project host).Valid) :
    ∃ b', (c.configure project host request).1.result = .ok b' ∧
      (c.configure project host request).2 =
        c.withBinaries (languageBinaries (b.configuration project host)) := by
  have hr := result_build_languageFactory hv
  refine ⟨{ b with binaries? := some (languageBinaries (b.configuration project host)) }, ?_, ?_⟩ <;>
    simp only [configure, hb, Builder.binaries, hn, hr]

/-- A component whose configuration is not valid stays as it is. -/
theorem configure_of_not_valid (hv : ¬ (b.configuration project host).Valid) :
    ∃ fault, (c.configure project host request).1.result = .error (.configuration fault) ∧
      (c.configure project host request).2 = c := by
  obtain ⟨fault, journal, hr⟩ := Configuration.build_of_not_valid hv LanguageFactory.make ()
  refine ⟨fault, ?_, ?_⟩ <;> simp only [configure, hb, Builder.binaries, hn, hr]

end

end Component

end NativeVariants
