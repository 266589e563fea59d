import NativeVariants.Proofs.Agreement
import NativeVariants.Proofs.Frozen

/-!
# What configuring comes to

A component is refused for one of the causes in `Refusal`, and then stays as it is, or it is
`Accepted` for a language and linkages. Then its `configuration` is valid, and exactly the binaries
that are `made` of its variants for the host are added. `outcome_configure` says so of all
components and requests.
-/

namespace NativeVariants

namespace ConfigureRequest

/-- The build types that are asked for, each once. -/
def distinctBuildTypes (request : ConfigureRequest) : List BuildType :=
  (if request.buildTypes.isEmpty then BuildType.defaults else request.buildTypes).eraseDups

/-- The family of hosts to build on: the one that is asked for, if it has a name, or the host's. -/
def family (request : ConfigureRequest) (host : Host) : String :=
  (request.hostFamily.filter (· ≠ "")).getD host.family

theorem distinctBuildTypes_ne_nil (request : ConfigureRequest) :
    request.distinctBuildTypes ≠ [] := by
  rw [distinctBuildTypes, ne_eq, eraseDups_eq_nil_iff]
  split_ifs with h
  · simp [BuildType.defaults]
  · simpa using h

end ConfigureRequest

namespace Component

variable {c : Component} {request : ConfigureRequest} {l : Language} {linkages : List Linkage}

/-- Why a component cannot be configured, and the failure that says so. -/
inductive Refusal (c : Component) (request : ConfigureRequest) : Failure → Prop
  | general (h : c.type = .general) : Refusal c request .wrongType
  | language {failure : Failure} (h : Language.ofText request.language = .error failure) :
    Refusal c request failure
  | machines (h : c.machines = []) :
    Refusal c request (.configuration (.noTargetMachine c.type.name))
  | unlinked (hc : c.type = .library) (h : c.linkages.getD [] = []) :
    Refusal c request (.configuration (.noLinkage "library"))
  | linkages (hc : c.type = .library) {failure : Failure}
    (h : (c.linkages.getD []).mapM Linkage.ofValue = .error failure) : Refusal c request failure
  | buildTypes {name : String}
    (h : Configuration.repeatedName? request.distinctBuildTypes = some name) :
    Refusal c request (.configuration (.repeatedBuildType name c.type.name))

/-- What a component needs to be configured in a language and with linkages. -/
structure Accepted (c : Component) (request : ConfigureRequest) (l : Language)
    (linkages : List Linkage) : Prop where
  type : c.type = .library ∨ c.type = .application
  language : Language.ofText request.language = .ok l
  machines : c.machines ≠ []
  library : c.type = .library →
    (c.linkages.getD []).mapM Linkage.ofValue = .ok linkages ∧ linkages ≠ []
  application : c.type = .application → linkages = []
  buildTypes : (request.distinctBuildTypes.map (·.name)).Nodup

theorem Accepted.not_refusal (h : c.Accepted request l linkages) (failure : Failure) :
    ¬ c.Refusal request failure := by
  rintro (hc | hl | hm | ⟨hc, hn⟩ | ⟨hc, hn⟩ | hb)
  · rcases h.type with ht | ht <;> cases ht.symm.trans hc
  · cases h.language.symm.trans hl
  · exact h.machines hm
  · obtain ⟨hr, hne⟩ := h.library hc
    rw [hn] at hr
    cases hr
    exact hne rfl
  · cases (h.library hc).1.symm.trans hn
  · rw [Configuration.repeatedName?_eq_none_iff.2 h.buildTypes] at hb
    cases hb

/-- The configuration that a component is built in. -/
def configuration (c : Component) (request : ConfigureRequest) (l : Language)
    (linkages : List Linkage) (project : Project) (host : Host) : Configuration LanguageFactory :=
  (c.prepared request l linkages).configuration project host

/-- The binary of a variant in a language. -/
def binaryOf (c : Component) (l : Language) (v : Variant) : Binary :=
  ⟨v.kind, v, l, c.module⟩

/-- The binaries of the variants for the host, in the order of the variants. -/
def made (c : Component) (request : ConfigureRequest) (l : Language) (linkages : List Linkage)
    (project : Project) (host : Host) : List Binary :=
  ((c.configuration request l linkages project host).variants.filter fun v =>
    v.combination.machine.family = request.family host).map (c.binaryOf l)

variable {project : Project} {host : Host}

theorem hostFamily_configuration :
    (c.configuration request l linkages project host).hostFamily = request.family host :=
  Builder.hostFamily_configuration_eq _ project host

/-- Of what a configuration may lack, only build types of different names are still in question. -/
theorem fault?_configuration (hm : c.machines ≠ []) (hl : c.type = .library → linkages ≠ []) :
    (c.configuration request l linkages project host).fault? =
      (Configuration.repeatedName? request.distinctBuildTypes).map
        (.repeatedBuildType · c.type.name) := by
  have hb : (c.configuration request l linkages project host).buildTypes =
    request.distinctBuildTypes := rfl
  have hlinked : ¬ ((c.configuration request l linkages project host).requireLinkage &&
      (c.configuration request l linkages project host).linkages.isEmpty) := by
    by_cases hc : c.type = .library
    · have hne := hl hc
      simp [configuration, prepared, Builder.configuration, hc, hne]
    · simp [configuration, prepared, Builder.configuration, hc]
  have hmade : ¬ ((c.configuration request l linkages project host).requireFactory &&
      (c.configuration request l linkages project host).registry.isEmpty) := by
    by_cases hc : c.type = .library
    · simp [configuration, prepared, Builder.configuration, hc]
    · simp [configuration, prepared, Builder.configuration, registry, hc, Registry.isEmpty,
        Registry.kinds, BinaryKind.all, Registry.registrations]
  unfold Configuration.fault?
  rw [if_neg (by simpa [hb] using request.distinctBuildTypes_ne_nil), hb]
  cases Configuration.repeatedName? request.distinctBuildTypes with
  | some name => rfl
  | none =>
    dsimp only
    rw [if_neg (by simpa [configuration, prepared, Builder.configuration] using hm),
      if_neg hlinked, if_neg hmade]
    rfl

theorem Accepted.linkages_configuration (h : c.Accepted request l linkages) :
    (c.configuration request l linkages project host).linkages = linkages.eraseDups := by
  rcases h.type with hc | hc
  · simp [configuration, prepared, Builder.configuration, hc]
  · simp [configuration, prepared, Builder.configuration, hc, h.application hc]

/-- The variants of a library have its linkages, those of an application have none. -/
theorem Accepted.linkage_eq (h : c.Accepted request l linkages) {v : Variant}
    (hv : v ∈ (c.configuration request l linkages project host).variants) :
    c.type = .library ∧ (∃ x ∈ linkages, v.combination.linkage = some x) ∨
      c.type = .application ∧ v.combination.linkage = none := by
  have hlinks : (c.configuration request l linkages project host).linkages = linkages.eraseDups :=
    h.linkages_configuration
  rcases h.type with hc | hc
  · have hne := mt eraseDups_eq_nil_iff.1 (h.library hc).2
    obtain ⟨x, hx, hlinkage⟩ := Configuration.exists_linkage hv (by rwa [hlinks])
    rw [hlinks, List.mem_eraseDups] at hx
    exact .inl ⟨hc, x, hx, hlinkage⟩
  · refine .inr ⟨hc, Configuration.linkage_eq_none hv ?_⟩
    rw [hlinks, h.application hc, List.eraseDups_nil]

theorem Accepted.languageBinaries_eq (h : c.Accepted request l linkages) :
    languageBinaries (c.configuration request l linkages project host) =
      c.made request l linkages project host := by
  rw [made, ← hostFamily_configuration]
  refine NativeVariants.languageBinaries_eq fun v hv => factoriesFor_registry ?_
  rcases h.linkage_eq hv with ⟨hc, x, -, hx⟩ | ⟨hc, hx⟩
  · exact .inl ⟨hc, by simp [hx]⟩
  · exact .inr ⟨hc, hx⟩

/-- A component whose configuration has a fault is refused for it. -/
theorem configure_of_fault {b : ComponentBuilder} {fault : ConfigurationFault}
    (hb : (c.builder request).result = .ok b) (hn : b.binaries? = none)
    (hf : (b.configuration project host).fault? = some fault) :
    (c.configure project host request).1.result = .error (.configuration fault) ∧
      (c.configure project host request).2 = c := by
  have hidentify : (b.configuration project host).identifyVariants.result =
      .error (.configuration fault) := by
    rw [Configuration.result_identifyVariants, Configuration.validate, hf]
    rfl
  constructor <;>
    simp only [configure, hb, Builder.binaries, hn, Configuration.build, hidentify]

/-- One of the two outcomes of configuring. -/
inductive Outcome (c : Component) (project : Project) (host : Host) (request : ConfigureRequest) :
    Except Failure ComponentBuilder → Component → Prop
  | refused {failure : Failure} (refusal : c.Refusal request failure) :
    Outcome c project host request (.error failure) c
  | configured {l : Language} {linkages : List Linkage} {b : ComponentBuilder}
    (accepted : c.Accepted request l linkages) :
    Outcome c project host request (.ok b)
      (c.withBinaries (c.made request l linkages project host))

/-- A builder that is prepared is built from, unless build types have one name. -/
theorem outcome_of_prepared (hc : c.type = .library ∨ c.type = .application)
    (hl : Language.ofText request.language = .ok l) (hm : c.machines ≠ [])
    (hlibrary : c.type = .library →
      (c.linkages.getD []).mapM Linkage.ofValue = .ok linkages ∧ linkages ≠ [])
    (happlication : c.type = .application → linkages = [])
    (hb : (c.builder request).result = .ok (c.prepared request l linkages)) :
    c.Outcome project host request (c.configure project host request).1.result
      (c.configure project host request).2 := by
  have hfault : (c.configuration request l linkages project host).fault? = _ :=
    fault?_configuration hm fun ht => (hlibrary ht).2
  cases hn : Configuration.repeatedName? request.distinctBuildTypes with
  | some name =>
    rw [hn] at hfault
    obtain ⟨hr, hsame⟩ := configure_of_fault hb rfl hfault
    rw [hr, hsame]
    exact .refused (.buildTypes hn)
  | none =>
    rw [hn] at hfault
    have haccepted : c.Accepted request l linkages :=
      ⟨hc, hl, hm, hlibrary, happlication, Configuration.repeatedName?_eq_none_iff.1 hn⟩
    obtain ⟨b, hr, hadded⟩ := configure_of_valid hb rfl (Configuration.fault?_eq_none_iff.1 hfault)
    have hmade : languageBinaries ((c.prepared request l linkages).configuration project host) =
        c.made request l linkages project host := haccepted.languageBinaries_eq
    rw [hr, hadded, hmade]
    exact .configured haccepted

theorem outcome_of_error {failure : Failure} (hb : (c.builder request).result = .error failure)
    (h : c.Refusal request failure) :
    c.Outcome project host request (c.configure project host request).1.result
      (c.configure project host request).2 := by
  obtain ⟨hr, hsame⟩ := configure_of_error hb project host
  rw [hr, hsame]
  exact .refused h

/-- Every configuring has one of the two outcomes. -/
theorem outcome_configure (c : Component) (project : Project) (host : Host)
    (request : ConfigureRequest) :
    c.Outcome project host request (c.configure project host request).1.result
      (c.configure project host request).2 := by
  by_cases hg : c.type = .general
  · exact outcome_of_error (builder_of_general hg) (.general hg)
  cases hl : Language.ofText request.language with
  | error failure => exact outcome_of_error (builder_of_language_fault hg hl) (.language hl)
  | ok l =>
    by_cases hm : c.machines = []
    · exact outcome_of_error (builder_without_machine hg hl hm) (.machines hm)
    cases hc : c.type with
    | general => exact absurd hc hg
    | application =>
      refine outcome_of_prepared (.inr hc) hl hm (fun h => ?_) (fun _ => rfl)
        (builder_application hc hl hm)
      cases hc.symm.trans h
    | library =>
      by_cases hn : c.linkages.getD [] = []
      · exact outcome_of_error (builder_without_linkage hc hl hm hn) (.unlinked hc hn)
      cases hr : (c.linkages.getD []).mapM Linkage.ofValue with
      | error failure =>
        exact outcome_of_error (builder_of_linkage_fault hc hl hm hr) (.linkages hc hr)
      | ok linkages =>
        have hne : linkages ≠ [] := Linkage.ne_nil_of_mapM_ofValue hr hn
        refine outcome_of_prepared (.inl hc) hl hm (fun _ => ⟨hr, hne⟩) (fun h => ?_)
          (builder_library hc hl hm hne hr)
        cases hc.symm.trans h

theorem refusal_of_error {failure : Failure}
    (h : (c.configure project host request).1.result = .error failure) :
    c.Refusal request failure ∧ (c.configure project host request).2 = c := by
  have houtcome := c.outcome_configure project host request
  rw [h] at houtcome
  generalize (c.configure project host request).2 = after at houtcome ⊢
  cases houtcome with
  | refused refusal => exact ⟨refusal, rfl⟩

theorem exists_accepted_of_isOk (h : (c.configure project host request).1.result.isOk) :
    ∃ l linkages, c.Accepted request l linkages ∧
      (c.configure project host request).2 =
        c.withBinaries (c.made request l linkages project host) := by
  obtain ⟨b, hb⟩ := exists_of_isOk h
  have houtcome := c.outcome_configure project host request
  rw [hb] at houtcome
  generalize (c.configure project host request).2 = after at houtcome ⊢
  cases houtcome with
  | configured accepted => exact ⟨_, _, accepted, rfl⟩

/-- A component is refused exactly if there is a cause for it. -/
theorem refused_iff : (∃ failure, (c.configure project host request).1.result = .error failure) ↔
    ∃ failure, c.Refusal request failure := by
  constructor
  · rintro ⟨failure, h⟩
    exact ⟨failure, (refusal_of_error h).1⟩
  · rintro ⟨failure, h⟩
    cases hr : (c.configure project host request).1.result with
    | error failure => exact ⟨failure, rfl⟩
    | ok b =>
      have hok : (c.configure project host request).1.result.isOk := by rw [hr]; rfl
      obtain ⟨l, linkages, haccepted, -⟩ := exists_accepted_of_isOk hok
      exact absurd h (haccepted.not_refusal failure)

end Component

end NativeVariants
