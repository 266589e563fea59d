import NativeVariants.Listing
import NativeVariants.Proofs.Component
import NativeVariants.Proofs.Specification

/-!
# Listed variants and built binaries

The variants of a specification are listed by a builder without factories; its binaries come from
configuring its component. The two builders are made in different ways, but their configurations
have the same variants and are valid together. So both fail or both succeed, and the binaries are
those of the listed variants that are for the host.
-/

namespace NativeVariants

/-- The kind of the binary that a variant is built as. -/
def Variant.kind (v : Variant) : BinaryKind :=
  match v.combination.linkage with
  | some linkage => linkage.kind
  | none => .executable

/-- A component's own factory of the right kind is called for every variant on the host. -/
theorem Component.factoriesFor_registry {c : Component} {l : Language} {host : String} {v : Variant}
    (hc : c.type = .library ∧ v.combination.linkage ≠ none ∨
      c.type = .application ∧ v.combination.linkage = none) :
    (c.registry l).factoriesFor host v =
      if v.combination.machine.family = host then [⟨v.kind, l, c.module⟩] else [] := by
  rcases hc with ⟨hc, hl⟩ | ⟨hc, hl⟩
  · obtain ⟨linkage, hl⟩ := Option.ne_none_iff_exists'.1 hl
    simp only [Registry.factoriesFor, Variant.kind, hl, ite_not]
    congr 1
    cases linkage <;>
      simp [registry, hc, Registry.select, Registry.candidates, Registry.registrations, Linkage.kind]
  · simp only [Registry.factoriesFor, Variant.kind, hl, ite_not]
    congr 1
    simp [registry, hc, Registry.allFactories, Registry.kinds, BinaryKind.all, Registry.candidates,
      Registry.registrations]

theorem languageBinaries_eq {c : Configuration LanguageFactory} {l : Language} {module : Label}
    (h : ∀ v ∈ c.variants, c.registry.factoriesFor c.hostFamily v =
      if v.combination.machine.family = c.hostFamily then [⟨v.kind, l, module⟩] else []) :
    languageBinaries c =
      (c.variants.filter fun v => v.combination.machine.family = c.hostFamily).map
        fun v => ⟨v.kind, v, l, module⟩ := by
  unfold languageBinaries Registry.callSequence
  generalize c.variants = variants at h ⊢
  induction variants with
  | nil => rfl
  | cons v rest ih =>
    rw [List.flatMap_cons, List.map_append, ih fun w hw => h w (List.mem_cons_of_mem _ hw),
      h v List.mem_cons_self]
    by_cases hv : v.combination.machine.family = c.hostFamily <;>
      simp [hv, LanguageFactory.binary]

namespace Specification

variable {s : Specification} {host : Host} {settings : Value} {l : Language} {family : String}

/-- The configuration behind the listed variants. -/
def listedConfiguration (s : Specification) (host : Host) : Configuration LanguageFactory :=
  (s.builder none : ComponentBuilder).configuration s.project host

/-- The request that configures the component for a family of hosts. -/
def request (s : Specification) (family : String) : ConfigureRequest :=
  ⟨s.language, some family, s.buildTypes⟩

/-- The configuration behind the binaries. -/
def builtConfiguration (s : Specification) (host : Host) (l : Language) (family : String) :
    Configuration LanguageFactory :=
  (s.component.prepared (s.request family) l s.linkages).configuration s.project host

theorem result_variantsOf (s : Specification) (host : Host) :
    (Listing.variantsOf host s).result = (s.listedConfiguration host).identifyVariants.result :=
  Builder.result_variants rfl s.project host

/-- The two configurations differ in their factories and in the host alone. -/
theorem builtConfiguration_eq (hs : s.Complete) (hf : family ≠ "") :
    s.builtConfiguration host l family =
      { s.listedConfiguration host with
        registry := s.component.registry l
        hostFamily := family
        requireFactory := s.type ≠ .library } := by
  have hb : (if s.buildTypes.isEmpty then BuildType.defaults else s.buildTypes) = s.buildTypes :=
    if_neg (by simpa using hs.buildTypes)
  have hl : (if s.component.type = .library then s.linkages else []) = s.linkages := by
    rcases hs.type with ht | ht
    · exact if_pos ht
    · rw [hs.linkages ht, ite_self]
  have hp : s.component.prepared (s.request family) l s.linkages =
      { (s.builder (some family) : ComponentBuilder) with
        registry := s.component.registry l
        requireFactory := s.type ≠ .library } := by
    rw [Component.prepared, request, hb, hl]; rfl
  have hh : (s.builtConfiguration host l family).hostFamily = family :=
    Builder.hostFamily_configuration rfl hf _ host
  rw [builtConfiguration, hp] at hh ⊢
  conv_rhs => rw [← hh]
  rfl

theorem valid_builtConfiguration_iff (hs : s.Complete) (hf : family ≠ "") :
    (s.builtConfiguration host l family).Valid ↔ (s.listedConfiguration host).Valid := by
  rw [builtConfiguration_eq hs hf]
  constructor
  · exact fun h => ⟨h.buildTypes, h.names, h.machines, h.linkages, fun hr => by cases hr⟩
  · refine fun h => ⟨h.buildTypes, h.names, h.machines, h.linkages, fun hr => ?_⟩
    have ht : s.type ≠ .library := by simpa using hr
    have ht : s.component.type = .application := hs.type.resolve_left ht
    simp [Component.registry, ht, Registry.isEmpty, Registry.kinds, BinaryKind.all,
      Registry.registrations]

/-- The binary of a variant of `s` in a language. -/
def binaryOf (s : Specification) (l : Language) (v : Variant) : Binary :=
  ⟨v.kind, v, l, .string (Text.camelCase s.projectName)⟩

/-- The listed variants of a library have a linkage, those of an application have none. -/
theorem linkage_eq_none_iff (hs : s.Complete) (hn : s.type = .library → s.linkages ≠ [])
    {v : Variant} (hv : v ∈ (s.listedConfiguration host).variants) :
    v.combination.linkage = none ↔ s.type = .application := by
  have hl : (s.listedConfiguration host).linkages = s.linkages.eraseDups := rfl
  rcases hs.type with ht | ht
  · obtain ⟨x, -, hx⟩ := Configuration.exists_linkage hv (by simpa [hl] using hn ht)
    simp [ht, hx]
  · simp [ht, Configuration.linkage_eq_none hv, hl, hs.linkages ht]

theorem languageBinaries_builtConfiguration (hs : s.Complete) (hf : family ≠ "")
    (hn : s.type = .library → s.linkages ≠ []) :
    languageBinaries (s.builtConfiguration host l family) =
      ((s.listedConfiguration host).variants.filter
        fun v => v.combination.machine.family = family).map (s.binaryOf l) := by
  rw [builtConfiguration_eq hs hf]
  refine languageBinaries_eq fun v hv => Component.factoriesFor_registry (c := s.component) ?_
  have hv : v ∈ (s.listedConfiguration host).variants := hv
  have hv := linkage_eq_none_iff hs hn hv
  rcases hs.type with ht | ht
  · exact .inl ⟨ht, fun hnone => by simp [hv.1 hnone] at ht⟩
  · exact .inr ⟨ht, hv.2 ht⟩

/-- Unless a library names no linkage, the component can be prepared. -/
theorem result_builder_component (hs : s.Complete) {request : ConfigureRequest}
    (hl : Language.ofText request.language = .ok l) (hn : s.type = .library → s.linkages ≠ []) :
    (s.component.builder request).result = .ok (s.component.prepared request l s.linkages) := by
  have hm : s.component.machines ≠ [] := hs.machines
  rcases hs.type with ht | ht
  · have hc : s.component.type = .library := ht
    have hr : (s.component.linkages.getD []).mapM Linkage.ofValue = .ok s.linkages := by
      simp only [component, if_pos ht, Option.getD_some, Linkage.mapM_ofValue_names]
    exact Component.builder_library hc hl hm (hn ht) hr
  · have hc : s.component.type = .application := ht
    rw [hs.linkages ht]
    exact Component.builder_application hc hl hm

/-- A library that names no linkage cannot. -/
theorem result_builder_of_no_linkage (hs : s.Complete)
    (hl : Language.ofText (s.request family).language = .ok l) (ht : s.type = .library)
    (hn : s.linkages = []) :
    (s.component.builder (s.request family)).result =
      .error (.configuration (.noLinkage "library")) := by
  have hc : s.component.type = .library := ht
  have hm : s.component.machines ≠ [] := hs.machines
  refine Component.builder_without_linkage hc hl hm ?_
  simp only [component, if_pos ht, hn, List.map_nil, Option.getD_some]

theorem not_valid_listedConfiguration (ht : s.type = .library) (hn : s.linkages = []) :
    ¬ (s.listedConfiguration host).Valid := by
  intro hv
  refine hv.linkages ?_ ?_
  · simp [listedConfiguration, Builder.configuration, builder, ht]
  · simp [listedConfiguration, Builder.configuration, builder, hn]

/-- Listing the variants and configuring the component for a family of hosts fail together, for
faults of their configurations. If they succeed, there is one binary for each listed variant of this
family, in the order of the variants. It is made of that variant itself, so all that is read off the
variant agrees, and only an application has executables. -/
theorem listing_agrees_with_configure (hs : (ofSettings host settings).result = .ok s)
    (hl : Language.ofText s.language = .ok l) (hf : family ≠ "") :
    (∃ listing configuring, (Listing.variantsOf host s).result = .error (.configuration listing) ∧
      (s.configure host (some family)).1.result = .error (.configuration configuring)) ∨
    ∃ variants builder, (Listing.variantsOf host s).result = .ok variants ∧
      (s.configure host (some family)).1.result = .ok builder ∧
      (s.configure host (some family)).2.binaries =
        (variants.filter fun v => v.combination.machine.family = family).map (s.binaryOf l) ∧
      ∀ v ∈ variants, v.combination.linkage = none ↔ s.type = .application := by
  have hs := complete_of_ofSettings hs
  have hl : Language.ofText (s.request family).language = .ok l := hl
  have hv : (s.builtConfiguration host l family).Valid ↔ (s.listedConfiguration host).Valid :=
    valid_builtConfiguration_iff hs hf
  rw [result_variantsOf]
  change (∃ _ _, _ ∧ (s.component.configure s.project host (s.request family)).1.result = _) ∨ _
  by_cases hn : s.type = .library ∧ s.linkages = []
  · -- a library without linkage is refused before its builder is prepared
    have hv : ¬ (s.listedConfiguration host).Valid := not_valid_listedConfiguration hn.1 hn.2
    obtain ⟨listing, hi⟩ := Configuration.identifyVariants_of_not_valid hv
    have hb := result_builder_of_no_linkage hs hl hn.1 hn.2
    exact .inl ⟨listing, _, hi, (Component.configure_of_error hb s.project host).1⟩
  · have hn : s.type = .library → s.linkages ≠ [] := fun ht he => hn ⟨ht, he⟩
    have hb : (s.component.builder (s.request family)).result = _ :=
      result_builder_component hs hl hn
    by_cases h : (s.listedConfiguration host).Valid
    · obtain ⟨b, hr, hc⟩ := Component.configure_of_valid hb rfl (hv.2 h)
      refine .inr ⟨_, b, h.identifyVariants, hr, ?_, fun v hv => linkage_eq_none_iff hs hn hv⟩
      rw [← languageBinaries_builtConfiguration hs hf hn]
      change (s.component.configure s.project host (s.request family)).2.binaries = _
      rw [hc]; rfl
    · obtain ⟨listing, hi⟩ := Configuration.identifyVariants_of_not_valid h
      obtain ⟨configuring, hr, -⟩ := Component.configure_of_not_valid hb rfl (mt hv.1 h)
      exact .inl ⟨listing, configuring, hi, hr⟩

/-- Settings of a library for two families. -/
def ringSettings : Value :=
  .table [("project", .table [("name", .string "ring buffer")]),
    ("component", .table [("language", .string "Swift"),
      ("target_machines", .list [.string "windows:x86", .string "linux:x86"])])]

/-- What `ringSettings` say. -/
def ring : Specification where
  projectName := "ring buffer"
  group := ""
  version := "unspecified"
  type := .library
  baseName := "ring buffer"
  language := "swift"
  buildTypes := BuildType.defaults
  machines := [⟨"windows", "x86"⟩, ⟨"linux", "x86"⟩]
  linkages := [.shared]

theorem listing_agrees_with_configure_ring :
    (ofSettings {} ringSettings).result = .ok ring ∧ Language.ofText ring.language = .ok .swift ∧
    ∃ variants builder,
      (Listing.variantsOf {} ring).result = .ok variants ∧
      variants.map Variant.name =
        ["debugWindows", "debugLinux", "releaseWindows", "releaseLinux"] ∧
      (ring.configure {} (some "windows")).1.result = .ok builder ∧
      (ring.configure {} (some "windows")).2.binaries =
        (variants.filter fun v => v.combination.machine.family = "windows").map
          (ring.binaryOf .swift) ∧
      (ring.configure {} (some "windows")).2.binaries.map (fun b => (b.kind, b.name)) =
        [(.sharedLibrary, "debugWindows"), (.sharedLibrary, "releaseWindows")] ∧
      ∀ v ∈ variants, v.combination.linkage ≠ none := by
  have hs : (ofSettings {} ringSettings).result = .ok ring := by rfl
  have hl : Language.ofText ring.language = .ok .swift := by rfl
  have hfamily : "windows" ≠ "" := by decide
  have hnames : ((Listing.variantsOf {} ring).result.toOption.map fun variants =>
      variants.map Variant.name) =
        some ["debugWindows", "debugLinux", "releaseWindows", "releaseLinux"] := by decide +kernel
  rcases listing_agrees_with_configure hs hl hfamily with
    ⟨_, _, hlisting, -⟩ | ⟨variants, builder, hlisting, hconfigured, hbinaries, hlinkage⟩
  · rw [hlisting] at hnames
    cases hnames
  · rw [hlisting] at hnames
    refine ⟨hs, hl, variants, builder, hlisting, Option.some.inj hnames, hconfigured, hbinaries, ?_,
      fun v hv hnone => nomatch (hlinkage v hv).1 hnone⟩
    decide +kernel

end Specification

end NativeVariants
