import NativeVariants.Proofs.Configuring
import NativeVariants.Proofs.Machines
import NativeVariants.Proofs.NewSettings

/-!
# Components on their host

A component that names no machine is for the host. A host is described twice, by its family and as a
machine to build for, and the two have one family (`Host.family_asTarget`), so no variant is left out
when the binaries are made (`made_eq`). Settings that are made without asking name the host in a text,
which is read as the same machine (`Host.parse?_text_asTarget`).
-/

namespace NativeVariants

namespace Specification

variable {host : Host} {settings : Value} {s : Specification}

/-- Settings of a component that name no machine to build for. -/
def NamesNoMachine (settings : Value) : Prop :=
  ∃ project component, tables settings = .ok (project, component) ∧
    component.get? "target_machines" ∈ [none, some .null, some (.list [])]

/-- The host makes one binary of every variant that is listed. -/
def BuiltCompletely (s : Specification) (host : Host) : Prop :=
  ∃ l variants, Language.ofText s.language = .ok l ∧
    (Listing.variantsOf host s).result = .ok variants ∧
    (s.configure host none).2.binaries = variants.map (s.binaryOf l)

theorem machines_of_namesNoMachine (hn : NamesNoMachine settings)
    (hs : (ofSettings host settings).result = .ok s) : s.machines = [host.asTarget] := by
  obtain ⟨project, component, ht, hget⟩ := hn
  obtain ⟨_, _, p, ht', hp, rfl⟩ := ofSettings_eq_ok_iff.1 hs
  cases ht.symm.trans ht'
  have hentries : entries component "target_machines" = .ok [] := by
    unfold entries
    simp only [List.mem_cons, List.not_mem_nil, or_false] at hget
    rcases hget with h | h | h <;> rw [h]
  have hmachines := hp.machines
  rw [hentries] at hmachines
  have hnone : p.machines = [] := (Except.ok.inj hmachines).symm
  rw [Parts.assembled, hnone]
  exact eraseDups_of_nodup (List.nodup_singleton host.asTarget)

/-- An accepted component has the linkages of its specification. -/
theorem linkages_of_accepted {request : ConfigureRequest} {l : Language}
    {linkages : List Linkage} (hs : s.Complete)
    (h : s.component.Accepted request l linkages) :
    linkages = s.linkages ∧ (s.type = .library → s.linkages ≠ []) := by
  rcases hs.type with ht | ht
  · obtain ⟨hr, hne⟩ := h.library ht
    simp only [component, if_pos ht, Option.getD_some, Linkage.mapM_ofValue_names] at hr
    have heq : s.linkages = linkages := Except.ok.inj hr
    exact ⟨heq.symm, fun _ => heq ▸ hne⟩
  · refine ⟨(h.application ht).trans (hs.linkages ht).symm, fun hl => ?_⟩
    cases ht.symm.trans hl

/-- What the component is built in has the listed variants, whatever the language and the family of
hosts. -/
theorem variants_configuration {request : ConfigureRequest} {l : Language} (hs : s.Complete)
    (hr : request.buildTypes = s.buildTypes) :
    (s.component.configuration request l s.linkages s.project host).variants =
      (s.listedConfiguration host).variants := by
  have hb : (if request.buildTypes.isEmpty then BuildType.defaults else request.buildTypes) =
      s.buildTypes := by
    rw [hr, if_neg (by simpa using hs.buildTypes)]
  have hl : (if s.component.type = .library then s.linkages else []) = s.linkages := by
    rcases hs.type with ht | ht
    · exact if_pos ht
    · rw [hs.linkages ht, ite_self]
  refine Configuration.variants_congr (congrArg List.eraseDups hb) rfl (congrArg List.eraseDups hl) rfl

/-- A host leaves out no variant for itself. -/
theorem made_eq (hs : s.Complete) (hm : s.machines = [host.asTarget]) (l : Language) :
    s.component.made ⟨s.language, none, s.buildTypes⟩ l s.linkages s.project host =
      (s.listedConfiguration host).variants.map (s.binaryOf l) := by
  have hvariants : (s.component.configuration ⟨s.language, none, s.buildTypes⟩ l s.linkages
      s.project host).variants = (s.listedConfiguration host).variants :=
    variants_configuration hs rfl
  -- all of them are for one machine, which is of the family that the host builds for
  have hall : ∀ v ∈ (s.listedConfiguration host).variants,
      decide (v.combination.machine.family = host.family) = true := by
    intro v hv
    have hmachine := (mem_combinations.1 (Configuration.mem_variants.1 hv).1).2.1
    have hmachines : (s.listedConfiguration host).machines = [host.asTarget] := by
      rw [← eraseDups_of_nodup (List.nodup_singleton host.asTarget), ← hm]
      rfl
    rw [List.mem_eraseDups, hmachines, List.mem_singleton] at hmachine
    rw [hmachine, host.family_asTarget, decide_eq_true_eq]
  have hfamily : ConfigureRequest.family ⟨s.language, none, s.buildTypes⟩ host = host.family := by
    simp only [ConfigureRequest.family, Option.filter_none, Option.getD_none]
  rw [Component.made, hvariants, hfamily, List.filter_eq_self.2 hall]
  rfl

theorem builtCompletely_of_machines (hs : s.Complete) (hm : s.machines = [host.asTarget])
    (h : (s.configure host none).1.result.isOk) : s.BuiltCompletely host := by
  obtain ⟨l, linkages, haccepted, hafter⟩ := Component.exists_accepted_of_isOk h
  obtain ⟨rfl, hn⟩ := linkages_of_accepted hs haccepted
  have hvalid : (s.listedConfiguration host).Valid :=
    (valid_listedConfiguration_iff hs hn).2 ((configure_succeedsIff hs hn).isOk_iff.1 h).1
  refine ⟨l, (s.listedConfiguration host).variants, haccepted.language, ?_, ?_⟩
  · rw [result_variantsOf, hvalid.identifyVariants]
  · change (s.component.configure s.project host _).2.binaries = _
    rw [hafter]
    exact made_eq hs hm l

/-- What the settings that nobody is asked about describe, for a machine. -/
def greeter (m : Machine) : Specification where
  projectName := "greeter"
  group := "org.example"
  version := "0.1"
  type := .library
  baseName := "greeter"
  language := "cpp"
  buildTypes := BuildType.defaults
  machines := [m]
  linkages := [.shared]

theorem complete_greeter (m : Machine) : (greeter m).Complete where
  type := .inl rfl
  buildTypes := List.cons_ne_nil _ _
  machines := List.cons_ne_nil _ _
  machines_nodup := List.nodup_singleton m
  linkages := nofun
  linkages_nodup := List.nodup_singleton _

/-- The form behind the settings that nobody is asked about. -/
def unasked (m : Machine) : Questionnaire.Form :=
  ⟨"greeter", "org.example", "0.1", "library", "cpp", ["debug", "release"], [m.text], some ["shared"]⟩

/-- What is read from these settings. -/
def unaskedParts (m : Machine) : Parts :=
  ⟨"greeter", .library, BuildType.defaults, [m], [.shared], "org.example", "0.1", "greeter", "cpp"⟩

theorem assembled_unaskedParts (host : Host) (m : Machine) :
    (unaskedParts m).assembled host (unasked m).component = greeter m := by
  have hname : Text.trim "greeter" = "greeter" := by decide
  have hlanguage : Text.lower (Text.trim "cpp") = "cpp" := by decide +kernel
  rw [Parts.assembled, unaskedParts, hname, hlanguage]
  rfl

theorem read_unaskedParts {m : Machine} (hm : Machine.parse? m.text = some m) (host : Host) :
    (unaskedParts m).Read host (unasked m).project (unasked m).component where
  name := host.spell_string _
  named := by
    change Text.trim "greeter" ≠ ""
    decide
  type := by
    have htext : textOf host (unasked m).component "type" "library" = .ok "library" :=
      host.spell_string _
    rw [readType, htext]
    rfl
  buildTypes := rfl
  machines := by
    have hmachine : readMachine host (.string m.text) = .ok m := by
      simp only [readMachine, hm]
    have hentries : entries (unasked m).component "target_machines" = .ok [.string m.text] := rfl
    rw [hentries, Except.bind, List.mapM_cons, hmachine]
    rfl
  linkages := by
    have hlinkage : readLinkage host (.string "shared") = .ok .shared := by
      rw [readLinkage, host.spell_string]
      rfl
    have hentries : entries (unasked m).component "linkages" = .ok [.string "shared"] := rfl
    rw [hentries, Except.bind, List.mapM_cons, hlinkage]
    rfl
  group := host.spell_string _
  version := host.spell_string _
  baseName := host.spell_string _
  language := host.spell_string _

theorem ofSettings_unasked {m : Machine} (hm : Machine.parse? m.text = some m) (host : Host) :
    (ofSettings host (.table (unasked m).settings)).result = .ok (greeter m) :=
  ofSettings_eq_ok_iff.2 ⟨_, _, unaskedParts m, (unasked m).tables_settings,
    read_unaskedParts hm host, assembled_unaskedParts host m⟩

theorem isOk_configure_greeter (m : Machine) (host : Host) (family : Option String) :
    ((greeter m).configure host family).1.result.isOk := by
  have hnames : NamesApart BuildType.defaults := by
    unfold NamesApart
    decide
  have hl : Language.ofText "cpp" = .ok .cpp := by rfl
  exact (configure_succeedsIff (complete_greeter m) fun _ => List.cons_ne_nil _ _).isOk_iff.2
    ⟨hnames, .cpp, hl⟩

theorem binaries_greeter (m : Machine) (host : Host) (l : Language) :
    (((greeter m).listedConfiguration host).variants.map ((greeter m).binaryOf l)).map
        (fun b => (b.name, b.kind, b.machine)) =
      [("debug", .sharedLibrary, m), ("release", .sharedLibrary, m)] := by
  rfl

/-- Whatever a host calls itself: it builds a component that names no machine completely, and also the
one of the settings that are made on it without asking, which is a component for this host. -/
theorem builtCompletely_on_host (host : Host) :
    (∀ settings s, NamesNoMachine settings → (ofSettings host settings).result = .ok s →
        (s.configure host none).1.result.isOk → s.BuiltCompletely host) ∧
      ∀ (directory : String) (w : World) (log place : Place), w.host = host →
        w.format.Lawful → w.files.Writable w.sessionLog log →
        w.files.Writable (Settings.filePath directory) place → place ≠ log →
        Settings.Reloads w.format (Questionnaire.defaults host) →
        ∃ w' s, (Questionnaire.create directory .defaults).outcome w = (.ok (), w') ∧
          (ofSettings host (.table (Settings.loaded directory w'))).result = .ok s ∧
          s.machines = [host.asTarget] ∧ (s.configure host none).1.result.isOk ∧
          s.BuiltCompletely host ∧
          (s.configure host none).2.binaries.map (fun b => (b.name, b.kind, b.machine)) =
            [("debug", .sharedLibrary, host.asTarget), ("release", .sharedLibrary, host.asTarget)] := by
  constructor
  · intro settings s hn hs hok
    exact builtCompletely_of_machines (complete_of_ofSettings hs) (machines_of_namesNoMachine hn hs) hok
  · rintro directory w log place rfl hlaw hl hf hplace hr
    obtain ⟨w', found, hcreate, hholds, hcanonical⟩ :=
      Questionnaire.exists_holds_defaults hlaw hl hf hplace hr
    have hsame : Value.SameTree (.table (unasked w.host.asTarget).settings) (.table found) :=
      ⟨Questionnaire.Form.distinct_settings _, hholds.distinct, hcanonical.symm⟩
    have hread : (ofSettings w.host (.table (Settings.loaded directory w'))).result =
        .ok (greeter w.host.asTarget) := by
      rw [hholds.loaded_eq]
      exact (Questionnaire.Form.ofSettings_found_eq_ok_iff hsame).2
        (ofSettings_unasked w.host.parse?_text_asTarget w.host)
    have hok := isOk_configure_greeter w.host.asTarget w.host none
    have hbuilt := builtCompletely_of_machines (complete_greeter w.host.asTarget) rfl hok
    refine ⟨w', _, hcreate, hread, rfl, hok, hbuilt, ?_⟩
    obtain ⟨l, variants, -, hlisted, hbinaries⟩ := hbuilt
    rw [result_variantsOf] at hlisted
    rw [hbinaries, (Configuration.identifyVariants_eq_ok_iff.1 hlisted).2]
    exact binaries_greeter w.host.asTarget w.host l

/-- A host that calls itself by names that nobody knows. -/
def stranger : Host where
  system := "Plan:9 "
  machine := "\tARM:v9 Ωmega"

def bareSettings : Value :=
  .table [("project", .table [("name", .string "bare")]),
    ("component", .table [("target_machines", .list [])])]

def bare : Specification where
  projectName := "bare"
  group := ""
  version := "unspecified"
  type := .library
  baseName := "bare"
  language := "cpp"
  buildTypes := BuildType.defaults
  machines := [⟨"unknown", "arm:v9 ωmega"⟩]
  linkages := [.shared]

/-- A directory without files on that host. -/
def strange : World :=
  { Questionnaire.lobby [] with host := stranger }

theorem builtCompletely_on_host_stranger : NamesNoMachine bareSettings ∧
    (ofSettings stranger bareSettings).result = .ok bare ∧
    (bare.configure stranger none).1.result.isOk ∧ bare.BuiltCompletely stranger ∧
    ∃ w' s, (Questionnaire.create "." .defaults).outcome strange = (.ok (), w') ∧
      (ofSettings stranger (.table (Settings.loaded "." w'))).result = .ok s ∧
      s.machines = [stranger.asTarget] ∧ (s.configure stranger none).1.result.isOk ∧
      s.BuiltCompletely stranger ∧
      (s.configure stranger none).2.binaries.map (fun b => (b.name, b.kind, b.machine)) =
        [("debug", .sharedLibrary, stranger.asTarget),
          ("release", .sharedLibrary, stranger.asTarget)] := by
  have hn : NamesNoMachine bareSettings := ⟨_, _, rfl, by simp [Fields.get?]⟩
  have hs : (ofSettings stranger bareSettings).result = .ok bare := by rfl
  have hok : (bare.configure stranger none).1.result.isOk := by decide +kernel
  have hr : Settings.Reloads .toml (Questionnaire.defaults stranger) := by decide +kernel
  obtain ⟨hbuilt, hnew⟩ := builtCompletely_on_host stranger
  exact ⟨hn, hs, hok, hbuilt _ _ hn hs hok, hnew "." strange _ _ rfl
    Settings.Format.lawful_toml (Questionnaire.writable_log_lobby []) (Questionnaire.writable_lobby [])
    (by decide) hr⟩

end Specification

end NativeVariants
