import NativeVariants.Proofs.Folding
import NativeVariants.Proofs.Leaves
import NativeVariants.Proofs.Specification

/-!
# Settings are refused or sound

Reading settings ends in a configuration fault or in a specification that is `Sound`, unless a value
that is `Asked` for its text has none: then it ends in the failure to spell that value
(`refused_or_sound`). Each reader of a part fails for these causes only (`FailsFor`), which sequences
and lists of readers keep, and what it reads is well formed. So settings are refused or sound if all
values that are asked for can be spelt (`OnlyFaults`), but there are others (`not_refused_or_sound`).
-/

namespace NativeVariants

/-! ### Texts of values -/

theorem TimeOfDay.text_ne_empty (t : TimeOfDay) : t.text ≠ "" := by
  unfold text
  split <;> simp [clock]

theorem Moment.text_ne_empty (m : Moment) : m.text ≠ "" := by
  cases m <;> simp [text, textWith, Date.text, TimeOfDay.text_ne_empty]

theorem Binary64.positional_ne_nil (ds : List Char) (place : Int) : positional ds place ≠ [] := by
  unfold positional
  dsimp only
  split_ifs <;> simp

theorem Binary64.scientific_ne_nil (width : Nat) (ds : List Char) (exponent : Int) :
    scientific width ds exponent ≠ [] := by
  simp [scientific]

theorem Binary64.render_plain_ne_empty (x : Binary64) : x.render .plain ≠ "" := by
  cases x with
  | notANumber => simp [render, Style.plain]
  | infinity negative => cases negative <;> simp [render, Style.plain]
  | finite negative m e =>
    rw [render, ne_eq, String.ofList_eq_empty_iff]
    generalize shortest m e = found
    obtain ⟨ds, place⟩ := found
    dsimp only
    split_ifs <;> simp [positional_ne_nil, scientific_ne_nil]

theorem Value.text_ne_empty {v : Value} {text : String} (h : v.truthy) (ht : v.text = .ok text) :
    text ≠ "" := by
  cases v with
  | null => cases h
  | bool b =>
    rw [← Except.ok.inj ht]
    cases b <;> decide
  | int n =>
    have hn : numberText n = .ok text := ht
    unfold numberText at hn
    split at hn
    · cases hn
    · rw [← Except.ok.inj hn]
      cases n with
      | ofNat n => exact Nat.repr_ne_empty
      | negSucc n => exact fun h => by simpa using (String.append_eq_empty_iff.1 h).1
  | float x =>
    rw [← Except.ok.inj ht]
    exact x.render_plain_ne_empty
  | moment m =>
    rw [← Except.ok.inj ht]
    exact m.text_ne_empty
  | string s =>
    rw [← Except.ok.inj ht]
    simpa [truthy] using h
  | list items =>
    obtain ⟨literals, -, rfl⟩ := Logged.map_eq_ok_iff.1 ht
    simp [bracketed]
  | table fields =>
    obtain ⟨literals, -, rfl⟩ := Logged.map_eq_ok_iff.1 ht
    simp [bracketed]

/-! ### Readers -/

/-- Fails for a fault of the configuration, if at all. -/
def OnlyFaults {α : Type} (x : Except Failure α) : Prop :=
  ∀ failure, x = .error failure → ∃ fault, failure = .configuration fault

/-- Fails for a fault of the configuration or for want of the text of a value, if at all. -/
def FailsFor {α : Type} (host : Host) (asked : Value → Prop) (x : Except Failure α) : Prop :=
  ∀ failure, x = .error failure →
    (∃ fault, failure = .configuration fault) ∨ ∃ v, asked v ∧ host.spell v = .error failure

namespace OnlyFaults

variable {α β : Type}

theorem ok (a : α) : OnlyFaults (.ok a) := nofun

theorem bind {x : Except Failure α} {f : α → Except Failure β} (hx : OnlyFaults x)
    (hf : ∀ a, x = .ok a → OnlyFaults (f a)) : OnlyFaults (x.bind f) := by
  cases x with
  | error failure => exact fun _ h => hx _ (congrArg _ (Except.error.inj h))
  | ok a => exact hf a rfl

end OnlyFaults

namespace FailsFor

variable {α β : Type} {host : Host} {asked : Value → Prop} {x : Except Failure α}

theorem ok (a : α) : FailsFor host asked (.ok a) := nofun

theorem refuse (fault : ConfigurationFault) :
    FailsFor host asked (Specification.refuse fault : Except Failure α) :=
  fun _ h => .inl ⟨fault, (Except.error.inj h).symm⟩

theorem spell {v : Value} (h : asked v) : FailsFor host asked (host.spell v) :=
  fun _ hfailure => .inr ⟨v, h, hfailure⟩

theorem mono {more : Value → Prop} (h : FailsFor host asked x) (hmore : ∀ v, asked v → more v) :
    FailsFor host more x :=
  fun failure hfailure => (h failure hfailure).imp_right fun ⟨v, hv, hspell⟩ => ⟨v, hmore v hv, hspell⟩

theorem bind {f : α → Except Failure β} (hx : FailsFor host asked x)
    (hf : ∀ a, x = .ok a → FailsFor host asked (f a)) : FailsFor host asked (x.bind f) := by
  cases x with
  | error failure => exact fun _ h => hx _ (congrArg _ (Except.error.inj h))
  | ok a => exact hf a rfl

theorem mapM {f : α → Except Failure β} {l : List α} (hf : ∀ a ∈ l, FailsFor host asked (f a)) :
    FailsFor host asked (l.mapM f) := by
  induction l with
  | nil => exact ok []
  | cons a l ih =>
    obtain ⟨ha, hl⟩ := List.forall_mem_cons.1 hf
    rw [List.mapM_cons]
    exact ha.bind fun b _ => (ih hl).bind fun bs _ => ok (b :: bs)

/-- Where all texts are there only faults are left. -/
theorem onlyFaults (h : FailsFor host asked x) (hspelt : ∀ v, asked v → (host.spell v).isOk) :
    OnlyFaults x := by
  intro failure hfailure
  rcases h failure hfailure with hfault | ⟨v, hv, hspell⟩
  · exact hfault
  · have hisOk := hspelt v hv
    rw [hspell] at hisOk
    cases hisOk

end FailsFor

/-- What a list of readers yields was read from something. -/
theorem exists_of_mem_mapM {α β : Type} {f : α → Except Failure β} {l : List α} {out : List β}
    (h : l.mapM f = .ok out) {b : β} (hb : b ∈ out) : ∃ a ∈ l, f a = .ok b := by
  induction l generalizing out with
  | nil =>
    cases h
    cases hb
  | cons a l ih =>
    rw [List.mapM_cons] at h
    obtain ⟨b', hb', h⟩ := Logged.bind_eq_ok_iff.1 h
    obtain ⟨bs, hbs, h⟩ := Logged.bind_eq_ok_iff.1 h
    cases h
    rcases List.mem_cons.1 hb with rfl | hb
    · exact ⟨a, List.mem_cons_self, hb'⟩
    · obtain ⟨a', ha', hf⟩ := ih hbs hb
      exact ⟨a', List.mem_cons_of_mem a ha', hf⟩

namespace Specification

variable {host : Host} {project component : Table}

/-- The values whose texts are asked for when the two tables of settings are read. -/
inductive Asked (project component : Table) : Value → Prop where
  | ofProject {key : String} {v : Value} (hkey : key ∈ ["name", "group", "version"])
      (hv : project.get? key = some v) : Asked project component v
  | ofComponent {key : String} {v : Value} (hkey : key ∈ ["type", "base_name", "language"])
      (hv : component.get? key = some v) : Asked project component v
  | ofBuildType {items : List Value} {fields : Table} {v : Value}
      (hitems : entries component "build_types" = .ok items) (hfields : .table fields ∈ items)
      (hv : fields.get? "name" = some v) : Asked project component v
  | ofMachine {items : List Value} {fields : Table} {key : String} {v : Value}
      (hitems : entries component "target_machines" = .ok items) (hfields : .table fields ∈ items)
      (hkey : key ∈ ["os", "arch"]) (hv : fields.get? key = some v) : Asked project component v
  | linkage {items : List Value} {v : Value} (hitems : entries component "linkages" = .ok items)
      (hv : v ∈ items) : Asked project component v

variable {asked : Value → Prop}

theorem failsFor_tables (fields : Table) : FailsFor host asked (tables (.table fields)) := by
  unfold tables
  dsimp only
  split
  · exact .ok _
  · exact .refuse _

theorem failsFor_entries (t : Table) (key : String) : FailsFor host asked (entries t key) := by
  unfold entries
  split <;> first | exact .ok _ | exact .refuse _

theorem failsFor_textOf {t : Table} {key : String} (h : ∀ v, t.get? key = some v → asked v)
    (default : String) : FailsFor host asked (textOf host t key default) := by
  unfold textOf
  split
  · exact .spell (h _ ‹_›)
  · exact .ok _

theorem failsFor_readType (h : ∀ v, component.get? "type" = some v → asked v) :
    FailsFor host asked (readType host component) := by
  refine (failsFor_textOf h "library").bind fun name _ => ?_
  dsimp only
  split
  · exact .ok _
  · exact .refuse _

theorem failsFor_baseNameOf (h : ∀ v, component.get? "base_name" = some v → asked v)
    (projectName : String) : FailsFor host asked (baseNameOf host component projectName) := by
  unfold baseNameOf
  split
  · split
    · exact .spell (h _ ‹_›)
    · exact .ok _
  · exact .ok _

theorem failsFor_readBuildType {v : Value}
    (h : ∀ fields, v = .table fields → ∀ name, Fields.get? "name" fields = some name → asked name) :
    FailsFor host asked (readBuildType host v) := by
  unfold readBuildType
  split
  · split
    · exact .ok _
    · exact .refuse _
  · refine (failsFor_textOf (h _ rfl) "").bind fun name _ => ?_
    dsimp only
    split
    · exact .refuse _
    · exact .ok _
  · exact .refuse _

theorem failsFor_readMachine {v : Value} (h : ∀ fields, v = .table fields →
      ∀ key ∈ ["os", "arch"], ∀ name, Fields.get? key fields = some name → asked name) :
    FailsFor host asked (readMachine host v) := by
  unfold readMachine
  split
  · split
    · exact .ok _
    · exact .refuse _
  · refine (failsFor_textOf (h _ rfl "os" (by decide)) "").bind fun family _ => ?_
    refine (failsFor_textOf (h _ rfl "arch" (by decide)) "").bind fun architecture _ => ?_
    dsimp only
    split
    · exact .refuse _
    · exact .ok _
  · exact .refuse _

theorem failsFor_readLinkage {v : Value} (h : asked v) :
    FailsFor host asked (readLinkage host v) := by
  refine (FailsFor.spell h).bind fun text _ => ?_
  split
  · exact .ok _
  · exact .refuse _

/-- Whatever settings hold, reading them fails for a fault or for want of the text of a value that is
asked for. -/
theorem failsFor_ofSettings (host : Host) (settings : Table) :
    FailsFor host (fun v => ∃ project component,
      tables (.table settings) = .ok (project, component) ∧ Asked project component v)
      (ofSettings host (.table settings)).result := by
  simp only [ofSettings, Logged.result_bind, Logged.result_lift]
  refine (failsFor_tables settings).bind fun found htables => ?_
  obtain ⟨project, component⟩ := found
  refine FailsFor.mono ?_ fun v hv => ⟨project, component, htables, hv⟩
  refine (failsFor_textOf (fun v hv => .ofProject (by decide) hv) "").bind fun name _ => ?_
  dsimp only
  split
  · exact .refuse _
  simp only [Logged.result_bind, Logged.result_lift, result_machinesOrHost, result_linkagesFor]
  refine (failsFor_readType fun v hv => .ofComponent (by decide) hv).bind fun type _ => ?_
  refine ((failsFor_entries component "build_types").bind fun items hitems =>
    .mapM fun v hv => failsFor_readBuildType ?_).bind fun buildTypes _ => ?_
  · rintro fields rfl name hname
    exact .ofBuildType hitems hv hname
  refine ((failsFor_entries component "target_machines").bind fun items hitems =>
    .mapM fun v hv => failsFor_readMachine ?_).bind fun machines _ => ?_
  · rintro fields rfl key hkey name hname
    exact .ofMachine hitems hv hkey hname
  refine (FailsFor.ok _).bind fun machines _ => ?_
  refine ((failsFor_entries component "linkages").bind fun items hitems =>
    .mapM fun v hv => failsFor_readLinkage (.linkage hitems hv)).bind fun linkages _ => ?_
  refine (FailsFor.ok _).bind fun linkages _ => ?_
  refine (failsFor_textOf (fun v hv => .ofProject (by decide) hv) "").bind fun group _ => ?_
  refine (failsFor_textOf (fun v hv => .ofProject (by decide) hv) "unspecified").bind
    fun version _ => ?_
  refine (failsFor_baseNameOf (fun v hv => .ofComponent (by decide) hv) _).bind fun baseName _ => ?_
  refine (failsFor_textOf (fun v hv => .ofComponent (by decide) hv) "cpp").bind fun language _ => ?_
  exact .ok _

/-! ### What is read -/

theorem mem_defaults_of_readBuildType {name : String} {t : BuildType}
    (h : readBuildType host (.string name) = .ok t) : t ∈ BuildType.defaults := by
  unfold readBuildType at h
  dsimp only at h
  split at h
  · rename_i hof
    rw [← Except.ok.inj h]
    exact List.mem_of_find?_eq_some hof
  · cases h

theorem name_ne_empty_of_mem_defaults : ∀ t ∈ BuildType.defaults, t.name ≠ "" := by
  decide

theorem name_ne_empty_of_readBuildType {v : Value} {t : BuildType}
    (h : readBuildType host v = .ok t) : t.name ≠ "" := by
  cases v with
  | string name => exact name_ne_empty_of_mem_defaults t (mem_defaults_of_readBuildType h)
  | table fields =>
    obtain ⟨name, -, h⟩ := Logged.bind_eq_ok_iff.1 h
    dsimp only at h
    split at h
    · cases h
    · rename_i hne
      rw [← Except.ok.inj h]
      simpa using hne
  | _ => cases h

theorem canonical_of_readMachine {v : Value} {m : Machine} (h : readMachine host v = .ok m) :
    m.Canonical := by
  unfold readMachine at h
  split at h
  · split at h
    · rename_i hparse
      rw [← Except.ok.inj h]
      exact Machine.canonical_of_parse? hparse
    · cases h
  · obtain ⟨family, -, h⟩ := Logged.bind_eq_ok_iff.1 h
    obtain ⟨architecture, -, h⟩ := Logged.bind_eq_ok_iff.1 h
    dsimp only at h
    split at h
    · cases h
    · rename_i hne
      simp only [Bool.or_eq_true, not_or, String.isEmpty_iff] at hne
      rw [← Except.ok.inj h]
      refine Machine.canonical_ofNames ?_ ?_ <;> rw [Text.trim_lower_trim]
      · exact hne.1
      · exact hne.2
  · cases h

theorem baseName_ne_empty {projectName baseName : String} (h : projectName ≠ "")
    (hb : baseNameOf host component projectName = .ok baseName) : baseName ≠ "" := by
  unfold baseNameOf at hb
  split at hb
  · split at hb
    · exact Value.text_ne_empty ‹_› (Host.within_eq_ok_iff.1 hb).2
    · rwa [← Except.ok.inj hb]
  · rwa [← Except.ok.inj hb]

/-- The table of the component, if the settings have one. -/
theorem get?_component_of_tables {settings : Table}
    (h : tables (.table settings) = .ok (project, component)) (hne : component ≠ []) :
    Fields.get? "component" settings = some (.table component) := by
  unfold tables at h
  dsimp only at h
  split at h
  · rename_i hc
    cases h
    cases hg : Fields.get? "component" settings with
    | none =>
      rw [hg, Option.getD_none] at hc
      exact absurd (Value.table.inj hc).symm hne
    | some v =>
      rw [hg, Option.getD_some] at hc
      rw [hc]
  · cases h

/-- What every specification has that is read from settings. -/
structure Sound (settings : Table) (s : Specification) : Prop extends Complete s where
  projectName : s.projectName ≠ ""
  projectName_trimmed : Text.trim s.projectName = s.projectName
  baseName : s.baseName ≠ ""
  buildTypes_named : ∀ t ∈ s.buildTypes, t.name ≠ ""
  machines_canonical : ∀ m ∈ s.machines, m.Canonical
  /-- Only a library whose table has an entry for linkages does without any. -/
  linkages_given : s.type = .library → s.linkages = [] →
    ∃ component, Fields.get? "component" settings = some (.table component) ∧
      Fields.has "linkages" component

theorem sound_of_ofSettings {settings : Table} {s : Specification}
    (h : (ofSettings host (.table settings)).result = .ok s) : s.Sound settings := by
  have hcomplete := complete_of_ofSettings h
  obtain ⟨project, component, p, htables, hp, rfl⟩ := ofSettings_eq_ok_iff.1 h
  obtain ⟨_, -, hb⟩ := Logged.bind_eq_ok_iff.1 hp.buildTypes
  obtain ⟨_, -, hm⟩ := Logged.bind_eq_ok_iff.1 hp.machines
  refine
    { hcomplete with
      projectName := hp.named
      projectName_trimmed := Text.trim_trim _
      baseName := baseName_ne_empty hp.named hp.baseName
      buildTypes_named := fun t ht => ?_
      machines_canonical := fun m hmem => ?_
      linkages_given := fun hlib hnone => ?_ }
  · simp only [Parts.assembled] at ht
    split at ht
    · exact name_ne_empty_of_mem_defaults t ht
    · obtain ⟨v, -, hv⟩ := exists_of_mem_mapM hb ht
      exact name_ne_empty_of_readBuildType hv
  · simp only [Parts.assembled, List.mem_eraseDups] at hmem
    split at hmem
    · rw [List.mem_singleton.1 hmem]
      exact host.canonical_asTarget
    · obtain ⟨v, -, hv⟩ := exists_of_mem_mapM hm hmem
      exact canonical_of_readMachine hv
  · have hlib : p.type = .library := hlib
    have hhas : Fields.has "linkages" component := by
      by_contra hhas
      simp only [Parts.assembled, hlib, eraseDups_eq_nil_iff, Bool.eq_false_iff.2 hhas] at hnone
      cases hl : p.linkages <;> simp [hl] at hnone
    refine ⟨component, get?_component_of_tables htables ?_, hhas⟩
    rintro rfl
    cases hhas

/-- Some value that is asked for its text cannot be spelt, since it is nested too deep or holds a number
that is too long. -/
def AsksUnspelt (host : Host) (settings : Table) (failure : Failure) : Prop :=
  ∃ project component v, tables (.table settings) = .ok (project, component) ∧
    Asked project component v ∧ host.spell v = .error failure ∧ host.Unspelt v failure

/-- Settings, whatever they hold, are refused for a fault or make a sound specification, or else a text
is asked for that is missing. -/
theorem refused_or_sound (host : Host) (settings : Table) :
    (∃ fault, (ofSettings host (.table settings)).result = .error (.configuration fault)) ∨
    (∃ s, (ofSettings host (.table settings)).result = .ok s ∧ s.Sound settings) ∨
    ∃ failure, AsksUnspelt host settings failure ∧
      (ofSettings host (.table settings)).result = .error failure := by
  cases hr : (ofSettings host (.table settings)).result with
  | error failure =>
    rcases failsFor_ofSettings host settings failure hr with
      ⟨fault, rfl⟩ | ⟨v, ⟨project, component, htables, hasked⟩, hspell⟩
    · exact .inl ⟨fault, rfl⟩
    · exact .inr (.inr ⟨failure, ⟨project, component, v, htables, hasked, hspell,
        Host.unspelt_of_spell hspell⟩, rfl⟩)
  | ok s => exact .inr (.inl ⟨s, rfl, sound_of_ofSettings hr⟩)

/-- A component whose type is a number of one digit more than is spelt. -/
def endless : Table :=
  [("project", .table [("name", .string "ring")]),
    ("component", .table [("type", .int (Nat.pow 10 Value.longestNumber))])]

theorem result_ofSettings_endless :
    (ofSettings {} (.table endless)).result = .error .longNumber := by
  decide +kernel

/-- Not every failure is a fault: a number may be too long to be spelt in one. -/
theorem not_refused_or_sound : ¬ ∀ (host : Host) (settings : Table),
    (∃ fault, (ofSettings host (.table settings)).result = .error (.configuration fault)) ∨
      ∃ s, (ofSettings host (.table settings)).result = .ok s ∧ s.Sound settings := by
  intro h
  rcases h {} endless with ⟨fault, hr⟩ | ⟨s, hr, -⟩
  · cases result_ofSettings_endless.symm.trans hr
  · cases result_ofSettings_endless.symm.trans hr

end Specification

end NativeVariants
