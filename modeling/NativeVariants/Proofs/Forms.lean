import NativeVariants.Proofs.Interview
import NativeVariants.Proofs.Rereading

/-!
# Forms whose settings can be used

A form that answers can fill in makes settings of which the variants are listed exactly if it is
`Sound` (`Form.variantsIn_succeedsIff`): the questions see to its type, its language and its machines,
but neither to its name nor to the names of its build types and linkages. The order of the keys makes
no difference to this. With that it is known of every list of answers whether the settings that an
interview saves can be used.
-/

namespace NativeVariants

theorem isOk_mapM_iff {α β : Type} {f : α → Except Failure β} {l : List α} :
    (l.mapM f).isOk ↔ ∀ a ∈ l, (f a).isOk := by
  induction l with
  | nil => exact iff_of_true rfl nofun
  | cons a l ih =>
    rw [List.mapM_cons, List.forall_mem_cons, ← ih]
    cases f a with
    | error failure => exact iff_of_false nofun fun h => nomatch h.1
    | ok b =>
      cases l.mapM f with
      | error failure => exact iff_of_false nofun fun h => nomatch h.2
      | ok bs => exact iff_of_true rfl ⟨rfl, rfl⟩

namespace Questionnaire

open Specification

/-- What the questions see to. -/
structure Form.Answered (f : Form) : Prop where
  type : f.type = "library" ∧ f.linkages.isSome ∨ f.type = "application" ∧ f.linkages = none
  machines : f.machines ≠ []
  machines_written : ∀ m ∈ f.machines, isMachineText m

/-- What they do not see to. A library has at least one linkage. -/
structure Form.Sound (f : Form) : Prop where
  name : Text.trim f.name ≠ ""
  buildTypes : ∀ t ∈ f.buildTypes, (BuildType.ofName? (Text.lower (Text.trim t))).isSome
  linkages : ∀ ls, f.linkages = some ls →
    ls ≠ [] ∧ ∀ l ∈ ls, (Linkage.ofName? (Text.lower (Text.trim l))).isSome

/-! ### The form of a list of answers -/

namespace AnswerReader

variable {α β : Type} {l rest : List String} {b : β}

theorem bind_eq_some_iff {p : AnswerReader α} {g : α → AnswerReader β} :
    (p >>= g) l = some (b, rest) ↔ ∃ a more, p l = some (a, more) ∧ g a more = some (b, rest) := by
  refine Option.bind_eq_some_iff.trans ?_
  exact ⟨fun ⟨(a, more), hp, hg⟩ => ⟨a, more, hp, hg⟩, fun ⟨a, more, hp, hg⟩ => ⟨(a, more), hp, hg⟩⟩

theorem exists_of_first {default : String} {f : String → Option β}
    (h : first default f l = some (b, rest)) : ∃ a, f a = some b := by
  induction l with
  | nil => cases h
  | cons a more ih =>
    rw [first] at h
    cases hf : f (given default a) with
    | some b' =>
      rw [hf] at h
      cases h
      exact ⟨_, hf⟩
    | none =>
      rw [hf] at h
      exact ih h

end AnswerReader

open AnswerReader

theorem eq_of_among? {names : List String} {a b : String} (h : among? names a = some b) :
    b ∈ names := by
  unfold among? at h
  split_ifs at h with hmem
  cases h
  exact List.contains_iff_mem.1 hmem

theorem of_machines? {machines found : List String} (h : machines? machines = some found) :
    found ≠ [] ∧ ∀ m ∈ found, isMachineText m := by
  unfold machines? at h
  split_ifs at h with hempty hall
  cases h
  exact ⟨by simpa using hempty, List.all_eq_true.1 hall⟩

theorem answered_of_fill {host : Host} {l rest : List String} {f : Form}
    (h : fill host l = some (f, rest)) : f.Answered := by
  unfold fill at h
  obtain ⟨name, _, -, h⟩ := bind_eq_some_iff.1 h
  obtain ⟨group, _, -, h⟩ := bind_eq_some_iff.1 h
  obtain ⟨version, _, -, h⟩ := bind_eq_some_iff.1 h
  obtain ⟨type, _, htype, h⟩ := bind_eq_some_iff.1 h
  obtain ⟨language, _, -, h⟩ := bind_eq_some_iff.1 h
  obtain ⟨buildTypes, _, -, h⟩ := bind_eq_some_iff.1 h
  obtain ⟨machines, _, hmachines, h⟩ := bind_eq_some_iff.1 h
  obtain ⟨_, htype⟩ := exists_of_first htype
  obtain ⟨_, hmachines⟩ := exists_of_first hmachines
  obtain ⟨_, -, hmachines⟩ := Option.bind_eq_some_iff.1 hmachines
  obtain ⟨hne, hwritten⟩ := of_machines? hmachines
  have htype := eq_of_among? htype
  split_ifs at h with hlibrary
  · rw [map_eq_pure_bind] at h
    obtain ⟨linkages, _, hlinkages, h⟩ := bind_eq_some_iff.1 h
    obtain ⟨_, _, -, hlinkages⟩ := bind_eq_some_iff.1 hlinkages
    cases hlinkages
    cases h
    exact ⟨.inl ⟨hlibrary, rfl⟩, hne, hwritten⟩
  · obtain ⟨linkages, _, hlinkages, h⟩ := bind_eq_some_iff.1 h
    cases hlinkages
    cases h
    have happlication : type = "application" :=
      List.mem_singleton.1 ((List.mem_cons.1 htype).resolve_left hlibrary)
    exact ⟨.inr ⟨happlication, rfl⟩, hne, hwritten⟩

/-! ### What its settings are read as -/

/-- Reading settings and listing the variants of what they describe. -/
def variantsIn (host : Host) (settings : Table) : Except Failure (List Variant) :=
  (ofSettings host (.table settings)).result.bind fun s => (Listing.variantsOf host s).result

theorem variantsIn_isOk_iff {host : Host} {settings : Table} : (variantsIn host settings).isOk ↔
    ∃ s, (ofSettings host (.table settings)).result = .ok s ∧ (s.listedConfiguration host).Valid := by
  unfold variantsIn
  cases (ofSettings host (.table settings)).result with
  | error failure => exact iff_of_false nofun fun ⟨s, h, _⟩ => nomatch h
  | ok s =>
    refine (variantsOf_succeedsIff_valid host s).isOk_iff.trans ?_
    exact ⟨fun h => ⟨s, rfl, h⟩, fun ⟨_, heq, h⟩ => Except.ok.inj heq ▸ h⟩

variable {host : Host}

theorem isOk_readBuildType_iff {t : String} : (readBuildType host (.string t)).isOk ↔
    (BuildType.ofName? (Text.lower (Text.trim t))).isSome := by
  unfold readBuildType
  dsimp only
  cases BuildType.ofName? (Text.lower (Text.trim t)) with
  | none => exact iff_of_false nofun nofun
  | some buildType => exact iff_of_true rfl rfl

theorem isOk_readLinkage_iff {l : String} : (readLinkage host (.string l)).isOk ↔
    (Linkage.ofName? (Text.lower (Text.trim l))).isSome := by
  unfold readLinkage
  rw [host.spell_string]
  simp only [bind, Except.bind]
  cases Linkage.ofName? (Text.lower (Text.trim l)) with
  | none => exact iff_of_false nofun nofun
  | some linkage => exact iff_of_true rfl rfl

theorem isSome_parse? (m : String) : (Machine.parse? m).isSome = isMachineText m := by
  unfold Machine.parse? isMachineText
  generalize Text.cut ':' m = found
  obtain ⟨family, _ | architecture⟩ := found
  · rfl
  · dsimp only
    cases (Text.trim family).isEmpty <;> cases (Text.trim architecture).isEmpty <;> rfl

theorem isOk_readMachine_iff {m : String} :
    (readMachine host (.string m)).isOk ↔ isMachineText m := by
  rw [← isSome_parse?]
  unfold readMachine
  dsimp only
  cases Machine.parse? m with
  | none => exact iff_of_false nofun nofun
  | some machine => exact iff_of_true rfl rfl

namespace Form

variable {f : Form}

def project (f : Form) : Table :=
  [("name", .string f.name), ("group", .string f.group), ("version", .string f.version)]

def component (f : Form) : Table :=
  [("type", .string f.type), ("base_name", .string f.name), ("language", .string f.language),
      ("build_types", texts f.buildTypes), ("target_machines", texts f.machines)] ++
    f.linkages.toList.map fun ls => ("linkages", texts ls)

theorem tables_settings (f : Form) : tables (.table f.settings) = .ok (f.project, f.component) :=
  rfl

theorem entries_linkages (f : Form) :
    entries f.component "linkages" = .ok ((f.linkages.getD []).map .string) := by
  unfold entries component
  cases f.linkages <;> rfl

/-- Only texts are asked for. -/
theorem exists_string_of_asked {v : Value} (h : Asked f.project f.component v) :
    ∃ s, v = .string s := by
  cases h with
  | ofProject hkey hv =>
    have hmem := Fields.mem_of_get? hv
    simp only [project, List.mem_cons, Prod.mk.injEq, List.not_mem_nil, or_false] at hmem
    rcases hmem with ⟨-, rfl⟩ | ⟨-, rfl⟩ | ⟨-, rfl⟩ <;> exact ⟨_, rfl⟩
  | ofComponent hkey hv =>
    simp only [List.mem_cons, List.not_mem_nil, or_false] at hkey
    rcases hkey with rfl | rfl | rfl <;> exact ⟨_, (Option.some.inj hv).symm⟩
  | ofBuildType hitems hfields hv =>
    cases (Except.ok.inj hitems : f.buildTypes.map Value.string = _)
    obtain ⟨_, -, hstring⟩ := List.mem_map.1 hfields
    cases hstring
  | ofMachine hitems hfields hkey hv =>
    cases (Except.ok.inj hitems : f.machines.map Value.string = _)
    obtain ⟨_, -, hstring⟩ := List.mem_map.1 hfields
    cases hstring
  | linkage hitems hv =>
    cases (entries_linkages f).symm.trans hitems
    obtain ⟨s, -, rfl⟩ := List.mem_map.1 hv
    exact ⟨s, rfl⟩

theorem readType_component (hf : f.Answered) :
    readType host f.component = .ok .library ∧ f.linkages.isSome ∨
      readType host f.component = .ok .application ∧ f.linkages = none := by
  have htext : textOf host f.component "type" "library" = .ok f.type := host.spell_string f.type
  unfold readType
  rw [htext]
  rcases hf.type with ⟨ht, hl⟩ | ⟨ht, hl⟩
  · exact .inl ⟨by rw [ht]; decide, hl⟩
  · exact .inr ⟨by rw [ht]; decide, hl⟩

theorem has_linkages (h : f.linkages.isSome) : Fields.has "linkages" f.component := by
  obtain ⟨ls, hls⟩ := Option.isSome_iff_exists.1 h
  unfold component
  rw [hls]
  rfl

theorem linkages_assembled {p : Parts} (h : f.linkages.isSome) (ht : p.type = .library) :
    (p.assembled host f.component).linkages = p.linkages.eraseDups := by
  simp [Parts.assembled, ht, has_linkages h]

theorem namesApart_assembled {p : Parts}
    (hb : (f.buildTypes.map Value.string).mapM (readBuildType host) = .ok p.buildTypes) :
    NamesApart (p.assembled host f.component).buildTypes := by
  have hdefaults : ∀ t ∈ BuildType.defaults, ∀ t' ∈ BuildType.defaults,
      t.name = t'.name → t = t' := by decide
  have hmem : ∀ t ∈ (if p.buildTypes.isEmpty then BuildType.defaults else p.buildTypes),
      t ∈ BuildType.defaults := by
    intro t ht
    split_ifs at ht
    · exact ht
    · obtain ⟨v, hv, hread⟩ := exists_of_mem_mapM hb ht
      obtain ⟨name, -, rfl⟩ := List.mem_map.1 hv
      exact mem_defaults_of_readBuildType hread
  exact fun t ht t' ht' hname => hdefaults t (hmem t ht) t' (hmem t' ht') hname

theorem sound_of_valid (hf : f.Answered) {s : Specification}
    (hs : (ofSettings host (.table f.settings)).result = .ok s)
    (hvalid : (s.listedConfiguration host).Valid) : f.Sound := by
  obtain ⟨_, _, p, htables, hp, rfl⟩ := ofSettings_eq_ok_iff.1 hs
  cases (tables_settings f).symm.trans htables
  have hname : p.name = f.name := (Except.ok.inj ((host.spell_string f.name).symm.trans hp.name)).symm
  have hb : (f.buildTypes.map Value.string).mapM (readBuildType host) = .ok p.buildTypes :=
    hp.buildTypes
  have hl := hp.linkages
  rw [entries_linkages] at hl
  refine ⟨hname ▸ hp.named, fun t ht => ?_, fun ls hls => ?_⟩
  · exact isOk_readBuildType_iff.1 (isOk_mapM_iff.1 (by rw [hb]; rfl) _ (List.mem_map_of_mem ht))
  · rw [hls] at hl
    have hl : (ls.map Value.string).mapM (readLinkage host) = .ok p.linkages := hl
    refine ⟨?_, fun l hmem => ?_⟩
    · -- a library without linkages is read, but it has no variants
      rintro rfl
      have hnone : p.linkages = [] := (Except.ok.inj hl).symm
      rcases readType_component hf with ⟨hlibrary, hsome⟩ | ⟨-, hmissing⟩
      · have ht : p.type = .library := Except.ok.inj (hp.type.symm.trans hlibrary)
        refine not_valid_listedConfiguration ht ?_ hvalid
        rw [linkages_assembled hsome ht, hnone, List.eraseDups_nil]
      · cases hls.symm.trans hmissing
    · exact isOk_readLinkage_iff.1
        (isOk_mapM_iff.1 (by rw [hl]; rfl) _ (List.mem_map_of_mem hmem))

theorem exists_buildTypes (hs : f.Sound) : ∃ buildTypes,
    (f.buildTypes.map Value.string).mapM (readBuildType host) = .ok buildTypes :=
  exists_of_isOk <| isOk_mapM_iff.2 <| List.forall_mem_map.2 fun t ht =>
    isOk_readBuildType_iff.2 (hs.buildTypes t ht)

theorem exists_machines (hf : f.Answered) : ∃ machines,
    (f.machines.map Value.string).mapM (readMachine host) = .ok machines :=
  exists_of_isOk <| isOk_mapM_iff.2 <| List.forall_mem_map.2 fun m hm =>
    isOk_readMachine_iff.2 (hf.machines_written m hm)

theorem exists_linkages (hs : f.Sound) : ∃ linkages,
    ((f.linkages.getD []).map Value.string).mapM (readLinkage host) = .ok linkages ∧
      (f.linkages.isSome → linkages ≠ []) := by
  cases hls : f.linkages with
  | none => exact ⟨[], rfl, nofun⟩
  | some ls =>
    obtain ⟨hne, hknown⟩ := hs.linkages ls hls
    obtain ⟨l, more, rfl⟩ := List.exists_cons_of_ne_nil hne
    obtain ⟨linkages, hl⟩ := exists_of_isOk <| isOk_mapM_iff.2 <| List.forall_mem_map.2
      fun l hmem => isOk_readLinkage_iff.2 (hknown l hmem)
    refine ⟨linkages, hl, fun _ => ?_⟩
    rintro rfl
    rw [List.map_cons, List.mapM_cons] at hl
    obtain ⟨_, -, hl⟩ := Logged.bind_eq_ok_iff.1 hl
    obtain ⟨_, -, hl⟩ := Logged.bind_eq_ok_iff.1 hl
    cases hl

theorem exists_valid_of_sound (hf : f.Answered) (hs : f.Sound) (host : Host) :
    ∃ s, (ofSettings host (.table f.settings)).result = .ok s ∧
      (s.listedConfiguration host).Valid := by
  obtain ⟨buildTypes, hb⟩ := exists_buildTypes hs
  obtain ⟨machines, hm⟩ := exists_machines hf
  obtain ⟨linkages, hl, hne⟩ := exists_linkages hs
  obtain ⟨type, htype, hlibrary⟩ : ∃ type, readType host f.component = .ok type ∧
      (type = .library → f.linkages.isSome) := by
    rcases readType_component hf with ⟨h, hsome⟩ | ⟨h, -⟩
    · exact ⟨_, h, fun _ => hsome⟩
    · exact ⟨_, h, nofun⟩
  obtain ⟨baseName, hbase⟩ : ∃ baseName, baseNameOf host f.component (Text.trim f.name) =
      .ok baseName := by
    have hget : f.component.get? "base_name" = some (.string f.name) := rfl
    unfold baseNameOf
    rw [hget]
    dsimp only
    split
    · exact ⟨_, host.spell_string f.name⟩
    · exact ⟨_, rfl⟩
  let p : Parts := ⟨f.name, type, buildTypes, machines, linkages, f.group, f.version, baseName,
    f.language⟩
  have hp : p.Read host f.project f.component :=
    { name := host.spell_string _
      named := hs.name
      type := htype
      buildTypes := hb
      machines := hm
      linkages := by rw [entries_linkages]; exact hl
      group := host.spell_string _
      version := host.spell_string _
      baseName := hbase
      language := host.spell_string _ }
  have hread : (ofSettings host (.table f.settings)).result = .ok (p.assembled host f.component) :=
    ofSettings_eq_ok_iff.2 ⟨_, _, p, tables_settings f, hp, rfl⟩
  refine ⟨_, hread, (valid_listedConfiguration_iff (complete_of_ofSettings hread) fun ht => ?_).2
    (namesApart_assembled hb)⟩
  have ht : p.type = .library := ht
  rw [linkages_assembled (hlibrary ht) ht, ne_eq, eraseDups_eq_nil_iff]
  exact hne (hlibrary ht)

/-! ### Its settings in another order -/

theorem distinct_texts (ss : List String) : (texts ss).Distinct := by
  rw [texts, Value.distinct_list_iff, List.forall_mem_map]
  exact fun s _ => trivial

theorem distinct_settings (f : Form) : (Value.table f.settings).Distinct := by
  have hproject : (Value.table f.project).Distinct := by
    refine ⟨?_, trivial, trivial, trivial, trivial⟩
    change ["name", "group", "version"].Nodup
    decide
  have hcomponent : (Value.table f.component).Distinct := by
    unfold component
    cases f.linkages with
    | none =>
      refine ⟨?_, trivial, trivial, trivial, distinct_texts _, distinct_texts _, trivial⟩
      change ["type", "base_name", "language", "build_types", "target_machines"].Nodup
      decide
    | some ls =>
      refine ⟨?_, trivial, trivial, trivial, distinct_texts _, distinct_texts _, distinct_texts ls,
        trivial⟩
      change ["type", "base_name", "language", "build_types", "target_machines", "linkages"].Nodup
      decide
  refine ⟨?_, hproject, hcomponent, trivial⟩
  change ["project", "component"].Nodup
  decide

variable {found project component : Table}

/-- Only texts are asked for, in whatever order the keys of the settings are. -/
theorem exists_string_of_found (h : Value.SameTree (.table f.settings) (.table found))
    (ht : tables (.table found) = .ok (project, component)) {v : Value}
    (hv : Asked project component v) : ∃ s, v = .string s := by
  obtain ⟨_, htables, hproject, hcomponent⟩ := mirrored_tables h.symm _ ht
  cases (tables_settings f).symm.trans htables
  obtain ⟨w, hw, hsame⟩ := hv.exists_of_sameTree hproject hcomponent
  obtain ⟨s, rfl⟩ := exists_string_of_asked hw
  exact ⟨s, (Value.eq_of_canonical_eq (v := .string s) nofun hsame.canonical.symm).symm⟩

theorem not_asksTable_of_found (h : Value.SameTree (.table f.settings) (.table found)) :
    ¬ AsksTable found := by
  rintro ⟨project, component, v, htables, hasked, hholds⟩
  obtain ⟨s, rfl⟩ := exists_string_of_found h htables hasked
  cases hholds

/-- The settings of a form are read alike in whatever order their keys are. -/
theorem ofSettings_found_eq_ok_iff (h : Value.SameTree (.table f.settings) (.table found))
    {s : Specification} : (ofSettings host (.table found)).result = .ok s ↔
      (ofSettings host (.table f.settings)).result = .ok s := by
  have hrefl : Value.SameTree (.table f.settings) (.table f.settings) :=
    ⟨f.distinct_settings, f.distinct_settings, rfl⟩
  constructor
  · intro hs
    obtain ⟨s', hs', hsame⟩ := mirrored_ofSettings h.symm host s hs
    rw [hs', hsame.resolve_right (not_asksTable_of_found h)]
  · intro hs
    obtain ⟨s', hs', hsame⟩ := mirrored_ofSettings h host s hs
    rw [hs', hsame.resolve_right (not_asksTable_of_found hrefl)]

theorem onlyFaults_ofSettings (h : Value.SameTree (.table f.settings) (.table found))
    (host : Host) : OnlyFaults (ofSettings host (.table found)).result := by
  refine (failsFor_ofSettings host found).onlyFaults ?_
  rintro v ⟨project, component, htables, hasked⟩
  obtain ⟨s, rfl⟩ := exists_string_of_found h htables hasked
  rw [host.spell_string]
  rfl

/-- The variants of the settings of a form that answers fill in are listed exactly if it is sound, and
if it is not, there is a fault in the configuration. -/
theorem variantsIn_succeedsIff (hf : f.Answered)
    (h : Value.SameTree (.table f.settings) (.table found)) (host : Host) :
    SucceedsIff (variantsIn host found) f.Sound where
  onlyFaults := (onlyFaults_ofSettings h host).bind fun s _ =>
    (variantsOf_succeedsIff_valid host s).onlyFaults
  isOk_iff := by
    rw [variantsIn_isOk_iff]
    simp only [ofSettings_found_eq_ok_iff h]
    exact ⟨fun ⟨_, hs, hvalid⟩ => sound_of_valid hf hs hvalid,
      fun hs => exists_valid_of_sound hf hs host⟩

end Form

end Questionnaire

end NativeVariants
