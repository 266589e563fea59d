import NativeVariants.Proofs.EditLaws
import NativeVariants.Proofs.Rereading

/-!
# Settings that are stored

A text that `store` puts under the key of a name, a group or a version is what a component is read with
afterwards (`Settings.reads_stored_text`). Two words are read otherwise, since they are stored as truth
values (`TextField.wordFor`). The proof follows the text: to the value that stands for it
(`TextField.readValue_key`), with the value into the table (`TextField.exists_read_after`), and with
the table through the settings file, which gives back the same tree (`Settings.sameTree_of_store`) and
with that settings that are read alike (`Specification.mirrored_ofSettings`).
-/

namespace NativeVariants

/-- The texts of a specification that have a key of their own. -/
inductive TextField where
  | projectName
  | group
  | version
  | baseName
  deriving DecidableEq, Repr, Inhabited

namespace TextField

def table : TextField → String
  | baseName => "component"
  | _ => "project"

def name : TextField → String
  | projectName => "name"
  | group => "group"
  | version => "version"
  | baseName => "base_name"

def key (f : TextField) : String :=
  f.table ++ "." ++ f.name

def of (s : Specification) : TextField → String
  | projectName => s.projectName
  | group => s.group
  | version => s.version
  | baseName => s.baseName

/-- The text of the field as it is given. The name of a project is trimmed. -/
def given (text : String) : TextField → String
  | projectName => Text.trim text
  | _ => text

/-- A text as it is read after it was stored: the words for truth values are read as these. -/
def wordFor (text : String) : String :=
  if Text.lower text = "true" then "True"
  else if Text.lower text = "false" then "False"
  else text

/-- What a text is read as that was stored for the field. A base name that is false counts as none, so
that it is the name of the project. -/
def afterStoring (s : Specification) (text : String) (f : TextField) : String :=
  if f = baseName ∧ Text.lower text = "false" then s.projectName else f.given (wordFor text)

/-- `s'` is `s` but for the field `f`. -/
structure Keeps (f : TextField) (s s' : Specification) : Prop where
  /-- The other texts stay, but for a base name that is the name of the project. -/
  others : ∀ g, g ≠ f → g.of s' = g.of s ∨
    f = projectName ∧ g = baseName ∧ s'.baseName = s'.projectName
  rest : s' = { s with
    projectName := s'.projectName
    group := s'.group
    version := s'.version
    baseName := s'.baseName }

end TextField

namespace Specification

variable {host : Host} {key other : String}

theorem textOf_put_self (t : Table) (key default : String) (v : Value) :
    textOf host (Fields.put key v t) key default = host.spell v :=
  textOf_of_get? (Fields.get?_put_self ..) default

theorem textOf_put_of_ne (h : key ≠ other) (t : Table) (default : String) (v : Value) :
    textOf host (Fields.put key v t) other default = textOf host t other default := by
  simp only [textOf, Fields.get?_put_of_ne v t h]

theorem entries_put_of_ne (h : key ≠ other) (t : Table) (v : Value) :
    entries (Fields.put key v t) other = entries t other := by
  simp only [entries, Fields.get?_put_of_ne v t h]

theorem has_put_of_ne (h : key ≠ other) (t : Table) (v : Value) :
    Fields.has other (Fields.put key v t) = Fields.has other t := by
  simp only [Fields.has, Fields.get?_put_of_ne v t h]

theorem readType_put_of_ne (h : key ≠ "type") (t : Table) (v : Value) :
    readType host (Fields.put key v t) = readType host t := by
  unfold readType
  rw [textOf_put_of_ne h]

theorem baseNameOf_put_of_ne (h : key ≠ "base_name") (t : Table) (v : Value) (name : String) :
    baseNameOf host (Fields.put key v t) name = baseNameOf host t name := by
  simp only [baseNameOf, Fields.get?_put_of_ne v t h]

/-- Settings that are accepted have a name for the project. -/
theorem ne_nil_of_ofSettings {fields : Table} {s : Specification}
    (h : (ofSettings host (.table fields)).result = .ok s) : fields ≠ [] := by
  rintro rfl
  obtain ⟨project, component, p, htables, hp, -⟩ := ofSettings_eq_ok_iff.1 h
  obtain ⟨hproject, -⟩ := tables_eq_ok_iff.1 htables
  cases hproject
  have hname : p.name = "" := (Except.ok.inj hp.name).symm
  refine hp.named ?_
  rw [hname]
  rfl

/-- The base name of a component is its own, or it follows the name of the project. -/
theorem baseNameOf_eq_or (host : Host) (component : Table) :
    (∀ name other, baseNameOf host component name = baseNameOf host component other) ∨
      ∀ name, baseNameOf host component name = .ok name := by
  unfold baseNameOf
  cases component.get? "base_name" with
  | none => exact .inr fun _ => rfl
  | some v =>
    dsimp only
    split_ifs
    · exact .inl fun _ _ => rfl
    · exact .inr fun _ => rfl

end Specification

namespace TextField

open Specification Settings

variable {host : Host} {fields project component inner : Table} {s : Specification}
  {f : TextField} {text key : String} {v w : Value} {p : Parts}

/-! ### The value that is stored -/

theorem readValue_key (f : TextField) (text : String) :
    readValue f.key text =
      if Text.lower text = "true" then .bool true
      else if Text.lower text = "false" then .bool false
      else .string text := by
  have hkey : listKeys.contains f.key = false := by cases f <;> decide
  unfold readValue
  rw [hkey]
  rfl

theorem spell_readValue (host : Host) (f : TextField) (text : String) :
    host.spell (readValue f.key text) = .ok (wordFor text) := by
  rw [readValue_key, wordFor]
  split_ifs
  · exact Host.within_eq_ok_iff.2 ⟨Nat.zero_le _, rfl⟩
  · exact Host.within_eq_ok_iff.2 ⟨Nat.zero_le _, rfl⟩
  · exact host.spell_string text

theorem truthy_readValue (f : TextField) (ht : text ≠ "") :
    (readValue f.key text).truthy ↔ Text.lower text ≠ "false" := by
  rw [readValue_key]
  by_cases htrue : Text.lower text = "true"
  · simp [htrue, Value.truthy]
  · by_cases hfalse : Text.lower text = "false"
    · simp [hfalse, Value.truthy]
    · simp [htrue, hfalse, Value.truthy, ht]

theorem trim_wordFor_ne (h : Text.trim text ≠ "") : Text.trim (wordFor text) ≠ "" := by
  unfold wordFor
  split_ifs
  · decide
  · decide
  · exact h

/-! ### Where it is stored -/

theorem assign_key (f : TextField) (v : Value)
    (h : (Fields.get? f.table fields).getD (.table []) = .table inner) :
    assign f.key v fields =
      .ok (Fields.put f.table (.table (Fields.put f.name v inner)) fields) := by
  have hpath : Path.ofKey f.key = ⟨[f.table], f.name⟩ := by cases f <;> decide
  simp only [assign, hpath, put, h]
  rfl

/-- The table of the project after a value was stored. -/
def projectAfter (project : Table) (v : Value) : TextField → Table
  | projectName => Fields.put "name" v project
  | group => Fields.put "group" v project
  | version => Fields.put "version" v project
  | baseName => project

def componentAfter (component : Table) (v : Value) : TextField → Table
  | baseName => Fields.put "base_name" v component
  | _ => component

theorem exists_assign (h : tables (.table fields) = .ok (project, component)) (f : TextField)
    (v : Value) : ∃ changed, assign f.key v fields = .ok changed ∧
      tables (.table changed) = .ok (f.projectAfter project v, f.componentAfter component v) := by
  obtain ⟨hp, hc⟩ := tables_eq_ok_iff.1 h
  have hput {key other : String} (hne : key ≠ other) (t : Value) :
      Fields.get? other (Fields.put key t fields) = Fields.get? other fields :=
    Fields.get?_put_of_ne t fields hne
  cases f with
  | baseName =>
    refine ⟨_, assign_key baseName v hc, tables_eq_ok_iff.2 ⟨?_, ?_⟩⟩
    · rw [table, hput (by decide), hp]
      rfl
    · rw [table, Fields.get?_put_self]
      rfl
  | _ =>
    refine ⟨_, assign_key _ v hp, tables_eq_ok_iff.2 ⟨?_, ?_⟩⟩
    · rw [table, Fields.get?_put_self]
      · rfl
      · decide
    · rw [table, hput (by decide), hc]
      · rfl
      · decide

/-! ### What is read afterwards -/

/-- The table of the two that has the field. -/
def tableIn (project component : Table) : TextField → Table
  | baseName => component
  | _ => project

/-- What is read of a field for which a text was stored. -/
theorem of_assembled (h : p.Read host project component)
    (hget : (f.tableIn project component).get? f.name = some (readValue f.key text)) (ht : text ≠ "") :
    f.of (p.assembled host component) = f.afterStoring (p.assembled host component) text := by
  have hword {default : String} : textOf host (f.tableIn project component) f.name default =
      .ok (wordFor text) :=
    (textOf_of_get? hget default).trans (spell_readValue host f text)
  cases f with
  | projectName => exact congrArg Text.trim (Except.ok.inj (h.name.symm.trans hword))
  | group => exact Except.ok.inj (h.group.symm.trans hword)
  | version => exact Except.ok.inj (h.version.symm.trans hword)
  | baseName =>
    have hbase := h.baseName
    have hget : component.get? "base_name" = some (readValue (key baseName) text) := hget
    unfold baseNameOf at hbase
    rw [hget] at hbase
    dsimp only at hbase
    simp only [spell_readValue, truthy_readValue baseName ht] at hbase
    unfold afterStoring
    by_cases hfalse : Text.lower text = "false"
    · rw [if_neg (fun hne => hne hfalse)] at hbase
      rw [if_pos ⟨rfl, hfalse⟩]
      exact (Except.ok.inj hbase).symm
    · rw [if_pos hfalse] at hbase
      rw [if_neg (fun hboth => hfalse hboth.2)]
      exact (Except.ok.inj hbase).symm

theorem get?_projectAfter (h : (f.projectAfter project v).get? key = some w) :
    w = v ∨ project.get? key = some w := by
  cases f with
  | baseName => exact .inr h
  | _ =>
    rw [projectAfter, Fields.get?_put] at h
    split_ifs at h
    · exact .inl (Option.some.inj h).symm
    · exact .inr h

theorem get?_componentAfter (h : (f.componentAfter component v).get? key = some w) :
    w = v ∨ component.get? key = some w := by
  cases f with
  | baseName =>
    rw [componentAfter, Fields.get?_put] at h
    split_ifs at h
    · exact .inl (Option.some.inj h).symm
    · exact .inr h
  | _ => exact .inr h

/-- A value without tables that was stored is found in another order of keys. -/
theorem get?_tableIn_of_sameTree {project' component' : Table}
    (hp : Value.SameTree (.table (f.projectAfter project v)) (.table project'))
    (hc : Value.SameTree (.table (f.componentAfter component v)) (.table component'))
    (hv : ¬ v.HoldsTable) : (f.tableIn project' component').get? f.name = some v := by
  have hfound {t u : Table} (h : Value.SameTree (.table t) (.table u)) {key : String}
      (ht : t.get? key = some v) : u.get? key = some v := by
    obtain ⟨w, hw, hsame⟩ := h.exists_get? ht
    rw [hw, Value.eq_of_canonical_eq hv hsame.canonical]
  cases f with
  | baseName => exact hfound hc (Fields.get?_put_self ..)
  | _ => exact hfound hp (Fields.get?_put_self ..)

theorem entries_componentAfter (h : "base_name" ≠ key) (f : TextField) (component : Table)
    (v : Value) : entries (f.componentAfter component v) key = entries component key := by
  cases f with
  | baseName => exact entries_put_of_ne h ..
  | _ => rfl

/-- Nothing is asked for that was not before, but what is stored. -/
theorem asked_of_after (h : Asked (f.projectAfter project v) (f.componentAfter component v) w) :
    w = v ∨ Asked project component w := by
  cases h with
  | ofProject hkey hw => exact (get?_projectAfter hw).imp_right (.ofProject hkey)
  | ofComponent hkey hw => exact (get?_componentAfter hw).imp_right (.ofComponent hkey)
  | ofBuildType hitems hfields hw =>
    rw [entries_componentAfter (by decide)] at hitems
    exact .inr (.ofBuildType hitems hfields hw)
  | ofMachine hitems hfields hkey hw =>
    rw [entries_componentAfter (by decide)] at hitems
    exact .inr (.ofMachine hitems hfields hkey hw)
  | linkage hitems hw =>
    rw [entries_componentAfter (by decide)] at hitems
    exact .inr (.linkage hitems hw)

/-- The parts of settings in which a text was stored for a field. -/
theorem exists_read_after (h : p.Read host project component) (ht : Text.trim text ≠ "")
    (f : TextField) :
    ∃ p' : Parts, p'.Read host (f.projectAfter project (readValue f.key text))
        (f.componentAfter component (readValue f.key text)) ∧
      f.Keeps (p.assembled host component)
        (p'.assembled host (f.componentAfter component (readValue f.key text))) := by
  have hspell := spell_readValue host f text
  cases f with
  | projectName =>
    obtain ⟨baseName, hbase, hfollows⟩ : ∃ baseName,
        baseNameOf host component (Text.trim (wordFor text)) = .ok baseName ∧
          (baseName = p.baseName ∨ baseName = Text.trim (wordFor text)) := by
      rcases baseNameOf_eq_or host component with hown | hnone
      · exact ⟨_, (hown _ _).trans h.baseName, .inl rfl⟩
      · exact ⟨_, hnone _, .inr rfl⟩
    refine ⟨{ p with name := wordFor text, baseName },
      { h with
        name := (textOf_put_self ..).trans hspell
        named := trim_wordFor_ne ht
        group := (textOf_put_of_ne (by decide) ..).trans h.group
        version := (textOf_put_of_ne (by decide) ..).trans h.version
        baseName := hbase }, ⟨fun g hg => ?_, rfl⟩⟩
    cases g with
    | projectName => exact absurd rfl hg
    | baseName =>
      rcases hfollows with hkept | hname
      · exact .inl hkept
      · exact .inr ⟨rfl, rfl, hname⟩
    | group => exact .inl (Eq.refl p.group)
    | version => exact .inl (Eq.refl p.version)
  | group =>
    refine ⟨{ p with group := wordFor text },
      { h with
        name := (textOf_put_of_ne (by decide) ..).trans h.name
        group := (textOf_put_self ..).trans hspell
        version := (textOf_put_of_ne (by decide) ..).trans h.version }, ⟨fun g hg => ?_, rfl⟩⟩
    cases g with
    | group => exact absurd rfl hg
    | _ => exact .inl rfl
  | version =>
    refine ⟨{ p with version := wordFor text },
      { h with
        name := (textOf_put_of_ne (by decide) ..).trans h.name
        group := (textOf_put_of_ne (by decide) ..).trans h.group
        version := (textOf_put_self ..).trans hspell }, ⟨fun g hg => ?_, rfl⟩⟩
    cases g with
    | version => exact absurd rfl hg
    | _ => exact .inl rfl
  | baseName =>
    obtain ⟨baseName, hbase⟩ : ∃ baseName, baseNameOf host
        (Fields.put "base_name" (readValue (key .baseName) text) component) (Text.trim p.name) =
          .ok baseName := by
      simp only [baseNameOf, Fields.get?_put_self]
      split_ifs
      · exact ⟨_, hspell⟩
      · exact ⟨_, rfl⟩
    refine ⟨{ p with baseName },
      { h with
        type := (readType_put_of_ne (by decide) ..).trans h.type
        buildTypes := by
          rw [componentAfter, entries_put_of_ne (by decide)]
          exact h.buildTypes
        machines := by
          rw [componentAfter, entries_put_of_ne (by decide)]
          exact h.machines
        linkages := by
          rw [componentAfter, entries_put_of_ne (by decide)]
          exact h.linkages
        baseName := hbase
        language := (textOf_put_of_ne (by decide) ..).trans h.language }, ⟨fun g hg => ?_, ?_⟩⟩
    · cases g with
      | baseName => exact absurd rfl hg
      | _ => exact .inl rfl
    · rw [componentAfter, Parts.assembled, Parts.assembled, has_put_of_ne (by decide)]

end TextField

namespace Settings

open Session TextField

variable {directory : String} {w : World} {log place : Place}

/-- Settings that reload are found after they were stored, in some order. -/
theorem sameTree_of_store (hlaw : w.format.Lawful) (hl : w.files.Writable w.sessionLog log)
    (hapart : w.files.locate (filePath directory) ≠ .ok log) (hne : loaded directory w ≠ [])
    {key text : String} {changed : Table}
    (ha : assign key (readValue key text) (loaded directory w) = .ok changed)
    (hr : Reloads w.format changed) :
    ∃ w', (store directory key text).outcome w = (.ok (), w') ∧ w'.host = w.host ∧
      Value.SameTree (.table changed) (.table (loaded directory w')) := by
  obtain ⟨place, hf, hplace⟩ := exists_writable_of_loaded hl hapart hne
  have h : Holds directory w log place (loaded directory w) := holds_of_loaded hlaw hl hf hplace hne
  obtain ⟨written, found, hw, hp, hcanonical⟩ := hr.exists_found
  have hresult : (Edit.set key text).result? (loaded directory w) = some changed :=
    Edit.result?_set_eq_some_iff.2 ⟨hne, ha⟩
  have hfound := Edit.holds_written (e := .set key text) h hp
  refine ⟨_, Edit.outcome_run_of_written h hresult hw, rfl, ?_⟩
  rw [hfound.loaded_eq]
  exact ⟨Edit.distinct_result? h.distinct hresult, hfound.distinct, hcanonical.symm⟩

/-- What is stored under the key of a text is read as this text, but for the words of truth values, and
nothing else of the specification changes, unless a table stands where a text is asked for. -/
theorem reads_stored_text (hlaw : w.format.Lawful) (hl : w.files.Writable w.sessionLog log)
    (hapart : w.files.locate (filePath directory) ≠ .ok log) {s : Specification}
    (hs : (Specification.ofSettings w.host (.table (loaded directory w))).result = .ok s)
    {text : String} (ht : Text.trim text ≠ "") (f : TextField)
    (hr : (Edit.set f.key text).Reloads directory w) :
    ∃ w' s', (store directory f.key text).outcome w = (.ok (), w') ∧
      (Specification.ofSettings w'.host (.table (loaded directory w'))).result = .ok s' ∧
      f.of s' = f.afterStoring s' text ∧
      (¬ Specification.AsksTable (loaded directory w) → f.Keeps s s') := by
  obtain ⟨project, component, p, htables, hp, rfl⟩ := Specification.ofSettings_eq_ok_iff.1 hs
  obtain ⟨changed, hassign, hafter⟩ := exists_assign htables f (readValue f.key text)
  obtain ⟨p', hp', hkeeps⟩ := exists_read_after hp ht f
  have hne : loaded directory w ≠ [] := Specification.ne_nil_of_ofSettings hs
  obtain ⟨w', hstore, hhost, hsame⟩ := sameTree_of_store hlaw hl hapart hne hassign
    (hr changed (Edit.result?_set_eq_some_iff.2 ⟨hne, hassign⟩))
  obtain ⟨s', hs', hsame'⟩ := Specification.mirrored_ofSettings hsame w'.host _
    (Specification.ofSettings_eq_ok_iff.2 ⟨_, _, p', hafter, hhost ▸ hp', rfl⟩)
  refine ⟨w', s', hstore, hs', ?_, fun hfree => ?_⟩
  · -- what was stored is found, whatever became of the order of keys
    obtain ⟨project', component', q, htables', hq, rfl⟩ := Specification.ofSettings_eq_ok_iff.1 hs'
    obtain ⟨_, hfound, hproject, hcomponent⟩ := Specification.mirrored_tables hsame _ hafter
    cases htables'.symm.trans hfound
    refine of_assembled hq ?_ (by rintro rfl; exact ht rfl)
    exact get?_tableIn_of_sameTree hproject hcomponent (not_holdsTable_readValue f.key text)
  · have hfree' : ¬ Specification.AsksTable changed := by
      rintro ⟨_, _, v, hfound, hasked, hholds⟩
      cases hafter.symm.trans hfound
      rcases asked_of_after hasked with rfl | hasked
      · exact not_holdsTable_readValue f.key text hholds
      · exact hfree ⟨_, _, v, htables, hasked, hholds⟩
    rw [← hsame'.resolve_right hfree', hhost]
    exact hkeeps

/-- A world without a log yet, whose settings have their keys in another order once they are written. -/
def storeroom : World :=
  worldOf "project.name=\"r\"\nv=1"

theorem writable_storeroom : storeroom.files.Writable storeroom.sessionLog ["session.log"] :=
  .of_isNone (by decide +kernel) (by decide +kernel)

def stored : Specification where
  projectName := "r"
  group := ""
  version := "unspecified"
  type := .library
  baseName := "r"
  language := "cpp"
  buildTypes := BuildType.defaults
  machines := [⟨"linux", "x86-64"⟩]
  linkages := [.shared]

theorem loaded_storeroom :
    loaded "." storeroom = [("project", .table [("name", .string "r")]), ("v", .int 1)] := by
  decide +kernel

theorem accepted_storeroom :
    (Specification.ofSettings storeroom.host (.table (loaded "." storeroom))).result = .ok stored := by
  decide +kernel

theorem not_asksTable_storeroom : ¬ Specification.AsksTable (loaded "." storeroom) := by
  rw [loaded_storeroom]
  rintro ⟨project, component, v, htables, hasked, hholds⟩
  obtain ⟨hproject, hcomponent⟩ := Specification.tables_eq_ok_iff.1 htables
  cases hproject
  cases hcomponent
  cases hasked with
  | ofProject hkey hv =>
    cases List.mem_singleton.1 (Fields.mem_of_get? hv)
    cases hholds
  | ofComponent hkey hv => cases hv
  | ofBuildType hitems hfields hv =>
    cases hitems
    cases hfields
  | ofMachine hitems hfields hkey hv =>
    cases hitems
    cases hfields
  | linkage hitems hv =>
    cases hitems
    cases hv

/-- A name with quotes inside and blanks around it. -/
def quoted : String := " \"r\" "

theorem reads_stored_text_quoted :
    storeroom.files.locate (filePath ".") ≠ .ok ["session.log"] ∧ Text.trim quoted ≠ "" ∧
      (Specification.ofSettings storeroom.host (.table (loaded "." storeroom))).result = .ok stored ∧
      (Edit.set TextField.projectName.key quoted).Reloads "." storeroom ∧
      ∃ w' s', (store "." TextField.projectName.key quoted).outcome storeroom = (.ok (), w') ∧
        (Specification.ofSettings w'.host (.table (loaded "." w'))).result = .ok s' ∧
        s'.projectName = "\"r\"" ∧ TextField.projectName.Keeps stored s' := by
  have hapart : storeroom.files.locate (filePath ".") ≠ .ok ["session.log"] := by decide +kernel
  have ht : Text.trim quoted ≠ "" := by decide
  have hr : (Edit.set TextField.projectName.key quoted).Reloads "." storeroom := by decide +kernel
  obtain ⟨w', s', hstore, hs', hname, hkeeps⟩ := reads_stored_text Format.lawful_toml
    writable_storeroom hapart accepted_storeroom ht .projectName hr
  refine ⟨hapart, ht, accepted_storeroom, hr, w', s', hstore, hs', ?_, hkeeps not_asksTable_storeroom⟩
  have hquoted : TextField.projectName.afterStoring s' quoted = "\"r\"" := by
    rw [TextField.afterStoring, if_neg (fun h => by cases h.1)]
    decide +kernel
  exact hname.trans hquoted

def versionIn (w : World) : Option String :=
  (Specification.ofSettings w.host (.table (loaded "." w))).result.toOption.map (·.version)

theorem exists_of_versionIn {version : String} (h : versionIn w = some version) :
    ∃ s, (Specification.ofSettings w.host (.table (loaded "." w))).result = .ok s ∧
      s.version = version := by
  unfold versionIn at h
  cases hs : (Specification.ofSettings w.host (.table (loaded "." w))).result with
  | error failure =>
    rw [hs] at h
    cases h
  | ok s =>
    rw [hs] at h
    exact ⟨s, rfl, Option.some.inj h⟩

theorem not_reads_as_given :
    ¬ ∀ (directory : String) (w w' : World) (f : TextField) (text : String) (s s' : Specification),
      (Specification.ofSettings w.host (.table (loaded directory w))).result = .ok s →
      Text.trim text ≠ "" → (store directory f.key text).outcome w = (.ok (), w') →
      (Specification.ofSettings w'.host (.table (loaded directory w'))).result = .ok s' →
      f.of s' = f.given text := by
  intro h
  have hstore : ((store "." TextField.version.key "true").outcome storeroom).1 = .ok () := by
    decide +kernel
  have hread : (versionIn ((store "." TextField.version.key "true").outcome storeroom).2) =
      some "True" := by
    decide +kernel
  rcases hw : (store "." TextField.version.key "true").outcome storeroom with ⟨result, w'⟩
  rw [hw] at hstore hread
  have hend : result = .ok () := hstore
  obtain ⟨s', hs', hversion⟩ := exists_of_versionIn hread
  subst hend
  have hgiven : s'.version = "true" := h "." storeroom w' .version "true" stored s'
    accepted_storeroom (by decide) hw hs'
  rw [hversion] at hgiven
  exact absurd hgiven (by decide)

end Settings

end NativeVariants
