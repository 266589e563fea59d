import NativeVariants.Proofs.Forms
import NativeVariants.Proofs.Machines
import NativeVariants.Proofs.Storing

/-!
# Ways to write a machine

A machine to build for is written as a text with a colon or as a table with the two names. Both are
read as `ofNames` of the names if neither is blank (`Spells.readMachine_eq_ok_iff`), and a question
about machines takes just the texts that are read (`isMachineText_iff_of_accepted`). Settings as a whole
depend on the entries for machines only through what these are read as (`endAlike_ofSettings`).
-/

namespace NativeVariants

/-- Both are faults of the configuration, or both are the same value. -/
inductive ReadAlike {α : Type} : Except Failure α → Except Failure α → Prop
  | refused (fault fault' : ConfigurationFault) :
    ReadAlike (.error (.configuration fault)) (.error (.configuration fault'))
  | read (a : α) : ReadAlike (.ok a) (.ok a)

theorem ReadAlike.of_eq_ok_iff {α : Type} {x y : Except Failure α} (hx : OnlyFaults x)
    (hy : OnlyFaults y) (h : ∀ a, x = .ok a ↔ y = .ok a) : ReadAlike x y := by
  cases x with
  | ok a =>
    rw [(h a).1 rfl]
    exact .read a
  | error failure =>
    cases y with
    | ok a => cases (h a).2 rfl
    | error failure' =>
      obtain ⟨fault, rfl⟩ := hx failure rfl
      obtain ⟨fault', rfl⟩ := hy failure' rfl
      exact .refused fault fault'

theorem ReadAlike.eq_ok {α : Type} {x y : Except Failure α} (h : ReadAlike x y) {a : α}
    (hx : x = .ok a) : y = .ok a := by
  cases h with
  | refused => cases hx
  | read => exact hx

/-- Read alike, or the same in any case, failed for the same reason. -/
def EndAlike {α : Type} (x y : Except Failure α) : Prop :=
  ReadAlike x y ∨ x = y

namespace EndAlike

variable {α β : Type} {x y : Except Failure α} {f g : α → Except Failure β}

theorem same (x : Except Failure α) : EndAlike x x :=
  .inr rfl

theorem bind_left (h : EndAlike x y) (f : α → Except Failure β) :
    EndAlike (x.bind f) (y.bind f) := by
  rcases h with (⟨fault, fault'⟩ | a) | rfl
  · exact .inl (.refused fault fault')
  · exact .same (f a)
  · exact .same (x.bind f)

theorem bind_ok {a b : α} (hx : x = .ok a) (hy : y = .ok b) (h : EndAlike (f a) (g b)) :
    EndAlike (x.bind f) (y.bind g) := by
  subst hx hy
  exact h

theorem bind_right (x : Except Failure α) (h : ∀ a, EndAlike (f a) (g a)) :
    EndAlike (x.bind f) (x.bind g) := by
  cases x with
  | error failure => exact .same (.error failure)
  | ok a => exact h a

/-- One item of a list matters only for what is made of it. -/
theorem mapM {a a' : α} (h : EndAlike (f a) (f a')) (before after : List α) :
    EndAlike ((before ++ a :: after).mapM f) ((before ++ a' :: after).mapM f) := by
  induction before with
  | nil =>
    rw [List.nil_append, List.nil_append, List.mapM_cons, List.mapM_cons]
    exact h.bind_left _
  | cons c before ih =>
    rw [List.cons_append, List.cons_append, List.mapM_cons, List.mapM_cons]
    exact .bind_right _ fun b => ih.bind_left _

end EndAlike

theorem foldName_lower_trim (aliases : List (String × String)) (name : String) :
    foldName aliases (Text.lower (Text.trim name)) = foldName aliases name := by
  simp only [foldName, Text.trim_lower_trim, Text.lower_lower]

theorem Machine.ofNames_lower_trim (family architecture : String) :
    ofNames (Text.lower (Text.trim family)) (Text.lower (Text.trim architecture)) =
      ofNames family architecture := by
  simp only [ofNames, foldFamily, foldArchitecture, foldName_lower_trim]

namespace Specification

/-- The entries for a machine of two names. -/
inductive Spells (family architecture : String) : Value → Prop
  | text : Spells family architecture (.string (family ++ ":" ++ architecture))
  | table {fields : Table} (hf : Fields.get? "os" fields = some (.string family))
    (ha : Fields.get? "arch" fields = some (.string architecture)) :
    Spells family architecture (.table fields)

variable {family architecture : String} {e e' v v' : Value} {m : Machine} {host : Host}
  {settings component : Table} {s : Specification}

/-- An entry is read if neither name is blank, and as the machine of these names. -/
theorem Spells.readMachine_eq_ok_iff (h : Spells family architecture e)
    (hcolon : ':' ∉ family.toList) : readMachine host e = .ok m ↔
      Text.trim family ≠ "" ∧ Text.trim architecture ≠ "" ∧
        Machine.ofNames family architecture = m := by
  cases h with
  | text =>
    have hcut : Text.cut ':' (family ++ ":" ++ architecture) = (family, some architecture) :=
      Text.cut_append hcolon architecture
    have hparse : readMachine host (.string (family ++ ":" ++ architecture)) = .ok m ↔
        Machine.parse? (family ++ ":" ++ architecture) = some m := by
      unfold readMachine
      dsimp only
      cases Machine.parse? (family ++ ":" ++ architecture) <;> simp [refuse]
    rw [hparse, Machine.parse?_eq_some_iff, hcut]
    constructor
    · rintro ⟨_, _, heq, hf, ha, hm⟩
      cases heq
      exact ⟨hf, ha, hm⟩
    · rintro ⟨hf, ha, hm⟩
      exact ⟨family, architecture, rfl, hf, ha, hm⟩
  | @table fields hf ha =>
    have hfamily : textOf host fields "os" "" = .ok family :=
      (textOf_of_get? hf "").trans (host.spell_string family)
    have harchitecture : textOf host fields "arch" "" = .ok architecture :=
      (textOf_of_get? ha "").trans (host.spell_string architecture)
    have hempty (name : String) : Text.lower (Text.trim name) = "" ↔ Text.trim name = "" :=
      ⟨fun h => by_contra fun hne => Text.lower_ne_empty hne h, fun h => by rw [h]; rfl⟩
    have hread : readMachine host (.table fields) =
        if Text.trim family = "" ∨ Text.trim architecture = "" then refuse .incompleteMachine
        else .ok (Machine.ofNames family architecture) := by
      unfold readMachine
      dsimp only
      rw [hfamily, harchitecture]
      simp only [bind, Except.bind, Bool.or_eq_true, String.isEmpty_iff, hempty,
        Machine.ofNames_lower_trim]
      rfl
    rw [hread]
    by_cases hf : Text.trim family = "" <;> by_cases ha : Text.trim architecture = "" <;>
      simp [hf, ha, refuse]

theorem Spells.onlyFaults_readMachine (h : Spells family architecture e) (host : Host) :
    OnlyFaults (readMachine host e) := by
  have hfails : FailsFor host (fun v => ∃ s, v = .string s) (readMachine host e) := by
    refine failsFor_readMachine ?_
    rintro fields rfl key hkey name hname
    cases h with
    | table hf ha =>
      simp only [List.mem_cons, List.not_mem_nil, or_false] at hkey
      rcases hkey with rfl | rfl
      · exact ⟨family, Option.some.inj (hname.symm.trans hf)⟩
      · exact ⟨architecture, Option.some.inj (hname.symm.trans ha)⟩
  refine hfails.onlyFaults ?_
  rintro v ⟨s, rfl⟩
  rw [host.spell_string]
  rfl

theorem Spells.readAlike (h : Spells family architecture e) (h' : Spells family architecture e')
    (hcolon : ':' ∉ family.toList) (host : Host) :
    ReadAlike (readMachine host e) (readMachine host e') := by
  refine .of_eq_ok_iff (h.onlyFaults_readMachine host) (h'.onlyFaults_readMachine host) fun m => ?_
  rw [h.readMachine_eq_ok_iff hcolon, h'.readMachine_eq_ok_iff hcolon]

theorem readMachine_string_eq_ok_iff {text : String} :
    readMachine host (.string text) = .ok m ↔ Machine.parse text = .ok m := by
  rw [Machine.parse_eq_ok_iff, readMachine]
  cases Machine.parse? text <;> simp [refuse]

/-! ### Settings with other machines -/

/-- Settings with the table of a component whose machines are given by `v`. -/
def withMachines (settings component : Table) (v : Value) : Table :=
  Fields.put "component" (.table (Fields.put "target_machines" v component)) settings

/-- Where an entry stands: by itself or in a list. -/
inductive Slot where
  | alone
  | among (before after : List Value)

namespace Slot

def fill : Slot → Value → Value
  | alone, e => e
  | among before after, e => .list (before ++ e :: after)

def before : Slot → List Value
  | alone => []
  | among before _ => before

def after : Slot → List Value
  | alone => []
  | among _ after => after

end Slot

/-- What is read for machines from `v`. -/
def machinesIn (host : Host) (v : Value) : Except Failure (List Machine) :=
  (entries [("target_machines", v)] "target_machines").bind (·.mapM (readMachine host))

theorem machinesIn_list (items : List Value) :
    machinesIn host (.list items) = items.mapM (readMachine host) :=
  rfl

theorem Spells.machinesIn_fill (h : Spells family architecture e) (slot : Slot) :
    machinesIn host (slot.fill e) = (slot.before ++ e :: slot.after).mapM (readMachine host) := by
  cases slot with
  | among before after => rfl
  | alone =>
    have hentries : entries [("target_machines", e)] "target_machines" = .ok [e] := by
      unfold entries
      rw [Fields.get?_cons_self]
      cases h <;> rfl
    exact congrArg (Except.bind · (·.mapM (readMachine host))) hentries

theorem tables_withMachines_eq_ok_iff {project other : Table} :
    tables (.table (withMachines settings component v)) = .ok (project, other) ↔
      (Fields.get? "project" settings).getD (.table []) = .table project ∧
        Fields.put "target_machines" v component = other := by
  rw [tables_eq_ok_iff, withMachines, Fields.get?_put_of_ne _ _ (by decide), Fields.get?_put_self,
    Option.getD_some, Value.table.injEq]

theorem tables_withMachines_of_not_table
    (h : ∀ project, (Fields.get? "project" settings).getD (.table []) ≠ .table project) (v : Value) :
    tables (.table (withMachines settings component v)) = refuse .notTables := by
  unfold tables
  dsimp only
  split
  · rename_i hp _
    rw [withMachines, Fields.get?_put_of_ne _ _ (by decide)] at hp
    exact absurd hp (h _)
  · rfl

theorem entries_put_self (key : String) (v : Value) (t : Table) :
    entries (Fields.put key v t) key = entries [(key, v)] key := by
  unfold entries
  rw [Fields.get?_put_self, Fields.get?_cons_self]

/-- Settings end alike with entries for machines that do. -/
theorem endAlike_ofSettings (settings component : Table)
    (h : EndAlike (machinesIn host v) (machinesIn host v')) :
    EndAlike (ofSettings host (.table (withMachines settings component v))).result
      (ofSettings host (.table (withMachines settings component v'))).result := by
  simp only [ofSettings, Logged.result_bind, Logged.result_lift]
  by_cases hp : ∀ project, (Fields.get? "project" settings).getD (.table []) ≠ .table project
  · rw [tables_withMachines_of_not_table hp, tables_withMachines_of_not_table hp]
    exact .same (refuse .notTables)
  obtain ⟨project, hp⟩ := not_forall_not.1 hp
  refine .bind_ok (tables_withMachines_eq_ok_iff.2 ⟨hp, rfl⟩)
    (tables_withMachines_eq_ok_iff.2 ⟨hp, rfl⟩) (.bind_right _ fun name => ?_)
  dsimp only
  split
  · exact .same (.error (.configuration .unnamedProject))
  simp only [Logged.result_bind, Logged.result_lift, result_machinesOrHost, result_linkagesFor,
    readType_put_of_ne (show "target_machines" ≠ "type" by decide),
    entries_put_of_ne (show "target_machines" ≠ "build_types" by decide),
    entries_put_of_ne (show "target_machines" ≠ "linkages" by decide),
    has_put_of_ne (show "target_machines" ≠ "linkages" by decide),
    textOf_put_of_ne (show "target_machines" ≠ "language" by decide),
    baseNameOf_put_of_ne (show "target_machines" ≠ "base_name" by decide), entries_put_self]
  exact .bind_right _ fun type => .bind_right _ fun buildTypes => h.bind_left _

/-- What makes settings fail at an entry for machines is a fault, however it is written. -/
theorem readAlike_or_asksUnspelt (settings component : Table)
    (h : EndAlike (machinesIn host v) (machinesIn host v')) :
    ReadAlike (ofSettings host (.table (withMachines settings component v))).result
        (ofSettings host (.table (withMachines settings component v'))).result ∨
      ∃ failure, AsksUnspelt host (withMachines settings component v) failure ∧
        (ofSettings host (.table (withMachines settings component v))).result = .error failure ∧
        (ofSettings host (.table (withMachines settings component v'))).result = .error failure := by
  rcases endAlike_ofSettings settings component h with halike | heq
  · exact .inl halike
  · rw [← heq]
    rcases refused_or_sound host (withMachines settings component v) with
      ⟨fault, hr⟩ | ⟨s, hs, -⟩ | ⟨failure, hasks, hr⟩
    · rw [hr]
      exact .inl (.refused fault fault)
    · rw [hs]
      exact .inl (.read s)
    · exact .inr ⟨failure, hasks, hr, hr⟩

theorem Parts.Read.withMachines {p : Parts} {project : Table}
    (h : p.Read host project (Fields.put "target_machines" v component)) {machines : List Machine}
    (hm : machinesIn host v' = .ok machines) :
    { p with machines }.Read host project (Fields.put "target_machines" v' component) where
  name := h.name
  named := h.named
  type := by
    rw [readType_put_of_ne (by decide)]
    exact (readType_put_of_ne (by decide) ..).symm.trans h.type
  buildTypes := by
    have hb := h.buildTypes
    rw [entries_put_of_ne (by decide)] at hb ⊢
    exact hb
  machines := by
    rw [entries_put_self]
    exact hm
  linkages := by
    have hl := h.linkages
    rw [entries_put_of_ne (by decide)] at hl ⊢
    exact hl
  group := h.group
  version := h.version
  baseName := by
    rw [baseNameOf_put_of_ne (by decide)]
    exact (baseNameOf_put_of_ne (by decide) ..).symm.trans h.baseName
  language := by
    rw [textOf_put_of_ne (by decide)]
    exact (textOf_put_of_ne (by decide) ..).symm.trans h.language

/-- Settings that are accepted are accepted with other machines if these can be read. -/
theorem isOk_ofSettings_withMachines_iff
    (h : (ofSettings host (.table (withMachines settings component v))).result.isOk) :
    (ofSettings host (.table (withMachines settings component v'))).result.isOk ↔
      (machinesIn host v').isOk := by
  constructor
  · intro h'
    obtain ⟨s, hs⟩ := exists_of_isOk h'
    obtain ⟨project, _, p, ht, hp, -⟩ := ofSettings_eq_ok_iff.1 hs
    obtain ⟨-, rfl⟩ := tables_withMachines_eq_ok_iff.1 ht
    have hm := hp.machines
    rw [entries_put_self] at hm
    rw [machinesIn, hm]
    rfl
  · intro hm
    obtain ⟨s, hs⟩ := exists_of_isOk h
    obtain ⟨machines, hm⟩ := exists_of_isOk hm
    obtain ⟨project, _, p, ht, hp, -⟩ := ofSettings_eq_ok_iff.1 hs
    obtain ⟨hproject, rfl⟩ := tables_withMachines_eq_ok_iff.1 ht
    rw [ofSettings_eq_ok_iff.2 ⟨project, _, _, tables_withMachines_eq_ok_iff.2 ⟨hproject, rfl⟩,
      hp.withMachines hm, rfl⟩]
    rfl

/-- Settings that are accepted without a text are accepted with it if a question takes it. -/
theorem isMachineText_iff_of_accepted {before after : List Value} (text : String)
    (h : (ofSettings host (.table (withMachines settings component
      (.list (before ++ after))))).result.isOk) :
    (ofSettings host (.table (withMachines settings component
        (.list (before ++ .string text :: after))))).result.isOk ↔
      Questionnaire.isMachineText text := by
  have hothers : ∀ v ∈ before ++ after, (readMachine host v).isOk :=
    isOk_mapM_iff.1 ((isOk_ofSettings_withMachines_iff h).1 h)
  rw [isOk_ofSettings_withMachines_iff h, machinesIn_list, isOk_mapM_iff,
    ← Questionnaire.isOk_readMachine_iff]
  constructor
  · exact fun hall => hall _ (List.mem_append_right _ List.mem_cons_self)
  · intro htext v hv
    rcases List.mem_append.1 hv with hv | hv
    · exact hothers v (List.mem_append_left _ hv)
    · rcases List.mem_cons.1 hv with rfl | hv
      · exact htext
      · exact hothers v (List.mem_append_right _ hv)

/-- All readers of a machine agree: an entry is read alike whichever way a machine is written down, and
so are settings as a whole, unless a text that they ask for is missing. A question takes a text if it
is read as a machine, which is if settings are accepted with it. -/
theorem readers_agree :
    (∀ host family architecture e e', ':' ∉ family.toList → Spells family architecture e →
      Spells family architecture e' →
        ReadAlike (readMachine host e) (readMachine host e') ∧
          ∀ settings component (slot : Slot),
            let x := withMachines settings component (slot.fill e)
            let y := withMachines settings component (slot.fill e')
            ReadAlike (ofSettings host (.table x)).result (ofSettings host (.table y)).result ∨
              ∃ failure, AsksUnspelt host x failure ∧
                (ofSettings host (.table x)).result = .error failure ∧
                (ofSettings host (.table y)).result = .error failure) ∧
      ∀ text,
        (Questionnaire.isMachineText text ↔ (Machine.parse text).isOk) ∧
          (∀ host m, readMachine host (.string text) = .ok m ↔ Machine.parse text = .ok m) ∧
          ∀ host settings component before after,
            (ofSettings host (.table (withMachines settings component
              (.list (before ++ after))))).result.isOk →
            ((ofSettings host (.table (withMachines settings component
                (.list (before ++ .string text :: after))))).result.isOk ↔
              Questionnaire.isMachineText text) := by
  constructor
  · intro host family architecture e e' hcolon h h'
    have halike : ReadAlike (readMachine host e) (readMachine host e') := h.readAlike h' hcolon host
    refine ⟨halike, fun settings component slot => readAlike_or_asksUnspelt _ _ ?_⟩
    rw [h.machinesIn_fill slot, h'.machinesIn_fill slot]
    exact EndAlike.mapM (.inl halike) slot.before slot.after
  · intro text
    refine ⟨?_, fun host m => readMachine_string_eq_ok_iff,
      fun host settings component before after => isMachineText_iff_of_accepted text⟩
    rw [← Questionnaire.isSome_parse?, Machine.parse]
    cases Machine.parse? text with
    | none => exact iff_of_false nofun nofun
    | some m => exact iff_of_true rfl rfl

/-- A library for a machine besides the usual one. -/
def orchard : Specification where
  projectName := "ring"
  group := ""
  version := "unspecified"
  type := .library
  baseName := "ring"
  language := "cpp"
  buildTypes := BuildType.defaults
  machines := [⟨"linux", "arm"⟩, ⟨"macos", "arm:v9"⟩]
  linkages := [.shared]

theorem readers_agree_apple :
    let e := Value.string (" Mac OS X" ++ ":" ++ "ARM:v9 ")
    let e' := Value.table [("arch", .string "ARM:v9 "), ("os", .string " Mac OS X")]
    let ring : Table := [("project", .table [("name", .string "ring")])]
    let found := [Value.string "linux:arm"]
    ':' ∉ " Mac OS X".toList ∧
      readMachine {} e = .ok ⟨"macos", "arm:v9"⟩ ∧ readMachine {} e' = .ok ⟨"macos", "arm:v9"⟩ ∧
      (ofSettings {} (.table (withMachines ring [] ((Slot.among found []).fill e)))).result =
        .ok orchard ∧
      (ofSettings {} (.table (withMachines ring [] ((Slot.among found []).fill e')))).result =
        .ok orchard ∧
      (ofSettings {} (.table (withMachines ring [] (.list (found ++ []))))).result.isOk ∧
      ¬ (ofSettings {} (.table (withMachines ring []
          (.list (found ++ [.string "linux:\t"]))))).result.isOk := by
  intro e e' ring found
  have hcolon : ':' ∉ " Mac OS X".toList := by decide
  have hread : readMachine {} e = .ok ⟨"macos", "arm:v9"⟩ := by decide +kernel
  have hs : (ofSettings {} (.table (withMachines ring [] ((Slot.among found []).fill e)))).result =
      .ok orchard := by decide +kernel
  have haccepted :
      (ofSettings {} (.table (withMachines ring [] (.list (found ++ []))))).result.isOk := by
    decide +kernel
  obtain ⟨hspelt, htexts⟩ := readers_agree
  obtain ⟨hmachine, hsettings⟩ := hspelt {} _ _ e e' hcolon .text (.table rfl rfl)
  have hs' : (ofSettings {} (.table (withMachines ring [] ((Slot.among found []).fill e')))).result =
      .ok orchard := by
    rcases hsettings ring [] (.among found []) with halike | ⟨failure, -, hx, -⟩
    · exact halike.eq_ok hs
    · cases hs.symm.trans hx
  have hblank : ¬ Questionnaire.isMachineText "linux:\t" := by decide
  exact ⟨hcolon, hread, hmachine.eq_ok hread, hs, hs', haccepted,
    fun hok => hblank (((htexts "linux:\t").2.2 {} ring [] found [] haccepted).1 hok)⟩

end Specification

end NativeVariants
