import NativeVariants.Specification
import NativeVariants.Proofs.Distinct
import NativeVariants.Proofs.Logged

/-!
# Settings that are accepted

Settings are accepted exactly if each of their `Parts` can be read, and `Parts.assembled` says what
these make. What is assembled is `Complete`: it has build types and machines, it repeats neither
machines nor linkages, and an application has no linkages.
-/

namespace NativeVariants.Specification

open Logged

variable {host : Host} {settings : Value} {s : Specification}

theorem tables_eq_ok_iff {fields project component : Table} :
    tables (.table fields) = .ok (project, component) ↔
      (Fields.get? "project" fields).getD (.table []) = .table project ∧
        (Fields.get? "component" fields).getD (.table []) = .table component := by
  unfold tables
  dsimp only
  constructor
  · intro h
    split at h
    · rename_i hp hc
      cases h
      exact ⟨hp, hc⟩
    · cases h
  · rintro ⟨hp, hc⟩
    rw [hp, hc]

theorem textOf_of_get? {t : Table} {key : String} {v : Value} (h : t.get? key = some v)
    (default : String) : textOf host t key default = host.spell v := by
  unfold textOf
  rw [h]

@[simp] theorem result_machinesOrHost (host : Host) (machines : List Machine) :
    (machinesOrHost host machines).result =
      .ok (if machines.isEmpty then [host.asTarget] else machines) := by
  unfold machinesOrHost
  split <;> rfl

@[simp] theorem result_linkagesFor (type : ComponentType) (component : Table)
    (linkages : List Linkage) :
    (linkagesFor type component linkages).result = .ok
      (if type = .application then []
        else if linkages.isEmpty && !component.has "linkages" then [.shared] else linkages) := by
  unfold linkagesFor
  split
  · cases linkages <;> rfl
  · rfl

/-- What is read from the two tables of settings. -/
structure Parts where
  name : String
  type : ComponentType
  buildTypes : List BuildType
  machines : List Machine
  linkages : List Linkage
  group : String
  version : String
  baseName : String
  language : String

namespace Parts

/-- The parts are what is read from two tables on a host. -/
structure Read (p : Parts) (host : Host) (project component : Table) : Prop where
  name : textOf host project "name" "" = .ok p.name
  named : Text.trim p.name ≠ ""
  type : readType host component = .ok p.type
  buildTypes : (entries component "build_types").bind (·.mapM (readBuildType host)) =
    .ok p.buildTypes
  machines : (entries component "target_machines").bind (·.mapM (readMachine host)) = .ok p.machines
  linkages : (entries component "linkages").bind (·.mapM (readLinkage host)) = .ok p.linkages
  group : textOf host project "group" "" = .ok p.group
  version : textOf host project "version" "unspecified" = .ok p.version
  baseName : baseNameOf host component (Text.trim p.name) = .ok p.baseName
  language : textOf host component "language" "cpp" = .ok p.language

/-- The specification that parts make on a host. Of the table of the component it matters whether there
is an entry for linkages. -/
def assembled (p : Parts) (host : Host) (component : Table) : Specification where
  projectName := Text.trim p.name
  group := p.group
  version := p.version
  type := p.type
  baseName := p.baseName
  language := Text.lower (Text.trim p.language)
  buildTypes := if p.buildTypes.isEmpty then BuildType.defaults else p.buildTypes
  machines := (if p.machines.isEmpty then [host.asTarget] else p.machines).eraseDups
  linkages :=
    (if p.type = .application then []
      else if p.linkages.isEmpty && !component.has "linkages" then [.shared]
      else p.linkages).eraseDups

end Parts

theorem ofSettings_eq_ok_iff :
    (ofSettings host settings).result = .ok s ↔
      ∃ project component, ∃ p : Parts, tables settings = .ok (project, component) ∧
        p.Read host project component ∧ p.assembled host component = s := by
  simp only [ofSettings, result_bind, result_lift, bind_eq_ok_iff]
  constructor
  · rintro ⟨⟨project, component⟩, ht, name, hname, h⟩
    dsimp only at h
    split at h
    · simp [Except.bind] at h
    · rename_i hnamed
      simp only [result_bind, result_lift, bind_eq_ok_iff, result_machinesOrHost,
        result_linkagesFor, result_pure, Except.ok.injEq, exists_eq_left'] at h
      obtain ⟨type, hty, buildTypes, hb, machines, hm, linkages, hl, group, hg, version, hv, baseName,
        hbase, language, hlang, rfl⟩ := h
      exact ⟨project, component,
        ⟨name, type, buildTypes, machines, linkages, group, version, baseName, language⟩, ht,
        ⟨hname, by simpa using hnamed, hty, bind_eq_ok_iff.2 hb, bind_eq_ok_iff.2 hm,
          bind_eq_ok_iff.2 hl, hg, hv, hbase, hlang⟩, rfl⟩
  · rintro ⟨project, component, p, ht, h, rfl⟩
    refine ⟨(project, component), ht, p.name, h.name, ?_⟩
    dsimp only
    rw [if_neg (by simpa using h.named)]
    simp only [result_bind, result_lift, bind_eq_ok_iff, result_machinesOrHost,
      result_linkagesFor, result_pure, Except.ok.injEq, exists_eq_left']
    exact ⟨p.type, h.type, p.buildTypes, bind_eq_ok_iff.1 h.buildTypes, p.machines,
      bind_eq_ok_iff.1 h.machines, p.linkages, bind_eq_ok_iff.1 h.linkages, p.group, h.group,
      p.version, h.version, p.baseName, h.baseName, p.language, h.language, rfl⟩

/-- What every accepted specification has. -/
structure Complete (s : Specification) : Prop where
  type : s.type = .library ∨ s.type = .application
  buildTypes : s.buildTypes ≠ []
  machines : s.machines ≠ []
  machines_nodup : s.machines.Nodup
  linkages : s.type = .application → s.linkages = []
  linkages_nodup : s.linkages.Nodup

theorem library_or_application_of_readType {component : Table} {type : ComponentType}
    (h : readType host component = .ok type) : type = .library ∨ type = .application := by
  obtain ⟨name, -, h⟩ := bind_eq_ok_iff.1 h
  simp only [ComponentType.ofName?] at h
  split at h
  · rename_i hof
    split at hof
    · cases h; cases hof; exact .inl rfl
    · split at hof
      · cases h; cases hof; exact .inr rfl
      · cases hof
  · cases h

theorem complete_of_ofSettings (h : (ofSettings host settings).result = .ok s) : s.Complete := by
  obtain ⟨project, component, p, -, hp, rfl⟩ := ofSettings_eq_ok_iff.1 h
  refine ⟨library_or_application_of_readType hp.type, ?_, ?_, nodup_eraseDups _, fun ha => ?_,
    nodup_eraseDups _⟩
  · cases hb : p.buildTypes <;> simp [Parts.assembled, hb, BuildType.defaults]
  · cases hm : p.machines <;> simp [Parts.assembled, hm]
  · have ha : p.type = .application := ha
    simp [Parts.assembled, ha]

end NativeVariants.Specification
