import NativeVariants.Proofs.Acceptance
import NativeVariants.Proofs.Agreement
import NativeVariants.Proofs.Session
import NativeVariants.Settings.Editor

/-!
# Settings that pass their check

A check succeeds on settings that can be read (`exists_specification_of_passes`), and it warns of a
library without linkages. It asks for nothing else: the variants of settings that pass are listed
unless two build types share a name (`NamesApart`), and their component is configured if besides its
language is supported.
-/

namespace NativeVariants

/-- Ends in a value if `P` holds, and in a configuration fault if not. -/
structure SucceedsIff {α : Type} (x : Except Failure α) (P : Prop) : Prop where
  onlyFaults : OnlyFaults x
  isOk_iff : x.isOk ↔ P

namespace SucceedsIff

variable {α : Type} {x : Except Failure α} {P : Prop}

theorem of_ok {a : α} (hx : x = .ok a) (h : P) : SucceedsIff x P := by
  subst hx
  exact ⟨.ok a, iff_of_true rfl h⟩

theorem of_fault {fault : ConfigurationFault} (hx : x = .error (.configuration fault))
    (h : ¬ P) : SucceedsIff x P := by
  subst hx
  exact ⟨fun _ hf => ⟨fault, (Except.error.inj hf).symm⟩, iff_of_false Bool.false_ne_true h⟩

theorem exists_fault (hx : SucceedsIff x P) (h : ¬ P) :
    ∃ fault, x = .error (.configuration fault) := by
  cases x with
  | ok a => exact absurd (hx.isOk_iff.1 rfl) h
  | error failure =>
    obtain ⟨fault, rfl⟩ := hx.onlyFaults failure rfl
    exact ⟨fault, rfl⟩

end SucceedsIff

/-- Build types of one name are one build type. -/
def NamesApart (buildTypes : List BuildType) : Prop :=
  ∀ t ∈ buildTypes, ∀ t' ∈ buildTypes, t.name = t'.name → t = t'

theorem nodup_names_eraseDups_iff (buildTypes : List BuildType) :
    (buildTypes.eraseDups.map (·.name)).Nodup ↔ NamesApart buildTypes := by
  rw [List.nodup_map_iff_inj_on (nodup_eraseDups buildTypes)]
  simp only [List.mem_eraseDups]
  rfl

theorem Language.ofText_eq_ok_or_fault (text : String) :
    (∃ l, ofText text = .ok l) ∨ ∃ fault, ofText text = .error (.configuration fault) := by
  unfold ofText
  dsimp only
  split_ifs
  · exact .inl ⟨_, rfl⟩
  · exact .inl ⟨_, rfl⟩
  · exact .inr ⟨_, rfl⟩

namespace Specification

variable {s : Specification} {host : Host} {family : Option String}

theorem valid_listedConfiguration_iff (hs : s.Complete)
    (hn : s.type = .library → s.linkages ≠ []) :
    (s.listedConfiguration host).Valid ↔ NamesApart s.buildTypes := by
  rw [← nodup_names_eraseDups_iff]
  constructor
  · exact fun h => h.names
  · intro h
    refine ⟨?_, h, ?_, ?_, fun hf => by cases hf⟩
    · exact mt eraseDups_eq_nil_iff.1 hs.buildTypes
    · exact mt eraseDups_eq_nil_iff.1 hs.machines
    · intro hr
      have ht : s.type = .library := of_decide_eq_true hr
      exact mt eraseDups_eq_nil_iff.1 (hn ht)

theorem variantsOf_succeedsIff_valid (host : Host) (s : Specification) :
    SucceedsIff (Listing.variantsOf host s).result (s.listedConfiguration host).Valid := by
  rw [result_variantsOf]
  by_cases hv : (s.listedConfiguration host).Valid
  · exact .of_ok hv.identifyVariants hv
  · obtain ⟨fault, hf⟩ := Configuration.identifyVariants_of_not_valid hv
    exact .of_fault hf hv

theorem variantsOf_succeedsIff (hs : s.Complete) (hn : s.type = .library → s.linkages ≠ []) :
    SucceedsIff (Listing.variantsOf host s).result (NamesApart s.buildTypes) := by
  have hvalid : (s.listedConfiguration host).Valid ↔ NamesApart s.buildTypes :=
    valid_listedConfiguration_iff hs hn
  rw [← hvalid]
  exact variantsOf_succeedsIff_valid host s

/-- The family of hosts plays no part in whether a configuration is valid. -/
theorem valid_prepared_iff (hs : s.Complete) {request : ConfigureRequest} {l : Language}
    (hr : request.buildTypes = s.buildTypes) :
    ((s.component.prepared request l s.linkages).configuration s.project host).Valid ↔
      (s.listedConfiguration host).Valid := by
  rw [← valid_builtConfiguration_iff hs host.family_ne_empty (l := l)]
  obtain ⟨language, family, buildTypes⟩ := request
  cases hr
  constructor
  · exact fun h => ⟨h.buildTypes, h.names, h.machines, h.linkages, h.factories⟩
  · exact fun h => ⟨h.buildTypes, h.names, h.machines, h.linkages, h.factories⟩

theorem configure_succeedsIff (hs : s.Complete) (hn : s.type = .library → s.linkages ≠ []) :
    SucceedsIff (s.configure host family).1.result
      (NamesApart s.buildTypes ∧ ∃ l, Language.ofText s.language = .ok l) := by
  have hvalid : (s.listedConfiguration host).Valid ↔ NamesApart s.buildTypes :=
    valid_listedConfiguration_iff hs hn
  let request : ConfigureRequest := ⟨s.language, family, s.buildTypes⟩
  change SucceedsIff (s.component.configure s.project host request).1.result _
  rcases Language.ofText_eq_ok_or_fault request.language with ⟨l, hl⟩ | ⟨fault, hl⟩
  · have hb := result_builder_component hs hl hn
    by_cases hv : (s.listedConfiguration host).Valid
    · obtain ⟨b, hr, -⟩ := Component.configure_of_valid hb rfl ((valid_prepared_iff hs rfl).2 hv)
      exact .of_ok hr ⟨hvalid.1 hv, l, hl⟩
    · obtain ⟨fault, hr, -⟩ :=
        Component.configure_of_not_valid hb rfl (mt (valid_prepared_iff hs rfl).1 hv)
      exact .of_fault hr fun h => hv (hvalid.2 h.1)
  · have hg : s.component.type ≠ .general := by
      have ht : s.type ≠ .general := by
        rcases hs.type with ht | ht <;> rw [ht] <;> decide
      exact ht
    have hb := Component.builder_of_language_fault hg hl
    refine .of_fault (Component.configure_of_error hb s.project host).1 ?_
    rintro ⟨-, l, hok⟩
    cases hl.symm.trans hok

end Specification

namespace Settings

open Session

variable {directory : String} {w : World}

/-- The settings that a command finds in a directory. -/
def loaded (directory : String) (w : World) : Table :=
  ((load directory).outcome w).1.toOption.getD []

/-- Whether a piece says that something succeeded. -/
def isSuccess (p : Piece) : Bool :=
  p.entry?.any (·.level = .success)

/-- The warning of a library without linkages. -/
def linkageWarning : Piece :=
  .entry ⟨.warning, "The library has no linkages; building it will fail.", 0⟩

/-- The check of a directory comes to its end, reports success and does not warn. -/
structure Passes (directory : String) (w : World) : Prop where
  completes : ((check directory).outcome w).1.isOk
  succeeds : (shownBy (check directory) w).any isSuccess
  unwarned : linkageWarning ∉ shownBy (check directory) w

instance (directory : String) (w : World) : Decidable (Passes directory w) :=
  decidable_of_iff (((check directory).outcome w).1.isOk ∧
      (shownBy (check directory) w).any isSuccess ∧
      linkageWarning ∉ shownBy (check directory) w)
    ⟨fun ⟨h, h', h''⟩ => ⟨h, h', h''⟩, fun ⟨h, h', h''⟩ => ⟨h, h', h''⟩⟩

/-- Whether a piece is what asking for settings may say: that they are loaded, why that fails, what
to do about it. -/
def isNotice (p : Piece) : Bool :=
  p.entry?.any fun e =>
    e.level ≠ .success && [some 'L', some 'E', some 'P'].contains e.message.toList.head?

theorem shows_notice {level : Level} {message : String} (hl : level ≠ .success)
    (hm : [some 'L', some 'E', some 'P'].contains message.toList.head?) :
    Shows (fun p => isNotice p) (log level message) :=
  Shows.log (by simp only [isNotice, Piece.entry?, Option.any_some, hm, Bool.and_true, hl,
    ne_eq, not_false_eq_true, decide_true])

theorem shows_load (directory : String) : Shows (fun p => isNotice p) (load directory) := by
  unfold load
  refine (shows_notice (by decide) (by simp [toString])).bind fun _ => Shows.get.bind fun w => ?_
  split
  · refine (Shows.read _).attempt.bind fun text => ?_
    split
    · refine Shows.get.bind fun w => ?_
      split
      · exact .pure _
      · exact (shows_notice (by decide) (by simp [toString])).bind fun _ =>
          (shows_notice (by decide) (by decide)).bind fun _ => .pure _
    · exact (shows_notice (by decide) (by simp [toString])).bind fun _ =>
        (shows_notice (by decide) (by decide)).bind fun _ => .pure _
    · exact .throw _
  · exact .pure _

theorem shows_require (directory : String) : Shows (fun p => isNotice p) (require directory) := by
  unfold require
  refine (shows_load directory).bind fun settings => ?_
  split
  · exact (shows_notice (by decide) (by decide)).bind fun _ => .pure _
  · exact .pure _

/-- Whether settings are found or not, nothing is reported as a success yet. -/
theorem isSuccess_of_isNotice {p : Piece} (h : isNotice p) : isSuccess p = false := by
  cases p with
  | entry e =>
    simp only [isNotice, Piece.entry?, Option.any_some, Bool.and_eq_true] at h
    exact decide_eq_false (of_decide_eq_true h.1)
  | _ => cases h

theorem eq_loaded_of_require {settings : Table} {w' : World}
    (h : (require directory).outcome w = (.ok (some settings), w')) :
    settings = loaded directory w := by
  obtain ⟨found, between, hload, h⟩ := outcome_bind_eq_ok h
  have hloaded : loaded directory w = found := by
    rw [loaded, hload]
    rfl
  rw [hloaded]
  split at h
  · obtain ⟨_, _, -, h⟩ := outcome_bind_eq_ok h
    cases (Prod.mk.inj h).1
  · cases (Prod.mk.inj h).1
    rfl

/-- A check that comes to its end either found nothing to report as a success, or it read settings
and warned if they are of a library without linkages. -/
theorem check_cases {w' : World} (h : (check directory).outcome w = (.ok (), w')) :
    (∀ p ∈ shownBy (check directory) w, isSuccess p = false) ∨
      ∃ s, (Specification.ofSettings w.host (.table (loaded directory w))).result = .ok s ∧
        (lacksLinkage s → linkageWarning ∈ shownBy (check directory) w) := by
  have hend : ((check directory).outcome w).2 = w' := by rw [h]
  obtain ⟨found?, w₁, hfound, hrest⟩ := outcome_bind_eq_ok h
  have hrequire := (shows_require directory).imp fun _ => isSuccess_of_isNotice
  cases found? with
  | none =>
    left
    obtain ⟨pieces, hshown, hpieces⟩ := hrequire.shown w
    have hw : w₁ = w' := (Prod.mk.inj hrest).2
    rw [hfound, hw, ← hend] at hshown
    rwa [shownBy_eq hshown]
  | some settings =>
    right
    rw [eq_loaded_of_require hfound] at hrest
    obtain ⟨_, _, hget, hrest⟩ := outcome_bind_eq_ok hrest
    cases hget
    obtain ⟨s, w₂, hread, hrest⟩ := outcome_bind_eq_ok hrest
    have hs := result_of_outcome_ofLogged hread
    have hhost : w₁.host = w.host := by
      have hhost := hrequire.host w
      rwa [hfound] at hhost
    rw [hhost] at hs
    refine ⟨s, hs, fun hlacks => ?_⟩
    obtain ⟨_, w₃, hsuccess, hrest⟩ := outcome_bind_eq_ok hrest
    rw [if_pos hlacks] at hrest
    have hlog : Shows (fun _ => True) (log .success (summary s)) := .log trivial
    have hprefix : w.shown <+: w₃.shown :=
      ((hrequire.prefix_shown hfound).trans ((Shows.ofLogged _).prefix_shown hread)).trans
        (hlog.prefix_shown hsuccess)
    obtain ⟨_, _, hwarned⟩ := outcome_write
      ⟨.warning, "The library has no linkages; building it will fail.", 0⟩ w₃
    refine mem_shownBy_of_last hprefix ?_
    rw [hend, ← (Prod.mk.inj (hwarned.symm.trans hrest)).2]
    rfl

theorem exists_specification_of_passes (h : Passes directory w) :
    ∃ s, (Specification.ofSettings w.host (.table (loaded directory w))).result = .ok s ∧
      (s.type = .library → s.linkages ≠ []) := by
  rcases hr : (check directory).outcome w with ⟨_ | _, w'⟩
  · have hok := h.completes
    rw [hr] at hok
    cases hok
  · rcases check_cases hr with hquiet | ⟨s, hs, hwarned⟩
    · obtain ⟨p, hp, htrue⟩ := List.any_eq_true.1 h.succeeds
      rw [hquiet p hp] at htrue
      cases htrue
    · refine ⟨s, hs, fun ht hn => h.unwarned (hwarned ?_)⟩
      simp [lacksLinkage, ht, hn]

/-- Settings that pass their check make a specification. Only a name of two build types and a
language that is not supported keep it from being built, on any host and for any family of hosts. -/
theorem succeeds_iff_of_passes (h : Passes directory w) :
    ∃ s, (Specification.ofSettings w.host (.table (loaded directory w))).result = .ok s ∧
      ∀ (host : Host) (family : Option String),
        SucceedsIff (Listing.variantsOf host s).result (NamesApart s.buildTypes) ∧
        SucceedsIff (s.configure host family).1.result
          (NamesApart s.buildTypes ∧ ∃ l, Language.ofText s.language = .ok l) := by
  obtain ⟨s, hs, hn⟩ := exists_specification_of_passes h
  have hcomplete := Specification.complete_of_ofSettings hs
  refine ⟨s, hs, fun host family => ⟨?_, ?_⟩⟩
  · exact Specification.variantsOf_succeedsIff hcomplete hn
  · exact Specification.configure_succeedsIff hcomplete hn

/-- A world with nothing but a settings file. -/
def worldOf (text : String) : World where
  files := (FileTree.empty []).addFile [fileName] ⟨.text text, 0⟩
  host := {}
  format := .toml
  logDirectory := "logs"
  sessionLog := "session.log"

/-- Settings of a library in the language of that name. -/
def settingsIn (language : String) : String :=
  "[project]\nname = \"ring\"\n[component]\nlanguage = \"" ++ language ++ "\"\n"

theorem succeeds_iff_of_passes_swift :
    Passes "." (worldOf (settingsIn "swift")) ∧
      ∃ s, (Specification.ofSettings (worldOf (settingsIn "swift")).host
          (.table (loaded "." (worldOf (settingsIn "swift"))))).result = .ok s ∧
        ∀ (host : Host) (family : Option String),
          SucceedsIff (Listing.variantsOf host s).result (NamesApart s.buildTypes) ∧
          SucceedsIff (s.configure host family).1.result
            (NamesApart s.buildTypes ∧ ∃ l, Language.ofText s.language = .ok l) :=
  have h : Passes "." (worldOf (settingsIn "swift")) := by decide +kernel
  ⟨h, succeeds_iff_of_passes h⟩

/-- Settings can pass their check in a language that is not supported. -/
theorem not_succeeds_of_passes :
    ¬ ∀ (directory : String) (w : World), Passes directory w →
      ∀ s, (Specification.ofSettings w.host (.table (loaded directory w))).result = .ok s →
        ∀ (host : Host) (family : Option String) (fault : ConfigurationFault),
          (Listing.variantsOf host s).result ≠ .error (.configuration fault) ∧
          (s.configure host family).1.result ≠ .error (.configuration fault) := by
  intro h
  have hp : Passes "." (worldOf (settingsIn "rust")) := by decide +kernel
  obtain ⟨s, hs, hn⟩ := exists_specification_of_passes hp
  have hlanguage : s.language = "rust" := by
    have hread : (Specification.ofSettings (worldOf (settingsIn "rust")).host
        (.table (loaded "." (worldOf (settingsIn "rust"))))).result.toOption.map (·.language) =
          some "rust" := by decide +kernel
    rw [hs] at hread
    exact Option.some.inj hread
  have hconfigure : SucceedsIff (s.configure {} none).1.result _ :=
    Specification.configure_succeedsIff (Specification.complete_of_ofSettings hs) hn
  obtain ⟨fault, hfault⟩ := hconfigure.exists_fault <| by
    rintro ⟨-, l, hl⟩
    rw [hlanguage] at hl
    cases hl
  exact (h _ _ hp s hs {} none fault).2 hfault

end Settings

end NativeVariants
