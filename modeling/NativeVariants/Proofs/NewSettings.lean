import NativeVariants.Proofs.EditLaws
import NativeVariants.Proofs.Forms

/-!
# New settings

Settings are saved by an interview exactly if its answers fill in a form, and then the settings of that
form are what is found in the directory afterwards, in some order of keys. They can be used exactly if
the form is `Sound` (`saves_iff_filled`): names of build types and linkages are not checked when they
are asked for, and an empty list of linkages is taken for an answer.
-/

namespace NativeVariants.Questionnaire

open Session Settings

variable {directory : String} {w : World} {log place : Place} {f : Form} {rest : List String}

/-- An interview ends in settings that are saved, and reports so. -/
structure Saves (directory : String) (w : World) : Prop where
  completes : ((create directory .answers).outcome w).1.isOk
  succeeds : (shownBy (create directory .answers) w).any isSuccess

instance (directory : String) (w : World) : Decidable (Saves directory w) :=
  decidable_of_iff (((create directory .answers).outcome w).1.isOk ∧
      (shownBy (create directory .answers) w).any isSuccess)
    ⟨fun ⟨h, h'⟩ => ⟨h, h'⟩, fun ⟨h, h'⟩ => ⟨h, h'⟩⟩

/-- The settings that are found after an interview. -/
def saved (directory : String) (w : World) : Table :=
  loaded directory ((create directory .answers).outcome w).2

def saveReport (directory : String) : Entry :=
  ⟨.success, s!"variantbuilder project initialized successfully! Configuration saved to " ++
    filePath directory, 0⟩

def nextSteps : Entry :=
  ⟨.info, "Next steps: Run 'variantbuilder variants' to list the variants of your component.", 0⟩

/-- The settings that answers are taken for, if they fill in a form. -/
theorem outcome_gather (hl : w.files.Writable w.sessionLog log) :
    ∃ w', Later log w w' ∧ (gather .answers).outcome w =
      (.ok ((fill w.host w.answers).map fun taken => taken.1.settings), w') := by
  let announced := w.logged log ⟨.info, "Please provide the following details:", 0⟩
  have hannounced : Later log w announced := .logged hl (e := ⟨.info, _, 0⟩) (by decide)
  obtain ⟨w', hw', hinterview⟩ :=
    fills_interview w.host log announced hannounced.host hannounced.journal
  have hrun : (Form.settings <$> fill w.host) announced.answers =
      (fill w.host w.answers).map fun taken => (taken.1.settings, taken.2) := by
    rw [map_eq_pure_bind]
    change (fill w.host w.answers).bind _ = _
    cases fill w.host w.answers <;> rfl
  rw [hrun] at hinterview
  unfold gather
  rw [outcome_bind, outcome_log hl]
  dsimp only
  rw [outcome_bind, outcome_attempt]
  cases hfill : fill w.host w.answers with
  | none =>
    rw [hfill] at hinterview
    dsimp only [Option.map_none] at hinterview
    have haborted : Later log w' (w'.logged log
        ⟨.warning, "\nProject initialization aborted by user.", 0⟩) :=
      .logged hw'.journal (by decide)
    refine ⟨_, (hannounced.trans hw').trans haborted, ?_⟩
    rw [show interview.outcome (w.logged log _) = _ from hinterview]
    dsimp only
    rw [if_pos (show (Failure.raised .abort "").kind = .abort from rfl), outcome_bind,
      outcome_log hw'.journal]
    rfl
  | some taken =>
    rw [hfill] at hinterview
    obtain ⟨hinterview, -⟩ := hinterview
    refine ⟨w', hannounced.trans hw', ?_⟩
    rw [show interview.outcome (w.logged log _) = _ from hinterview]
    rfl

/-- The beginning of the session that makes new settings. -/
def started (w : World) (log : Place) : World :=
  w.logged log ⟨.info, "Initializing a new variantbuilder project.", 0⟩

theorem later_started (hl : w.files.Writable w.sessionLog log) : Later log w (started w log) :=
  .logged hl (e := ⟨.info, _, 0⟩) (by decide)

/-- An interview that fills in no form is given up, and nothing is saved. -/
theorem not_saves_of_none (hl : w.files.Writable w.sessionLog log)
    (hfill : fill w.host w.answers = none) : ¬ Saves directory w := by
  obtain ⟨w', hw', hgather⟩ := outcome_gather (later_started hl).journal
  rw [show fill (started w log).host (started w log).answers = none from hfill] at hgather
  have hcreate : (create directory .answers).outcome w = (.ok (), w') := by
    unfold create
    rw [outcome_bind, outcome_log hl]
    dsimp only
    rw [outcome_bind, show (gather .answers).outcome (w.logged log _) = _ from hgather]
    rfl
  intro hs
  obtain ⟨pieces, hshown, hquiet⟩ := ((later_started hl).trans hw').shown
  obtain ⟨p, hp, hsuccess⟩ := List.any_eq_true.1 hs.succeeds
  rw [shownBy_eq (by rw [hcreate]; exact hshown)] at hp
  rw [hquiet p hp] at hsuccess
  cases hsuccess

/-- Settings that were gathered are saved, which is reported, and the file holds them then. -/
theorem exists_holds_of_gather {source : Source} {t : Table} {w' : World} (hlaw : w.format.Lawful)
    (hl : w.files.Writable w.sessionLog log) (hf : w.files.Writable (filePath directory) place)
    (hplace : place ≠ log) (hw' : Later log (started w log) w')
    (hgather : (gather source).outcome (started w log) = (.ok (some t), w'))
    (hr : Reloads w.format t) :
    ∃ w'' found, (create directory source).outcome w = (.ok (), w'') ∧
      Holds directory w'' log place found ∧
      (Value.table found).canonical = (Value.table t).canonical ∧
      w''.shown = w'.shown ++
        [.entry (saving directory), .entry (saveReport directory), .entry nextSteps] := by
  obtain ⟨text, found, he, hp, hcanonical⟩ := hr.exists_found
  have hlater : Later log w w' := (later_started hl).trans hw'
  have hf' : w'.files.Writable (filePath directory) place := hlater.writable _ _ hf
  rw [← hlater.format] at he hp hlaw
  -- the file is emptied before it is written
  let opened := (w'.logged log (saving directory)).rewritten place ""
  have hfo : opened.files.Writable (filePath directory) place :=
    (hf'.logged hw'.journal _).rewritten (hf'.logged hw'.journal _) ""
  have hlo : opened.files.Writable opened.sessionLog log :=
    (hw'.journal.logged hw'.journal _).rewritten (hf'.logged hw'.journal _) ""
  have hholds : Holds directory (opened.rewritten place text) log place found :=
    holds_rewritten (w := opened) hlaw hlo hfo hplace hp
  refine ⟨_, found, ?_, (hholds.logged (saveReport directory)).logged nextSteps, hcanonical, ?_⟩
  · unfold create
    rw [outcome_bind, outcome_log hl]
    dsimp only
    rw [outcome_bind, show (gather source).outcome (w.logged log _) = _ from hgather]
    dsimp only
    rw [outcome_bind, outcome_attempt, outcome_save hw'.journal hf' he]
    dsimp only
    rw [outcome_bind, show (Session.log .success _).outcome _ = _ from
      outcome_log hholds.journal _ _]
    exact outcome_log (hholds.logged _).journal _ _
  · simp [World.logged, World.rewritten, opened]

/-- The settings of a form that is filled in are saved, and found afterwards. -/
theorem saves_of_some (hlaw : w.format.Lawful) (hl : w.files.Writable w.sessionLog log)
    (hf : w.files.Writable (filePath directory) place) (hplace : place ≠ log)
    (hfill : fill w.host w.answers = some (f, rest)) (hr : Reloads w.format f.settings) :
    Saves directory w ∧ Value.SameTree (.table f.settings) (.table (saved directory w)) := by
  obtain ⟨w', hw', hgather⟩ := outcome_gather (later_started hl).journal
  rw [show fill (started w log).host (started w log).answers = some (f, rest) from hfill] at hgather
  obtain ⟨w'', found, hcreate, hholds, hcanonical, hend⟩ :=
    exists_holds_of_gather hlaw hl hf hplace hw' hgather hr
  obtain ⟨pieces, hshown, -⟩ := ((later_started hl).trans hw').shown
  rw [hshown, List.append_assoc] at hend
  refine ⟨⟨by rw [hcreate]; rfl, List.any_eq_true.2 ⟨.entry (saveReport directory), ?_, rfl⟩⟩, ?_⟩
  · rw [shownBy_eq (by rw [hcreate]; exact hend)]
    simp
  · rw [saved, hcreate, hholds.loaded_eq]
    exact ⟨f.distinct_settings, hholds.distinct, hcanonical.symm⟩

/-- Settings that nobody is asked about are saved as well. -/
theorem exists_holds_defaults (hlaw : w.format.Lawful) (hl : w.files.Writable w.sessionLog log)
    (hf : w.files.Writable (filePath directory) place) (hplace : place ≠ log)
    (hr : Reloads w.format (defaults w.host)) :
    ∃ w'' found, (create directory .defaults).outcome w = (.ok (), w'') ∧
      Holds directory w'' log place found ∧
      (Value.table found).canonical = (Value.table (defaults w.host)).canonical := by
  let announcement : Entry := ⟨.info, "Running in non-interactive mode with default values.", 0⟩
  have hannounced : Later log (started w log) ((started w log).logged log announcement) :=
    .logged (later_started hl).journal (by decide)
  have hgather : (gather .defaults).outcome (started w log) =
      (.ok (some (defaults w.host)), (started w log).logged log announcement) := by
    unfold gather
    rw [outcome_bind, outcome_log (later_started hl).journal]
    rfl
  obtain ⟨w'', found, hcreate, hholds, hcanonical, -⟩ :=
    exists_holds_of_gather hlaw hl hf hplace hannounced hgather hr
  exact ⟨w'', found, hcreate, hholds, hcanonical⟩

/-- Of any answers: settings are saved exactly if the answers fill in a form, and then its settings are
found, and their variants are listed exactly if the form is sound. -/
theorem saves_iff_filled (hlaw : w.format.Lawful) (hl : w.files.Writable w.sessionLog log)
    (hf : w.files.Writable (filePath directory) place) (hplace : place ≠ log)
    (hr : ∀ f rest, fill w.host w.answers = some (f, rest) → Reloads w.format f.settings) :
    (Saves directory w ↔ ∃ f rest, fill w.host w.answers = some (f, rest)) ∧
      ∀ f rest, fill w.host w.answers = some (f, rest) →
        (Value.table (saved directory w)).canonical = (Value.table f.settings).canonical ∧
          ∀ host, SucceedsIff (variantsIn host (saved directory w)) f.Sound := by
  refine ⟨⟨fun hsaves => ?_, fun ⟨f, rest, hfill⟩ => ?_⟩, fun f rest hfill => ?_⟩
  · cases hfill : fill w.host w.answers with
    | none => exact absurd hsaves (not_saves_of_none hl hfill)
    | some taken => exact ⟨taken.1, taken.2, rfl⟩
  · exact (saves_of_some hlaw hl hf hplace hfill (hr f rest hfill)).1
  · obtain ⟨-, hsame⟩ := saves_of_some hlaw hl hf hplace hfill (hr f rest hfill)
    exact ⟨hsame.canonical.symm, Form.variantsIn_succeedsIff (answered_of_fill hfill) hsame⟩

/-- A directory without files, and answers that will be typed. -/
def lobby (answers : List String) : World where
  files := FileTree.empty []
  host := {}
  format := .toml
  logDirectory := "logs"
  sessionLog := "session.log"
  answers := answers

theorem writable_log_lobby (answers : List String) :
    (lobby answers).files.Writable (lobby answers).sessionLog ["session.log"] :=
  show FileTree.Writable (.empty []) "session.log" _ from
    .of_isNone (by decide +kernel) (by decide)

theorem writable_lobby (answers : List String) :
    (lobby answers).files.Writable (filePath ".") ["variantbuilder.toml"] :=
  show FileTree.Writable (.empty []) _ _ from .of_isNone (by decide +kernel) (by decide)

theorem reloads_of_fill {answers : List String} (h : Reloads .toml f.settings)
    (hfill : fill (lobby answers).host (lobby answers).answers = some (f, rest)) (f' : Form)
    (rest' : List String)
    (hfill' : fill (lobby answers).host (lobby answers).answers = some (f', rest')) :
    Reloads (lobby answers).format f'.settings := by
  cases hfill.symm.trans hfill'
  exact h

/-- Answers to an interview, three of which will not do. -/
def patient : List String :=
  ["r", "g", "1", "plugin", "application", "", ",", "debug", "linux", "linux:x86-64"]

def patientForm : Form :=
  ⟨"r", "g", "1", "application", "cpp", ["debug"], ["linux:x86-64"], none⟩

theorem saves_iff_filled_patient :
    Saves "." (lobby patient) ∧
      (Value.table (saved "." (lobby patient))).canonical =
        (Value.table patientForm.settings).canonical ∧
      patientForm.Sound ∧
        ∀ host, SucceedsIff (variantsIn host (saved "." (lobby patient))) patientForm.Sound := by
  have hr : Reloads .toml patientForm.settings := by decide +kernel
  have hfill : fill (lobby patient).host (lobby patient).answers = some (patientForm, []) := by
    decide +kernel
  obtain ⟨hsaves, hfound⟩ := saves_iff_filled Format.lawful_toml (writable_log_lobby patient)
    (writable_lobby patient) (by decide) (reloads_of_fill hr hfill)
  obtain ⟨hsaved, hlisted⟩ := hfound patientForm [] hfill
  exact ⟨hsaves.2 ⟨_, _, hfill⟩, hsaved, ⟨by decide, by decide, nofun⟩, hlisted⟩

/-- Answers with a build type that does not exist. -/
def hasty : List String :=
  ["r", "g", "1", "application", "", "fast", ""]

def hastyForm : Form :=
  ⟨"r", "g", "1", "application", "cpp", ["fast"], ["linux:x86-64"], none⟩

/-- Not all settings that an interview saves can be used. -/
theorem not_usable_of_saves :
    ¬ ∀ (directory : String) (w : World) (log place : Place),
      w.format.Lawful → w.files.Writable w.sessionLog log →
      w.files.Writable (filePath directory) place → place ≠ log →
      (∀ f rest, fill w.host w.answers = some (f, rest) → Reloads w.format f.settings) →
      Saves directory w →
      ∀ (host : Host) (fault : ConfigurationFault),
        variantsIn host (saved directory w) ≠ .error (.configuration fault) := by
  intro h
  have hr : Reloads .toml hastyForm.settings := by decide +kernel
  have hfill : fill (lobby hasty).host (lobby hasty).answers = some (hastyForm, []) := by
    decide +kernel
  obtain ⟨hsaves, hsame⟩ := saves_of_some Format.lawful_toml (writable_log_lobby hasty)
    (writable_lobby hasty) (by decide) hfill hr
  have hunsound : ¬ hastyForm.Sound := by
    intro hs
    have hfast := hs.buildTypes "fast" (by decide)
    exact absurd hfast (by decide)
  obtain ⟨fault, hfault⟩ :=
    (Form.variantsIn_succeedsIff (answered_of_fill hfill) hsame {}).exists_fault hunsound
  exact h "." (lobby hasty) _ _ Format.lawful_toml (writable_log_lobby hasty) (writable_lobby hasty)
    (by decide) (reloads_of_fill hr hfill) hsaves {} fault hfault

end NativeVariants.Questionnaire
