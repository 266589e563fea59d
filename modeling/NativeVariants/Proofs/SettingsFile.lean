import NativeVariants.Proofs.Checking
import NativeVariants.Proofs.Documents
import NativeVariants.Proofs.Files

/-!
# The settings file

What is known of a format of settings is that it is `Lawful`, as TOML is. `Holds` tells where the
settings file of a directory is and what it decodes to. Entries in the log do
not change that, and writing the file changes no more than what it decodes to, so loading,
asking for settings and saving them have one outcome each. Settings that are found are held by a file,
unless the file is the log (`exists_writable_of_loaded`, `holds_of_loaded`).
-/

namespace NativeVariants.Settings

open Session

/-- In what is decoded no table has a key twice, and an empty file holds nothing. -/
structure Format.Lawful (format : Format) : Prop where
  distinct : ∀ {text : String} {t : Table}, format.decode? text = some t → (Value.table t).Distinct
  empty : format.decode? "" = some []

theorem Format.lawful_toml : Format.toml.Lawful where
  distinct := Toml.distinct_of_parse?
  empty := by decide

variable {directory : String} {w : World} {log place : Place} {t : Table} {failure : Failure}

def loading (directory : String) : Entry :=
  ⟨.info, s!"Loading configuration from {filePath directory}", 0⟩

theorem outcome_load (hl : w.files.Writable w.sessionLog log) {text : String} {settings : Table}
    (hr : (w.logged log (loading directory)).files.read (filePath directory) = .ok text)
    (hp : w.format.decode? text = some settings) :
    (load directory).outcome w = (.ok settings, w.logged log (loading directory)) := by
  unfold load
  rw [outcome_bind, outcome_log hl]
  change outcome _ (w.logged log (loading directory)) = _
  dsimp only
  rw [outcome_bind, outcome_get]
  dsimp only
  rw [if_pos (FileTree.has_of_read hr), outcome_bind, outcome_attempt, outcome_read, hr]
  dsimp only
  rw [outcome_bind, outcome_get]
  have hformat : (w.logged log (loading directory)).format = w.format := rfl
  dsimp only
  rw [hformat, hp]
  rfl

theorem getD_outcome_bind {α : Type} {x : Session α} {f : α → Session Table}
    (hf : ∀ a w, ((f a).outcome w).1.toOption.getD [] = []) (w : World) :
    ((x >>= f).outcome w).1.toOption.getD [] = [] := by
  rw [outcome_bind]
  rcases x.outcome w with ⟨failure | a, w'⟩
  · rfl
  · exact hf a w'

theorem loaded_eq_nil (hl : w.files.Writable w.sessionLog log)
    (hn : ∀ text, (w.logged log (loading directory)).files.read (filePath directory) = .ok text →
      w.format.decode? text = none) : loaded directory w = [] := by
  have hend (a : Unit) (w : World) :
      (outcome (pure [] : Session Table) w).1.toOption.getD [] = [] := rfl
  unfold loaded load
  rw [outcome_bind, outcome_log hl]
  change (outcome _ (w.logged log (loading directory))).1.toOption.getD [] = []
  dsimp only
  rw [outcome_bind, outcome_get]
  dsimp only
  split
  · rw [outcome_bind, outcome_attempt, outcome_read]
    dsimp only
    split
    · rename_i text hr
      have hformat : (w.logged log (loading directory)).format = w.format := rfl
      rw [outcome_bind, outcome_get]
      dsimp only
      rw [hformat, hn text hr]
      exact getD_outcome_bind (fun _ => getD_outcome_bind hend) _
    · exact getD_outcome_bind (fun _ => getD_outcome_bind hend) _
    · rfl
  · rfl

theorem exists_text_of_loaded (hl : w.files.Writable w.sessionLog log)
    (hne : loaded directory w ≠ []) :
    ∃ text, (w.logged log (loading directory)).files.read (filePath directory) = .ok text ∧
      w.format.decode? text = some (loaded directory w) := by
  by_contra hnone
  refine hne (loaded_eq_nil hl fun text hr => ?_)
  cases hp : w.format.decode? text with
  | none => rfl
  | some settings =>
    refine absurd ⟨text, hr, ?_⟩ hnone
    rw [loaded, outcome_load hl hr hp]
    exact hp

/-- The settings file is where its path leads, unless that is the log. -/
theorem exists_writable_of_loaded (hl : w.files.Writable w.sessionLog log)
    (hapart : w.files.locate (filePath directory) ≠ .ok log) (hne : loaded directory w ≠ []) :
    ∃ place, w.files.Writable (filePath directory) place ∧ place ≠ log := by
  obtain ⟨text, hr, -⟩ := exists_text_of_loaded hl hne
  obtain ⟨place, f, hfound, hfile⟩ := FileTree.exists_file_of_read hr
  have hlocate : w.files.locate (filePath directory) = .ok place :=
    (FileTree.locate_put_iff _ hl.notDirectory).1 hfound
  have hplace : place ≠ log := by
    intro heq
    exact hapart (heq ▸ hlocate)
  have hfile : w.files.node? place = some (.file f) :=
    (FileTree.node?_changed_of_ne _ _ hplace).symm.trans hfile
  refine ⟨place, ⟨hlocate, ?_⟩, hplace⟩
  rw [hfile]
  nofun

def saving (directory : String) : Entry :=
  ⟨.info, s!"Saving configuration to {filePath directory}", 0⟩

/-- The report that there are no settings. -/
def missing : Entry :=
  ⟨.error, "Error: No variantbuilder.toml found. Please run 'variantbuilder init' first.", 0⟩

/-- The file is emptied before it is known whether the settings can be written. -/
theorem outcome_save_eq (hl : w.files.Writable w.sessionLog log)
    (hf : w.files.Writable (filePath directory) place) (settings : Table) :
    let emptied := (w.logged log (saving directory)).rewritten place ""
    (save directory settings).outcome w =
      match w.format.encode settings with
      | .error failure => (.error failure, emptied)
      | .ok text => (.ok true, emptied.rewritten place text) := by
  have hf : (w.logged log (saving directory)).files.Writable (filePath directory) place :=
    hf.logged hl _
  unfold save
  rw [outcome_bind, outcome_log hl]
  change outcome _ (w.logged log (saving directory)) = _
  dsimp only
  rw [outcome_bind, outcome_attempt, outcome_overwrite hf]
  dsimp only
  rw [outcome_bind, outcome_get]
  dsimp only
  have hformat : ((w.logged log (saving directory)).rewritten place "").format = w.format := rfl
  rw [outcome_bind, hformat]
  cases w.format.encode settings with
  | error failure => rfl
  | ok text =>
    change outcome _ ((w.logged log (saving directory)).rewritten place "") = _
    rw [outcome_bind, outcome_overwrite (hf.rewritten hf _)]
    rfl

theorem outcome_save (hl : w.files.Writable w.sessionLog log)
    (hf : w.files.Writable (filePath directory) place) {settings : Table} {text : String}
    (hr : w.format.encode settings = .ok text) :
    (save directory settings).outcome w =
      (.ok true, ((w.logged log (saving directory)).rewritten place "").rewritten place text) := by
  rw [outcome_save_eq hl hf, hr]

/-- Settings that cannot be written leave the file empty. -/
theorem outcome_save_of_unwritable (hl : w.files.Writable w.sessionLog log)
    (hf : w.files.Writable (filePath directory) place) {settings : Table}
    (hr : w.format.encode settings = .error failure) :
    (save directory settings).outcome w =
      (.error failure, (w.logged log (saving directory)).rewritten place "") := by
  rw [outcome_save_eq hl hf, hr]

/-- The settings file is at a place that is not the log's, and it decodes to `t` in a lawful format. -/
structure Holds (directory : String) (w : World) (log place : Place) (t : Table) : Prop where
  lawful : w.format.Lawful
  journal : w.files.Writable w.sessionLog log
  file : w.files.Writable (filePath directory) place
  apart : place ≠ log
  decodes : ∃ text, w.files.read (filePath directory) = .ok text ∧ w.format.decode? text = some t

theorem holds_of_loaded (hlaw : w.format.Lawful) (hl : w.files.Writable w.sessionLog log)
    (hf : w.files.Writable (filePath directory) place) (hplace : place ≠ log)
    (hne : loaded directory w ≠ []) : Holds directory w log place (loaded directory w) where
  lawful := hlaw
  journal := hl
  file := hf
  apart := hplace
  decodes := by
    obtain ⟨text, hr, hp⟩ := exists_text_of_loaded hl hne
    exact ⟨text, (FileTree.read_changed_of_ne hf.locate hl hplace _).symm.trans hr, hp⟩

theorem holds_rewritten (hlaw : w.format.Lawful) (hl : w.files.Writable w.sessionLog log)
    (hf : w.files.Writable (filePath directory) place) (hplace : place ≠ log) {text : String}
    (hp : w.format.decode? (Text.readNewlines text) = some t) :
    Holds directory (w.rewritten place text) log place t where
  lawful := hlaw
  journal := hl.rewritten hf text
  file := hf.rewritten hf text
  apart := hplace
  decodes := ⟨_, (hf.holdsText_rewritten text).read, hp⟩

namespace Holds

theorem read_logged (h : Holds directory w log place t) (e : Entry) :
    (w.logged log e).files.read (filePath directory) = w.files.read (filePath directory) :=
  FileTree.read_changed_of_ne h.file.locate h.journal h.apart _

theorem logged (h : Holds directory w log place t) (e : Entry) :
    Holds directory (w.logged log e) log place t where
  lawful := h.lawful
  journal := h.journal.logged h.journal e
  file := h.file.logged h.journal e
  apart := h.apart
  decodes := by
    obtain ⟨text, hr, hp⟩ := h.decodes
    exact ⟨text, (h.read_logged e).trans hr, hp⟩

theorem rewritten (h : Holds directory w log place t) {text : String} {changed : Table}
    (hp : w.format.decode? (Text.readNewlines text) = some changed) :
    Holds directory (w.rewritten place text) log place changed :=
  holds_rewritten h.lawful h.journal h.file h.apart hp

theorem locate_ne (h : Holds directory w log place t) :
    w.files.locate (filePath directory) ≠ w.files.locate w.sessionLog := by
  rw [h.file.locate, h.journal.locate]
  exact fun heq => h.apart (Except.ok.inj heq)

theorem outcome_load (h : Holds directory w log place t) :
    (load directory).outcome w = (.ok t, w.logged log (loading directory)) := by
  obtain ⟨text, hr, hp⟩ := (h.logged (loading directory)).decodes
  exact Settings.outcome_load h.journal hr hp

theorem loaded_eq (h : Holds directory w log place t) : loaded directory w = t := by
  rw [loaded, h.outcome_load]
  rfl

theorem outcome_require (h : Holds directory w log place t) (hne : t ≠ []) :
    (require directory).outcome w = (.ok (some t), w.logged log (loading directory)) := by
  unfold require
  rw [outcome_bind, h.outcome_load]
  dsimp only
  split
  · exact absurd rfl hne
  · rfl

/-- A file in which nothing is set is reported as missing. -/
theorem outcome_require_nil (h : Holds directory w log place []) :
    (require directory).outcome w =
      (.ok none, (w.logged log (loading directory)).logged log missing) := by
  unfold require
  rw [outcome_bind, h.outcome_load]
  dsimp only
  rw [outcome_bind, outcome_log (h.logged _).journal]
  rfl

end Holds

end NativeVariants.Settings
