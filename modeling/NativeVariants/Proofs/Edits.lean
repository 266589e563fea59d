import NativeVariants.Proofs.Paths
import NativeVariants.Proofs.SettingsFile

/-!
# Edits

An `Edit` stores a value under a key of the settings or removes a key. What it writes is a function of
the settings that are found (`Edit.result?`), and with that its outcome is known: the file holds what
was written, or it is left empty because that cannot be written, or nothing is written and it stays as
it was. An edit that reports success has written (`Edit.Succeeds.exists_written`).
-/

namespace NativeVariants.Settings

open Session

/-- The report that a key is not found. -/
def unknown (key : String) : Entry :=
  ⟨.error, s!"Error: Key '{key}' not found in variantbuilder.toml", 0⟩

/-- A change of the settings in a directory. -/
inductive Edit where
  | set (key text : String)
  | unset (key : String)
  deriving DecidableEq, Repr, Inhabited

namespace Edit

def key : Edit → String
  | set key _ => key
  | unset key => key

def run (directory : String) : Edit → Session Unit
  | set key text => store directory key text
  | unset key => erase directory key

abbrev after (directory : String) (e : Edit) (w : World) : World :=
  ((e.run directory).outcome w).2

/-- The settings that an edit writes. It writes none if there are no settings to edit. -/
def result? (e : Edit) (t : Table) : Option Table :=
  if t.isEmpty then none
  else
    match e with
    | set key text => (assign key (readValue key text) t).toOption
    | unset key => unassign? key t

/-- The report of an edit that was made. -/
def report : Edit → Entry
  | set key text => ⟨.info, s!"Set '{key}' to '{text}'", 0⟩
  | unset key => ⟨.info, s!"Unset '{key}'", 0⟩

/-- An edit comes to its end and reports that it was made. -/
structure Succeeds (directory : String) (e : Edit) (w : World) : Prop where
  completes : ((e.run directory).outcome w).1.isOk
  reported : .entry e.report ∈ shownBy (e.run directory) w

instance (directory : String) (e : Edit) (w : World) : Decidable (e.Succeeds directory w) :=
  decidable_of_iff (((e.run directory).outcome w).1.isOk ∧
      .entry e.report ∈ shownBy (e.run directory) w)
    ⟨fun ⟨h, h'⟩ => ⟨h, h'⟩, fun ⟨h, h'⟩ => ⟨h, h'⟩⟩

variable {directory : String} {w : World} {log place : Place} {t changed : Table} {e : Edit}
  {failure : Failure}

theorem result?_of_ne_nil (h : t ≠ []) : e.result? t =
    match e with
    | set key text => (assign key (readValue key text) t).toOption
    | unset key => unassign? key t := by
  unfold result?
  rw [if_neg (by simpa using h)]

theorem ne_nil_of_result? (h : e.result? t = some changed) : t ≠ [] := by
  rintro rfl
  cases h

theorem result?_set_eq_some_iff {key text : String} : (set key text).result? t = some changed ↔
    t ≠ [] ∧ assign key (readValue key text) t = .ok changed := by
  by_cases hne : t = []
  · subst hne
    exact iff_of_false nofun fun h => h.1 rfl
  · rw [result?_of_ne_nil hne, and_iff_right hne]
    dsimp only
    cases assign key (readValue key text) t with
    | ok a => exact ⟨fun h => congrArg _ (Option.some.inj h), fun h => congrArg _ (Except.ok.inj h)⟩
    | error failure => exact iff_of_false nofun nofun

theorem result?_unset_eq_some_iff {key : String} : (unset key).result? t = some changed ↔
    t ≠ [] ∧ unassign? key t = some changed := by
  by_cases hne : t = []
  · subst hne
    exact iff_of_false nofun fun h => h.1 rfl
  · rw [result?_of_ne_nil hne, and_iff_right hne]

/-! ### Outcomes -/

/-- What an edit does with the settings that it writes. -/
def finish (directory : String) (e : Edit) (changed : Table) : Session Unit := do
  if ← save directory changed then
    write e.report

theorem outcome_run_of_result (h : Holds directory w log place t)
    (hr : e.result? t = some changed) :
    (e.run directory).outcome w =
      (e.finish directory changed).outcome (w.logged log (loading directory)) := by
  have hne : t ≠ [] := ne_nil_of_result? hr
  cases e with
  | set key value =>
    unfold run store
    rw [outcome_bind, h.outcome_require hne]
    dsimp only
    rw [(result?_set_eq_some_iff.1 hr).2, outcome_bind, outcome_lift]
    rfl
  | unset key =>
    unfold run erase
    rw [outcome_bind, h.outcome_require hne]
    dsimp only
    rw [(result?_unset_eq_some_iff.1 hr).2]
    rfl

/-- The world in which the settings file was opened for writing. -/
def opened (directory : String) (w : World) (log place : Place) : World :=
  ((w.logged log (loading directory)).logged log (saving directory)).rewritten place ""

theorem holds_opened (h : Holds directory w log place t) :
    Holds directory (opened directory w log place) log place [] :=
  ((h.logged _).logged _).rewritten h.lawful.empty

/-- The world after an edit that wrote a text. -/
def written (directory : String) (e : Edit) (w : World) (log place : Place) (text : String) :
    World :=
  ((opened directory w log place).rewritten place text).logged log e.report

theorem holds_written (h : Holds directory w log place t) {text : String} {found : Table}
    (hp : w.format.decode? (Text.readNewlines text) = some found) :
    Holds directory (e.written directory w log place text) log place found :=
  ((holds_opened h).rewritten hp).logged _

theorem outcome_run_of_written (h : Holds directory w log place t)
    (hr : e.result? t = some changed) {text : String}
    (hw : w.format.encode changed = .ok text) :
    (e.run directory).outcome w = (.ok (), e.written directory w log place text) := by
  have hopened : Holds directory (opened directory w log place) log place [] := holds_opened h
  rw [outcome_run_of_result h hr, finish, outcome_bind,
    outcome_save (h.logged _).journal (h.logged _).file hw]
  exact outcome_write_of_writable (hopened.journal.rewritten hopened.file text) e.report

theorem outcome_run_of_unwritable (h : Holds directory w log place t)
    (hr : e.result? t = some changed) (hw : w.format.encode changed = .error failure) :
    (e.run directory).outcome w = (.error failure, opened directory w log place) := by
  rw [outcome_run_of_result h hr, finish, outcome_bind,
    outcome_save_of_unwritable (h.logged _).journal (h.logged _).file hw]
  rfl

/-- Setting a key at which no value can be put writes nothing and fails. -/
theorem outcome_store_of_error (h : Holds directory w log place t) (hne : t ≠ [])
    {key text : String} (ha : assign key (readValue key text) t = .error failure) :
    (store directory key text).outcome w = (.error failure, w.logged log (loading directory)) := by
  unfold store
  rw [outcome_bind, h.outcome_require hne]
  dsimp only
  rw [ha, outcome_bind, outcome_lift]

/-- Removing a key that is not found writes nothing and reports that. -/
theorem outcome_erase_of_none (h : Holds directory w log place t) (hne : t ≠ []) {key : String}
    (hr : unassign? key t = none) :
    (erase directory key).outcome w =
      (.ok (), (w.logged log (loading directory)).logged log (unknown key)) := by
  unfold erase
  rw [outcome_bind, h.outcome_require hne]
  dsimp only
  rw [hr]
  exact outcome_log (h.logged _).journal _ _

/-- An edit that writes nothing adds no more to the log than errors. -/
theorem outcome_run_of_none (h : Holds directory w log place t) (hr : e.result? t = none) :
    ∃ result, ∃ errors : List Entry, (e.run directory).outcome w =
        (result, errors.foldl (World.logged · log) (w.logged log (loading directory))) ∧
      ∀ x ∈ errors, x.level = .error := by
  by_cases hne : t = []
  · subst hne
    refine ⟨.ok (), [missing], ?_, by simp [missing]⟩
    cases e with
    | set key value =>
      unfold run store
      rw [outcome_bind, h.outcome_require_nil]
      rfl
    | unset key =>
      unfold run erase
      rw [outcome_bind, h.outcome_require_nil]
      rfl
  · rw [result?_of_ne_nil hne] at hr
    cases e with
    | set key value =>
      dsimp only at hr
      cases ha : assign key (readValue key value) t with
      | ok changed =>
        rw [ha] at hr
        cases hr
      | error failure => exact ⟨.error failure, [], outcome_store_of_error h hne ha, nofun⟩
    | unset key =>
      refine ⟨.ok (), [unknown key], outcome_erase_of_none h hne hr, ?_⟩
      simp [unknown]

/-! ### Success -/

theorem ne_report_of_isNotice {p : Piece} (hp : isNotice p) (e : Edit) : p ≠ .entry e.report := by
  rintro rfl
  cases e <;> simp [isNotice, Piece.entry?, report, toString] at hp

theorem exists_require_of_run {w' : World} (h : (e.run directory).outcome w = (.ok (), w')) :
    ∃ found? between, (require directory).outcome w = (.ok found?, between) ∧
      (found? = none → between = w') := by
  cases e with
  | set key text =>
    obtain ⟨found?, between, hrequire, hrest⟩ := outcome_bind_eq_ok h
    refine ⟨found?, between, hrequire, fun hnone => ?_⟩
    subst hnone
    exact (Prod.mk.inj hrest).2
  | unset key =>
    obtain ⟨found?, between, hrequire, hrest⟩ := outcome_bind_eq_ok h
    refine ⟨found?, between, hrequire, fun hnone => ?_⟩
    subst hnone
    exact (Prod.mk.inj hrest).2

theorem Succeeds.outcome_eq (h : e.Succeeds directory w) :
    (e.run directory).outcome w = (.ok (), e.after directory w) := by
  have hok := h.completes
  rcases hr : (e.run directory).outcome w with ⟨failure | u, w'⟩
  · rw [hr] at hok
    cases hok
  · rw [after, hr]

theorem Succeeds.exists_log (h : e.Succeeds directory w) :
    ∃ log, w.files.Writable w.sessionLog log := by
  obtain ⟨_, _, hrequire, -⟩ := exists_require_of_run h.outcome_eq
  obtain ⟨_, _, hload, -⟩ := outcome_bind_eq_ok hrequire
  obtain ⟨_, _, hlog, -⟩ := outcome_bind_eq_ok hload
  exact exists_writable_of_outcome_write hlog

theorem Succeeds.loaded_ne_nil (h : e.Succeeds directory w) : loaded directory w ≠ [] := by
  obtain ⟨found?, between, hrequire, hnone⟩ := exists_require_of_run h.outcome_eq
  cases found? with
  | none =>
    -- all that was shown are notices, and the report is none
    obtain ⟨pieces, hshown, hpieces⟩ := (shows_require directory).shown w
    rw [hrequire, hnone rfl] at hshown
    have hmem := h.reported
    rw [shownBy_eq hshown] at hmem
    exact absurd rfl (ne_report_of_isNotice (hpieces _ hmem) e)
  | some settings =>
    rw [← eq_loaded_of_require hrequire]
    obtain ⟨found, _, -, hrest⟩ := outcome_bind_eq_ok hrequire
    split at hrest
    · obtain ⟨_, _, -, hrest⟩ := outcome_bind_eq_ok hrest
      cases (Prod.mk.inj hrest).1
    · rename_i hne
      cases (Prod.mk.inj hrest).1
      exact hne

/-- An edit that reports success found settings and wrote what it makes of them. -/
theorem Succeeds.exists_written (h : e.Succeeds directory w) (hlaw : w.format.Lawful)
    (hapart : w.files.locate (filePath directory) ≠ w.files.locate w.sessionLog) :
    ∃ log place changed text, Holds directory w log place (loaded directory w) ∧
      e.result? (loaded directory w) = some changed ∧ w.format.encode changed = .ok text := by
  obtain ⟨log, hl⟩ := h.exists_log
  have hne : loaded directory w ≠ [] := h.loaded_ne_nil
  obtain ⟨place, hf, hplace⟩ := exists_writable_of_loaded hl (by rwa [← hl.locate]) hne
  have hholds : Holds directory w log place (loaded directory w) :=
    holds_of_loaded hlaw hl hf hplace hne
  have houtcome := h.outcome_eq
  cases hr : e.result? (loaded directory w) with
  | none =>
    obtain ⟨result, errors, hrun, herrors⟩ := outcome_run_of_none hholds hr
    have hshown : ((e.run directory).outcome w).2.shown =
        w.shown ++ .entry (loading directory) :: errors.map .entry := by
      rw [hrun, World.shown_foldl_logged]
      exact List.append_assoc ..
    have hmem := h.reported
    rw [shownBy_eq hshown] at hmem
    rcases List.mem_cons.1 hmem with hloading | hmem
    · refine absurd hloading.symm (ne_report_of_isNotice ?_ e)
      simp [isNotice, Piece.entry?, loading, toString]
    · obtain ⟨x, hx, hreport⟩ := List.mem_map.1 hmem
      cases hreport
      have hlevel := herrors _ hx
      cases e <;> cases hlevel
  | some changed =>
    cases hw : w.format.encode changed with
    | error failure =>
      rw [outcome_run_of_unwritable hholds hr hw] at houtcome
      cases (Prod.mk.inj houtcome).1
    | ok text => exact ⟨log, place, changed, text, hholds, rfl, hw⟩

end Edit

end NativeVariants.Settings
