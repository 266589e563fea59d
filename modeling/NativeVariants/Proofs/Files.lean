import Mathlib.Tactic.SplitIfs
import NativeVariants.Proofs.Session

/-!
# Files that are written

A path that leads to a file, or to where a file can be made, is `Writable`: writing does not fail,
and then the file holds what was written. What else can be located stays where it is, and other files
keep what they hold. A session whose log is writable writes every entry and goes on
(`outcome_write_of_writable`).
-/

namespace NativeVariants

theorem foldlM_eq_ok_of_imp {α β ε : Type} {f g : β → α → Except ε β}
    (h : ∀ b a c, f b a = .ok c → g b a = .ok c) {l : List α} {b c : β}
    (hf : l.foldlM f b = .ok c) : l.foldlM g b = .ok c := by
  induction l generalizing b with
  | nil => exact hf
  | cons a l ih =>
    rw [List.foldlM_cons] at hf ⊢
    cases hd : f b a with
    | error e => rw [hd] at hf; cases hf
    | ok d =>
      rw [hd] at hf
      rw [h b a d hd]
      exact ih hf

namespace FileTree

variable {t : FileTree} {path : String} {place other : Place} {change : Content → Content}

/-- What is held at a place; nothing counts as an empty text. -/
def contentAt (t : FileTree) (place : Place) : Content :=
  ((t.file? place).map (·.content)).getD (.text "")

/-- The tree after a change of what is held at a place. -/
def changed (t : FileTree) (place : Place) (change : Content → Content) : FileTree :=
  t.put place
    (.file ⟨change (t.contentAt place), ((t.file? place).map (·.stamp)).getD t.nextStamp⟩)

/-- The path leads to a file, or to where one can be made. -/
structure Writable (t : FileTree) (path : String) (place : Place) : Prop where
  locate : t.locate path = .ok place
  notDirectory : t.node? place ≠ some .directory

theorem Writable.of_isNone (hl : t.locate path = .ok place) (hn : (t.node? place).isNone) :
    t.Writable path place where
  locate := hl
  notDirectory := by
    rw [Option.isNone_iff_eq_none.1 hn]
    exact (Option.some_ne_none _).symm

theorem follow_put_iff (f : TextFile) (hp : t.node? place ≠ some .directory) {a b : Place}
    {part : String} : (t.put place (.file f)).follow a part = .ok b ↔ t.follow a part = .ok b := by
  unfold follow
  by_cases ha : a = place
  · subst ha
    rw [node?_put_self]
    constructor
    · intro h
      cases h
    · intro h
      split at h
      · cases h
      · cases h
      · exact absurd ‹_› hp
  · rw [node?_put_of_ne t _ ha]

/-- A file takes the place of no directory, so every path leads where it led. -/
theorem locate_put_iff (f : TextFile) (hp : t.node? place ≠ some .directory) :
    (t.put place (.file f)).locate path = .ok other ↔ t.locate path = .ok other := by
  unfold locate
  split_ifs
  · rfl
  · rfl
  · rfl
  · exact ⟨foldlM_eq_ok_of_imp fun _ _ _ => (follow_put_iff f hp).1,
      foldlM_eq_ok_of_imp fun _ _ _ => (follow_put_iff f hp).2⟩

theorem file?_changed (t : FileTree) (place : Place) (change : Content → Content) :
    ∃ stamp, (t.changed place change).file? place = some ⟨change (t.contentAt place), stamp⟩ :=
  ⟨_, by rw [file?, changed, node?_put_self]⟩

theorem node?_changed_of_ne (t : FileTree) (change : Content → Content) (h : other ≠ place) :
    (t.changed place change).node? other = t.node? other :=
  node?_put_of_ne t _ h

theorem update_of_writable (h : t.Writable path place) (change : Content → Content) :
    t.update path change = .ok (t.changed place change) := by
  simp only [update, h.locate, changed, contentAt, file?]
  cases hn : t.node? place with
  | none => rfl
  | some node =>
    cases node with
    | directory => exact absurd hn h.notDirectory
    | file f => rfl

theorem content_eq (h : t.locate path = .ok place) {f : TextFile}
    (hf : t.file? place = some f) : t.content path = .ok f.content := by
  have hn : t.node? place = some (.file f) := by
    unfold file? at hf
    split at hf
    · rw [← Option.some.inj hf]; assumption
    · cases hf
  have hfind : t.find path = .ok (.file f) := by
    simp only [find, h, bind, Except.bind, hn]
    rfl
  simp only [content, hfind]

theorem read_of_text (h : t.locate path = .ok place) {s : String} {stamp : Int}
    (hf : t.file? place = some ⟨.text s, stamp⟩) : t.read path = .ok (Text.readNewlines s) := by
  simp only [read, content_eq h hf]
  rfl

theorem exists_file_of_read {s : String} (h : t.read path = .ok s) :
    ∃ place f, t.locate path = .ok place ∧ t.node? place = some (.file f) := by
  simp only [read, content, find] at h
  cases hl : t.locate path with
  | error fault =>
    rw [hl] at h
    cases h
  | ok place =>
    rw [hl] at h
    dsimp only [bind, Except.bind] at h
    cases hn : t.node? place with
    | none =>
      rw [hn] at h
      cases h
    | some node =>
      cases node with
      | directory =>
        rw [hn] at h
        cases h
      | file f => exact ⟨place, f, rfl, hn⟩

theorem has_of_read {s : String} (h : t.read path = .ok s) : t.has path := by
  unfold has
  cases hfind : t.find path with
  | ok node => rfl
  | error fault =>
    simp only [read, content, hfind] at h
    cases h

/-- A path stays writable when a file is written, that file or another one. -/
theorem Writable.changed (h : t.Writable path place) {otherPath : String}
    (ho : t.Writable otherPath other) (change : Content → Content) :
    (t.changed other change).Writable path place where
  locate := (locate_put_iff _ ho.notDirectory).2 h.locate
  notDirectory := by
    by_cases he : place = other
    · subst he
      simp [FileTree.changed, node?_put_self]
    · rw [node?_changed_of_ne t change he]
      exact h.notDirectory

theorem exists_writable_of_update {after : FileTree} (h : t.update path change = .ok after) :
    ∃ place, t.Writable path place := by
  unfold update at h
  split at h
  · cases h
  · rename_i place hl
    refine ⟨place, hl, fun hd => ?_⟩
    rw [hd] at h
    cases h

/-- What is read from a file does not depend on other files. -/
theorem read_changed_of_ne (h : t.locate path = .ok place) {otherPath : String}
    (ho : t.Writable otherPath other) (hne : place ≠ other) (change : Content → Content) :
    (t.changed other change).read path = t.read path := by
  have hl : (t.changed other change).locate path = .ok place :=
    (locate_put_iff _ ho.notDirectory).2 h
  have hfind : (t.changed other change).find path = t.find path := by
    simp only [find, hl, h, bind, Except.bind, node?_changed_of_ne t change hne]
  simp only [read, content, hfind]

structure HoldsText (t : FileTree) (path : String) (place : Place) (s : String) : Prop where
  locate : t.locate path = .ok place
  file : ∃ stamp, t.file? place = some ⟨.text s, stamp⟩

theorem Writable.holdsText (h : t.Writable path place) (s : String) :
    (t.changed place fun _ => .text s).HoldsText path place s where
  locate := (h.changed h _).locate
  file := t.file?_changed place fun _ => .text s

theorem HoldsText.read {s : String} (h : t.HoldsText path place s) :
    t.read path = .ok (Text.readNewlines s) := by
  obtain ⟨stamp, hfile⟩ := h.file
  exact read_of_text h.locate hfile

end FileTree

/-- The world after an entry was added to the log at a place. -/
def World.logged (w : World) (log : Place) (e : Entry) : World :=
  { w with
    shown := w.shown ++ [.entry e]
    files := w.files.changed log (·.append (e.logText w.time ++ "\n")) }

/-- The world after a text was written to the file at a place. -/
def World.rewritten (w : World) (place : Place) (text : String) : World :=
  { w with files := w.files.changed place fun _ => .text text }

theorem World.shown_foldl_logged (entries : List Entry) (w : World) (log : Place) :
    (entries.foldl (World.logged · log) w).shown = w.shown ++ entries.map .entry := by
  induction entries generalizing w with
  | nil => exact (List.append_nil _).symm
  | cons e rest ih =>
    rw [List.foldl_cons, ih]
    exact List.append_assoc ..

theorem FileTree.Writable.logged {w : World} {log place : Place} {path : String}
    (h : w.files.Writable path place) (hl : w.files.Writable w.sessionLog log) (e : Entry) :
    (w.logged log e).files.Writable path place :=
  h.changed hl (·.append (e.logText w.time ++ "\n"))

theorem FileTree.Writable.rewritten {w : World} {place other : Place} {path otherPath : String}
    (h : w.files.Writable path place) (ho : w.files.Writable otherPath other) (text : String) :
    (w.rewritten other text).files.Writable path place :=
  h.changed ho fun _ => .text text

theorem FileTree.Writable.holdsText_rewritten {w : World} {place : Place} {path : String}
    (h : w.files.Writable path place) (text : String) :
    (w.rewritten place text).files.HoldsText path place text :=
  h.holdsText text

namespace Session

variable {w : World} {log place : Place} {path : String}

@[simp] theorem outcome_read (path : String) (w : World) :
    outcome (read path) w = (w.files.read path, w) := by
  cases h : w.files.read path <;> simp [read, outcome_bind, h]

theorem outcome_write_of_writable (h : w.files.Writable w.sessionLog log) (e : Entry) :
    outcome (write e) w = (.ok (), w.logged log e) := by
  simp only [write, outcome_bind, outcome_display, outcome_get, outcome_lift, FileTree.append,
    FileTree.update_of_writable h]
  rfl

theorem exists_writable_of_outcome_write {e : Entry} {w' : World}
    (h : outcome (write e) w = (.ok (), w')) : ∃ log, w.files.Writable w.sessionLog log := by
  simp only [write, outcome_bind, outcome_display, outcome_get, outcome_lift] at h
  cases ha : w.files.append w.sessionLog (e.logText w.time ++ "\n") with
  | error failure =>
    rw [ha] at h
    cases h
  | ok files => exact FileTree.exists_writable_of_update ha

theorem outcome_log (h : w.files.Writable w.sessionLog log) (level : Level) (message : String) :
    outcome (Session.log level message) w = (.ok (), w.logged log ⟨level, message, 0⟩) :=
  outcome_write_of_writable h _

theorem outcome_overwrite (h : w.files.Writable path place) (text : String) :
    outcome (overwrite path text) w = (.ok (), w.rewritten place text) := by
  simp only [overwrite, outcome_bind, outcome_get, outcome_lift, FileTree.write,
    FileTree.update_of_writable h]
  rfl

end Session

end NativeVariants
