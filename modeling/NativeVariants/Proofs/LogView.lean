import NativeVariants.Proofs.Files
import NativeVariants.Proofs.Marks

/-!
# The log and its view

Calls of the logger fill the session's log (`Call.holdsText_run`), and a view shows the lines of it
(`outcome_view`), whose levels it tells by their marks. So a view gives back what was logged, line by
line, level by level and in the colours it was logged in, exactly if every message is `Plain`
(`inverts_iff_plain`). A message of several lines is none, unless it brings the marks itself.
-/

namespace NativeVariants

open Text

/-- A call of the logger and the time of it. -/
structure Call where
  time : TimeOfDay
  entry : Entry

namespace Call

def text (c : Call) : String :=
  c.entry.logText c.time ++ "\n"

/-- The lines of the call, with the level they are logged at. -/
def lines (c : Call) : List (Level × String) :=
  (linesRead c.text).map (c.entry.level, ·)

def perform (c : Call) : Session Unit := do
  modify fun w => { w with time := c.time }
  Session.write c.entry

def run (calls : List Call) : Session Unit :=
  calls.forM perform

theorem linesRead_append (c : Call) (s : String) :
    linesRead (c.text ++ s) = linesRead c.text ++ linesRead s := by
  have h := lineChars_append (c.entry.logText c.time).toList s.toList
  simp only [linesRead_eq, text, String.toList_append, List.append_assoc]
  rw [← List.map_append]
  exact congrArg _ h

theorem linesRead_join (calls : List Call) :
    linesRead (String.join (calls.map text)) = (calls.flatMap lines).map (·.2) := by
  induction calls with
  | nil => simp [linesRead_eq, lineChars, unifyNewlines, fileLinesFrom]
  | cons c calls ih =>
    rw [List.map_cons, String.join_cons, linesRead_append, ih, List.flatMap_cons, List.map_append]
    simp only [lines, List.map_map, Function.comp_def, List.map_id']

end Call

/-- The world after a call of the logger that reached the log at a place. -/
def World.after (w : World) (log : Place) (c : Call) : World :=
  World.logged { w with time := c.time } log c.entry

namespace Call

variable {w : World} {log : Place} {path s : String} {calls : List Call}

theorem outcome_perform (h : w.files.Writable w.sessionLog log) (c : Call) :
    c.perform.outcome w = (.ok (), w.after log c) := by
  have hmodify : Session.outcome (modify fun w => { w with time := c.time }) w =
      (.ok (), { w with time := c.time }) := rfl
  rw [perform, Session.outcome_bind, hmodify]
  exact Session.outcome_write_of_writable (w := { w with time := c.time }) h c.entry

theorem writable_after (h : w.files.Writable w.sessionLog log) (c : Call) :
    (w.after log c).files.Writable (w.after log c).sessionLog log :=
  FileTree.Writable.logged (w := { w with time := c.time }) h h c.entry

theorem holdsText_after (h : w.files.Writable w.sessionLog log)
    (hs : w.files.contentAt log = .text s) (c : Call) :
    (w.after log c).files.HoldsText w.sessionLog log (s ++ c.text) where
  locate := (writable_after h c).locate
  file := by
    obtain ⟨stamp, hfile⟩ := w.files.file?_changed log (·.append c.text)
    rw [hs] at hfile
    exact ⟨stamp, hfile⟩

theorem contentAt_of_holdsText {t : FileTree} (h : t.HoldsText path log s) :
    t.contentAt log = .text s := by
  obtain ⟨stamp, hfile⟩ := h.file
  rw [FileTree.contentAt, hfile]
  rfl

/-- A log that was written holds what it held and, behind that, all that was logged. -/
theorem holdsText_run (h : w.files.Writable w.sessionLog log)
    (hs : w.files.contentAt log = .text s) (hne : calls ≠ []) :
    ∃ w', (run calls).outcome w = (.ok (), w') ∧ w'.sessionLog = w.sessionLog ∧
      w'.files.HoldsText w.sessionLog log (s ++ String.join (calls.map text)) := by
  induction calls generalizing w s with
  | nil => exact absurd rfl hne
  | cons c calls ih =>
    have hcons : run (c :: calls) = c.perform >>= fun _ => run calls := rfl
    have hafter := holdsText_after h hs c
    have hw := writable_after h c
    rw [hcons, Session.outcome_bind, outcome_perform h, List.map_cons, String.join_cons,
      ← String.append_assoc]
    -- the file is there from the first call on, so the last one is the base of the induction
    by_cases hcalls : calls = []
    · subst hcalls
      refine ⟨w.after log c, rfl, rfl, ?_⟩
      rwa [List.map_nil, String.join_nil, String.append_empty]
    · obtain ⟨w', hrun, hlog, hholds⟩ := ih hw (contentAt_of_holdsText hafter) hcalls
      exact ⟨w', hrun, hlog, hholds⟩

end Call

namespace LogView

variable {w : World} {log : Place} {path s : String} {fileName : Option String} {calls : List Call}

theorem outcome_say (text : String) (w : World) : (Session.say text).outcome w =
    (.ok (), { w with shown := w.shown ++ [.say (text ++ "\n")] }) := rfl

theorem outcome_forM_say {α : Type} (f : α → String) (l : List α) (w : World) :
    Session.outcome (l.forM fun a => Session.say (f a)) w =
      (.ok (), { w with shown := w.shown ++ l.map fun a => .say (f a ++ "\n") }) := by
  induction l generalizing w with
  | nil =>
    rw [List.map_nil, List.append_nil]
    rfl
  | cons a l ih =>
    have hcons : ((a :: l).forM fun a => Session.say (f a)) =
        Session.say (f a) >>= fun _ => l.forM fun a => Session.say (f a) := rfl
    rw [hcons, Session.outcome_bind, outcome_say]
    dsimp only
    rw [ih, List.map_cons, List.append_assoc]
    rfl

theorem outcome_path? (fileName : Option String) (w : World) :
    (path? fileName).outcome w = (((path? fileName).outcome w).1, w) := by
  rw [path?, Session.outcome_bind, Session.outcome_get]
  cases fileName with
  | some name => rfl
  | none =>
    dsimp only
    rw [Session.outcome_bind, Session.outcome_lift]
    cases logFiles w.files w.logDirectory <;> rfl

/-- What a view of a log shows: its path, and below that the lines that are selected. -/
theorem outcome_view (hpath : ((path? fileName).outcome w).1 = .ok (some path))
    (hs : w.files.HoldsText path log s) (choice : Option Level) :
    (view fileName choice).outcome w =
      (.ok (), { w with shown := w.shown ++ .say (s!"Displaying log file: {path}" ++ "\n") ::
        (select choice (linesRead s)).map fun line => piece (lineColor line) line }) := by
  have hhas : w.files.has path := FileTree.has_of_read hs.read
  obtain ⟨stamp, hfile⟩ := hs.file
  have hcontent := FileTree.content_eq hs.locate hfile
  rw [view, Session.outcome_bind, outcome_path?, hpath]
  dsimp only
  rw [Session.outcome_bind, Session.outcome_get]
  dsimp only
  rw [Option.filter_some_pos hhas]
  dsimp only
  rw [Session.outcome_bind, outcome_say]
  dsimp only
  rw [Session.outcome_bind, Session.outcome_get]
  dsimp only
  rw [hcontent]
  dsimp only [Content.lines]
  rw [Session.outcome_bind, outcome_forM_say]
  simp only [linesRead, List.append_assoc]
  rfl

/-- The lines that a view shows below its heading. -/
def shownLines (fileName : Option String) (choice : Option Level) (w : World) : List Piece :=
  ((view fileName choice).shownBy w).tail

/-- Every view of the log of these calls shows the lines of the level it is cut down to, or all
lines, each in the colour of the level it was logged at. -/
def Inverts (fileName : Option String) (calls : List Call) (w : World) : Prop :=
  ∀ choice ∈ choices, shownLines fileName choice ((Call.run calls).outcome w).2 =
    faithful choice (calls.flatMap Call.lines)

theorem shownLines_eq (hpath : ((path? fileName).outcome w).1 = .ok (some path))
    (hs : w.files.HoldsText path log s) (choice : Option Level) :
    shownLines fileName choice w =
      (select choice (linesRead s)).map fun line => piece (lineColor line) line := by
  have hview := outcome_view hpath hs choice
  rw [shownLines, Session.shownBy_eq (congrArg (·.2.shown) hview), List.tail_cons]

theorem told_iff (calls : List Call) :
    (∀ l ∈ calls.flatMap Call.lines, ∀ L ∈ marked, Text.holds l.2 (mark L) ↔ L = l.1) ↔
      ∀ c ∈ calls, c.entry.Plain := by
  simp only [List.forall_mem_flatMap, Call.lines, List.forall_mem_map]
  exact forall₂_congr fun c _ => Entry.told_iff_plain

/-- The view looks at the log of this session. -/
def Finds (fileName : Option String) (w : World) : Prop :=
  ((path? fileName).outcome w).1.toOption = some (some w.sessionLog)

instance (fileName : Option String) (w : World) : Decidable (Finds fileName w) :=
  inferInstanceAs (Decidable (_ = _))

instance (fileName : Option String) (calls : List Call) (w : World) :
    Decidable (Inverts fileName calls w) :=
  inferInstanceAs (Decidable (∀ choice ∈ choices, _ = _))

theorem Finds.outcome (h : Finds fileName w) :
    ((path? fileName).outcome w).1 = .ok (some w.sessionLog) := by
  unfold Finds at h
  cases hpath : ((path? fileName).outcome w).1 with
  | error failure =>
    rw [hpath] at h
    cases h
  | ok path =>
    rw [hpath] at h
    rw [Option.some.inj h]

theorem holdsText_of_has (hlog : w.files.Writable path log) (hs : w.files.contentAt log = .text s)
    (hhas : w.files.has path) : w.files.HoldsText path log s where
  locate := hlog.locate
  file := by
    have hdirectory := hlog.notDirectory
    unfold FileTree.contentAt at hs
    simp only [FileTree.has, FileTree.find, hlog.locate, bind, Except.bind] at hhas
    unfold FileTree.file? at hs ⊢
    cases hnode : w.files.node? log with
    | none =>
      rw [hnode] at hhas
      cases hhas
    | some node =>
      cases node with
      | directory => exact absurd hnode hdirectory
      | file f =>
        rw [hnode] at hs
        exact ⟨f.stamp, by rw [← show f.content = .text s from hs]⟩

theorem shownLines_of_not_has (hpath : ((path? fileName).outcome w).1 = .ok (some path))
    (hhas : w.files.has path = false) (choice : Option Level) :
    shownLines fileName choice w = [] := by
  have hview : (view fileName choice).outcome w =
      (.ok (), { w with shown := w.shown ++ [.say ("No log files found." ++ "\n")] }) := by
    rw [view, Session.outcome_bind, outcome_path?, hpath]
    dsimp only
    rw [Session.outcome_bind, Session.outcome_get]
    dsimp only
    rw [Option.filter_some_neg (by simp [hhas])]
    rfl
  rw [shownLines, Session.shownBy_eq (congrArg (·.2.shown) hview), List.tail_cons]

theorem inverts_iff_of_ne_nil (hlog : w.files.Writable w.sessionLog log)
    (hnew : w.files.contentAt log = .text "") (hne : calls ≠ [])
    (hfinds : Finds fileName ((Call.run calls).outcome w).2) :
    Inverts fileName calls w ↔ ∀ c ∈ calls, c.entry.Plain := by
  obtain ⟨w', hrun, hsession, hholds⟩ := Call.holdsText_run hlog hnew hne
  rw [hrun] at hfinds
  have hpath := hfinds.outcome
  rw [hsession] at hpath
  rw [Inverts, hrun]
  simp only [shownLines_eq hpath hholds, String.empty_append, Call.linesRead_join]
  rw [faithful_iff, told_iff]

theorem shownLines_of_new (hlog : w.files.Writable w.sessionLog log)
    (hnew : w.files.contentAt log = .text "") (hfinds : Finds fileName w) (choice : Option Level) :
    shownLines fileName choice w = [] := by
  cases hhas : w.files.has w.sessionLog with
  | false => exact shownLines_of_not_has hfinds.outcome hhas choice
  | true =>
    rw [shownLines_eq hfinds.outcome (holdsText_of_has hlog hnew hhas)]
    cases choice <;> rfl

/-- A view of a new log shows each line at its level and in its colour if and only if the marks on
the lines of each message are those of its level. -/
theorem inverts_iff_plain (hlog : w.files.Writable w.sessionLog log)
    (hnew : w.files.contentAt log = .text "")
    (hfinds : Finds fileName ((Call.run calls).outcome w).2) :
    Inverts fileName calls w ↔ ∀ c ∈ calls, c.entry.Plain := by
  by_cases hne : calls = []
  · subst hne
    have hshown : Inverts fileName [] w := fun choice _ => shownLines_of_new hlog hnew hfinds choice
    exact iff_of_true hshown nofun
  · exact inverts_iff_of_ne_nil hlog hnew hne hfinds

/-- A world without any log. -/
def quiet : World where
  files := (FileTree.empty []).addDirectory ["logs"]
  host := {}
  format := .toml
  logDirectory := "logs"
  sessionLog := "logs/session.log"

theorem writable_quiet : quiet.files.Writable quiet.sessionLog ["logs", "session.log"] :=
  .of_isNone (by decide +kernel) (by decide +kernel)

theorem contentAt_quiet : quiet.files.contentAt ["logs", "session.log"] = .text "" := by
  have hnone : (quiet.files.file? ["logs", "session.log"]).isNone := by decide +kernel
  rw [FileTree.contentAt, Option.isNone_iff_eq_none.1 hnone]
  rfl

/-- Calls at two levels; the warning has its mark on its second line, too. -/
def ordinary : List Call :=
  [⟨⟨10, 0, 0, 0⟩, ⟨.info, "Done.", 0⟩⟩, ⟨⟨10, 0, 1, 0⟩, ⟨.warning, "One\n[WARNING] two", 0⟩⟩]

theorem inverts_iff_plain_ordinary :
    Finds none ((Call.run ordinary).outcome quiet).2 ∧ (∀ c ∈ ordinary, c.entry.Plain) ∧
      Inverts none ordinary quiet := by
  have hfinds : Finds none ((Call.run ordinary).outcome quiet).2 := by decide +kernel
  have hplain : ∀ c ∈ ordinary, c.entry.Plain := by decide +kernel
  exact ⟨hfinds, hplain, (inverts_iff_plain writable_quiet contentAt_quiet hfinds).2 hplain⟩

/-- A message that begins with a line break, as when a dialogue is given up. -/
def givenUp : List Call :=
  [⟨⟨10, 0, 0, 0⟩, ⟨.warning, "\nProject initialization aborted by user.", 0⟩⟩]

theorem not_inverts_givenUp :
    quiet.files.Writable quiet.sessionLog ["logs", "session.log"] ∧
      quiet.files.contentAt ["logs", "session.log"] = .text "" ∧
      Finds none ((Call.run givenUp).outcome quiet).2 ∧ ¬ Inverts none givenUp quiet := by
  have hfinds : Finds none ((Call.run givenUp).outcome quiet).2 := by decide +kernel
  have hplain : ¬ ∀ c ∈ givenUp, c.entry.Plain := by decide +kernel
  have hiff := inverts_iff_of_ne_nil writable_quiet contentAt_quiet (List.cons_ne_nil _ _) hfinds
  exact ⟨writable_quiet, contentAt_quiet, hfinds, fun h => hplain (hiff.1 h)⟩

end LogView

end NativeVariants
