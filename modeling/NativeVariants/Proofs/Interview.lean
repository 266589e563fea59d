import NativeVariants.Proofs.SettingsFile
import NativeVariants.Questionnaire

/-!
# Interviews as functions of their answers

`fill` is the form that a list of answers fills in, and an interview ends in the settings of that
form, or gives up where `fill` has no result (`fills_interview`). A session `Fills` a reader of answers
if it takes the same answers and comes to the same result, and changes nothing in the world but the log
and what is shown; binds keep that, and asking until an answer will do is a reader that `Unrolls`.
-/

namespace NativeVariants.Questionnaire

open Session

/-- What the questions of an interview are answered with. -/
structure Form where
  name : String
  group : String
  version : String
  type : String
  language : String
  buildTypes : List String
  machines : List String
  linkages : Option (List String)
  deriving DecidableEq, Repr, Inhabited

def Form.settings (f : Form) : Table :=
  Questionnaire.settings f.name f.group f.version f.type f.language f.buildTypes f.machines f.linkages

/-- Takes answers off the front of a list; has no result when none is left. -/
abbrev AnswerReader (α : Type) := StateT (List String) Option α

namespace AnswerReader

variable {α β : Type}

/-- What an answer stands for. -/
def given (default a : String) : String :=
  if a.isEmpty then default else a

def next (default : String) : AnswerReader String
  | [] => none
  | a :: rest => some (given default a, rest)

/-- The first answer that will do. -/
def first (default : String) (f : String → Option α) : AnswerReader α
  | [] => none
  | a :: rest =>
    match f (given default a) with
    | some b => some (b, rest)
    | none => first default f rest

variable {default : String} {f : String → Option β} {l rest : List String} {b : β}

theorem length_lt_of_first (h : first default f l = some (b, rest)) : rest.length < l.length := by
  induction l with
  | nil => cases h
  | cons a more ih =>
    rw [first] at h
    split at h
    · cases h
      exact Nat.lt_succ_self _
    · exact Nat.lt_succ_of_lt (ih h)

/-- An answer that will do can still be turned down by another condition. -/
theorem first_bind (default : String) (f : String → Option β) (g : β → Option α)
    (l : List String) : first default (fun a => (f a).bind g) l =
      (first default f l).bind fun (b, rest) =>
        match g b with
        | some c => some (c, rest)
        | none => first default (fun a => (f a).bind g) rest := by
  induction l with
  | nil => rfl
  | cons a more ih =>
    rw [first, first]
    cases hf : f (given default a) with
    | some b => rfl
    | none => exact ih

end AnswerReader

open AnswerReader

def among? (names : List String) (a : String) : Option String :=
  if names.contains a then some a else none

/-- Machines that will do: there are some, and each is written as one. -/
def machines? (machines : List String) : Option (List String) :=
  if machines.isEmpty then none else if machines.all isMachineText then some machines else none

def fill (host : Host) : AnswerReader Form := do
  let name ← next "greeter"
  let group ← next "org.example"
  let version ← next "0.1"
  let type ← first "library" (among? ["library", "application"])
  let language ← first "cpp" (among? ["cpp", "swift"])
  let buildTypes ← first "debug,release" parts?
  let machines ← first host.asTarget.text fun a => (parts? a).bind machines?
  let linkages ← if type = "library" then some <$> first "shared" parts? else pure none
  return ⟨name, group, version, type, language, buildTypes, machines, linkages⟩

/-- The second world is the first one later: the host, the format and the files that can be written are
the same, and what was shown in between reports no success. -/
structure Later (log : Place) (w w' : World) : Prop where
  host : w'.host = w.host
  format : w'.format = w.format
  journal : w'.files.Writable w'.sessionLog log
  writable : ∀ path place, w.files.Writable path place → w'.files.Writable path place
  shown : ∃ pieces, w'.shown = w.shown ++ pieces ∧ ∀ p ∈ pieces, Settings.isSuccess p = false

/-- A session takes the answers that a reader takes and comes to the same result; it gives up where
the reader has none. -/
def Fills {α : Type} (host : Host) (log : Place) (x : Session α) (p : AnswerReader α) : Prop :=
  ∀ w : World, w.host = host → w.files.Writable w.sessionLog log →
    ∃ w', Later log w w' ∧
      match p w.answers with
      | some (a, rest) => x.outcome w = (.ok a, w') ∧ w'.answers = rest
      | none => x.outcome w = (.error (.raised .abort ""), w')

namespace Later

variable {log : Place} {w w' w'' : World}

theorem refl (h : w.files.Writable w.sessionLog log) : Later log w w :=
  ⟨rfl, rfl, h, fun _ _ => id, [], (List.append_nil _).symm, nofun⟩

theorem trans (h : Later log w w') (h' : Later log w' w'') : Later log w w'' where
  host := h'.host.trans h.host
  format := h'.format.trans h.format
  journal := h'.journal
  writable path place hw := h'.writable path place (h.writable path place hw)
  shown := by
    obtain ⟨pieces, hw, hp⟩ := h.shown
    obtain ⟨more, hw', hq⟩ := h'.shown
    refine ⟨pieces ++ more, ?_, fun p hmem => (List.mem_append.1 hmem).elim (hp p) (hq p)⟩
    rw [hw', hw, List.append_assoc]

theorem logged (h : w.files.Writable w.sessionLog log) {e : Entry} (he : e.level ≠ .success) :
    Later log w (w.logged log e) where
  host := rfl
  format := rfl
  journal := h.logged h e
  writable _ _ hw := hw.logged h e
  shown := ⟨[.entry e], rfl, List.forall_mem_singleton.2 (decide_eq_false he)⟩

end Later

namespace Fills

variable {α β : Type} {host : Host} {log : Place}

theorem pure (a : α) : Fills host log (pure a) (pure a) :=
  fun w _ hl => ⟨w, .refl hl, rfl, rfl⟩

theorem bind {x : Session α} {p : AnswerReader α} {f : α → Session β} {g : α → AnswerReader β}
    (hx : Fills host log x p) (hf : ∀ a, Fills host log (f a) (g a)) :
    Fills host log (x >>= f) (p >>= g) := by
  intro w hw hl
  obtain ⟨between, hbetween, hx⟩ := hx w hw hl
  have hrun : (p >>= g) w.answers = (p w.answers).bind fun (a, rest) => g a rest := rfl
  rw [hrun]
  cases hp : p w.answers with
  | none =>
    rw [hp] at hx
    refine ⟨between, hbetween, ?_⟩
    dsimp only at hx ⊢
    rw [Option.bind_none]
    dsimp only
    rw [outcome_bind, hx]
  | some taken =>
    obtain ⟨a, rest⟩ := taken
    rw [hp] at hx
    obtain ⟨hx, hrest⟩ := hx
    obtain ⟨w', hw', hf⟩ := hf a between (hbetween.host.trans hw) hbetween.journal
    refine ⟨w', hbetween.trans hw', ?_⟩
    rw [outcome_bind, hx]
    rw [hrest] at hf
    exact hf

theorem logging {level : Level} (h : level ≠ .success) (message : String) :
    Fills host log (Session.log level message) (Pure.pure ()) := by
  intro w _ hl
  exact ⟨_, .logged hl (e := ⟨level, message, 0⟩) h, outcome_log hl level message, rfl⟩

theorem say (text : String) : Fills host log (say text) (Pure.pure ()) :=
  fun w _ hl => ⟨{ w with shown := w.shown ++ [.say (text ++ "\n")] },
    ⟨rfl, rfl, hl, fun _ _ => id, _, rfl, List.forall_mem_singleton.2 rfl⟩, rfl, rfl⟩

theorem ask (question default : String) : Fills host log (ask question default) (next default) := by
  intro w _ hl
  let asked : Piece := .say s!"{question} [{default}]: "
  refine ⟨((Questionnaire.ask question default).outcome w).2, ?_⟩
  obtain ⟨files, host, format, directory, sessionLog, time, version, answers, shown, unanswered⟩ := w
  cases answers with
  | nil =>
    exact ⟨⟨rfl, rfl, hl, fun _ _ => id, [asked], rfl, List.forall_mem_singleton.2 rfl⟩, rfl⟩
  | cons a rest =>
    have hquiet : ∀ p ∈ [asked, .typed a], Settings.isSuccess p = false := by
      simp [asked, Settings.isSuccess, Piece.entry?]
    exact ⟨⟨rfl, rfl, hl, fun _ _ => id, _, List.append_assoc .., hquiet⟩, rfl, rfl⟩

/-- A reader that goes on from where another one has no result yet, and that one has taken answers. -/
structure Unrolls (p : AnswerReader (Option α)) (q : AnswerReader α) : Prop where
  ended : ∀ l, p l = none → q l = none
  done : ∀ l a rest, p l = some (some a, rest) → q l = some (a, rest)
  again : ∀ l rest, p l = some (none, rest) → rest.length < l.length ∧ q l = q rest

theorem repeated {once : Session (Option α)} {p : AnswerReader (Option α)} {q : AnswerReader α}
    (hx : Fills host log once p) (hq : Unrolls p q) (n : Nat) {w : World} (hn : w.answers.length < n)
    (hw : w.host = host) (hl : w.files.Writable w.sessionLog log) :
    ∃ w', Later log w w' ∧
      match q w.answers with
      | some (a, rest) => (repeated once n).outcome w = (.ok a, w') ∧ w'.answers = rest
      | none => (repeated once n).outcome w = (.error (.raised .abort ""), w') := by
  induction n generalizing w with
  | zero => cases hn
  | succ n ih =>
    obtain ⟨between, hbetween, hx⟩ := hx w hw hl
    unfold Questionnaire.repeated
    rw [outcome_bind]
    cases hp : p w.answers with
    | none =>
      rw [hp] at hx
      refine ⟨between, hbetween, ?_⟩
      rw [hq.ended _ hp]
      dsimp only at hx ⊢
      rw [hx]
    | some taken =>
      obtain ⟨found, rest⟩ := taken
      rw [hp] at hx
      obtain ⟨hx, hrest⟩ := hx
      rw [hx]
      cases found with
      | some a =>
        refine ⟨between, hbetween, ?_⟩
        rw [hq.done _ a rest hp]
        exact ⟨rfl, hrest⟩
      | none =>
        -- this round has taken an answer, so there are rounds left for the others
        obtain ⟨hshorter, hagain⟩ := hq.again _ rest hp
        rw [hagain, ← hrest]
        rw [← hrest] at hshorter
        obtain ⟨w', hw', hrun⟩ :=
          ih (by omega) (hbetween.host.trans hw) hbetween.journal
        exact ⟨w', hbetween.trans hw', hrun⟩

theorem untilSome {once : Session (Option α)} {p : AnswerReader (Option α)} {q : AnswerReader α}
    (hx : Fills host log once p) (hq : Unrolls p q) : Fills host log (untilSome once) q := by
  intro w hw hl
  exact hx.repeated hq (w.answers.length + 1) (Nat.lt_succ_self _) hw hl

/-- The answer that a question takes, if it will do. -/
theorem unrolls_first (default : String) (f : String → Option α) :
    Unrolls (do return f (← next default)) (first default f) where
  ended l h := by
    cases l with
    | nil => rfl
    | cons a rest => cases h
  done l b rest h := by
    cases l with
    | nil => cases h
    | cons a more =>
      obtain ⟨hf, rfl⟩ := Prod.mk.inj (Option.some.inj h)
      rw [first, hf]
  again l rest h := by
    cases l with
    | nil => cases h
    | cons a more =>
      obtain ⟨hf, rfl⟩ := Prod.mk.inj (Option.some.inj h)
      exact ⟨Nat.lt_succ_self _, by rw [first, hf]⟩

/-- The answer that a question takes, if it will do for another condition as well. -/
theorem unrolls_first_bind (default : String) (f : String → Option β) (g : β → Option α) :
    Unrolls (do return g (← first default f)) (first default fun a => (f a).bind g) := by
  have hrun (l : List String) : (do return g (← first default f) : AnswerReader (Option α)) l =
      (first default f l).bind fun (b, rest) => some (g b, rest) := rfl
  constructor
  · intro l h
    rw [first_bind]
    cases hl : first default f l with
    | none => rfl
    | some taken =>
      rw [hrun, hl] at h
      cases h
  · intro l c rest h
    obtain ⟨⟨b, rest⟩, hb, heq⟩ := Option.bind_eq_some_iff.1 ((hrun l).symm.trans h)
    obtain ⟨hg, rfl⟩ := Prod.mk.inj (Option.some.inj heq)
    rw [first_bind, hb, Option.bind_some]
    dsimp only
    rw [hg]
  · intro l rest h
    obtain ⟨⟨b, rest⟩, hb, heq⟩ := Option.bind_eq_some_iff.1 ((hrun l).symm.trans h)
    obtain ⟨hg, rfl⟩ := Prod.mk.inj (Option.some.inj heq)
    refine ⟨length_lt_of_first hb, ?_⟩
    rw [first_bind, hb, Option.bind_some]
    dsimp only
    rw [hg]

theorem askAmong (question : String) (names : List String) (default : String) :
    Fills host log (askAmong question names default) (first default (among? names)) := by
  refine untilSome (p := do return among? names (← next default)) ?_ (unrolls_first default _)
  refine (ask _ default).bind fun a => ?_
  unfold among?
  split_ifs
  · exact pure (some a)
  · exact (say _).bind fun _ => pure none

theorem askList (question default : String) :
    Fills host log (askList question default) (first default parts?) := by
  refine untilSome (p := do return parts? (← next default)) ?_ (unrolls_first default _)
  refine (ask question default).bind fun a => ?_
  cases parts? a with
  | some parts => exact pure (some parts)
  | none => exact (logging (by decide) _).bind fun _ => pure none

theorem askMachines (default : String) :
    Fills host log (askMachines default) (first default fun a => (parts? a).bind machines?) := by
  refine untilSome (p := do return machines? (← first default parts?)) ?_
    (unrolls_first_bind default _ _)
  refine (askList _ default).bind fun machines => ?_
  unfold machines?
  split_ifs
  · exact pure none
  · exact pure (some machines)
  · exact (logging (by decide) _).bind fun _ => pure none

theorem map {x : Session α} {p : AnswerReader α} (hx : Fills host log x p) (f : α → β) :
    Fills host log (f <$> x) (f <$> p) := by
  rw [map_eq_pure_bind, map_eq_pure_bind]
  exact hx.bind fun a => pure (f a)

theorem get_bind {f : World → Session β} {q : AnswerReader β}
    (hf : ∀ w, w.host = host → Fills host log (f w) q) : Fills host log (get >>= f) q :=
  fun w hw hl => hf w hw w hw hl

end Fills

/-- An interview ends in the settings of the form that its answers fill in. -/
theorem fills_interview (host : Host) (log : Place) :
    Fills host log interview (Form.settings <$> fill host) := by
  unfold interview
  refine .get_bind fun w hw => ?_
  rw [hw]
  unfold fill
  simp only [map_bind]
  refine (Fills.ask _ _).bind fun name => (Fills.ask _ _).bind fun group =>
    (Fills.ask _ _).bind fun version => (Fills.askAmong _ _ _).bind fun type =>
    (Fills.askAmong _ _ _).bind fun language => (Fills.askList _ _).bind fun buildTypes =>
    (Fills.askMachines _).bind fun machines => ?_
  split_ifs
  · rw [map_bind]
    exact ((Fills.askList _ _).map some).bind fun linkages => .pure _
  · rw [map_bind]
    exact (Fills.pure none).bind fun linkages => .pure _

end NativeVariants.Questionnaire
