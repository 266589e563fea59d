import NativeVariants.CommandLine.Execution
import NativeVariants.Proofs.Editability

/-!
# Requests about keys of the settings

A key is asked for, set or removed. Such a request is answered: it succeeds, or it reports that the key
is not found and leaves the file as it is. It fails without an answer exactly if it meets an `Obstacle`
(`ends_iff`). Nothing on the way to a key keeps it from being asked for or removed, but a value that is
no table keeps it from being set.
-/

namespace NativeVariants.Settings

open Session

/-- A key is asked for, or the settings are edited at a key. -/
inductive Request where
  | get (key : String)
  | edit (e : Edit)
  deriving DecidableEq, Repr, Inhabited

namespace Request

def command : Request → CommandLine.Command
  | get key => .getSetting key
  | edit (.set key text) => .setSetting key text
  | edit (.unset key) => .unsetSetting key

def key : Request → String
  | get key => key
  | edit e => e.key

abbrev outcome (directory : String) (r : Request) (w : World) : Except Failure Unit × World :=
  (r.command.run directory).outcome w

def fileAfter (directory : String) (r : Request) (w : World) : Except Failure String :=
  (r.outcome directory w).2.files.read (filePath directory)

/-- The value that is asked for is shown, or the edit is made. -/
def Succeeds (directory : String) (w : World) : Request → Prop
  | get key => ∃ v, lookup? key (loaded directory w) = some v ∧ Prints directory w key v
  | edit e => e.Succeeds directory w

/-- The request comes to its end with no more than the report that the key is not found, and the file
stays as it is. -/
structure Declines (directory : String) (w : World) (r : Request) : Prop where
  completes : (r.outcome directory w).1.isOk
  shown : shownBy (r.command.run directory) w =
    [.entry (loading directory), .entry (unknown r.key)]
  file : r.fileAfter directory w = w.files.read (filePath directory)

/-- The request fails, and the file stays as it is or is left empty. -/
structure Fails (directory : String) (w : World) (r : Request) (failure : Failure) (emptied : Bool) :
    Prop where
  failed : (r.outcome directory w).1 = .error failure
  file : r.fileAfter directory w = if emptied then .ok "" else w.files.read (filePath directory)

/-- There is nothing at the key that is asked for or removed. -/
def Missing (t : Table) : Request → Prop
  | get key => lookup? key t = none
  | edit (.set ..) => False
  | edit (.unset key) => lookup? key t = none

/-- What a request does not get past: a value that cannot be shown, a value that is no table on the way
to the key to be set, settings that cannot be written. For the last the file is emptied. -/
inductive Obstacle (w : World) (t : Table) : Request → Failure → Bool → Prop where
  | unshown {key : String} {v : Value} {failure : Failure} (hv : lookup? key t = some v)
      (hu : Unshown w.host v failure) : Obstacle w t (.get key) failure false
  | inTheWay {key text : String} {way : List String} {v : Value}
      (h : InTheWay (Path.ofKey key).outer (.table t) way v) :
      Obstacle w t (.edit (.set key text))
        (if way = (Path.ofKey key).outer then .wrongType else .noAttribute) false
  | unwritable {e : Edit} {changed : Table} {failure : Failure} (hr : e.result? t = some changed)
      (hw : w.format.encode changed = .error failure) : Obstacle w t (.edit e) failure true

variable {directory key text : String} {w : World} {log place : Place} {t : Table} {r : Request}
  {e : Edit} {failure : Failure} {emptied : Bool}

theorem outcome_edit (e : Edit) (w : World) :
    (edit e).outcome directory w = (e.run directory).outcome w := by
  cases e <;> rfl

theorem Declines.of_outcome (h : Holds directory w log place t)
    (ho : r.outcome directory w =
      (.ok (), (w.logged log (loading directory)).logged log (unknown r.key))) :
    r.Declines directory w where
  completes := by rw [ho]; rfl
  shown := by
    refine shownBy_eq ?_
    rw [← outcome, ho]
    exact List.append_assoc ..
  file := by
    rw [fileAfter, ho]
    exact ((h.logged _).read_logged _).trans (h.read_logged _)

theorem Fails.of_outcome (h : Holds directory w log place t)
    (ho : r.outcome directory w = (.error failure, w.logged log (loading directory))) :
    r.Fails directory w failure false where
  failed := by rw [ho]
  file := by
    rw [fileAfter, ho, if_neg Bool.false_ne_true]
    exact h.read_logged _

theorem declines_of_missing (h : Holds directory w log place t) (hne : t ≠ [])
    (hm : r.Missing t) : r.Declines directory w := by
  cases r with
  | get key =>
    have houtcome := h.outcome_showKey hne key
    rw [show lookup? key t = none from hm] at houtcome
    exact .of_outcome h houtcome
  | edit e =>
    cases e with
    | set key text => exact hm.elim
    | unset key =>
      exact .of_outcome h (Edit.outcome_erase_of_none h hne (remove?_eq_none_iff.2 hm))

theorem Obstacle.fails (ho : r.Obstacle w t failure emptied) (h : Holds directory w log place t)
    (hne : t ≠ []) : r.Fails directory w failure emptied := by
  cases ho with
  | @unshown key v failure hv hu =>
    have hshown : shownText w.host v = .error failure := shownText_eq_error_iff.2 hu
    have houtcome := h.outcome_showKey hne key
    simp only [hv, hshown] at houtcome
    exact .of_outcome h houtcome
  | @inTheWay key text way v hway =>
    have hassign : assign key (readValue key text) t =
        .error (if way = (Path.ofKey key).outer then .wrongType else .noAttribute) :=
      put_eq_error_iff.2 ⟨way, v, hway, rfl⟩
    exact .of_outcome h (Edit.outcome_store_of_error h hne hassign)
  | @unwritable e changed failure hr hw =>
    have hrun := Edit.outcome_run_of_unwritable h hr hw
    rw [← outcome_edit] at hrun
    refine ⟨by rw [hrun], ?_⟩
    have hfile := ((h.logged (loading directory)).logged (saving directory)).file
    rw [fileAfter, hrun, if_pos rfl]
    exact (hfile.holdsText_rewritten "").read

/-- A request that finds what it asks for or removes, and meets no obstacle, succeeds. -/
theorem succeeds_of (h : Holds directory w log place t) (hne : t ≠ []) (hm : ¬ r.Missing t)
    (ho : ∀ failure emptied, ¬ r.Obstacle w t failure emptied) : r.Succeeds directory w := by
  cases r with
  | get key =>
    obtain ⟨v, hv⟩ := Option.ne_none_iff_exists'.1 hm
    have hv' : lookup? key (loaded directory w) = some v := by rw [h.loaded_eq, hv]
    cases hs : shownText w.host v with
    | ok text => exact ⟨v, hv', h.prints hv hs⟩
    | error failure => exact absurd (.unshown hv (shownText_eq_error_iff.1 hs)) (ho _ _)
  | edit e =>
    cases hr : e.result? t with
    | some changed =>
      cases hw : w.format.encode changed with
      | ok text => exact Edit.succeeds_of_written h hr hw
      | error failure => exact absurd (.unwritable hr hw) (ho _ _)
    | none =>
      -- nothing was found to be removed, or there was no place for the value
      rw [Edit.result?_of_ne_nil hne] at hr
      cases e with
      | unset key => exact absurd (remove?_eq_none_iff.1 hr) hm
      | set key text =>
        dsimp only at hr
        cases ha : assign key (readValue key text) t with
        | ok changed =>
          rw [ha] at hr
          cases hr
        | error failure =>
          obtain ⟨way, v, hway, -⟩ := put_eq_error_iff.1 ha
          exact absurd (.inTheWay hway) (ho _ _)

theorem Succeeds.isOk (hs : r.Succeeds directory w) : (r.outcome directory w).1.isOk := by
  cases r with
  | get key =>
    obtain ⟨v, -, hprints⟩ := hs
    exact hprints.completes
  | edit e =>
    rw [outcome_edit]
    exact Edit.Succeeds.completes hs

theorem Succeeds.not_declines (hs : r.Succeeds directory w) : ¬ r.Declines directory w := by
  intro hd
  cases r with
  | get key =>
    obtain ⟨v, -, hprints⟩ := hs
    obtain ⟨text, -, hshown⟩ := hprints.shown
    cases hshown.symm.trans hd.shown
  | edit e =>
    have hmem : .entry e.report ∈ shownBy (e.run directory) w := Edit.Succeeds.reported hs
    have hshown : shownBy (e.run directory) w =
        [.entry (loading directory), .entry (unknown e.key)] := by
      refine Eq.trans ?_ hd.shown
      cases e <;> rfl
    rw [hshown, List.mem_pair] at hmem
    rcases hmem with hloading | hunknown
    · refine absurd hloading.symm (Edit.ne_report_of_isNotice ?_ e)
      simp [isNotice, Piece.entry?, loading, toString]
    · have hlevel := congrArg Entry.level (Piece.entry.inj hunknown)
      cases e <;> cases hlevel

theorem Fails.not_isOk (hf : r.Fails directory w failure emptied) :
    ¬ (r.outcome directory w).1.isOk := by
  rw [hf.failed]
  nofun

/-- A file that holds settings is not empty. -/
theorem read_ne_empty (h : Holds directory w log place t) (hne : t ≠ []) :
    w.files.read (filePath directory) ≠ .ok "" := by
  intro hempty
  obtain ⟨text, hr, hp⟩ := h.decodes
  cases hr.symm.trans hempty
  exact hne (Option.some.inj (hp.symm.trans h.lawful.empty))

/-- A request fails in one way only. -/
theorem Fails.unique (h : Holds directory w log place t) (hne : t ≠ []) {other : Failure}
    {emptied' : Bool} (hf : r.Fails directory w failure emptied)
    (hf' : r.Fails directory w other emptied') : failure = other ∧ emptied = emptied' := by
  refine ⟨Except.error.inj (hf.failed.symm.trans hf'.failed), ?_⟩
  have hread := read_ne_empty h hne
  have hfile := hf.file.symm.trans hf'.file
  cases emptied <;> cases emptied'
  · rfl
  · exact absurd hfile hread
  · exact absurd hfile.symm hread
  · rfl

/-! ### How requests end -/

theorem declines_iff (h : Holds directory w log place t) (hne : t ≠ []) :
    r.Declines directory w ↔ r.Missing t := by
  refine ⟨fun hd => ?_, declines_of_missing h hne⟩
  by_contra hm
  by_cases ho : ∃ failure emptied, r.Obstacle w t failure emptied
  · obtain ⟨failure, emptied, ho⟩ := ho
    exact (ho.fails h hne).not_isOk hd.completes
  · simp only [not_exists] at ho
    exact (succeeds_of h hne hm ho).not_declines hd

theorem succeeds_iff (h : Holds directory w log place t) (hne : t ≠ []) :
    r.Succeeds directory w ↔
      ¬ r.Missing t ∧ ∀ failure emptied, ¬ r.Obstacle w t failure emptied := by
  constructor
  · intro hs
    refine ⟨fun hm => hs.not_declines (declines_of_missing h hne hm), fun failure emptied ho => ?_⟩
    exact (ho.fails h hne).not_isOk hs.isOk
  · rintro ⟨hm, ho⟩
    exact succeeds_of h hne hm ho

theorem fails_iff (h : Holds directory w log place t) (hne : t ≠ []) :
    r.Fails directory w failure emptied ↔ r.Obstacle w t failure emptied := by
  refine ⟨fun hf => ?_, fun ho => ho.fails h hne⟩
  have hnot : ∃ other emptied', r.Obstacle w t other emptied' := by
    by_contra ho
    simp only [not_exists] at ho
    by_cases hm : r.Missing t
    · exact hf.not_isOk (declines_of_missing h hne hm).completes
    · exact hf.not_isOk (succeeds_of h hne hm ho).isOk
  obtain ⟨other, emptied', ho⟩ := hnot
  obtain ⟨rfl, rfl⟩ := hf.unique h hne (ho.fails h hne)
  exact ho

/-- Nothing is found behind what is in the way. -/
theorem lookup?_of_inTheWay {way : List String} {v : Value}
    (h : InTheWay (Path.ofKey key).outer (.table t) way v) : lookup? key t = none := by
  obtain ⟨rest, hrest⟩ := h.onPath
  unfold lookup? Path.parts
  rw [← hrest, List.append_assoc, find?_append, h.found, Option.bind_some]
  exact find?_of_not_table h.noTable (by simp)

/-- How a request ends is known from the settings: it declines exactly if there is nothing at its key,
fails exactly at an obstacle and succeeds otherwise. So a key behind a value that is no table can be
asked for and removed, but not set. -/
theorem ends_iff (h : Holds directory w log place t) (hne : t ≠ []) :
    (∀ r : Request,
      (r.Succeeds directory w ↔
        ¬ r.Missing t ∧ ∀ failure emptied, ¬ r.Obstacle w t failure emptied) ∧
      (r.Declines directory w ↔ r.Missing t) ∧
      ∀ failure emptied,
        r.Fails directory w failure emptied ↔ r.Obstacle w t failure emptied) ∧
    ∀ key way v, InTheWay (Path.ofKey key).outer (.table t) way v →
      (get key).Declines directory w ∧ (edit (.unset key)).Declines directory w ∧
        ∀ text, ∃ failure, (edit (.set key text)).Fails directory w failure false := by
  constructor
  · intro r
    exact ⟨succeeds_iff h hne, declines_iff h hne, fun failure emptied => fails_iff h hne⟩
  · intro key way v hway
    have hmissing : lookup? key t = none := lookup?_of_inTheWay hway
    refine ⟨?_, ?_, fun text => ⟨_, (Obstacle.inTheWay hway).fails h hne⟩⟩
    · exact declines_of_missing h hne hmissing
    · exact declines_of_missing h hne hmissing

theorem inTheWay_workshop :
    InTheWay (Path.ofKey "a.d.x").outer (.table (loaded "." workshop)) ["a", "d"] (.int 2) where
  onPath := by decide +kernel
  found := by decide +kernel
  noTable := nofun

theorem ends_iff_workshop :
    loaded "." workshop ≠ [] ∧ (get "a.d").Succeeds "." workshop ∧
      (get "a.d.x").Declines "." workshop ∧
      (edit (.set "a.d.x" "1")).Fails "." workshop .wrongType false := by
  have hne : loaded "." workshop ≠ [] := by decide +kernel
  have hnumber : lookup? "a.d" (loaded "." workshop) = some (.int 2) := by decide +kernel
  obtain ⟨hends, hbehind⟩ := ends_iff Edit.holds_workshop hne
  obtain ⟨hdeclines, -, -⟩ := hbehind "a.d.x" _ _ inTheWay_workshop
  refine ⟨hne, (hends (get "a.d")).1.2 ⟨fun hm => ?_, ?_⟩, hdeclines, ?_⟩
  · cases hnumber.symm.trans hm
  · rintro failure emptied (⟨hv, hu⟩)
    cases hnumber.symm.trans hv
    have hshown : shownText workshop.host (.int 2) = .ok "2" := by decide +kernel
    cases hshown.symm.trans (shownText_eq_error_iff.2 hu)
  · have hfailure : Failure.wrongType =
        if ["a", "d"] = (Path.ofKey "a.d.x").outer then .wrongType else .noAttribute := by
      decide +kernel
    rw [hfailure]
    exact ((hends _).2.2 _ _).2 (.inTheWay inTheWay_workshop)

/-- Not every request is answered: a key behind a number cannot be set. -/
theorem not_answered :
    ¬ ∀ (directory : String) (w : World) (log place : Place) (t : Table),
      Holds directory w log place t → t ≠ [] →
      ∀ r : Request, r.Succeeds directory w ∨ r.Declines directory w := by
  intro h
  have hne : loaded "." workshop ≠ [] := by decide +kernel
  have hfails : (edit (.set "a.d.x" "1")).Fails "." workshop _ false :=
    (Obstacle.inTheWay inTheWay_workshop).fails Edit.holds_workshop hne
  rcases h _ _ _ _ _ Edit.holds_workshop hne (edit (.set "a.d.x" "1")) with hs | hd
  · exact hfails.not_isOk hs.isOk
  · exact hfails.not_isOk hd.completes

end Request

end NativeVariants.Settings
