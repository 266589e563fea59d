import NativeVariants.Proofs.EditLaws

/-!
# Settings that stay editable

Whatever edits are made of settings, the file goes on decoding. A file in which nothing is set counts
as missing, though, and no edit gets out of that: settings can be edited further, and are found when
they are asked for, exactly as long as no edit has emptied the file (`Edit.editable_iff`). An edit
empties it if it removes the last key or writes a text that the file cannot hold.
-/

namespace NativeVariants

namespace Value

variable {fields more : Table}

theorem canonical_table_eq_nil_iff : canonical (table fields) = table [] ↔ fields = [] := by
  constructor
  · intro h
    rw [canonical, Value.table.injEq] at h
    have hperm := Fields.keys_arranged_perm (canonicalFields fields)
    rw [h, keys_canonicalFields] at hperm
    exact List.map_eq_nil_iff.1 hperm.symm.eq_nil
  · rintro rfl
    exact canonical_nil

theorem eq_nil_iff_of_canonical (h : canonical (table fields) = canonical (table more)) :
    fields = [] ↔ more = [] := by
  rw [← canonical_table_eq_nil_iff, h, canonical_table_eq_nil_iff]

end Value

namespace Settings

open Session

/-- A key whose path leads through nothing but tables, as far as it leads. -/
def Free (key : String) (t : Table) : Prop :=
  ∀ p, p <+: (Path.ofKey key).outer → ∀ v, find? p (.table t) = some v → ∃ inner, v = .table inner

instance (key : String) (t : Table) : Decidable (Free key t) :=
  decidable_of_iff (assign key .null t).isOk put_isOk_iff

namespace Edit

def runAll (directory : String) (edits : List Edit) (w : World) : World :=
  edits.foldl (fun w e => e.after directory w) w

/-- The edit leaves a file in which nothing is set. -/
def Empties (directory : String) (e : Edit) (w : World) : Prop :=
  ∃ changed, e.result? (loaded directory w) = some changed ∧
    (changed = [] ∨ ¬ (w.format.encode changed).isOk)

instance (directory : String) (e : Edit) (w : World) : Decidable (e.Empties directory w) :=
  decidable_of_iff ((e.result? (loaded directory w)).any fun changed =>
      changed = [] ∨ ¬ (w.format.encode changed).isOk) <| by
    simp [Empties, Option.any_eq_true]

/-- One of the edits leaves a file in which nothing is set. -/
def EmptiedBy (directory : String) : List Edit → World → Prop
  | [], _ => False
  | e :: rest, w => e.Empties directory w ∨ EmptiedBy directory rest (e.after directory w)

/-- What an edit writes is read back as the same tree, unless it cannot be written. -/
def ReadsBack (directory : String) (e : Edit) (w : World) : Prop :=
  ∀ changed, e.result? (loaded directory w) = some changed →
    ¬ (w.format.encode changed).isOk ∨ Settings.Reloads w.format changed

instance (directory : String) (e : Edit) (w : World) : Decidable (e.ReadsBack directory w) :=
  decidable_of_iff ((e.result? (loaded directory w)).all fun changed =>
      ¬ (w.format.encode changed).isOk ∨ Settings.Reloads w.format changed) <| by
    simp [ReadsBack, Option.all_eq_true]

def AllReadBack (directory : String) : List Edit → World → Prop
  | [], _ => True
  | e :: rest, w => e.ReadsBack directory w ∧ AllReadBack directory rest (e.after directory w)

instance decidableEmptiedBy (directory : String) :
    (edits : List Edit) → (w : World) → Decidable (EmptiedBy directory edits w)
  | [], _ => .isFalse id
  | e :: rest, w =>
    have := decidableEmptiedBy directory rest (e.after directory w)
    inferInstanceAs (Decidable (_ ∨ _))

instance decidableAllReadBack (directory : String) :
    (edits : List Edit) → (w : World) → Decidable (AllReadBack directory edits w)
  | [], _ => .isTrue trivial
  | e :: rest, w =>
    have := decidableAllReadBack directory rest (e.after directory w)
    inferInstanceAs (Decidable (_ ∧ _))

variable {directory key text : String} {w : World} {log place : Place} {t : Table} {e : Edit}
  {edits : List Edit}

theorem emptiedBy_append (edits more : List Edit) (w : World) :
    EmptiedBy directory (edits ++ more) w ↔
      EmptiedBy directory edits w ∨ EmptiedBy directory more (runAll directory edits w) := by
  induction edits generalizing w with
  | nil => exact (or_iff_right nofun).symm
  | cons e rest ih =>
    rw [List.cons_append, EmptiedBy, EmptiedBy, ih, or_assoc]
    rfl

theorem holds_foldl_logged (h : Holds directory w log place t) (entries : List Entry) :
    Holds directory (entries.foldl (World.logged · log) w) log place t := by
  induction entries generalizing w with
  | nil => exact h
  | cons e rest ih => exact ih (h.logged e)

/-- After one edit the file decodes, and nothing is set in it if nothing was or the edit empties it. -/
theorem exists_holds_after (h : Holds directory w log place t)
    (hf : e.ReadsBack directory w) :
    ∃ t', Holds directory (e.after directory w) log place t' ∧
      (t' = [] ↔ t = [] ∨ e.Empties directory w) := by
  have hloaded : loaded directory w = t := h.loaded_eq
  -- an edit writes nothing, or opens the file and cannot write, or writes what is read back
  cases hr : e.result? t with
  | none =>
    obtain ⟨_, errors, hrun, -⟩ := outcome_run_of_none h hr
    refine ⟨t, ?_, ?_⟩
    · rw [after, hrun]
      exact holds_foldl_logged (h.logged _) errors
    · refine (or_iff_left ?_).symm
      rintro ⟨changed, hchanged, -⟩
      rw [hloaded, hr] at hchanged
      cases hchanged
  | some changed =>
    have hempties : e.Empties directory w ↔ changed = [] ∨ ¬ (w.format.encode changed).isOk := by
      rw [Empties, hloaded, hr]
      refine ⟨?_, fun hc => ⟨changed, rfl, hc⟩⟩
      rintro ⟨_, heq, hc⟩
      exact Option.some.inj heq ▸ hc
    rw [hempties, or_iff_right (ne_nil_of_result? hr)]
    cases hw : w.format.encode changed with
    | error failure =>
      refine ⟨[], ?_, iff_of_true rfl (.inr Bool.false_ne_true)⟩
      rw [after, outcome_run_of_unwritable h hr hw]
      exact holds_opened h
    | ok written =>
      have hreloads := (hf changed (by rw [hloaded, hr])).resolve_left (by
        rw [hw]
        exact not_not_intro rfl)
      obtain ⟨text, found, hw', hp, hc⟩ := hreloads.exists_found
      cases hw.symm.trans hw'
      refine ⟨found, ?_, ?_⟩
      · rw [after, outcome_run_of_written h hr hw]
        exact holds_written h hp
      · rw [Value.eq_nil_iff_of_canonical hc]
        exact (or_iff_left (not_not_intro rfl)).symm

theorem exists_holds_runAll (h : Holds directory w log place t) (hf : AllReadBack directory edits w) :
    ∃ t', Holds directory (runAll directory edits w) log place t' ∧
      (t' = [] ↔ t = [] ∨ EmptiedBy directory edits w) := by
  induction edits generalizing w t with
  | nil => exact ⟨t, h, (or_iff_left nofun).symm⟩
  | cons e rest ih =>
    obtain ⟨between, hbetween, hnil⟩ := exists_holds_after h hf.1
    obtain ⟨t', ht', hnil'⟩ := ih hbetween hf.2
    exact ⟨t', ht', by rw [hnil', hnil, EmptiedBy, or_assoc]⟩

theorem missing_mem_iff (h : Holds directory w log place t) :
    .entry missing ∈ shownBy (require directory) w ↔ t = [] := by
  have hne : Piece.entry missing ≠ .entry (loading directory) := by
    intro heq
    cases congrArg Entry.level (Piece.entry.inj heq)
  by_cases ht : t = []
  · subst ht
    have hshown : ((require directory).outcome w).2.shown =
        w.shown ++ [.entry (loading directory), .entry missing] := by
      rw [h.outcome_require_nil]
      exact List.append_assoc ..
    rw [shownBy_eq hshown]
    exact iff_of_true (List.mem_cons_of_mem _ List.mem_cons_self) rfl
  · have hshown : ((require directory).outcome w).2.shown =
        w.shown ++ [.entry (loading directory)] := by
      rw [h.outcome_require ht]
      rfl
    rw [shownBy_eq hshown, List.mem_singleton]
    exact iff_of_false hne ht

/-- Setting a key whose path is free succeeds if there are settings and the result can be written, and
then the key is found. -/
theorem succeeds_set_iff (h : Holds directory w log place t) (hfree : Free key t)
    (hf : (set key text).ReadsBack directory w) :
    ((set key text).Succeeds directory w ∧
        Prints directory ((set key text).after directory w) key (readValue key text)) ↔
      t ≠ [] ∧ ¬ (set key text).Empties directory w := by
  constructor
  · rintro ⟨hs, -⟩
    obtain ⟨_, _, changed, written, -, hr, hw⟩ := hs.exists_written h.lawful h.locate_ne
    refine ⟨h.loaded_eq ▸ hs.loaded_ne_nil, ?_⟩
    rintro ⟨_, hr', hempty⟩
    cases hr.symm.trans hr'
    rcases hempty with hnil | hunwritable
    · exact put_ne_nil (result?_set_eq_some_iff.1 hr).2 hnil
    · rw [hw] at hunwritable
      exact hunwritable rfl
  · rintro ⟨hne, hkept⟩
    obtain ⟨changed, hput⟩ := exists_of_isOk (put_isOk_iff.2 hfree :
      (assign key (readValue key text) t).isOk)
    have hr : (set key text).result? t = some changed := result?_set_eq_some_iff.2 ⟨hne, hput⟩
    have hr' : (set key text).result? (loaded directory w) = some changed := by rw [h.loaded_eq, hr]
    cases hw : w.format.encode changed with
    | error failure =>
      exact absurd ⟨changed, hr', .inr (by rw [hw]; exact Bool.false_ne_true)⟩ hkept
    | ok written =>
      have hs : (set key text).Succeeds directory w := succeeds_of_written h hr hw
      refine ⟨hs, hs.prints (fun other hother => ?_) h.lawful h.locate_ne⟩
      cases hr'.symm.trans hother
      exact (hf changed hr').resolve_left (by rw [hw]; exact not_not_intro rfl)

/-- After any edits the file decodes. It is reported as missing exactly if nothing was set in it or one
of the edits has emptied it, and if neither is so, a key whose path is free can be set and is found
afterwards, unless just this empties the file. -/
theorem editable_iff (h : Holds directory w log place t) (hf : AllReadBack directory edits w) :
    let w' := runAll directory edits w
    (∃ t', Holds directory w' log place t') ∧
      (.entry missing ∈ shownBy (require directory) w' ↔ t = [] ∨ EmptiedBy directory edits w) ∧
      ∀ key text, Free key (loaded directory w') → (set key text).ReadsBack directory w' →
        ((set key text).Succeeds directory w' ∧
            Prints directory ((set key text).after directory w') key (readValue key text) ↔
          t ≠ [] ∧ ¬ EmptiedBy directory (edits ++ [set key text]) w) := by
  obtain ⟨t', h', hnil⟩ := exists_holds_runAll h hf
  refine ⟨⟨t', h'⟩, (missing_mem_iff h').trans hnil, fun key text hfree hlast => ?_⟩
  rw [h'.loaded_eq] at hfree
  have hlast' : EmptiedBy directory [set key text] (runAll directory edits w) ↔
      (set key text).Empties directory (runAll directory edits w) := or_iff_left nofun
  rw [succeeds_set_iff h' hfree hlast, emptiedBy_append, hlast', ne_eq, hnil, not_or, not_or,
    and_assoc]

theorem holds_workshop :
    Holds "." workshop ["session.log"] ["variantbuilder.toml"] (loaded "." workshop) :=
  holds_of_loaded Format.lawful_toml (.of_isNone (by decide +kernel) (by decide +kernel))
    ⟨by decide +kernel, nofun⟩ (by decide) (by decide +kernel)

theorem editable_iff_workshop :
    AllReadBack "." [unset "a.b"] workshop ∧
      let w' := runAll "." [unset "a.b"] workshop
      .entry missing ∉ shownBy (require ".") w' ∧
        (set "a.b.c" "true").Succeeds "." w' ∧
          Prints "." ((set "a.b.c" "true").after "." w') "a.b.c" (readValue "a.b.c" "true") := by
  have hread : AllReadBack "." [unset "a.b"] workshop := by decide +kernel
  have hkept : ¬ EmptiedBy "." ([unset "a.b"] ++ [set "a.b.c" "true"]) workshop := by
    decide +kernel
  obtain ⟨-, hmissing, hset⟩ := editable_iff holds_workshop hread
  have hne : loaded "." workshop ≠ [] := by decide +kernel
  refine ⟨hread, fun hmem => ?_, (hset "a.b.c" "true" ?_ ?_).2 ⟨hne, hkept⟩⟩
  · rcases hmissing.1 hmem with hnil | hemptied
    · exact hne hnil
    · exact hkept ((emptiedBy_append ..).2 (.inl hemptied))
  · decide +kernel
  · decide +kernel

/-- Settings of which the last key was removed are not editable any more. -/
theorem not_editable :
    ¬ ∀ (directory : String) (w : World) (log place : Place) (t : Table),
      Holds directory w log place t → t ≠ [] →
      ∀ edits, AllReadBack directory edits w →
        ∀ key text, Free key (loaded directory (runAll directory edits w)) →
          (set key text).ReadsBack directory (runAll directory edits w) →
          (set key text).Succeeds directory (runAll directory edits w) := by
  intro h
  have hs : (set "a.d" "x").Succeeds "." (runAll "." [unset "a"] workshop) :=
    h _ _ _ _ _ holds_workshop (by decide +kernel) [unset "a"] (by decide +kernel) "a.d" "x"
      (by decide +kernel) (by decide +kernel)
  exact absurd hs (by decide +kernel)

end Edit

end Settings

end NativeVariants
