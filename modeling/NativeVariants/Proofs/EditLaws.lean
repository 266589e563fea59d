import NativeVariants.Proofs.Edits
import NativeVariants.Proofs.Leaves

/-!
# Laws of edits

After an edit that reports success the settings hold what it set, hold nothing where it removed, and
at all unrelated keys what they held before (`Settings.path_laws`). The trees of the laws are taken up
to the order of keys, since writing a file puts the values of a table before the tables inside it:
settings `Reload` if they are read back as the same tree.
-/

namespace NativeVariants.Settings

open Session

/-- Settings that are the same tree after they were written and read. -/
def Reloads (format : Format) (settings : Table) : Prop :=
  ((format.encode settings).toOption.bind fun text => format.decode? (Text.readNewlines text)).map
    (fun t => (Value.table t).canonical) = some (Value.table settings).canonical

instance (format : Format) (settings : Table) : Decidable (Reloads format settings) :=
  inferInstanceAs (Decidable (_ = _))

/-- What an edit writes is read back as the same tree. -/
def Edit.Reloads (directory : String) (e : Edit) (w : World) : Prop :=
  ∀ changed, e.result? (loaded directory w) = some changed → Settings.Reloads w.format changed

instance (directory : String) (e : Edit) (w : World) : Decidable (e.Reloads directory w) :=
  decidable_of_iff ((e.result? (loaded directory w)).all fun changed =>
      decide (Settings.Reloads w.format changed)) <| by
    simp [Edit.Reloads, Option.all_eq_true]

def parts (key : String) : List String :=
  (Path.ofKey key).parts

/-- The tree under a key of the settings in a directory. -/
def treeAt (directory : String) (w : World) (key : String) : Option Value :=
  (lookup? key (loaded directory w)).map Value.canonical

/-- Showing a key shows the value and nothing else. -/
structure Prints (directory : String) (w : World) (key : String) (v : Value) : Prop where
  completes : ((showKey directory key).outcome w).1.isOk
  shown : ∃ text, shownText w.host v = .ok text ∧
    shownBy (showKey directory key) w = [.entry (loading directory), .say (text ++ "\n")]

variable {directory key text : String} {w : World} {log place : Place} {t changed found : Table}
  {e : Edit}

theorem Reloads.exists_found {format : Format} (h : Reloads format changed) : ∃ text found,
    format.encode changed = .ok text ∧ format.decode? (Text.readNewlines text) = some found ∧
      (Value.table found).canonical = (Value.table changed).canonical := by
  obtain ⟨found, hbind, hcanonical⟩ := Option.map_eq_some_iff.1 h
  obtain ⟨text, hr, hp⟩ := Option.bind_eq_some_iff.1 hbind
  refine ⟨text, found, ?_, hp, hcanonical⟩
  cases he : format.encode changed with
  | error failure =>
    rw [he] at hr
    cases hr
  | ok written =>
    rw [he] at hr
    exact congrArg _ (Option.some.inj hr)

theorem Holds.distinct (h : Holds directory w log place t) : (Value.table t).Distinct := by
  obtain ⟨_, -, hp⟩ := h.decodes
  exact h.lawful.distinct hp

/-! ### Values that are shown -/

/-- Why a value cannot be shown: it is nested too deep, or a leaf that is met first has no JSON form. A
moment by itself is shown as text. -/
inductive Unshown (host : Host) (v : Value) : Failure → Prop where
  | deep (h : host.stack + 1 < v.depth) : Unshown host v (.tooDeep "encoding a JSON object")
  | leaf {failure : Failure} (hdepth : v.depth ≤ host.stack + 1) (hinside : ∀ m, v ≠ .moment m)
      (h : v.leaves.findSome? Value.unprinted? = some failure) : Unshown host v failure

theorem unshown_iff {host : Host} {v : Value} {failure : Failure} : Unshown host v failure ↔
    host.stack + 1 < v.depth ∧ failure = .tooDeep "encoding a JSON object" ∨
      v.depth ≤ host.stack + 1 ∧ (∀ m, v ≠ .moment m) ∧
        v.leaves.findSome? Value.unprinted? = some failure := by
  constructor
  · rintro (hdeep | ⟨hdepth, hinside, h⟩)
    · exact .inl ⟨hdeep, rfl⟩
    · exact .inr ⟨hdepth, hinside, h⟩
  · rintro (⟨hdeep, rfl⟩ | ⟨hdepth, hinside, h⟩)
    · exact .deep hdeep
    · exact .leaf hdepth hinside h

theorem jsonOn_eq_error_iff {host : Host} {layout : Json.Layout} {v : Value} {failure : Failure}
    (hinside : ∀ m, v ≠ .moment m) :
    jsonOn host layout v = .error failure ↔ Unshown host v failure := by
  rw [jsonOn, Host.within_eq_error_iff, Json.render_eq_error_iff, unshown_iff]
  simp only [hinside, not_false_eq_true, implies_true, true_and, ne_eq]

/-- A scalar is shown as text, which is missing where its JSON form is. -/
theorem text_eq_error_iff_unshown {host : Host} {v : Value} {failure : Failure} (hdepth : v.depth = 0)
    (hleaves : v.leaves = [v]) (hinside : ∀ m, v ≠ .moment m) :
    v.text = .error failure ↔ Unshown host v failure := by
  rw [← failure?_eq_some_iff, Value.failure?_text, unshown_iff, hdepth, hleaves,
    List.findSome?_singleton, List.findSome?_singleton, Value.unprinted?_of_ne_moment hinside]
  simp [hinside]

/-- A value is shown unless it is `Unshown`. -/
theorem shownText_eq_error_iff {host : Host} {v : Value} {failure : Failure} :
    shownText host v = .error failure ↔ Unshown host v failure := by
  cases v with
  | list items => exact jsonOn_eq_error_iff nofun
  | table fields => exact jsonOn_eq_error_iff nofun
  | moment m =>
    refine iff_of_false nofun fun h => ?_
    rcases unshown_iff.1 h with ⟨hdeep, -⟩ | ⟨-, hinside, -⟩
    · exact Nat.not_lt_zero _ hdeep
    · exact hinside m rfl
  | null => exact text_eq_error_iff_unshown (v := .null) rfl rfl nofun
  | bool b => exact text_eq_error_iff_unshown (v := .bool b) rfl rfl nofun
  | int n => exact text_eq_error_iff_unshown (v := .int n) rfl rfl nofun
  | float x => exact text_eq_error_iff_unshown (v := .float x) rfl rfl nofun
  | string s => exact text_eq_error_iff_unshown (v := .string s) rfl rfl nofun

/-! ### Values that are set -/

theorem readValue_cases (key text : String) :
    (∃ ss : List String, readValue key text = .list (ss.map .string)) ∨
      (∃ b, readValue key text = .bool b) ∨ readValue key text = .string text := by
  unfold readValue
  dsimp only
  split_ifs
  · exact .inl ⟨_, rfl⟩
  · exact .inr (.inl ⟨true, rfl⟩)
  · exact .inr (.inl ⟨false, rfl⟩)
  · exact .inr (.inr rfl)

theorem distinct_readValue (key text : String) : (readValue key text).Distinct := by
  rcases readValue_cases key text with ⟨ss, h⟩ | ⟨b, h⟩ | h
  · rw [h, Value.distinct_list_iff, List.forall_mem_map]
    exact fun s _ => trivial
  · rw [h]
    trivial
  · rw [h]
    trivial

theorem not_holdsTable_readValue (key text : String) : ¬ (readValue key text).HoldsTable := by
  rcases readValue_cases key text with ⟨ss, h⟩ | ⟨b, h⟩ | h
  · rw [h]
    rintro (_ | ⟨hmem, hholds⟩)
    obtain ⟨s, -, rfl⟩ := List.mem_map.1 hmem
    cases hholds
  · rw [h]
    nofun
  · rw [h]
    nofun

theorem readValue_ne_table (key text : String) (inner : Table) :
    readValue key text ≠ .table inner := by
  intro h
  exact not_holdsTable_readValue key text (h ▸ .table inner)

theorem canonical_readValue (key text : String) :
    (readValue key text).canonical = readValue key text := by
  rcases readValue_cases key text with ⟨ss, h⟩ | ⟨b, h⟩ | h
  · rw [h, Value.canonical, Value.canonicalItems_strings]
  · rw [h]
    rfl
  · rw [h]
    rfl

/-- Values that can be set have no keys that could be in another order. -/
theorem eq_readValue_of_canonical {v : Value} (h : v.canonical = readValue key text) :
    v = readValue key text :=
  (Value.eq_of_canonical_eq (not_holdsTable_readValue key text)
    ((canonical_readValue key text).trans h.symm)).symm

/-- Values that can be set are shown. -/
theorem exists_shownText_readValue (host : Host) (key text : String) :
    ∃ shown, shownText host (readValue key text) = .ok shown := by
  cases hs : shownText host (readValue key text) with
  | ok shown => exact ⟨shown, rfl⟩
  | error failure =>
    -- they are nested once at most, and their leaves are texts and truth values
    rcases unshown_iff.1 (shownText_eq_error_iff.1 hs) with ⟨hdeep, -⟩ | ⟨-, -, hleaf⟩ <;>
      rcases readValue_cases key text with ⟨ss, h⟩ | ⟨b, h⟩ | h
    · rw [h, Value.depth, Value.depthOfItems_strings] at hdeep
      omega
    · rw [h, Value.depth] at hdeep
      · omega
      · nofun
      · nofun
    · rw [h, Value.depth] at hdeep
      · omega
      · nofun
      · nofun
    · rw [h, Value.leaves, Value.leavesOfItems_strings] at hleaf
      obtain ⟨leaf, hmem, hunprinted⟩ := List.exists_of_findSome?_eq_some hleaf
      obtain ⟨s, -, rfl⟩ := List.mem_map.1 hmem
      cases hunprinted
    · rw [h] at hleaf
      cases hleaf
    · rw [h] at hleaf
      cases hleaf

theorem Holds.outcome_showKey (h : Holds directory w log place t) (hne : t ≠ []) (key : String) :
    let found := w.logged log (loading directory)
    (showKey directory key).outcome w =
      match lookup? key t with
      | none => (.ok (), found.logged log (unknown key))
      | some v =>
        match shownText w.host v with
        | .error failure => (.error failure, found)
        | .ok text => (.ok (), { found with shown := found.shown ++ [.say (text ++ "\n")] }) := by
  intro found
  unfold showKey
  rw [outcome_bind, h.outcome_require hne]
  dsimp only
  cases lookup? key t with
  | none => exact outcome_log (h.logged _).journal _ _
  | some v =>
    dsimp only
    rw [outcome_bind, outcome_get]
    dsimp only
    rw [outcome_bind, outcome_lift]
    have hhost : (w.logged log (loading directory)).host = w.host := rfl
    rw [hhost]
    cases shownText w.host v <;> rfl

theorem Holds.prints (h : Holds directory w log place t) {v : Value}
    (hv : lookup? key t = some v) {text : String} (ht : shownText w.host v = .ok text) :
    Prints directory w key v := by
  have hne : t ≠ [] := by
    rintro rfl
    rw [lookup?_nil] at hv
    cases hv
  have houtcome := h.outcome_showKey hne key
  simp only [hv, ht] at houtcome
  refine ⟨by rw [houtcome]; rfl, text, ht, shownBy_eq ?_⟩
  rw [houtcome]
  exact List.append_assoc ..

/-! ### What a successful edit leaves -/

theorem Edit.distinct_result? (hd : (Value.table t).Distinct) (h : e.result? t = some changed) :
    (Value.table changed).Distinct := by
  cases e with
  | set key text => exact distinct_put hd (distinct_readValue key text) (result?_set_eq_some_iff.1 h).2
  | unset key => exact distinct_remove? hd (result?_unset_eq_some_iff.1 h).2

/-- After an edit that succeeds the file holds the tree that was written. -/
theorem Edit.Succeeds.exists_found (h : e.Succeeds directory w) (hr : e.Reloads directory w)
    (hlaw : w.format.Lawful)
    (hapart : w.files.locate (filePath directory) ≠ w.files.locate w.sessionLog) :
    ∃ log place changed found, Holds directory w log place (loaded directory w) ∧
      e.result? (loaded directory w) = some changed ∧
      Holds directory (e.after directory w) log place found ∧
      (Value.table found).canonical = (Value.table changed).canonical := by
  obtain ⟨log, place, changed, text, hholds, hresult, hw⟩ := h.exists_written hlaw hapart
  obtain ⟨text', found, hw', hp, hcanonical⟩ := (hr changed hresult).exists_found
  cases hw.symm.trans hw'
  refine ⟨log, place, changed, found, hholds, hresult, ?_, hcanonical⟩
  rw [after, outcome_run_of_written hholds hresult hw]
  exact holds_written hholds hp

theorem treeAt_of_holds (h : Holds directory w log place found)
    (hd : (Value.table changed).Distinct)
    (hc : (Value.table found).canonical = (Value.table changed).canonical) (q : String) :
    treeAt directory w q = (lookup? q changed).map Value.canonical := by
  rw [treeAt, h.loaded_eq]
  exact find?_congr h.distinct hd hc (parts q)

theorem Edit.Succeeds.treeAt_after (h : e.Succeeds directory w) (hr : e.Reloads directory w)
    (hlaw : w.format.Lawful)
    (hapart : w.files.locate (filePath directory) ≠ w.files.locate w.sessionLog) :
    ∃ changed, (Value.table (loaded directory w)).Distinct ∧
      e.result? (loaded directory w) = some changed ∧
      ∀ q, treeAt directory (e.after directory w) q = (lookup? q changed).map Value.canonical := by
  obtain ⟨log, place, changed, found, hholds, hresult, hfound, hc⟩ := h.exists_found hr hlaw hapart
  exact ⟨changed, hholds.distinct, hresult,
    treeAt_of_holds hfound (distinct_result? hholds.distinct hresult) hc⟩

/-- What is found behind a path is found from what the path leads to. -/
theorem lookup?_of_prefix {q : String} (h : parts key <+: parts q) :
    ∃ rest, parts q = parts key ++ rest ∧
      ∀ t, lookup? q t = (lookup? key t).bind (find? rest) := by
  obtain ⟨rest, hrest⟩ := h
  refine ⟨rest, hrest.symm, fun t => ?_⟩
  exact (congrArg (find? · (.table t)) hrest.symm).trans (find?_append _ _ _)

/-- What was set is found as it was given, although the tree was written and read. -/
theorem lookup?_of_set (hd : (Value.table t).Distinct)
    (hr : (Edit.set key text).result? t = some changed) (h : Holds directory w log place found)
    (hc : (Value.table found).canonical = (Value.table changed).canonical) :
    lookup? key found = some (readValue key text) := by
  have hput : lookup? key changed = some (readValue key text) :=
    find?_put_self (Edit.result?_set_eq_some_iff.1 hr).2
  have hfound := treeAt_of_holds h (Edit.distinct_result? hd hr) hc key
  rw [treeAt, h.loaded_eq, hput, Option.map_some, canonical_readValue] at hfound
  obtain ⟨v, hv, hcanonical⟩ := Option.map_eq_some_iff.1 hfound
  rw [hv, eq_readValue_of_canonical hcanonical]

theorem Edit.Succeeds.prints (h : (Edit.set key text).Succeeds directory w)
    (hr : (Edit.set key text).Reloads directory w) (hlaw : w.format.Lawful)
    (hapart : w.files.locate (filePath directory) ≠ w.files.locate w.sessionLog) :
    Prints directory ((Edit.set key text).after directory w) key (readValue key text) := by
  obtain ⟨log, place, changed, found, hholds, hresult, hfound, hc⟩ := h.exists_found hr hlaw hapart
  obtain ⟨shown, hshown⟩ := exists_shownText_readValue _ key text
  exact hfound.prints (lookup?_of_set hholds.distinct hresult hfound hc) hshown

/-- Neither edit changes what is found at an unrelated path. -/
theorem Edit.lookup?_of_unrelated (h : e.result? t = some changed) {q : String}
    (hq : Unrelated (parts e.key) (parts q)) : lookup? q changed = lookup? q t := by
  cases e with
  | set key text => exact find?_put_of_unrelated (result?_set_eq_some_iff.1 h).2 hq
  | unset key => exact find?_remove?_of_unrelated (result?_unset_eq_some_iff.1 h).2 hq

/-- Nothing is found behind a value that was set, since it is no table. -/
theorem Edit.lookup?_behind (h : (Edit.set key text).result? t = some changed) {q : String}
    (hq : parts key <+: parts q) (hne : parts q ≠ parts key) : lookup? q changed = none := by
  obtain ⟨rest, hrest, hlookup⟩ := lookup?_of_prefix hq
  have hput : lookup? key changed = some (readValue key text) :=
    find?_put_self (result?_set_eq_some_iff.1 h).2
  have hnil : rest ≠ [] := by
    rintro rfl
    exact hne (hrest.trans (List.append_nil _))
  rw [hlookup, hput, Option.bind_some, find?_of_not_table (readValue_ne_table key text) hnil]

theorem Edit.lookup?_removed (hd : (Value.table t).Distinct)
    (h : (Edit.unset key).result? t = some changed) {q : String} (hq : parts key <+: parts q) :
    lookup? q changed = none := by
  obtain ⟨rest, -, hlookup⟩ := lookup?_of_prefix hq
  have hnone : lookup? key changed = none :=
    find?_remove?_self hd (result?_unset_eq_some_iff.1 h).2
  rw [hlookup, hnone, Option.bind_none]

/-! ### Setting a key twice -/

theorem Edit.succeeds_of_written (h : Holds directory w log place t) (hr : e.result? t = some changed)
    (hw : w.format.encode changed = .ok text) : e.Succeeds directory w := by
  have houtcome := outcome_run_of_written h hr hw
  have hprefix : w.shown <+:
      w.shown ++ [.entry (loading directory)] ++ [.entry (saving directory)] := by
    rw [List.append_assoc]
    exact List.prefix_append ..
  refine ⟨by rw [houtcome]; rfl, mem_shownBy_of_last hprefix ?_⟩
  rw [houtcome]
  rfl

theorem Edit.Succeeds.set_again {second : String} (h : (Edit.set key text).Succeeds directory w)
    (hr : (Edit.set key text).Reloads directory w) (hlaw : w.format.Lawful)
    (hapart : w.files.locate (filePath directory) ≠ w.files.locate w.sessionLog)
    (h' : (Edit.set key second).Succeeds directory ((Edit.set key text).after directory w))
    (hr' : (Edit.set key second).Reloads directory ((Edit.set key text).after directory w))
    (hr'' : (Edit.set key second).Reloads directory w) :
    (Edit.set key second).Succeeds directory w ∧
      (Value.table (loaded directory ((Edit.set key second).after directory w))).canonical =
        (Value.table (loaded directory ((Edit.set key second).after directory
          ((Edit.set key text).after directory w)))).canonical := by
  obtain ⟨log, place, first, between, hholds, hresult, hbetween, hc⟩ := h.exists_found hr hlaw hapart
  obtain ⟨_, _, twice, last, -, hresult', hlast, hc'⟩ :=
    h'.exists_found hr' hbetween.lawful hbetween.locate_ne
  obtain ⟨hne, hfirst⟩ := result?_set_eq_some_iff.1 hresult
  rw [hbetween.loaded_eq] at hresult'
  -- the second value takes the place of the first one, in a tree that was read or was not
  obtain ⟨changed, hput, htwice⟩ := put_congr hbetween.distinct
    (distinct_result? hholds.distinct hresult) (distinct_readValue key second) hc
    (result?_set_eq_some_iff.1 hresult').2
  rw [put_put hfirst] at hput
  have hdirect : (Edit.set key second).result? (loaded directory w) = some changed :=
    result?_set_eq_some_iff.2 ⟨hne, hput⟩
  obtain ⟨text', found, hw, hp, hfound⟩ := (hr'' changed hdirect).exists_found
  refine ⟨succeeds_of_written hholds hdirect hw, ?_⟩
  rw [hlast.loaded_eq, hc', htwice, after, outcome_run_of_written hholds hdirect hw,
    (holds_written hholds hp).loaded_eq, hfound]

/-! ### The laws -/

/-- A value that is set is shown, has nothing behind it and takes the place of one set before; what
is removed is not found, nor what was behind it. All unrelated keys keep their values. -/
theorem path_laws (directory key : String) (w : World) (hlaw : w.format.Lawful)
    (hapart : w.files.locate (filePath directory) ≠ w.files.locate w.sessionLog) :
    (∀ text, (Edit.set key text).Succeeds directory w → (Edit.set key text).Reloads directory w →
      let w' := (Edit.set key text).after directory w
      Prints directory w' key (readValue key text) ∧
        (∀ q, Unrelated (parts key) (parts q) →
          treeAt directory w' q = treeAt directory w q) ∧
        ∀ q, parts key <+: parts q → parts q ≠ parts key → treeAt directory w' q = none) ∧
    ((Edit.unset key).Succeeds directory w → (Edit.unset key).Reloads directory w →
      let w' := (Edit.unset key).after directory w
      (∀ q, parts key <+: parts q → treeAt directory w' q = none) ∧
        ∀ q, Unrelated (parts key) (parts q) →
          treeAt directory w' q = treeAt directory w q) ∧
    ∀ first second, (Edit.set key first).Succeeds directory w →
      (Edit.set key first).Reloads directory w →
      let w' := (Edit.set key first).after directory w
      (Edit.set key second).Succeeds directory w' → (Edit.set key second).Reloads directory w' →
      (Edit.set key second).Reloads directory w →
      (Edit.set key second).Succeeds directory w ∧
        (Value.table (loaded directory ((Edit.set key second).after directory w))).canonical =
          (Value.table (loaded directory ((Edit.set key second).after directory w'))).canonical := by
  refine ⟨fun text h hr => ?_, fun h hr => ?_, ?_⟩
  · obtain ⟨changed, -, hresult, hafter⟩ := h.treeAt_after hr hlaw hapart
    refine ⟨h.prints hr hlaw hapart, fun q hq => ?_, fun q hq hne => ?_⟩
    · rw [hafter, Edit.lookup?_of_unrelated hresult hq, treeAt]
    · rw [hafter, Edit.lookup?_behind hresult hq hne, Option.map_none]
  · obtain ⟨changed, hdistinct, hresult, hafter⟩ := h.treeAt_after hr hlaw hapart
    refine ⟨fun q hq => ?_, fun q hq => ?_⟩
    · rw [hafter, Edit.lookup?_removed hdistinct hresult hq, Option.map_none]
    · rw [hafter, Edit.lookup?_of_unrelated hresult hq, treeAt]
  · exact fun first second h hr h' hr' hr'' => h.set_again hr hlaw hapart h' hr' hr''

/-- A world with settings whose tables come after their values when they are written again. -/
def workshop : World :=
  worldOf "a.b.c=1\na.d=2"

theorem path_laws_workshop :
    workshop.files.locate (filePath ".") ≠ workshop.files.locate workshop.sessionLog ∧
    ((Edit.set "a.d" "x").Succeeds "." workshop ∧
      let w' := (Edit.set "a.d" "x").after "." workshop
      Prints "." w' "a.d" (.string "x") ∧
        treeAt "." w' "a.b.c" = treeAt "." workshop "a.b.c" ∧
        treeAt "." w' "a.d.e" = none) ∧
    ((Edit.unset "a.d").Succeeds "." workshop ∧
      let w' := (Edit.unset "a.d").after "." workshop
      treeAt "." w' "a.d" = none ∧
        treeAt "." w' "a.b.c" = treeAt "." workshop "a.b.c") ∧
    ((Edit.set "a.d" "true").Succeeds "." workshop ∧
      let w' := (Edit.set "a.d" "x").after "." workshop
      (Value.table (loaded "." ((Edit.set "a.d" "true").after "." workshop))).canonical =
        (Value.table (loaded "." ((Edit.set "a.d" "true").after "." w'))).canonical) := by
  have hapart : workshop.files.locate (filePath ".") ≠ workshop.files.locate workshop.sessionLog := by
    decide +kernel
  have hset : (Edit.set "a.d" "x").Succeeds "." workshop := by decide +kernel
  have hsetr : (Edit.set "a.d" "x").Reloads "." workshop := by decide +kernel
  have hunset : (Edit.unset "a.d").Succeeds "." workshop := by decide +kernel
  have hunsetr : (Edit.unset "a.d").Reloads "." workshop := by decide +kernel
  have hagain : (Edit.set "a.d" "true").Succeeds "."
      ((Edit.set "a.d" "x").after "." workshop) := by decide +kernel
  have hagainr : (Edit.set "a.d" "true").Reloads "."
      ((Edit.set "a.d" "x").after "." workshop) := by decide +kernel
  have hdirectr : (Edit.set "a.d" "true").Reloads "." workshop := by decide +kernel
  have hunrelated : Unrelated (parts "a.d") (parts "a.b.c") := by
    decide +kernel
  obtain ⟨hlaws, hremoved, htwice⟩ := path_laws "." "a.d" workshop Format.lawful_toml hapart
  obtain ⟨hprints, hother, hbehind⟩ := hlaws "x" hset hsetr
  obtain ⟨hnone, hother'⟩ := hremoved hunset hunsetr
  exact ⟨hapart,
    ⟨hset, hprints, hother _ hunrelated, hbehind _ (by decide +kernel) (by decide +kernel)⟩,
    ⟨hunset, hnone _ (by decide +kernel), hother' _ hunrelated⟩,
    htwice "x" "true" hset hsetr hagain hagainr hdirectr⟩

end NativeVariants.Settings
