import NativeVariants.Proofs.Acceptance

/-!
# Settings in another order

Settings that are the same tree up to the order of keys are accepted together, and they make the same
specification unless a table stands where a text is asked for, since its text shows the order of its
keys (`mirrored_ofSettings`). Each reader is `Mirrored` by itself on the other tree, which sequences and
lists of readers keep. Texts that differ begin with a bracket (`Respelt`): nothing that is known by name
is read from them, and they are not blank either.
-/

namespace NativeVariants

/-- `y` succeeds where `x` does, with a result that `R` relates to it. -/
def Mirrored {α β : Type} (R : α → β → Prop) (x : Except Failure α) (y : Except Failure β) : Prop :=
  ∀ a, x = .ok a → ∃ b, y = .ok b ∧ R a b

namespace Mirrored

variable {α β γ δ : Type} {R R' : α → β → Prop} {S : γ → δ → Prop} {x : Except Failure α}
  {y : Except Failure β}

theorem ok {a : α} {b : β} (h : R a b) : Mirrored R (.ok a) (.ok b) := by
  rintro _ ⟨⟩
  exact ⟨b, rfl, h⟩

theorem refuse (fault : ConfigurationFault) (y : Except Failure β) :
    Mirrored R (Specification.refuse fault) y := nofun

theorem refl {R : α → α → Prop} (h : ∀ a, R a a) : Mirrored R x x :=
  fun a ha => ⟨a, ha, h a⟩

theorem mono (h : Mirrored R x y) (hr : ∀ a b, R a b → R' a b) : Mirrored R' x y := by
  intro a ha
  obtain ⟨b, hb, hab⟩ := h a ha
  exact ⟨b, hb, hr a b hab⟩

theorem bind {f : α → Except Failure γ} {g : β → Except Failure δ} (h : Mirrored R x y)
    (hfg : ∀ a b, x = .ok a → R a b → Mirrored S (f a) (g b)) :
    Mirrored S (x.bind f) (y.bind g) := by
  intro c hc
  obtain ⟨a, ha, hf⟩ := Logged.bind_eq_ok_iff.1 hc
  obtain ⟨b, hb, hab⟩ := h a ha
  obtain ⟨d, hd, hcd⟩ := hfg a b ha hab c hf
  exact ⟨d, Logged.bind_eq_ok_iff.2 ⟨b, hb, hd⟩, hcd⟩

theorem mapM {f : α → Except Failure γ} {g : β → Except Failure δ} {l : List α} {l' : List β}
    (h : List.Forall₂ R l l') (hfg : ∀ a ∈ l, ∀ b, R a b → Mirrored S (f a) (g b)) :
    Mirrored (List.Forall₂ S) (l.mapM f) (l'.mapM g) := by
  induction h with
  | nil => exact ok .nil
  | cons hab _ ih =>
    obtain ⟨hhead, htail⟩ := List.forall_mem_cons.1 hfg
    rw [List.mapM_cons, List.mapM_cons]
    refine (hhead _ hab).bind fun c d _ hcd => ?_
    exact (ih htail).bind fun cs ds _ hcds => ok (.cons hcd hcds)

end Mirrored

/-- Equal, unless something is the case. -/
def EqUnless {α : Type} (varies : Prop) (a b : α) : Prop :=
  a = b ∨ varies

theorem EqUnless.list {α : Type} {varies : Prop} {l l' : List α}
    (h : List.Forall₂ (EqUnless varies) l l') : EqUnless varies l l' := by
  induction h with
  | nil => exact .inl rfl
  | cons hab _ ih =>
    rcases hab with rfl | hvaries
    · exact ih.imp_left (congrArg _)
    · exact .inr hvaries

/-! ### Texts that begin with a bracket -/

namespace Text

/-- A text that begins with an opening bracket. -/
def Enclosed (s : String) : Prop :=
  ∃ c rest, (c = '[' ∨ c = '\x7b') ∧ s.toList = c :: rest

variable {s : String}

theorem Enclosed.ne_empty (h : Enclosed s) : s ≠ "" := by
  rintro rfl
  obtain ⟨c, rest, -, hs⟩ := h
  cases hs

theorem Enclosed.trim (h : Enclosed s) : Enclosed (trim s) := by
  obtain ⟨c, rest, hc, hs⟩ := h
  have hblank : isBlank c = false := by
    rcases hc with rfl | rfl <;> decide
  -- what is dropped behind is not all of it, since the bracket is not blank
  have htrim : trimChars s.toList = (c :: rest).rdropWhile isBlank := by
    rw [hs, trimChars, List.dropWhile_cons_of_neg (by simp [hblank]), dropTrailing_eq_rdropWhile]
  obtain ⟨dropped, hd⟩ := List.rdropWhile_prefix isBlank (c :: rest)
  refine ⟨c, ((c :: rest).rdropWhile isBlank).tail, hc, ?_⟩
  rw [Text.trim, String.toList_ofList, htrim]
  cases hkept : (c :: rest).rdropWhile isBlank with
  | nil =>
    rw [List.rdropWhile_eq_nil_iff] at hkept
    have hc := hkept c List.mem_cons_self
    rw [hblank] at hc
    cases hc
  | cons c' rest' =>
    rw [hkept] at hd
    rw [(List.cons.inj hd).1, List.tail_cons]

theorem Enclosed.lower (h : Enclosed s) : Enclosed (lower s) := by
  obtain ⟨c, rest, hc, hs⟩ := h
  have hlower : lowerAt false c rest = [c] := by
    rcases hc with rfl | rfl
    · have hsquare : lowerChar '[' = ['['] := by decide +kernel
      rw [lowerAt, if_neg (by decide), hsquare]
    · have hcurly : lowerChar '\x7b' = ['\x7b'] := by decide +kernel
      rw [lowerAt, if_neg (by decide), hcurly]
  rw [Enclosed, Text.lower, String.toList_ofList, lowerChars, hs, lowerFrom_cons, hlower,
    List.singleton_append]
  exact ⟨c, _, hc, rfl⟩

theorem Enclosed.ne_of_head (h : Enclosed s) {t : String} (hsquare : t.toList.head? ≠ some '[')
    (hcurly : t.toList.head? ≠ some '\x7b') : s ≠ t := by
  rintro rfl
  obtain ⟨c, rest, hc, hs⟩ := h
  rw [hs, List.head?_cons] at hsquare hcurly
  rcases hc with rfl | rfl
  · exact hsquare rfl
  · exact hcurly rfl

/-- Two spellings that are equal, or begin with brackets both if something is the case. -/
def Respelt (varies : Prop) (a b : String) : Prop :=
  a = b ∨ varies ∧ Enclosed a ∧ Enclosed b

variable {varies varies' : Prop} {a b : String}

theorem Respelt.mono (h : Respelt varies a b) (hv : varies → varies') : Respelt varies' a b :=
  h.imp_right fun ⟨hvaries, ha, hb⟩ => ⟨hv hvaries, ha, hb⟩

theorem Respelt.eqUnless (h : Respelt varies a b) : EqUnless varies a b :=
  h.imp_right fun ⟨hvaries, _⟩ => hvaries

theorem Respelt.trim (h : Respelt varies a b) : Respelt varies (Text.trim a) (Text.trim b) := by
  rcases h with rfl | ⟨hvaries, ha, hb⟩
  · exact .inl rfl
  · exact .inr ⟨hvaries, ha.trim, hb.trim⟩

theorem Respelt.lower (h : Respelt varies a b) : Respelt varies (Text.lower a) (Text.lower b) := by
  rcases h with rfl | ⟨hvaries, ha, hb⟩
  · exact .inl rfl
  · exact .inr ⟨hvaries, ha.lower, hb.lower⟩

theorem Respelt.eq_empty_iff (h : Respelt varies a b) : a = "" ↔ b = "" := by
  rcases h with rfl | ⟨-, ha, hb⟩
  · rfl
  · exact iff_of_false ha.ne_empty hb.ne_empty

end Text

theorem ComponentType.ofName?_enclosed {s : String} (h : Text.Enclosed s) : ofName? s = none := by
  unfold ofName?
  rw [if_neg (h.ne_of_head (by decide) (by decide)), if_neg (h.ne_of_head (by decide) (by decide))]

theorem Linkage.ofName?_enclosed {s : String} (h : Text.Enclosed s) : ofName? s = none := by
  unfold ofName?
  rw [if_neg (h.ne_of_head (by decide) (by decide)), if_neg (h.ne_of_head (by decide) (by decide))]

/-! ### Trees that differ in the order of keys -/

namespace Value

/-- The same tree, in which no table has a key twice, up to the order of keys. -/
structure SameTree (v w : Value) : Prop where
  left : v.Distinct
  right : w.Distinct
  canonical : v.canonical = w.canonical

namespace SameTree

variable {v w : Value} {items more : List Value} {t u : Table}

theorem symm (h : SameTree v w) : SameTree w v :=
  ⟨h.right, h.left, h.canonical.symm⟩

theorem get?_eq_none (h : SameTree (.table t) (.table u)) {key : String}
    (ht : t.get? key = none) : u.get? key = none := by
  have hget := (canonical_table_eq_iff h.left h.right).1 h.canonical key
  rw [ht] at hget
  exact Option.map_eq_none_iff.1 hget.symm

theorem exists_get? (h : SameTree (.table t) (.table u)) {key : String}
    (ht : t.get? key = some v) : ∃ w, u.get? key = some w ∧ SameTree v w := by
  have hget := (canonical_table_eq_iff h.left h.right).1 h.canonical key
  rw [ht] at hget
  obtain ⟨w, hw, hcanonical⟩ := Option.map_eq_some_iff.1 hget.symm
  exact ⟨w, hw, h.left.get? ht, h.right.get? hw, hcanonical.symm⟩

theorem forall₂ (h : SameTree (.list items) (.list more)) : List.Forall₂ SameTree items more := by
  induction items generalizing more with
  | nil =>
    cases more with
    | nil => exact .nil
    | cons w more => cases h.canonical
  | cons v items ih =>
    cases more with
    | nil => cases h.canonical
    | cons w more =>
      obtain ⟨hv, hitems⟩ := List.cons.inj (Value.list.inj h.canonical)
      exact .cons ⟨h.left.1, h.right.1, hv⟩ (ih ⟨h.left.2, h.right.2, congrArg Value.list hitems⟩)

/-- Trees that are not equal are lists of such trees or tables. -/
theorem cases (h : SameTree v w) : v = w ∨
    (∃ items more, v = .list items ∧ w = .list more ∧ List.Forall₂ SameTree items more) ∨
      ∃ t u, v = .table t ∧ w = .table u := by
  cases v with
  | list items =>
    cases w with
    | list more => exact .inr (.inl ⟨items, more, rfl, rfl, h.forall₂⟩)
    | _ => cases h.canonical
  | table t =>
    cases w with
    | table u => exact .inr (.inr ⟨t, u, rfl, rfl⟩)
    | _ => cases h.canonical
  | _ => exact .inl (eq_of_canonical_eq nofun h.canonical)

theorem truthy_eq (h : SameTree v w) : v.truthy = w.truthy := by
  rcases h.cases with rfl | ⟨items, more, rfl, rfl, hitems⟩ | ⟨t, u, rfl, rfl⟩
  · rfl
  · cases hitems <;> rfl
  · -- if there is a key in one table then there is one in the other
    cases t with
    | nil =>
      cases u with
      | nil => rfl
      | cons f rest =>
        cases (Fields.get?_cons_self f.1 f.2 rest).symm.trans (h.get?_eq_none rfl)
    | cons f rest =>
      obtain ⟨_, hw, -⟩ := h.exists_get? (Fields.get?_cons_self f.1 f.2 rest)
      cases u with
      | nil => cases hw
      | cons g rest' => rfl

end SameTree

theorem enclosed_text {v : Value} (h : v.HoldsTable) {text : String} (ht : v.text = .ok text) :
    Text.Enclosed text := by
  cases h with
  | table fields =>
    obtain ⟨literals, -, rfl⟩ := Logged.map_eq_ok_iff.1 ht
    rw [bracketed, Text.Enclosed, String.toList_append, String.toList_append]
    exact ⟨'\x7b', _, .inr rfl, rfl⟩
  | item hmem h =>
    obtain ⟨literals, -, rfl⟩ := Logged.map_eq_ok_iff.1 ht
    rw [bracketed, Text.Enclosed, String.toList_append, String.toList_append]
    exact ⟨'[', _, .inl rfl, rfl⟩

/-- Trees that differ are spelt with a bracket at the beginning. -/
theorem SameTree.mirrored_spell {v w : Value} (h : SameTree v w) (host : Host) :
    Mirrored (Text.Respelt v.HoldsTable) (host.spell v) (host.spell w) := by
  intro a ha
  obtain ⟨b, hb⟩ : ∃ b, host.spell w = .ok b := by
    refine exists_of_isOk ((isOk_spell_canonical host w).1 ?_)
    rw [← h.canonical, isOk_spell_canonical, ha]
    rfl
  refine ⟨b, hb, ?_⟩
  by_cases hholds : v.HoldsTable
  · have hholds' : w.HoldsTable := by
      by_contra hfree
      have heq := eq_of_canonical_eq hfree h.canonical.symm
      exact hfree (heq ▸ hholds)
    exact .inr ⟨hholds, enclosed_text hholds (Host.within_eq_ok_iff.1 ha).2,
      enclosed_text hholds' (Host.within_eq_ok_iff.1 hb).2⟩
  · cases eq_of_canonical_eq hholds h.canonical
    exact .inl (Except.ok.inj (ha.symm.trans hb))

end Value

namespace Specification

open Value Text

variable {host : Host} {t u project project' component component' : Table} {v w : Value}
  {key : String} {varies : Prop}

theorem mirrored_textOf (h : SameTree (.table t) (.table u))
    (hv : ∀ v, t.get? key = some v → v.HoldsTable → varies) (default : String) :
    Mirrored (Respelt varies) (textOf host t key default) (textOf host u key default) := by
  unfold textOf
  cases ht : t.get? key with
  | none =>
    rw [h.get?_eq_none ht]
    exact .ok (.inl rfl)
  | some v =>
    obtain ⟨w, hw, hsame⟩ := h.exists_get? ht
    rw [hw]
    exact (hsame.mirrored_spell host).mono fun a b hab => hab.mono (hv v ht)

theorem flag_eq (h : SameTree (.table t) (.table u)) (key : String) : flag t key = flag u key := by
  unfold flag
  cases ht : t.get? key with
  | none => rw [h.get?_eq_none ht]
  | some v =>
    obtain ⟨w, hw, hsame⟩ := h.exists_get? ht
    rw [hw]
    exact hsame.truthy_eq

theorem has_eq (h : SameTree (.table t) (.table u)) (key : String) :
    Fields.has key t = Fields.has key u := by
  unfold Fields.has
  cases ht : t.get? key with
  | none => rw [h.get?_eq_none ht]
  | some v =>
    obtain ⟨w, hw, -⟩ := h.exists_get? ht
    rw [hw]
    rfl

/-- No type of component is read from a text with a bracket. -/
theorem mirrored_readType (host : Host) (h : SameTree (.table component) (.table component')) :
    Mirrored Eq (readType host component) (readType host component') := by
  have htext : Mirrored (Respelt True) (textOf host component "type" "library")
      (textOf host component' "type" "library") :=
    mirrored_textOf h (fun _ _ _ => trivial) "library"
  refine htext.bind fun a b _ hab => ?_
  dsimp only
  rcases hab with rfl | ⟨-, ha, -⟩
  · exact .refl fun _ => rfl
  · rw [ComponentType.ofName?_enclosed ha.trim.lower]
    exact .refuse _ _

theorem mirrored_readLinkage (host : Host) (h : SameTree v w) :
    Mirrored Eq (readLinkage host v) (readLinkage host w) := by
  refine (h.mirrored_spell host).bind ?_
  intro a b _ hab
  rcases hab with rfl | ⟨-, ha, -⟩
  · exact .refl fun _ => rfl
  · rw [Linkage.ofName?_enclosed ha.trim.lower]
    exact .refuse _ _

theorem mirrored_baseNameOf (h : SameTree (.table component) (.table component'))
    (hv : ∀ v, component.get? "base_name" = some v → v.HoldsTable → varies) {name name' : String}
    (hname : EqUnless varies name name') :
    Mirrored (EqUnless varies) (baseNameOf host component name)
      (baseNameOf host component' name') := by
  unfold baseNameOf
  cases hc : component.get? "base_name" with
  | none =>
    rw [h.get?_eq_none hc]
    exact .ok hname
  | some v =>
    obtain ⟨w, hw, hsame⟩ := h.exists_get? hc
    rw [hw]
    dsimp only
    rw [← hsame.truthy_eq]
    split_ifs
    · exact (hsame.mirrored_spell host).mono fun a b hab => (hab.mono (hv v hc)).eqUnless
    · exact .ok hname

theorem mirrored_readBuildType (h : SameTree v w)
    (hv : ∀ fields, v = .table fields → ∀ name, Fields.get? "name" fields = some name →
      name.HoldsTable → varies) :
    Mirrored (EqUnless varies) (readBuildType host v) (readBuildType host w) := by
  rcases h.cases with rfl | ⟨items, more, rfl, rfl, -⟩ | ⟨t, u, rfl, rfl⟩
  · exact .refl fun t => .inl rfl
  · exact .refuse _ _
  · refine (mirrored_textOf h (hv t rfl) "").bind ?_
    intro a b _ hab
    have hempty := hab.trim.eq_empty_iff
    dsimp only
    split_ifs with ha hb hb
    · exact .refuse _ _
    · exact .refuse _ _
    · exact absurd (hempty.2 (by simpa using hb)) (by simpa using ha)
    · refine .ok ?_
      rw [flag_eq h, flag_eq h]
      exact hab.trim.eqUnless.imp_left fun heq => by rw [heq]

theorem mirrored_readMachine (h : SameTree v w)
    (hv : ∀ fields, v = .table fields → ∀ key ∈ ["os", "arch"], ∀ name,
      Fields.get? key fields = some name → name.HoldsTable → varies) :
    Mirrored (EqUnless varies) (readMachine host v) (readMachine host w) := by
  rcases h.cases with rfl | ⟨items, more, rfl, rfl, -⟩ | ⟨t, u, rfl, rfl⟩
  · exact .refl fun m => .inl rfl
  · exact .refuse _ _
  · refine (mirrored_textOf h (hv t rfl "os" (by decide)) "").bind fun a b _ hab => ?_
    refine (mirrored_textOf h (hv t rfl "arch" (by decide)) "").bind fun a' b' _ hab' => ?_
    have hempty := hab.trim.lower.eq_empty_iff
    have hempty' := hab'.trim.lower.eq_empty_iff
    dsimp only
    simp only [Bool.or_eq_true, String.isEmpty_iff, hempty, hempty']
    split_ifs
    · exact .refuse _ _
    · refine .ok ?_
      rcases hab.trim.lower.eqUnless with hfamily | hvaries
      · exact hab'.trim.lower.eqUnless.imp_left fun heq => by rw [hfamily, heq]
      · exact .inr hvaries

theorem mirrored_entries (h : SameTree (.table t) (.table u)) (key : String) :
    Mirrored (List.Forall₂ SameTree) (entries t key) (entries u key) := by
  unfold entries
  cases ht : t.get? key with
  | none =>
    rw [h.get?_eq_none ht]
    exact .ok .nil
  | some v =>
    obtain ⟨w, hw, hsame⟩ := h.exists_get? ht
    rw [hw]
    rcases hsame.cases with rfl | ⟨items, more, rfl, rfl, hitems⟩ | ⟨t, u, rfl, rfl⟩
    · cases v with
      | null => exact .ok .nil
      | list items => exact .ok hsame.forall₂
      | string s => exact .ok (.cons hsame .nil)
      | table fields => exact .ok (.cons hsame .nil)
      | _ => exact .refuse _ _
    · exact .ok hitems
    · exact .ok (.cons hsame .nil)

theorem mirrored_tables (h : SameTree (.table t) (.table u)) :
    Mirrored (fun found found' => SameTree (.table found.1) (.table found'.1) ∧
      SameTree (.table found.2) (.table found'.2)) (tables (.table t)) (tables (.table u)) := by
  have hfield (key : String) :
      SameTree ((t.get? key).getD (.table [])) ((u.get? key).getD (.table [])) := by
    cases ht : t.get? key with
    | none =>
      rw [h.get?_eq_none ht]
      exact ⟨distinct_nil, distinct_nil, rfl⟩
    | some v =>
      obtain ⟨w, hw, hsame⟩ := h.exists_get? ht
      rw [hw]
      exact hsame
  rintro ⟨project, component⟩ hfound
  obtain ⟨hp, hc⟩ := tables_eq_ok_iff.1 hfound
  have hproject := hfield "project"
  have hcomponent := hfield "component"
  rw [hp] at hproject
  rw [hc] at hcomponent
  obtain ⟨project', hp'⟩ := canonical_eq_table_iff.1 ⟨_, hproject.canonical.symm⟩
  obtain ⟨component', hc'⟩ := canonical_eq_table_iff.1 ⟨_, hcomponent.canonical.symm⟩
  rw [hp'] at hproject
  rw [hc'] at hcomponent
  exact ⟨(project', component'), tables_eq_ok_iff.2 ⟨hp', hc'⟩, hproject, hcomponent⟩

/-! ### Settings as a whole -/

/-- Settings in which a table stands where a text is asked for. -/
def AsksTable (settings : Table) : Prop :=
  ∃ project component v, tables (.table settings) = .ok (project, component) ∧
    Asked project component v ∧ v.HoldsTable

theorem Parts.Read.exists_of_sameTree {p : Parts} (h : p.Read host project component)
    (hp : SameTree (.table project) (.table project'))
    (hc : SameTree (.table component) (.table component'))
    (hv : ∀ v, Asked project component v → v.HoldsTable → varies) :
    ∃ p' : Parts, p'.Read host project' component' ∧ EqUnless varies p p' := by
  obtain ⟨name, hname, hsame⟩ :=
    mirrored_textOf hp (fun v hget => hv v (.ofProject (by decide) hget)) "" _ h.name
  obtain ⟨type, htype, rfl⟩ := mirrored_readType host hc _ h.type
  have hbuildType {items : List Value} (hitems : entries component "build_types" = .ok items)
      (v : Value) (hmem : v ∈ items) (w : Value) (hvw : SameTree v w) :
      Mirrored (EqUnless varies) (readBuildType host v) (readBuildType host w) :=
    mirrored_readBuildType hvw fun fields hfields name hname =>
      hv name (.ofBuildType hitems (hfields ▸ hmem) hname)
  have hmachine {items : List Value} (hitems : entries component "target_machines" = .ok items)
      (v : Value) (hmem : v ∈ items) (w : Value) (hvw : SameTree v w) :
      Mirrored (EqUnless varies) (readMachine host v) (readMachine host w) :=
    mirrored_readMachine hvw fun fields hfields key hkey name hname =>
      hv name (.ofMachine hitems (hfields ▸ hmem) hkey hname)
  obtain ⟨buildTypes, hb, hbsame⟩ := ((mirrored_entries hc "build_types").bind
    fun items more hitems hsame => .mapM hsame (hbuildType hitems)) _ h.buildTypes
  obtain ⟨machines, hm, hmsame⟩ := ((mirrored_entries hc "target_machines").bind
    fun items more hitems hsame => .mapM hsame (hmachine hitems)) _ h.machines
  obtain ⟨linkages, hl, hlsame⟩ := ((mirrored_entries hc "linkages").bind
    fun items more _ hsame => .mapM hsame fun v _ w hvw => mirrored_readLinkage host hvw) _ h.linkages
  obtain ⟨group, hg, hgsame⟩ :=
    mirrored_textOf hp (fun v hget => hv v (.ofProject (by decide) hget)) "" _ h.group
  obtain ⟨version, hver, hversame⟩ :=
    mirrored_textOf hp (fun v hget => hv v (.ofProject (by decide) hget)) "unspecified" _ h.version
  obtain ⟨baseName, hbase, hbasesame⟩ := mirrored_baseNameOf hc
    (fun v hget => hv v (.ofComponent (by decide) hget)) hsame.trim.eqUnless _ h.baseName
  obtain ⟨language, hlang, hlangsame⟩ :=
    mirrored_textOf hc (fun v hget => hv v (.ofComponent (by decide) hget)) "cpp" _ h.language
  refine ⟨⟨name, p.type, buildTypes, machines, linkages, group, version, baseName, language⟩,
    ⟨hname, hsame.trim.eq_empty_iff.not.1 h.named, htype, hb, hm, hl, hg, hver, hbase, hlang⟩, ?_⟩
  rw [List.forall₂_eq_eq_eq] at hlsame
  by_cases hvaries : varies
  · exact .inr hvaries
  · have hall : ∀ {α : Type} {a b : α}, EqUnless varies a b → a = b := fun h => h.resolve_right hvaries
    refine .inl ?_
    rw [← hall hsame.eqUnless, ← hall (.list hbsame), ← hall (.list hmsame), ← hlsame,
      ← hall hgsame.eqUnless, ← hall hversame.eqUnless, ← hall hbasesame,
      ← hall hlangsame.eqUnless]

/-- Settings that are the same tree are accepted together, and as the same specification unless a table
stands where a text is asked for. -/
theorem mirrored_ofSettings (h : SameTree (.table t) (.table u)) (host : Host) :
    Mirrored (EqUnless (AsksTable t)) (ofSettings host (.table t)).result
      (ofSettings host (.table u)).result := by
  intro s hs
  obtain ⟨project, component, p, htables, hp, rfl⟩ := ofSettings_eq_ok_iff.1 hs
  obtain ⟨⟨project', component'⟩, htables', hproject, hcomponent⟩ := mirrored_tables h _ htables
  have hasks (v : Value) (hasked : Asked project component v) (hholds : v.HoldsTable) : AsksTable t :=
    ⟨project, component, v, htables, hasked, hholds⟩
  obtain ⟨p', hp', hsame⟩ := hp.exists_of_sameTree hproject hcomponent hasks
  refine ⟨_, ofSettings_eq_ok_iff.2 ⟨project', component', p', htables', hp', rfl⟩, ?_⟩
  refine hsame.imp_left fun heq => ?_
  rw [heq, Parts.assembled, Parts.assembled, has_eq hcomponent]

/-- What is asked for in a tree is asked for in another order of its keys. -/
theorem Asked.exists_of_sameTree (h : Asked project component v)
    (hp : SameTree (.table project) (.table project'))
    (hc : SameTree (.table component) (.table component')) :
    ∃ w, Asked project' component' w ∧ SameTree v w := by
  -- an item of one list of entries stands at the same place in the other
  have hitem {key : String} {items : List Value} {v : Value}
      (hitems : entries component key = .ok items) (hmem : v ∈ items) :
      ∃ more w, entries component' key = .ok more ∧ w ∈ more ∧ SameTree v w := by
    obtain ⟨more, hmore, hsame⟩ := mirrored_entries hc key _ hitems
    obtain ⟨⟨i, hi⟩, rfl⟩ := List.get_of_mem hmem
    have hi' : i < more.length := hsame.length_eq ▸ hi
    exact ⟨more, more.get ⟨i, hi'⟩, hmore, List.get_mem .., hsame.get hi hi'⟩
  cases h with
  | ofProject hkey hv =>
    obtain ⟨w, hw, hsame⟩ := hp.exists_get? hv
    exact ⟨w, .ofProject hkey hw, hsame⟩
  | ofComponent hkey hv =>
    obtain ⟨w, hw, hsame⟩ := hc.exists_get? hv
    exact ⟨w, .ofComponent hkey hw, hsame⟩
  | ofBuildType hitems hfields hv =>
    obtain ⟨more, w, hmore, hmem, hsame⟩ := hitem hitems hfields
    obtain ⟨u, rfl⟩ := canonical_eq_table_iff.1 ⟨_, hsame.canonical.symm⟩
    obtain ⟨w, hw, hsame⟩ := hsame.exists_get? hv
    exact ⟨w, .ofBuildType hmore hmem hw, hsame⟩
  | ofMachine hitems hfields hkey hv =>
    obtain ⟨more, w, hmore, hmem, hsame⟩ := hitem hitems hfields
    obtain ⟨u, rfl⟩ := canonical_eq_table_iff.1 ⟨_, hsame.canonical.symm⟩
    obtain ⟨w, hw, hsame⟩ := hsame.exists_get? hv
    exact ⟨w, .ofMachine hmore hmem hkey hw, hsame⟩
  | linkage hitems hv =>
    obtain ⟨more, w, hmore, hmem, hsame⟩ := hitem hitems hv
    exact ⟨w, .linkage hmore hmem, hsame⟩

end Specification

end NativeVariants
