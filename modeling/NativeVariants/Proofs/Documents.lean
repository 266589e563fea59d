import Mathlib.Tactic.SplitIfs
import NativeVariants.Proofs.KeyOrder
import NativeVariants.Toml.Reader

/-!
# Documents without repeated keys

The tree of a document has no key twice in any of its tables (`distinct_of_parse?`). Statements are
taken into account in trees that are `Grown`, and every operation on them `Keeps` that. The values in
the statements are trees of their own, some of them built from statements in turn: what a parser
`Yields` is followed along its binds, for all readers of one depth at once (`Reads`).
-/

namespace NativeVariants.Toml

namespace Node

variable {key : String} {node : Node} {fields t : Branches} {items : List Branches}

theorem toFields_put (key : String) (node : Node) (fields : Branches) :
    toFields (fields.put key node) = Fields.put key node.toValue (toFields fields) := by
  induction fields with
  | nil => rfl
  | cons f rest ih =>
    obtain ⟨k, n⟩ := f
    simp only [Fields.put, toFields]
    split_ifs
    · rfl
    · rw [toFields, ih]

theorem get?_toFields (key : String) (fields : Branches) :
    Fields.get? key (toFields fields) = (fields.get? key).map toValue := by
  induction fields with
  | nil => rfl
  | cons f rest ih =>
    obtain ⟨k, n⟩ := f
    simp only [Fields.get?, toFields, ih]
    split_ifs <;> rfl

theorem toItems_eq_map (items : List Branches) :
    toItems items = items.map fun fields => .table (toFields fields) := by
  induction items with
  | nil => rfl
  | cons fields rest ih => rw [toItems, ih, List.map_cons]

/-- No key was put twice so far. -/
def Grown (fields : Branches) : Prop :=
  (Value.table (toFields fields)).Distinct

theorem Grown.nil : Grown [] :=
  Value.distinct_nil

theorem Grown.put (h : Grown fields) (hn : node.toValue.Distinct) : Grown (fields.put key node) := by
  rw [Grown, toFields_put]
  exact Value.Distinct.put h hn

theorem Grown.get? (h : Grown fields) (hg : Fields.get? key fields = some node) :
    node.toValue.Distinct := by
  have hvalue : Fields.get? key (toFields fields) = some node.toValue := by
    rw [get?_toFields, hg, Option.map_some]
  exact Value.Distinct.get? h hvalue

theorem distinct_tables_iff : (tables items).toValue.Distinct ↔ ∀ fields ∈ items, Grown fields := by
  simp only [toValue, toItems_eq_map, Value.distinct_list_iff, List.forall_mem_map]
  rfl

/-- An operation on trees that leaves no key twice. -/
def Keeps (f : Branches → Option Branches) : Prop :=
  ∀ fields t, Grown fields → f fields = some t → Grown t

theorem Keeps.changeLast? {f : Branches → Option Branches} (hf : Keeps f)
    (hi : ∀ fields ∈ items, Grown fields) {changed : List Branches}
    (h : changeLast? f items = some changed) : ∀ fields ∈ changed, Grown fields := by
  induction items generalizing changed with
  | nil => cases h
  | cons a rest ih =>
    have ha : Grown a := hi a List.mem_cons_self
    cases rest with
    | nil =>
      obtain ⟨b, hb, rfl⟩ := Option.map_eq_some_iff.1 h
      exact List.forall_mem_singleton.2 (hf a b ha hb)
    | cons a' rest =>
      obtain ⟨l, hl, rfl⟩ := Option.map_eq_some_iff.1 h
      exact List.forall_mem_cons.2 ⟨ha, ih (fun fields hm => hi fields (List.mem_cons_of_mem a hm)) hl⟩

/-- What is changed inside one of the branches. -/
theorem Keeps.put_table {f : Branches → Option Branches} (hf : Keeps f) (h : Grown fields)
    {origin : Origin} {inner : Branches} (hi : Grown inner)
    (hc : (f inner).map (fun inner => fields.put key (.table origin inner)) = some t) : Grown t := by
  obtain ⟨changed, hchanged, rfl⟩ := Option.map_eq_some_iff.1 hc
  exact h.put (hf inner changed hi hchanged)

theorem Keeps.put_tables {f : Branches → Option Branches} (hf : Keeps f) (h : Grown fields)
    (hi : Fields.get? key fields = some (.tables items))
    (hc : (Node.changeLast? f items).map (fun items => fields.put key (.tables items)) = some t) :
    Grown t := by
  obtain ⟨changed, hchanged, rfl⟩ := Option.map_eq_some_iff.1 hc
  exact h.put (distinct_tables_iff.2 (hf.changeLast? (distinct_tables_iff.1 (h.get? hi)) hchanged))

theorem keeps_openTable? (path : List String) : Keeps (openTable? path) := by
  induction path with
  | nil => nofun
  | cons key path ih =>
    intro fields t hg h
    cases path with
    | nil =>
      rw [openTable?] at h
      split at h
      · cases h
        exact hg.put Value.distinct_nil
      · rename_i inner hi
        cases h
        exact hg.put (hg.get? hi :)
      · cases h
    | cons key' path =>
      rw [openTable?] at h
      · split at h
        · exact ih.put_table hg .nil h
        · rename_i origin inner hi
          exact ih.put_table hg (hg.get? hi :) h
        · exact ih.put_tables hg ‹_› h
        · cases h
      · nofun

theorem keeps_openItem? (path : List String) : Keeps (openItem? path) := by
  induction path with
  | nil => nofun
  | cons key path ih =>
    intro fields t hg h
    cases path with
    | nil =>
      rw [openItem?] at h
      split at h
      · cases h
        exact hg.put (distinct_tables_iff.2 (List.forall_mem_singleton.2 .nil))
      · rename_i items hi
        cases h
        refine hg.put (distinct_tables_iff.2 (List.forall_mem_append.2 ⟨?_, ?_⟩))
        · exact distinct_tables_iff.1 (hg.get? hi)
        · exact List.forall_mem_singleton.2 .nil
      · cases h
    | cons key' path =>
      rw [openItem?] at h
      · split at h
        · exact ih.put_table hg .nil h
        · rename_i origin inner hi
          exact ih.put_table hg (hg.get? hi :) h
        · exact ih.put_tables hg ‹_› h
        · cases h
      · nofun

theorem keeps_assign? (path : List String) {v : Value} (hv : v.Distinct) :
    Keeps (assign? path v) := by
  induction path with
  | nil => nofun
  | cons key path ih =>
    intro fields t hg h
    cases path with
    | nil =>
      rw [assign?] at h
      split_ifs at h
      cases h
      exact hg.put hv
    | cons key' path =>
      rw [assign?] at h
      · split at h
        · exact ih.put_table hg .nil h
        · cases h
        · rename_i origin inner _ hi
          exact ih.put_table hg (hg.get? hi :) h
        · cases h
      · nofun

theorem keeps_inside? {f : Branches → Option Branches} (hf : Keeps f) (path : List String) :
    Keeps (inside? f path) := by
  induction path with
  | nil => exact hf
  | cons key path ih =>
    intro fields t hg h
    rw [inside?] at h
    split at h
    · rename_i origin inner hi
      exact ih.put_table hg (hg.get? hi :) h
    · exact ih.put_tables hg ‹_› h
    · cases h

end Node

namespace Statement

/-- The value of a statement has no key twice. -/
def Distinct : Statement → Prop
  | assign _ v => v.Distinct
  | _ => True

end Statement

theorem grown_of_buildFrom? {statements : List Statement} (hs : ∀ s ∈ statements, s.Distinct)
    {current : List String} {fields t : Node.Branches} (hg : Node.Grown fields)
    (h : buildFrom? current fields statements = some t) : Node.Grown t := by
  induction statements generalizing current fields with
  | nil =>
    cases h
    exact hg
  | cons s rest ih =>
    obtain ⟨hs, hrest⟩ := List.forall_mem_cons.1 hs
    cases s with
    | header path =>
      obtain ⟨opened, ho, h⟩ := Option.bind_eq_some_iff.1 h
      exact ih hrest (Node.keeps_openTable? path fields opened hg ho) h
    | item path =>
      obtain ⟨opened, ho, h⟩ := Option.bind_eq_some_iff.1 h
      exact ih hrest (Node.keeps_openItem? path fields opened hg ho) h
    | assign path v =>
      obtain ⟨filled, hf, h⟩ := Option.bind_eq_some_iff.1 h
      exact ih hrest
        (Node.keeps_inside? (Node.keeps_assign? path hs) current fields filled hg hf) h

theorem distinct_of_build? {statements : List Statement} (hs : ∀ s ∈ statements, s.Distinct)
    {t : Table} (h : build? statements = some t) : (Value.table t).Distinct := by
  obtain ⟨fields, hf, rfl⟩ := Option.map_eq_some_iff.1 h
  exact grown_of_buildFrom? hs .nil hf

/-! ### Readers -/

/-- What a reader takes off the front of a text, if it does not fail, satisfies `P`. -/
def Yields {α : Type} (P : α → Prop) (x : Reader α) : Prop :=
  ∀ cs a rest, x.run cs = some (a, rest) → P a

namespace Yields

variable {α β : Type} {P : α → Prop} {Q : β → Prop} {x : Reader α} {f : α → Reader β}

theorem any (x : Reader α) : Yields (fun _ => True) x :=
  fun _ _ _ _ => trivial

theorem pure {a : α} (h : P a) : Yields P (pure a) := by
  intro cs b rest hb
  cases hb
  exact h

theorem failure : Yields P (failure : Reader α) :=
  nofun

theorem bind (hx : Yields P x) (hf : ∀ a, P a → Yields Q (f a)) : Yields Q (x >>= f) := by
  intro cs b rest hb
  rw [StateT.run_bind] at hb
  obtain ⟨⟨a, more⟩, ha, hb⟩ := Option.bind_eq_some_iff.1 hb
  exact hf a (hx cs a more ha) more b rest hb

theorem ite {c : Prop} [Decidable c] {y : Reader α} (hx : Yields P x) (hy : Yields P y) :
    Yields P (if c then x else y) := by
  split_ifs
  · exact hx
  · exact hy

/-- Nothing needs to be known of what was read before. -/
theorem after (x : Reader α) (hf : ∀ a, Yields Q (f a)) : Yields Q (x >>= f) :=
  (any x).bind fun a _ => hf a

end Yields

/-! ### Values -/

theorem exists_float_of_float? {negative : Bool} {cs : List Char} {v : Value}
    (h : float? negative cs = some v) : ∃ x, v = .float x := by
  unfold float? at h
  split at h
  split at h
  dsimp only at h
  split_ifs at h
  · cases h
  · obtain ⟨_, -, h⟩ := Option.bind_eq_some_iff.1 h
    obtain ⟨_, -, h⟩ := Option.bind_eq_some_iff.1 h
    obtain ⟨_, -, h⟩ := Option.bind_eq_some_iff.1 h
    cases h
    exact ⟨_, rfl⟩

theorem distinct_of_number? {cs : List Char} {v : Value} (h : number? cs = some v) :
    v.Distinct := by
  have hbased (base : Nat) (rest ds : List Char) (h : number?.based base cs rest ds = some v) :
      v.Distinct := by
    unfold number?.based at h
    split_ifs at h
    obtain ⟨_, -, rfl⟩ := Option.map_eq_some_iff.1 h
    trivial
  unfold number? at h
  dsimp only at h
  split at h
  · cases h
    trivial
  · cases h
    trivial
  · exact hbased _ _ _ h
  · exact hbased _ _ _ h
  · exact hbased _ _ _ h
  · rcases Option.or_eq_some_iff.1 h with h | ⟨-, h⟩
    · obtain ⟨_, -, rfl⟩ := Option.map_eq_some_iff.1 h
      trivial
    · obtain ⟨x, rfl⟩ := exists_float_of_float? h
      trivial

theorem yields_readScalar : Yields Value.Distinct readScalar := by
  unfold readScalar
  refine .after _ fun cs => .after _ fun rest => ?_
  dsimp only
  refine .ite (.after _ fun _ => ?_) ?_
  · split
    · exact .pure trivial
    · exact .failure
  · split
    · rename_i v hv
      refine .pure ?_
      rcases Option.or_eq_some_iff.1 hv with hv | ⟨-, hv⟩
      · exact distinct_of_number? hv
      · obtain ⟨m, -, rfl⟩ := Option.map_eq_some_iff.1 hv
        trivial
    · exact .failure

/-- The three readers of values at one depth. -/
structure Reads (fuel : Nat) : Prop where
  value : Yields Value.Distinct (readValue fuel)
  items : ∀ read, (∀ v ∈ read, v.Distinct) → Yields (∀ v ∈ ·, v.Distinct) (readItems fuel read)
  inline : ∀ read, (∀ s ∈ read, s.Distinct) → Yields (∀ s ∈ ·, s.Distinct) (readInline fuel read)

theorem yields_readValue_succ {fuel : Nat} (h : Reads fuel) :
    Yields Value.Distinct (readValue (fuel + 1)) := by
  rw [readValue]
  refine .after _ fun found => ?_
  split
  · exact .pure trivial
  · refine .after _ fun _ => .ite (.pure trivial) (.after _ fun _ => .ite (.pure trivial) ?_)
    refine .after _ fun _ => .ite ((h.items [] nofun).bind fun items hi => ?_) ?_
    · exact .ite (.pure (Value.distinct_list_iff.2 hi)) .failure
    · refine .after _ fun _ => .ite (.after _ fun _ => .after _ fun _ => ?_) yields_readScalar
      refine .ite (.pure Value.distinct_nil) ((h.inline [] nofun).bind fun statements hs => ?_)
      split
      · rename_i fields hb
        exact .pure (distinct_of_build? hs hb)
      · exact .failure

theorem yields_readItems_succ {fuel : Nat} (h : Reads fuel) {read : List Value}
    (hr : ∀ v ∈ read, v.Distinct) : Yields (∀ v ∈ ·, v.Distinct) (readItems (fuel + 1) read) := by
  rw [readItems]
  refine .after _ fun _ => .after _ fun _ => .ite (.pure ?_) (h.value.bind fun v hv => ?_)
  · exact fun v hm => hr v (List.mem_reverse.1 hm)
  · have hall : ∀ w ∈ v :: read, w.Distinct := List.forall_mem_cons.2 ⟨hv, hr⟩
    refine .after _ fun _ => .after _ fun _ => .ite (h.items _ hall) (.after _ fun _ => .pure ?_)
    exact fun w hm => hall w (List.mem_reverse.1 hm)

theorem yields_readInline_succ {fuel : Nat} (h : Reads fuel) {read : List Statement}
    (hr : ∀ s ∈ read, s.Distinct) : Yields (∀ s ∈ ·, s.Distinct) (readInline (fuel + 1) read) := by
  rw [readInline]
  refine .after _ fun _ => .after _ fun key => .after _ fun _ => .after _ fun _ =>
    h.value.bind fun v hv => .after _ fun _ => .after _ fun _ => ?_
  have hall : ∀ s ∈ Statement.assign key v :: read, s.Distinct := List.forall_mem_cons.2 ⟨hv, hr⟩
  refine .ite (h.inline _ hall) (.after _ fun _ => .pure ?_)
  exact fun s hm => hall s (List.mem_reverse.1 hm)

theorem reads (fuel : Nat) : Reads fuel := by
  induction fuel with
  | zero => exact ⟨.failure, fun _ _ => .failure, fun _ _ => .failure⟩
  | succ fuel ih =>
    exact ⟨yields_readValue_succ ih, fun _ => yields_readItems_succ ih,
      fun _ => yields_readInline_succ ih⟩

theorem yields_readStatement : Yields Statement.Distinct readStatement := by
  unfold readStatement
  refine .after _ fun _ => .after _ fun _ => .ite ?_ (.after _ fun _ => .ite ?_ ?_)
  · exact .after _ fun _ => .after _ fun _ => .after _ fun _ => .pure trivial
  · exact .after _ fun _ => .after _ fun _ => .after _ fun _ => .pure trivial
  · refine .after _ fun _ => .after _ fun _ => .after _ fun _ => ?_
    exact (reads _).value.bind fun v hv => .after _ fun _ => .pure hv

theorem yields_readStatements (fuel : Nat) :
    Yields (∀ s ∈ ·, s.Distinct) (readStatements fuel) := by
  induction fuel with
  | zero => exact .failure
  | succ fuel ih =>
    rw [readStatements]
    refine .after _ fun _ => .after _ fun _ => .ite (.pure nofun) ?_
    exact yields_readStatement.bind fun s hs => ih.bind fun rest hr =>
      .pure (List.forall_mem_cons.2 ⟨hs, hr⟩)

/-- No table of a document has a key twice. -/
theorem distinct_of_parse? {s : String} {t : Table} (h : parse? s = some t) :
    (Value.table t).Distinct := by
  obtain ⟨⟨statements, rest⟩, hr, hb⟩ := Option.bind_eq_some_iff.1 h
  exact distinct_of_build? (yields_readStatements _ _ statements rest hr) hb

end NativeVariants.Toml
