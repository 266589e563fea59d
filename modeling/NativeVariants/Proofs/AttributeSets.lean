import Mathlib.Data.List.Induction
import NativeVariants.AttributeSet
import NativeVariants.Proofs.Sameness

/-!
# Laws of attribute sets

A set has under every key the value that was given to it last (`Recipe.get?_set`), and two sets are
compared key by key: one satisfies the other if it has a value that is the same under every key of the
other, and they are equal if the standard forms of their values are, under every key. Members of
enumerations have the standard forms of their names, so it makes no difference whether a set or what is
published of it is compared. With that the laws of both relations are laws of equality.
-/

namespace NativeVariants

namespace Fields

variable {α : Type}

theorem ofList_concat (fields : List (String × α)) (key : String) (value : α) :
    ofList (fields ++ [(key, value)]) = put key value (ofList fields) :=
  List.foldl_concat ..

/-- Of several values for a key the last is kept. -/
theorem get?_ofList (key : String) (fields : List (String × α)) :
    get? key (ofList fields) = get? key fields.reverse := by
  induction fields using List.reverseRecOn with
  | nil => rfl
  | append_singleton fields f ih =>
    rw [ofList_concat, get?_put, ih, List.reverse_concat]
    rfl

theorem keys_map {β : Type} (f : α → β) (fields : Fields α) :
    keys (fields.map fun (key, value) => (key, f value)) = fields.keys := by
  unfold keys
  rw [List.map_map]
  rfl

theorem get?_map {β : Type} (f : α → β) (key : String) (fields : Fields α) :
    get? key (fields.map fun (key, value) => (key, f value)) = (get? key fields).map f := by
  induction fields with
  | nil => rfl
  | cons g rest ih =>
    simp only [List.map_cons, get?, ih]
    split_ifs <;> rfl

theorem nodup_keys_ofList (fields : List (String × α)) : (ofList fields).keys.Nodup := by
  induction fields using List.reverseRecOn with
  | nil => exact List.nodup_nil
  | append_singleton fields f ih =>
    rw [ofList_concat]
    exact nodup_keys_put ih

end Fields

namespace Attribute

variable {a b : Attribute}

/-- The value as published is plain data. -/
def Plain (a : Attribute) : Prop :=
  a.flatten.Plain

/-- The standard form of the value as published. -/
def standard (a : Attribute) : Value :=
  a.flatten.standard

/-- A member counts as its name wherever it is compared. -/
theorem same_eq_flatten (a b : Attribute) : a.same b = a.flatten.same b.flatten := by
  cases a with
  | plain v =>
    cases b with
    | plain w => rfl
    | _ =>
      cases v with
      | string s => exact BEq.comm
      | _ => simp [same, flatten, Value.same, Value.sameNumber, Value.units?]
  | _ =>
    cases b with
    | plain w => cases w <;> simp [same, flatten, name?, Value.same]
    | _ => rfl

/-- So it makes no difference whether a value or what is published of it is compared. -/
theorem same_published (a b : Attribute) : a.same (.plain b.flatten) = a.same b := by
  rw [same_eq_flatten, same_eq_flatten a b]
  rfl

theorem same_iff (ha : a.Plain) (hb : b.Plain) : a.same b ↔ a.standard = b.standard := by
  rw [same_eq_flatten]
  exact Value.same_iff ha hb

theorem beq_eq_same (ha : a.Plain) (b : Attribute) : (a == b) = a.same b := by
  cases a with
  | plain v =>
    cases b with
    | plain w => exact Value.agrees_eq_same ha w
    | _ => rfl
  | _ => cases b <;> rfl

end Attribute

namespace AttributeSet

structure Plain (s : AttributeSet) : Prop where
  nodup : s.fields.keys.Nodup
  values : ∀ {key : String} {a : Attribute}, s.get? key = some a → a.Plain

/-- The attributes but for one key. -/
def without (key : String) (s : AttributeSet) : AttributeSet :=
  ⟨Fields.remove key s.fields⟩

variable {s t r : AttributeSet}

theorem Plain.of_mem {key : String} {a : Attribute} (hs : s.Plain) (h : (key, a) ∈ s.fields) :
    a.Plain :=
  hs.values (Fields.get?_of_mem hs.nodup h)

/-- What is published can be requested in place of the set itself. -/
theorem offers_published (s t : AttributeSet) : s.offers t.published = s.offers t.fields := by
  simp only [offers, published, asTable, List.all_map, Function.comp_def, Attribute.same_published]

theorem satisfies_iff (ht : t.fields.keys.Nodup) : s.satisfies t ↔
    ∀ key b, t.get? key = some b → ∃ a, s.get? key = some a ∧ a.same b := by
  rw [satisfies, offers_published]
  simp only [offers, List.all_eq_true, Option.any_eq_true]
  constructor
  · exact fun h key b hb => h (key, b) (Fields.mem_of_get? hb)
  · exact fun h f hf => h f.1 f.2 (Fields.get?_of_mem ht hf)

theorem satisfies_iff_standard (hs : s.Plain) (ht : t.Plain) : s.satisfies t ↔
    ∀ key b, t.get? key = some b → (s.get? key).map Attribute.standard = some b.standard := by
  rw [satisfies_iff ht.nodup]
  refine forall₃_congr fun key b hb => ?_
  rw [Option.map_eq_some_iff]
  refine exists_congr fun a => and_congr_right fun ha => ?_
  exact Attribute.same_iff (hs.values ha) (ht.values hb)

theorem beq_iff (hs : s.Plain) (ht : t.Plain) : s == t ↔
    ∀ key, (s.get? key).map Attribute.standard = (t.get? key).map Attribute.standard := by
  refine Iff.trans ?_ (Fields.length_and_forall_mem_iff Attribute.standard hs.nodup ht.nodup)
  change (s.size == t.size && s.fields.all fun f => t.get? f.1 == some f.2) ↔ _
  rw [Bool.and_eq_true, beq_iff_eq, List.all_eq_true]
  refine and_congr_right fun _ => ⟨fun h key a ha => ?_, fun h f hf => ?_⟩
  · have hbeq := h (key, a) ha
    change (t.get? key).map _ = _
    cases hb : t.get? key with
    | none =>
      rw [hb] at hbeq
      cases hbeq
    | some b =>
      rw [hb] at hbeq
      have hbeq : (b == a) := hbeq
      rw [Attribute.beq_eq_same (ht.values hb), Attribute.same_iff (ht.values hb) (hs.of_mem ha)] at hbeq
      rw [Option.map_some, hbeq]
  · obtain ⟨b, hb, heq⟩ := Option.map_eq_some_iff.1 (h f.1 f.2 hf)
    change t.get? f.1 = some b at hb
    rw [hb]
    change (b == f.2) = true
    rw [Attribute.beq_eq_same (ht.values hb), Attribute.same_iff (ht.values hb) (hs.of_mem hf)]
    exact heq

theorem satisfies_refl (hs : s.Plain) : s.satisfies s := by
  rw [satisfies_iff_standard hs hs]
  intro key a ha
  rw [ha, Option.map_some]

theorem satisfies_trans (hs : s.Plain) (ht : t.Plain) (hr : r.Plain) (hst : s.satisfies t)
    (htr : t.satisfies r) : s.satisfies r := by
  rw [satisfies_iff_standard hs ht] at hst
  rw [satisfies_iff_standard ht hr] at htr
  rw [satisfies_iff_standard hs hr]
  intro key c hc
  obtain ⟨b, hb, hbc⟩ := Option.map_eq_some_iff.1 (htr key c hc)
  rw [hst key b hb, hbc]

theorem beq_iff_satisfies (hs : s.Plain) (ht : t.Plain) :
    s == t ↔ s.satisfies t ∧ t.satisfies s := by
  rw [beq_iff hs ht, satisfies_iff_standard hs ht, satisfies_iff_standard ht hs]
  constructor
  · intro h
    refine ⟨fun key b hb => ?_, fun key a ha => ?_⟩
    · rw [h, hb, Option.map_some]
    · rw [← h, ha, Option.map_some]
  · rintro ⟨hst, hts⟩ key
    cases hb : t.get? key with
    | some b => exact hst key b hb
    | none =>
      cases ha : s.get? key with
      | none => rfl
      | some a =>
        have hnone := hts key a ha
        rw [hb] at hnone
        cases hnone

theorem Plain.beq_self (hs : s.Plain) : s == s :=
  (beq_iff_satisfies hs hs).2 ⟨satisfies_refl hs, satisfies_refl hs⟩

theorem get?_asTable (s : AttributeSet) (key : String) :
    Fields.get? key s.asTable = (s.get? key).map Attribute.flatten :=
  Fields.get?_map Attribute.flatten key s.fields

theorem Plain.asTable (hs : s.Plain) : (Value.table s.asTable).Plain := by
  have hn : s.asTable.keys.Nodup := by
    rw [AttributeSet.asTable, Fields.keys_map]
    exact hs.nodup
  refine Value.plain_table_iff.2 ⟨hn, fun key v hv => ?_⟩
  have hget := Fields.get?_of_mem hn hv
  rw [get?_asTable] at hget
  obtain ⟨a, ha, rfl⟩ := Option.map_eq_some_iff.1 hget
  exact hs.values ha

/-- Sets are equal exactly if what is published of them is. -/
theorem beq_asTable (hs : s.Plain) (ht : t.Plain) :
    (s == t) = (Value.table s.asTable == Value.table t.asTable) := by
  rw [Bool.eq_iff_iff, beq_iff hs ht]
  change _ ↔ Value.agrees _ _
  rw [Value.agrees_eq_same hs.asTable, Value.same_iff hs.asTable ht.asTable,
    Value.standard_table_eq_iff hs.asTable ht.asTable]
  simp only [get?_asTable, Option.map_map]
  rfl

/-- How a set is made: from some values, with more given by calls. -/
structure Recipe where
  initial : List (String × Attribute)
  calls : List (String × Attribute)

namespace Recipe

variable {a b c : Recipe}

def set (r : Recipe) : AttributeSet :=
  r.calls.foldl (fun s (key, value) => s.set key value) (ofList r.initial)

/-- All values that are given, in their order. -/
def given (r : Recipe) : List (String × Attribute) :=
  r.initial ++ r.calls

def last? (r : Recipe) (key : String) : Option Attribute :=
  Fields.get? key r.given.reverse

def Plain (r : Recipe) : Prop :=
  ∀ f ∈ r.given, f.2.Plain

theorem fields_set (r : Recipe) : r.set.fields = Fields.ofList r.given := by
  rw [given, Fields.ofList, List.foldl_append]
  exact (List.foldl_hom AttributeSet.fields fun _ _ => rfl).symm

theorem get?_set (r : Recipe) (key : String) : r.set.get? key = r.last? key := by
  rw [AttributeSet.get?, fields_set, Fields.get?_ofList, last?]

theorem Plain.set (h : a.Plain) : a.set.Plain where
  nodup := by
    rw [fields_set]
    exact Fields.nodup_keys_ofList _
  values hget := by
    rw [get?_set] at hget
    exact h _ (List.mem_reverse.1 (Fields.mem_of_get? hget))

theorem Plain.of_last?_eq {a' : Recipe} (h : a.Plain) (heq : a'.last? = a.last?) : a'.set.Plain where
  nodup := by
    rw [fields_set]
    exact Fields.nodup_keys_ofList _
  values hget := by
    rw [get?_set, heq, ← get?_set] at hget
    exact h.set.values hget

/-- The laws of three sets that are made by recipes. -/
structure Laws (a b c : Recipe) : Prop where
  refl : a.set.satisfies a.set
  trans : a.set.satisfies b.set → b.set.satisfies c.set → a.set.satisfies c.set
  antisymm : a.set.satisfies b.set ∧ b.set.satisfies a.set ↔ a.set == b.set
  published : a.set.satisfies b.set = a.set.offers b.set.published
  equal_published :
    (a.set == b.set) = (Value.table a.set.asTable == Value.table b.set.asTable)
  /-- One set satisfies another if under every key its last value is the same as the other's. -/
  last : a.set.satisfies b.set ↔
    ∀ key w, b.last? key = some w → ∃ v, a.last? key = some v ∧ v.same w
  /-- Recipes with the same last values make sets between which nothing tells a difference. -/
  congr : ∀ a' b' : Recipe, a'.last? = a.last? → b'.last? = b.last? →
    a'.set == a.set ∧
    a'.set.satisfies b'.set = a.set.satisfies b.set ∧
    a'.set.offers b'.set.published = a.set.offers b.set.published ∧
    (a'.set == b'.set) = (a.set == b.set) ∧
    (Value.table a'.set.asTable == Value.table b'.set.asTable) =
      (Value.table a.set.asTable == Value.table b.set.asTable)

theorem satisfies_set_iff (a b : Recipe) : a.set.satisfies b.set ↔
    ∀ key w, b.last? key = some w → ∃ v, a.last? key = some v ∧ v.same w := by
  rw [satisfies_iff (by rw [fields_set]; exact Fields.nodup_keys_ofList _)]
  simp only [get?_set]

theorem laws_of_plain (ha : a.Plain) (hb : b.Plain) (hc : c.Plain) : Laws a b c where
  refl := satisfies_refl ha.set
  trans := satisfies_trans ha.set hb.set hc.set
  antisymm := (beq_iff_satisfies ha.set hb.set).symm
  published := rfl
  equal_published := beq_asTable ha.set hb.set
  last := satisfies_set_iff a b
  congr a' b' heqa heqb := by
    have ha' : a'.set.Plain := ha.of_last?_eq heqa
    have hb' : b'.set.Plain := hb.of_last?_eq heqb
    have hsatisfies : a'.set.satisfies b'.set = a.set.satisfies b.set := by
      rw [Bool.eq_iff_iff, satisfies_set_iff, satisfies_set_iff, heqa, heqb]
    have hequal : (a'.set == b'.set) = (a.set == b.set) := by
      rw [Bool.eq_iff_iff, beq_iff ha' hb', beq_iff ha.set hb.set]
      simp only [get?_set, heqa, heqb]
    refine ⟨?_, hsatisfies, ?_, hequal, ?_⟩
    · rw [beq_iff ha' ha.set]
      simp only [get?_set, heqa, implies_true]
    · exact hsatisfies
    · rw [← beq_asTable ha' hb', ← beq_asTable ha.set hb.set, hequal]

/-- The number one as a float. -/
def one : Value :=
  .float (.finite false 4503599627370496 (-52))

def offered : Recipe where
  initial := [("usage", .usage .runtime), ("level", .plain (.int 2))]
  calls := [("options", .plain (.table [("x", .int 1), ("y", .list [.bool true, .null])])),
    ("level", .plain one)]

/-- Equal values in other kinds and in another order. -/
def offeredOtherwise : Recipe where
  initial := [("options", .plain (.table [("y", .list [one, .null]), ("x", .bool true)]))]
  calls := [("level", .plain (.bool true)), ("usage", .plain (.string "native-runtime"))]

def requested : Recipe where
  initial := [("level", .plain (.int 1))]
  calls := []

theorem laws_of_plain_offered : offered.Plain ∧ offeredOtherwise.Plain ∧ requested.Plain ∧
    Laws offered offeredOtherwise requested := by
  have ho : offered.Plain := by
    simp [Plain, given, offered, one, Attribute.Plain, Attribute.flatten, Value.Plain, Value.PlainItems,
      Value.PlainFields, Fields.keys]
  have ho' : offeredOtherwise.Plain := by
    simp [Plain, given, offeredOtherwise, one, Attribute.Plain, Attribute.flatten, Value.Plain,
      Value.PlainItems, Value.PlainFields, Fields.keys]
  have hr : requested.Plain := by
    simp [Plain, given, requested, Attribute.Plain, Attribute.flatten, Value.Plain]
  exact ⟨ho, ho', hr, laws_of_plain ho ho' hr⟩

example : offered.set == offeredOtherwise.set ∧ offered.set.satisfies requested.set ∧
    ¬ requested.set.satisfies offered.set := by decide +kernel

end Recipe

end AttributeSet

end NativeVariants
