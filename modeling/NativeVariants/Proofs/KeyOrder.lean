import Mathlib.Data.List.Sort
import NativeVariants.Value

/-!
# Trees up to the order of their keys

A tree in which no table has a key twice is `Distinct`; putting and removing fields keeps that. Two
such trees are the same tree if they differ in the order of keys only: `canonical` sorts the keys of
every table, and it is the same for two tables exactly if every key has the same value in both
(`canonical_table_eq_iff`).
-/

namespace NativeVariants

namespace Fields

variable {α : Type} {key other : String} {value : α} {fields more : Fields α}

theorem get?_put (key other : String) (value : α) (fields : Fields α) :
    get? other (put key value fields) = if key = other then some value else get? other fields := by
  split_ifs with h
  · rw [← h, get?_put_self]
  · exact get?_put_of_ne value fields h

theorem mem_keys_of_mem (h : (key, value) ∈ fields) : key ∈ fields.keys :=
  List.mem_map_of_mem (f := (·.1)) h

theorem mem_of_get? (h : get? key fields = some value) : (key, value) ∈ fields := by
  induction fields with
  | nil => cases h
  | cons f rest ih =>
    obtain ⟨k, v⟩ := f
    simp only [get?] at h
    split_ifs at h with hk
    · cases h
      rw [hk]
      exact List.mem_cons_self
    · exact List.mem_cons_of_mem _ (ih h)

theorem get?_eq_none_iff : get? key fields = none ↔ key ∉ fields.keys := by
  induction fields with
  | nil => simp [get?, keys]
  | cons f rest ih =>
    obtain ⟨k, v⟩ := f
    by_cases hk : k = key
    · simp [get?, keys, hk]
    · simp only [get?, if_neg hk, ih, keys, List.map_cons, List.mem_cons, Ne.symm hk, false_or]

theorem get?_of_mem (hn : fields.keys.Nodup) (h : (key, value) ∈ fields) :
    get? key fields = some value := by
  induction fields with
  | nil => cases h
  | cons f rest ih =>
    obtain ⟨k, v⟩ := f
    obtain ⟨hk, hrest⟩ := List.nodup_cons.1 hn
    rcases List.mem_cons.1 h with heq | hmem
    · cases heq
      exact if_pos rfl
    · have hne : k ≠ key := by
        rintro rfl
        exact hk (mem_keys_of_mem hmem)
      simp only [get?, if_neg hne]
      exact ih hrest hmem

theorem mem_keys_put {k : String} : k ∈ (put key value fields).keys ↔ k = key ∨ k ∈ fields.keys := by
  induction fields with
  | nil => simp [put, keys]
  | cons f rest ih =>
    obtain ⟨k', v⟩ := f
    simp only [keys] at ih ⊢
    simp only [put]
    split_ifs with hk
    · simp [hk]
    · simp only [List.map_cons, List.mem_cons, ih]
      exact or_left_comm

theorem nodup_keys_put (hn : fields.keys.Nodup) : (put key value fields).keys.Nodup := by
  induction fields with
  | nil => simp [put, keys]
  | cons f rest ih =>
    obtain ⟨k, v⟩ := f
    obtain ⟨hk, hrest⟩ := List.nodup_cons.1 hn
    simp only [put]
    split_ifs with he
    · exact hn
    · refine List.nodup_cons.2 ⟨fun hmem => ?_, ih hrest⟩
      rcases mem_keys_put.1 hmem with rfl | hmem
      · exact he rfl
      · exact hk hmem

theorem mem_put {k : String} {v : α} (h : (k, v) ∈ put key value fields) :
    v = value ∨ (k, v) ∈ fields := by
  induction fields with
  | nil =>
    cases List.mem_singleton.1 h
    exact .inl rfl
  | cons f rest ih =>
    obtain ⟨k', v'⟩ := f
    simp only [put] at h
    split_ifs at h with he
    · rcases List.mem_cons.1 h with heq | hmem
      · cases heq
        exact .inl rfl
      · exact .inr (List.mem_cons_of_mem _ hmem)
    · rcases List.mem_cons.1 h with heq | hmem
      · cases heq
        exact .inr List.mem_cons_self
      · exact (ih hmem).imp_right (List.mem_cons_of_mem _)

theorem remove_sublist (key : String) (fields : Fields α) : (remove key fields).Sublist fields := by
  induction fields with
  | nil => exact List.nil_sublist []
  | cons f rest ih =>
    obtain ⟨k, v⟩ := f
    simp only [remove]
    split_ifs
    · exact List.sublist_cons_self (k, v) rest
    · exact ih.cons_cons (k, v)

theorem nodup_keys_remove (hn : fields.keys.Nodup) : (remove key fields).keys.Nodup := by
  unfold keys at hn ⊢
  exact hn.sublist ((remove_sublist key fields).map _)

theorem get?_remove_self (hn : fields.keys.Nodup) : get? key (remove key fields) = none := by
  induction fields with
  | nil => rfl
  | cons f rest ih =>
    obtain ⟨k, v⟩ := f
    obtain ⟨hk, hrest⟩ := List.nodup_cons.1 hn
    simp only [remove]
    split_ifs with he
    · rw [← he]
      exact get?_eq_none_iff.2 hk
    · simp only [get?, if_neg he]
      exact ih hrest

theorem get?_remove_of_ne (h : key ≠ other) (fields : Fields α) :
    get? other (remove key fields) = get? other fields := by
  induction fields with
  | nil => rfl
  | cons f rest ih =>
    obtain ⟨k, v⟩ := f
    simp only [remove]
    split_ifs with he
    · rw [get?, if_neg (he ▸ h)]
    · simp only [get?, ih]

theorem put_put (key : String) (value new : α) (fields : Fields α) :
    put key new (put key value fields) = put key new fields := by
  induction fields with
  | nil => simp [put]
  | cons f rest ih =>
    obtain ⟨k, v⟩ := f
    simp only [put]
    split_ifs with he
    · rw [put, if_pos he]
    · rw [put, if_neg he, ih]

/-! ### Fields in the order of their keys -/

def KeyLE (f g : String × α) : Prop :=
  f.1 ≤ g.1

instance : DecidableRel (@KeyLE α) := fun f g =>
  inferInstanceAs (Decidable (f.1 ≤ g.1))

instance : Std.Total (@KeyLE α) where
  total f g := String.le_total f.1 g.1

instance : IsTrans (String × α) KeyLE where
  trans _ _ _ := String.le_trans

/-- The fields in the order of their keys, by a sort that can be computed in proofs. -/
def arranged (fields : Fields α) : Fields α :=
  fields.insertionSort KeyLE

theorem arranged_perm (fields : Fields α) : (arranged fields).Perm fields :=
  List.perm_insertionSort KeyLE fields

theorem keys_arranged_perm (fields : Fields α) : (arranged fields).keys.Perm fields.keys := by
  unfold keys
  exact (arranged_perm fields).map _

theorem nodup_keys_arranged (hn : fields.keys.Nodup) : (arranged fields).keys.Nodup :=
  (keys_arranged_perm fields).nodup_iff.2 hn

theorem get?_arranged (hn : fields.keys.Nodup) (key : String) :
    get? key (arranged fields) = get? key fields := by
  cases h : get? key fields with
  | some value =>
    exact get?_of_mem (nodup_keys_arranged hn) ((arranged_perm fields).mem_iff.2 (mem_of_get? h))
  | none =>
    rw [get?_eq_none_iff] at h ⊢
    exact fun hmem => h ((keys_arranged_perm fields).mem_iff.1 hmem)

/-- Fields with the same value for every key are the same once they are arranged. -/
theorem arranged_eq_of_get? (hn : fields.keys.Nodup) (hn' : more.keys.Nodup)
    (h : ∀ key, get? key fields = get? key more) : arranged fields = arranged more := by
  have hmem : ∀ f, f ∈ fields ↔ f ∈ more := by
    rintro ⟨key, value⟩
    constructor
    · intro hf
      exact mem_of_get? ((h key).symm.trans (get?_of_mem hn hf))
    · intro hf
      exact mem_of_get? ((h key).trans (get?_of_mem hn' hf))
  have hperm : fields.Perm more :=
    (List.perm_ext_iff_of_nodup hn.of_map hn'.of_map).2 hmem
  have hall : (arranged fields).Perm (arranged more) :=
    (arranged_perm fields).trans (hperm.trans (arranged_perm more).symm)
  -- two fields that come before each other have the same key, and with that the same value
  refine List.Perm.eq_of_pairwise (fun f g hf hg hfg hgf => ?_)
    (List.pairwise_insertionSort KeyLE fields) (List.pairwise_insertionSort KeyLE more) hall
  obtain ⟨key, value⟩ := f
  obtain ⟨key', value'⟩ := g
  have hkey : key = key' := String.le_antisymm hfg hgf
  subst hkey
  have hvalue := get?_of_mem hn' ((arranged_perm more).mem_iff.1 hg)
  rw [← h, get?_of_mem hn ((arranged_perm fields).mem_iff.1 hf)] at hvalue
  cases hvalue
  rfl

end Fields

namespace Value

mutual

/-- No table in the tree has a key twice. -/
def Distinct : Value → Prop
  | .list items => DistinctItems items
  | .table fields => (Fields.keys fields).Nodup ∧ DistinctFields fields
  | _ => True

def DistinctItems : List Value → Prop
  | [] => True
  | v :: rest => Distinct v ∧ DistinctItems rest

def DistinctFields : List (String × Value) → Prop
  | [] => True
  | (_, v) :: rest => Distinct v ∧ DistinctFields rest

end

mutual

/-- The tree with the keys of every table in ascending order. -/
def canonical : Value → Value
  | .list items => .list (canonicalItems items)
  | .table fields => .table (Fields.arranged (canonicalFields fields))
  | v => v

def canonicalItems : List Value → List Value
  | [] => []
  | v :: rest => canonical v :: canonicalItems rest

def canonicalFields : List (String × Value) → List (String × Value)
  | [] => []
  | (key, v) :: rest => (key, canonical v) :: canonicalFields rest

end

variable {v w : Value} {key : String} {fields more : Table}

theorem distinctItems_iff {items : List Value} : DistinctItems items ↔ ∀ v ∈ items, v.Distinct := by
  induction items with
  | nil => simp [DistinctItems]
  | cons v rest ih => simp [DistinctItems, ih]

theorem distinctFields_iff : DistinctFields fields ↔ ∀ key v, (key, v) ∈ fields → v.Distinct := by
  induction fields with
  | nil => simp [DistinctFields]
  | cons f rest ih =>
    obtain ⟨k, v⟩ := f
    simp only [DistinctFields, ih, List.mem_cons]
    constructor
    · rintro ⟨hv, hrest⟩ key w (heq | hmem)
      · cases heq
        exact hv
      · exact hrest key w hmem
    · exact fun h => ⟨h k v (.inl rfl), fun key w hmem => h key w (.inr hmem)⟩

theorem distinct_list_iff {items : List Value} :
    (list items).Distinct ↔ ∀ v ∈ items, v.Distinct := by
  rw [Distinct, distinctItems_iff]

theorem distinct_table_iff : (table fields).Distinct ↔
    fields.keys.Nodup ∧ ∀ key v, (key, v) ∈ fields → v.Distinct := by
  rw [Distinct, distinctFields_iff]

theorem distinct_nil : (table []).Distinct :=
  distinct_table_iff.2 ⟨List.nodup_nil, nofun⟩

theorem Distinct.get? (h : (table fields).Distinct) (hv : Fields.get? key fields = some v) :
    v.Distinct :=
  (distinct_table_iff.1 h).2 key v (Fields.mem_of_get? hv)

theorem Distinct.put (h : (table fields).Distinct) (hv : v.Distinct) :
    (table (Fields.put key v fields)).Distinct := by
  obtain ⟨hn, hall⟩ := distinct_table_iff.1 h
  refine distinct_table_iff.2 ⟨Fields.nodup_keys_put hn, fun k w hmem => ?_⟩
  rcases Fields.mem_put hmem with rfl | hmem
  · exact hv
  · exact hall k w hmem

theorem Distinct.remove (h : (table fields).Distinct) :
    (table (Fields.remove key fields)).Distinct := by
  obtain ⟨hn, hall⟩ := distinct_table_iff.1 h
  refine distinct_table_iff.2 ⟨Fields.nodup_keys_remove hn, fun k w hmem => ?_⟩
  exact hall k w ((Fields.remove_sublist key fields).subset hmem)

theorem keys_canonicalFields (fields : Table) :
    Fields.keys (canonicalFields fields) = fields.keys := by
  induction fields with
  | nil => rfl
  | cons f rest ih => exact congrArg (f.1 :: ·) ih

theorem get?_canonicalFields (key : String) (fields : Table) :
    Fields.get? key (canonicalFields fields) = (fields.get? key).map canonical := by
  induction fields with
  | nil => rfl
  | cons f rest ih =>
    simp only [canonicalFields, Fields.get?, ih]
    split_ifs <;> rfl

theorem get?_arranged_canonicalFields (h : (table fields).Distinct) (key : String) :
    Fields.get? key (Fields.arranged (canonicalFields fields)) = (fields.get? key).map canonical := by
  have hn : (Fields.keys (canonicalFields fields)).Nodup := by
    rw [keys_canonicalFields]
    exact (distinct_table_iff.1 h).1
  rw [Fields.get?_arranged hn, get?_canonicalFields]

/-- Tables are the same tree if and only if they have the same trees under the same keys. -/
theorem canonical_table_eq_iff (h : (table fields).Distinct) (h' : (table more).Distinct) :
    canonical (table fields) = canonical (table more) ↔
      ∀ key, (fields.get? key).map canonical = (more.get? key).map canonical := by
  constructor
  · intro heq key
    rw [canonical, canonical, Value.table.injEq] at heq
    rw [← get?_arranged_canonicalFields h, ← get?_arranged_canonicalFields h', heq]
  · intro hget
    have hn : (Fields.keys (canonicalFields fields)).Nodup := by
      rw [keys_canonicalFields]
      exact (distinct_table_iff.1 h).1
    have hn' : (Fields.keys (canonicalFields more)).Nodup := by
      rw [keys_canonicalFields]
      exact (distinct_table_iff.1 h').1
    rw [canonical, canonical, Fields.arranged_eq_of_get? hn hn' fun key => by
      rw [get?_canonicalFields, get?_canonicalFields, hget]]

theorem canonical_put (h : (table fields).Distinct) (h' : (table more).Distinct) (hv : v.Distinct)
    (hw : w.Distinct) (heq : canonical (table fields) = canonical (table more))
    (hvw : v.canonical = w.canonical) (key : String) :
    canonical (table (Fields.put key v fields)) = canonical (table (Fields.put key w more)) := by
  rw [canonical_table_eq_iff (h.put hv) (h'.put hw)]
  intro other
  rw [Fields.get?_put, Fields.get?_put]
  split_ifs
  · rw [Option.map_some, Option.map_some, hvw]
  · exact (canonical_table_eq_iff h h').1 heq other

theorem canonical_nil : canonical (table []) = table [] := by
  rw [canonical, canonicalFields, Fields.arranged, List.insertionSort_nil]

theorem canonical_eq_table_iff :
    (∃ inner, v.canonical = .table inner) ↔ ∃ fields, v = .table fields := by
  cases v <;> simp [canonical]

theorem canonicalItems_strings (ss : List String) :
    canonicalItems (ss.map string) = ss.map string := by
  induction ss with
  | nil => rfl
  | cons s ss ih =>
    rw [List.map_cons, canonicalItems, ih]
    rfl

end Value

end NativeVariants
