import NativeVariants.Proofs.KeyOrder

/-!
# Equality of values

Values compare as equal across the kinds of numbers, whatever the order of the keys. `standard` has
every number in one form and the keys of every table in one order, and plain data is the same exactly
if its standard forms are one value (`same_iff`). So equality of plain data is an equivalence, and
every law of it is one of that form.
-/

namespace NativeVariants

namespace Fields

variable {α β : Type} {fields more : Fields α}

theorem length_keys (fields : Fields α) : fields.keys.length = fields.length :=
  List.length_map _

/-- Of as many fields as there are on the left, if all on the left have their like on the right, none is
left over. -/
theorem length_and_forall_mem_iff (f : α → β) (hn : fields.keys.Nodup) (hn' : more.keys.Nodup) :
    (fields.length = more.length ∧
        ∀ key value, (key, value) ∈ fields → (get? key more).map f = some (f value)) ↔
      ∀ key, (get? key fields).map f = (get? key more).map f := by
  constructor
  · rintro ⟨hlen, hall⟩ key
    cases hget : get? key fields with
    | some value => exact (hall key value (mem_of_get? hget)).symm
    | none =>
      have hsub : fields.keys ⊆ more.keys := by
        intro k hk
        obtain ⟨⟨_, value⟩, hmem, rfl⟩ := List.mem_map.1 hk
        obtain ⟨w, hw, -⟩ := Option.map_eq_some_iff.1 (hall _ value hmem)
        exact mem_keys_of_mem (mem_of_get? hw)
      have hperm : fields.keys.Perm more.keys := by
        refine (List.subperm_of_subset hn hsub).perm_of_length_le ?_
        rw [length_keys, length_keys, hlen]
      have hmore : get? key more = none := by
        rw [get?_eq_none_iff] at hget ⊢
        exact fun hmem => hget (hperm.mem_iff.2 hmem)
      rw [hmore]
  · intro h
    have hkeys : ∀ k, k ∈ fields.keys ↔ k ∈ more.keys := by
      intro k
      rw [← not_iff_not, ← get?_eq_none_iff, ← get?_eq_none_iff, ← Option.map_eq_none_iff (f := f), h,
        Option.map_eq_none_iff]
    refine ⟨?_, fun key value hmem => ?_⟩
    · rw [← length_keys, ← length_keys]
      exact ((List.perm_ext_iff_of_nodup hn hn').2 hkeys).length_eq
    · rw [← h, get?_of_mem hn hmem, Option.map_some]

end Fields

namespace Value

mutual

/-- Data without moments and without what is no number, in which no table has a key twice. -/
def Plain : Value → Prop
  | .float x => x ≠ .notANumber
  | .moment _ => False
  | .list items => PlainItems items
  | .table fields => (Fields.keys fields).Nodup ∧ PlainFields fields
  | _ => True

def PlainItems : List Value → Prop
  | [] => True
  | v :: rest => Plain v ∧ PlainItems rest

def PlainFields : List (String × Value) → Prop
  | [] => True
  | (_, v) :: rest => Plain v ∧ PlainFields rest

end

mutual

/-- The value with every finite number as the count of units that it is. -/
def counted : Value → Value
  | .list items => .list (countedItems items)
  | .table fields => .table (countedFields fields)
  | v => (v.units?.map int).getD v

def countedItems : List Value → List Value
  | [] => []
  | v :: rest => counted v :: countedItems rest

def countedFields : List (String × Value) → List (String × Value)
  | [] => []
  | (key, v) :: rest => (key, counted v) :: countedFields rest

end

/-- The one form of all values that are the same. -/
def standard (v : Value) : Value :=
  v.counted.canonical

variable {v w : Value} {fields more : Table} {key : String}

theorem plainFields_iff : PlainFields fields ↔ ∀ key v, (key, v) ∈ fields → v.Plain := by
  induction fields with
  | nil => simp [PlainFields]
  | cons f rest ih =>
    obtain ⟨k, v⟩ := f
    simp only [PlainFields, ih, List.mem_cons]
    constructor
    · rintro ⟨hv, hrest⟩ key w (heq | hmem)
      · cases heq
        exact hv
      · exact hrest key w hmem
    · exact fun h => ⟨h k v (.inl rfl), fun key w hmem => h key w (.inr hmem)⟩

theorem plain_table_iff :
    (table fields).Plain ↔ fields.keys.Nodup ∧ ∀ key v, (key, v) ∈ fields → v.Plain := by
  rw [Plain, plainFields_iff]

theorem not_bothNotANumber (h : v.Plain) (w : Value) : bothNotANumber v w = false := by
  unfold bothNotANumber
  cases v with
  | float x =>
    cases x with
    | notANumber => exact absurd rfl h
    | _ => rfl
  | _ => rfl

theorem agrees_eq_same (h : v.Plain) (w : Value) : agrees v w = same v w := by
  rw [agrees, not_bothNotANumber h, Bool.false_or]

/-! ### Standard forms -/

theorem keys_countedFields (fields : Table) : Fields.keys (countedFields fields) = fields.keys := by
  induction fields with
  | nil => rfl
  | cons f rest ih => exact congrArg (f.1 :: ·) ih

theorem get?_countedFields (key : String) (fields : Table) :
    Fields.get? key (countedFields fields) = (fields.get? key).map counted := by
  induction fields with
  | nil => rfl
  | cons f rest ih =>
    simp only [countedFields, Fields.get?, ih]
    split_ifs <;> rfl

mutual

theorem Plain.distinct_counted : ∀ {v : Value}, v.Plain → v.counted.Distinct
  | .null, _ => trivial
  | .bool _, _ => trivial
  | .int _, _ => trivial
  | .float x, _ => by cases x <;> trivial
  | .moment _, h => h.elim
  | .string _, _ => trivial
  | .list _, h => PlainItems.distinct_counted h
  | .table fields, h =>
    ⟨by rw [keys_countedFields]; exact h.1, PlainFields.distinct_counted h.2⟩

theorem PlainItems.distinct_counted :
    ∀ {items : List Value}, PlainItems items → DistinctItems (countedItems items)
  | [], _ => trivial
  | _ :: _, h => ⟨h.1.distinct_counted, PlainItems.distinct_counted h.2⟩

theorem PlainFields.distinct_counted :
    ∀ {fields : List (String × Value)}, PlainFields fields → DistinctFields (countedFields fields)
  | [], _ => trivial
  | _ :: _, h => ⟨h.1.distinct_counted, PlainFields.distinct_counted h.2⟩

end

/-- Tables have one standard form exactly if they have values of one standard form under the same
keys. -/
theorem standard_table_eq_iff (h : (table fields).Plain) (h' : (table more).Plain) :
    (table fields).standard = (table more).standard ↔
      ∀ key, (fields.get? key).map standard = (more.get? key).map standard := by
  refine (canonical_table_eq_iff h.distinct_counted h'.distinct_counted).trans ?_
  simp only [get?_countedFields, Option.map_map]
  rfl

theorem standard_of_units {n : Int} (h : v.units? = some n) : v.standard = .int n := by
  rcases v with _ | _ | _ | (_ | _ | _) | _ | _ | _ | _ <;> cases h <;> rfl

/-- The numbers, and no other values, have the standard form of a number. -/
theorem standard_eq_int_iff {n : Int} : v.standard = .int n ↔ v.units? = some n := by
  refine ⟨fun h => ?_, standard_of_units⟩
  cases hunits : v.units? with
  | some m =>
    rw [standard_of_units hunits, Value.int.injEq] at h
    rw [h]
  | none => rcases v with _ | _ | _ | (_ | _ | _) | _ | _ | _ | _ <;> cases hunits <;> cases h

/-- Whether a value is neither a finite number nor made of others. -/
def isAtom : Value → Bool
  | .null | .string _ | .moment _ | .float (.infinity _) | .float .notANumber => true
  | _ => false

/-- An atom is its own standard form and that of no other value. -/
theorem standard_eq_iff_of_isAtom (h : w.isAtom) : v.standard = w ↔ v = w := by
  constructor
  · rintro rfl
    rcases v with _ | _ | _ | (_ | _ | _) | _ | _ | _ | _ <;> first | rfl | cases h
  · rintro rfl
    rcases v with _ | _ | _ | (_ | _ | _) | _ | _ | _ | _ <;> first | rfl | cases h

/-! ### Equality as equality of standard forms -/

theorem sameNumber_iff {n : Int} (h : v.units? = some n) :
    v.sameNumber w ↔ v.standard = w.standard := by
  rw [standard_of_units h, eq_comm (a := int n), standard_eq_int_iff, sameNumber, h]
  cases w.units? with
  | none => exact iff_of_false nofun nofun
  | some m => exact beq_iff_eq.trans (eq_comm.trans Option.some_inj.symm)

theorem same_iff_of_isAtom (h : v.isAtom) (hv : v.Plain) : v.same w ↔ v.standard = w.standard := by
  have hw : v.standard = w.standard ↔ v = w := by
    rw [(standard_eq_iff_of_isAtom h).2 rfl, eq_comm, standard_eq_iff_of_isAtom h, eq_comm]
  rw [hw]
  rcases v with _ | _ | _ | (_ | s | _) | _ | s | _ | _ <;> try cases h
  · cases w <;> simp [same]
  · rcases w with _ | _ | _ | (_ | _ | _) | _ | _ | _ | _ <;>
      simp [same, sameNumber, units?, Binary64.units]
  · exact absurd rfl hv
  · exact hv.elim
  · cases w <;> simp [same]

theorem standard_list_eq_iff {xs ys : List Value} : (list xs).standard = (list ys).standard ↔
    canonicalItems (countedItems xs) = canonicalItems (countedItems ys) :=
  ⟨fun h => Value.list.inj h, congrArg list⟩

theorem same_list (xs : List Value) (w : Value) :
    (list xs).same w ↔ ∃ ys, w = list ys ∧ sameItems xs ys := by
  cases w <;> simp [same]

theorem same_table (fs : Table) (w : Value) :
    (table fs).same w ↔ ∃ gs, w = table gs ∧ fs.length = gs.length ∧ sameFields fs gs := by
  cases w <;> simp [same]

theorem exists_of_standard_eq_list {xs : List Value} (h : (list xs).standard = w.standard) :
    ∃ ys, w = list ys := by
  rcases w with _ | _ | _ | (_ | _ | _) | _ | _ | ys | _ <;> first | exact ⟨ys, rfl⟩ | cases h

theorem exists_of_standard_eq_table {fs : Table} (h : (table fs).standard = w.standard) :
    ∃ gs, w = table gs := by
  rcases w with _ | _ | _ | (_ | _ | _) | _ | _ | _ | gs <;> first | exact ⟨gs, rfl⟩ | cases h

mutual

/-- Plain values are the same exactly if their standard forms are one value. -/
theorem same_iff : ∀ {v w : Value}, v.Plain → w.Plain → (v.same w ↔ v.standard = w.standard)
  | .null, _, _, _ => same_iff_of_isAtom rfl trivial
  | .bool _, _, _, _ => sameNumber_iff rfl
  | .int _, _, _, _ => sameNumber_iff rfl
  | .float (.finite ..), _, _, _ => sameNumber_iff rfl
  | .float (.infinity _), _, h, _ => same_iff_of_isAtom rfl h
  | .float .notANumber, _, h, _ => absurd rfl h
  | .moment _, _, h, _ => h.elim
  | .string _, _, _, _ => same_iff_of_isAtom rfl trivial
  | .list xs, w, h, h' => by
    rw [same_list]
    constructor
    · rintro ⟨ys, rfl, hitems⟩
      exact standard_list_eq_iff.2 ((sameItems_iff h h').1 hitems)
    · intro heq
      obtain ⟨ys, rfl⟩ := exists_of_standard_eq_list heq
      exact ⟨ys, rfl, (sameItems_iff h h').2 (standard_list_eq_iff.1 heq)⟩
  | .table fs, w, h, h' => by
    rw [same_table]
    have hfields {gs : Table} (hg : (table gs).Plain) :
        fs.length = gs.length ∧ sameFields fs gs ↔ (table fs).standard = (table gs).standard := by
      rw [standard_table_eq_iff h hg, sameFields_iff h.2 hg]
      exact Fields.length_and_forall_mem_iff standard h.1 hg.1
    constructor
    · rintro ⟨gs, rfl, hgs⟩
      exact (hfields h').1 hgs
    · intro heq
      obtain ⟨gs, rfl⟩ := exists_of_standard_eq_table heq
      exact ⟨gs, rfl, (hfields h').2 heq⟩

theorem sameItems_iff : ∀ {xs ys : List Value}, PlainItems xs → PlainItems ys →
    (sameItems xs ys ↔ canonicalItems (countedItems xs) = canonicalItems (countedItems ys))
  | [], [], _, _ => by simp [sameItems]
  | [], _ :: _, _, _ => by simp [sameItems, countedItems, canonicalItems]
  | _ :: _, [], _, _ => by simp [sameItems, countedItems, canonicalItems]
  | x :: xs, y :: ys, h, h' => by
    rw [sameItems, not_bothNotANumber h.1, Bool.false_or, Bool.and_eq_true, same_iff h.1 h'.1,
      sameItems_iff h.2 h'.2]
    exact List.cons_eq_cons.symm

theorem sameFields_iff : ∀ {fs gs : List (String × Value)}, PlainFields fs → (table gs).Plain →
    (sameFields fs gs ↔
      ∀ key v, (key, v) ∈ fs → (Fields.get? key gs).map standard = some v.standard)
  | [], _, _, _ => by simp [sameFields]
  | (k, v) :: rest, gs, h, h' => by
    rw [sameFields, Bool.and_eq_true, sameFields_iff h.2 h']
    cases hget : Fields.get? k gs with
    | none =>
      refine iff_of_false (fun hfalse => Bool.false_ne_true hfalse.1) fun hall => ?_
      have hk := hall k v List.mem_cons_self
      rw [hget] at hk
      cases hk
    | some w =>
      have hw : w.Plain := (plain_table_iff.1 h').2 k w (Fields.mem_of_get? hget)
      dsimp only
      rw [not_bothNotANumber h.1, Bool.false_or, same_iff h.1 hw]
      constructor
      · rintro ⟨heq, hrest⟩ key v' hmem
        rcases List.mem_cons.1 hmem with hfirst | hmem
        · cases hfirst
          rw [hget, Option.map_some, heq]
        · exact hrest key v' hmem
      · intro hall
        have hk := hall k v List.mem_cons_self
        rw [hget, Option.map_some] at hk
        exact ⟨(Option.some.inj hk).symm, fun key v' hmem => hall key v' (List.mem_cons_of_mem _ hmem)⟩

end

end Value

end NativeVariants
