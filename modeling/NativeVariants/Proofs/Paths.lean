import NativeVariants.Proofs.KeyOrder
import NativeVariants.Proofs.Logged
import NativeVariants.Settings.Path

/-!
# Laws of paths

What is put at the end of a path is found there, what is removed is not, and what neither lies on the
path nor behind it stays (`Unrelated`). A second value takes the place of the first one. Putting fails
only at something on the way that is no table (`InTheWay`). All of this holds of a tree whatever the
order of its keys: `find?`, `put` and `remove?` do the same to trees that are the same.
-/

namespace NativeVariants.Settings

variable {last : String} {new : Value} {outer q : List String} {fields t : Table}

/-- Neither of two paths leads through the end of the other. -/
def Unrelated (p q : List String) : Prop :=
  ¬ p <+: q ∧ ¬ q <+: p

instance (p q : List String) : Decidable (Unrelated p q) :=
  inferInstanceAs (Decidable (_ ∧ _))

theorem Unrelated.tail {key : String} {p q : List String} (h : Unrelated (key :: p) (key :: q)) :
    Unrelated p q :=
  ⟨fun hp => h.1 ((List.prefix_cons_inj key).2 hp), fun hq => h.2 ((List.prefix_cons_inj key).2 hq)⟩

theorem Unrelated.exists_cons {p q : List String} (h : Unrelated p q) : ∃ key rest, q = key :: rest := by
  cases q with
  | nil => exact absurd (List.nil_prefix) h.2
  | cons key rest => exact ⟨key, rest, rfl⟩

/-! ### Finding -/

theorem find?_append (p q : List String) (v : Value) :
    find? (p ++ q) v = (find? p v).bind (find? q) := by
  induction p generalizing v with
  | nil => rfl
  | cons key rest ih =>
    cases v with
    | table fields =>
      simp only [List.cons_append, find?, Option.bind_assoc]
      exact congrArg _ (funext ih)
    | _ => rfl

theorem find?_of_not_table {v : Value} (hv : ∀ inner, v ≠ .table inner) (hq : q ≠ []) :
    find? q v = none := by
  cases q with
  | nil => exact absurd rfl hq
  | cons key rest =>
    cases v with
    | table inner => exact absurd rfl (hv inner)
    | _ => rfl

theorem find?_cons (key : String) (rest : List String) (fields : Table) :
    find? (key :: rest) (.table fields) = (fields.get? key).bind (find? rest) :=
  rfl

theorem lookup?_nil (key : String) : lookup? key [] = none := by
  unfold lookup? Path.parts
  cases (Path.ofKey key).outer <;> rfl

/-- In a table that is missing nothing is found. -/
theorem find?_cons_of_getD {key : String} {inner : Table}
    (h : (Fields.get? key fields).getD (.table []) = .table inner) (hq : q ≠ []) :
    find? (key :: q) (.table fields) = find? q (.table inner) := by
  rw [find?_cons]
  cases hg : Fields.get? key fields with
  | some v =>
    rw [hg] at h
    rw [Option.bind_some, show v = .table inner from h]
  | none =>
    rw [hg] at h
    cases h
    obtain ⟨k, rest, rfl⟩ := List.exists_cons_of_ne_nil hq
    rfl

/-! ### Putting -/

theorem put_cons_eq_ok_iff {key : String} {rest : List String} :
    put last new (key :: rest) fields = .ok t ↔
      ∃ inner changed, (Fields.get? key fields).getD (.table []) = .table inner ∧
        put last new rest inner = .ok changed ∧ Fields.put key (.table changed) fields = t := by
  rw [put]
  constructor
  · intro h
    split at h
    · rename_i inner hi
      cases hp : put last new rest inner with
      | error failure =>
        rw [hp] at h
        cases h
      | ok changed =>
        rw [hp] at h
        cases h
        exact ⟨inner, changed, hi, hp, rfl⟩
    · cases h
  · rintro ⟨inner, changed, hi, hp, rfl⟩
    rw [hi]
    dsimp only
    rw [hp]
    rfl

theorem put_cons_of_not_table {key : String} {rest : List String}
    (h : ∀ inner, (Fields.get? key fields).getD (.table []) ≠ .table inner) :
    put last new (key :: rest) fields =
      .error (if rest.isEmpty then .wrongType else .noAttribute) := by
  rw [put]
  split
  · exact absurd ‹_› (h _)
  · rfl

theorem find?_put_self (h : put last new outer fields = .ok t) :
    find? (outer ++ [last]) (.table t) = some new := by
  induction outer generalizing fields t with
  | nil =>
    cases h
    simp [find?, Fields.get?_put_self]
  | cons key rest ih =>
    obtain ⟨inner, changed, -, hp, rfl⟩ := put_cons_eq_ok_iff.1 h
    rw [List.cons_append, find?_cons, Fields.get?_put_self]
    exact ih hp

theorem find?_put_of_unrelated (h : put last new outer fields = .ok t)
    (hq : Unrelated (outer ++ [last]) q) : find? q (.table t) = find? q (.table fields) := by
  induction outer generalizing fields t q with
  | nil =>
    obtain ⟨k, rest, rfl⟩ := hq.exists_cons
    have hne : last ≠ k := by
      rintro rfl
      exact hq.1 ((List.prefix_cons_inj last).2 List.nil_prefix)
    cases h
    rw [find?_cons, find?_cons, Fields.get?_put_of_ne _ _ hne]
  | cons key rest ih =>
    obtain ⟨k, q, rfl⟩ := hq.exists_cons
    obtain ⟨inner, changed, hi, hp, rfl⟩ := put_cons_eq_ok_iff.1 h
    by_cases hk : key = k
    · subst hk
      have htail : Unrelated (rest ++ [last]) q := hq.tail
      obtain ⟨k', q', rfl⟩ := htail.exists_cons
      rw [find?_cons_of_getD hi (List.cons_ne_nil k' q'), find?_cons, Fields.get?_put_self]
      exact ih hp htail
    · rw [find?_cons, find?_cons, Fields.get?_put_of_ne _ _ hk]

theorem put_put {first : Value} (h : put last first outer fields = .ok t) (new : Value) :
    put last new outer t = put last new outer fields := by
  induction outer generalizing fields t with
  | nil =>
    cases h
    simp only [put, Fields.put_put]
  | cons key rest ih =>
    obtain ⟨inner, changed, hi, hp, rfl⟩ := put_cons_eq_ok_iff.1 h
    simp only [put, Fields.get?_put_self, Option.getD_some, hi, Fields.put_put, ih hp]

theorem put_ne_nil (h : put last new outer fields = .ok t) : t ≠ [] := by
  rintro rfl
  have hfind := find?_put_self h
  cases outer <;> cases hfind

/-! ### What is in the way -/

/-- What a path leads to before its end although it is no table, and the way to it. -/
structure InTheWay (outer : List String) (root : Value) (way : List String) (v : Value) : Prop where
  onPath : way <+: outer
  found : find? way root = some v
  noTable : ∀ inner, v ≠ .table inner

variable {root v : Value} {way : List String}

theorem not_inTheWay_nil : ¬ InTheWay [] (.table fields) way v := by
  rintro ⟨hway, hv, hno⟩
  rw [List.prefix_nil.1 hway] at hv
  exact hno fields (Option.some.inj hv).symm

theorem not_inTheWay_empty : ¬ InTheWay outer (.table []) way v := by
  rintro ⟨-, hv, hno⟩
  cases way with
  | nil => exact hno [] (Option.some.inj hv).symm
  | cons key rest => cases hv

theorem inTheWay_of_not_table (hroot : ∀ inner, root ≠ .table inner) :
    InTheWay outer root way v ↔ way = [] ∧ v = root := by
  constructor
  · rintro ⟨-, hv, -⟩
    by_cases hway : way = []
    · subst hway
      exact ⟨rfl, (Option.some.inj hv).symm⟩
    · rw [find?_of_not_table hroot hway] at hv
      cases hv
  · rintro ⟨rfl, rfl⟩
    exact ⟨List.nil_prefix, rfl, hroot⟩

/-- In a table that is missing nothing is in the way. -/
theorem inTheWay_cons_iff {key : String} {rest : List String} :
    InTheWay (key :: rest) (.table fields) way v ↔ ∃ behind, way = key :: behind ∧
      InTheWay rest ((Fields.get? key fields).getD (.table [])) behind v := by
  constructor
  · rintro ⟨hway, hv, hno⟩
    rcases List.prefix_cons_iff.1 hway with rfl | ⟨behind, rfl, hbehind⟩
    · exact absurd (Option.some.inj hv).symm (hno fields)
    · obtain ⟨inner, hinner, hv⟩ := Option.bind_eq_some_iff.1 hv
      rw [hinner]
      exact ⟨behind, rfl, hbehind, hv, hno⟩
  · rintro ⟨behind, rfl, h⟩
    cases hg : Fields.get? key fields with
    | none =>
      rw [hg] at h
      exact absurd h not_inTheWay_empty
    | some inner =>
      rw [hg] at h
      refine ⟨(List.prefix_cons_inj key).2 h.onPath, ?_, h.noTable⟩
      rw [find?_cons, hg]
      exact h.found

/-- Putting fails at what is in the way, in one way if a table was to be entered there and in another
if the value was to be put there. -/
theorem put_eq_error_iff {failure : Failure} : put last new outer fields = .error failure ↔
    ∃ way v, InTheWay outer (.table fields) way v ∧
      failure = if way = outer then .wrongType else .noAttribute := by
  induction outer generalizing fields with
  | nil =>
    refine iff_of_false nofun ?_
    rintro ⟨way, v, h, -⟩
    exact not_inTheWay_nil h
  | cons key rest ih =>
    have hcons : (∃ way v, InTheWay (key :: rest) (.table fields) way v ∧
          failure = if way = key :: rest then .wrongType else .noAttribute) ↔
        ∃ way v, InTheWay rest ((Fields.get? key fields).getD (.table [])) way v ∧
          failure = if way = rest then .wrongType else .noAttribute := by
      constructor
      · rintro ⟨_, v, h, hfailure⟩
        obtain ⟨way, rfl, hbehind⟩ := inTheWay_cons_iff.1 h
        exact ⟨way, v, hbehind, by simpa using hfailure⟩
      · rintro ⟨way, v, h, hfailure⟩
        exact ⟨key :: way, v, inTheWay_cons_iff.2 ⟨way, rfl, h⟩, by simpa using hfailure⟩
    rw [hcons]
    by_cases hroot : ∃ inner, (Fields.get? key fields).getD (.table []) = .table inner
    · obtain ⟨inner, hinner⟩ := hroot
      rw [put, hinner, ← ih]
      dsimp only
      cases put last new rest inner with
      | error other => simp only [Except.map, Except.error.injEq]
      | ok changed => simp only [Except.map, reduceCtorEq]
    · rw [not_exists] at hroot
      have hend : (if [] = rest then Failure.wrongType else .noAttribute) =
          if rest.isEmpty then .wrongType else .noAttribute := by
        cases rest <;> rfl
      rw [put_cons_of_not_table hroot, ← hend]
      constructor
      · rintro ⟨⟩
        exact ⟨[], _, (inTheWay_of_not_table hroot).2 ⟨rfl, rfl⟩, rfl⟩
      · rintro ⟨way, v, h, rfl⟩
        rw [((inTheWay_of_not_table hroot).1 h).1]

/-- Putting fails only if something on the way is no table. -/
theorem put_isOk_iff : (put last new outer fields).isOk ↔
    ∀ p, p <+: outer → ∀ v, find? p (.table fields) = some v → ∃ inner, v = .table inner := by
  constructor
  · intro h p hp v hv
    by_contra hno
    obtain ⟨t, ht⟩ := exists_of_isOk h
    have hway : InTheWay outer (.table fields) p v := ⟨hp, hv, not_exists.1 hno⟩
    cases ht.symm.trans (put_eq_error_iff.2 ⟨p, v, hway, rfl⟩)
  · intro h
    cases hput : put last new outer fields with
    | ok t => rfl
    | error failure =>
      obtain ⟨way, v, hway, -⟩ := put_eq_error_iff.1 hput
      obtain ⟨inner, hinner⟩ := h way hway.onPath v hway.found
      exact absurd hinner (hway.noTable inner)

/-! ### Removing -/

theorem remove?_nil_eq_some_iff : remove? last [] fields = some t ↔
    Fields.has last fields ∧ Fields.remove last fields = t := by
  rw [remove?]
  split_ifs with h <;> simp [h]

theorem remove?_cons_eq_some_iff {key : String} {rest : List String} :
    remove? last (key :: rest) fields = some t ↔
      ∃ inner changed, Fields.get? key fields = some (.table inner) ∧
        remove? last rest inner = some changed ∧ Fields.put key (.table changed) fields = t := by
  rw [remove?]
  constructor
  · intro h
    split at h
    · rename_i inner hi
      obtain ⟨changed, hr, rfl⟩ := Option.map_eq_some_iff.1 h
      exact ⟨inner, changed, hi, hr, rfl⟩
    · cases h
  · rintro ⟨inner, changed, hi, hr, rfl⟩
    rw [hi]
    dsimp only
    rw [hr]
    rfl

/-- There is something to remove exactly where something is found. -/
theorem remove?_eq_none_iff :
    remove? last outer fields = none ↔ find? (outer ++ [last]) (.table fields) = none := by
  induction outer generalizing fields with
  | nil =>
    rw [List.nil_append, find?_cons, remove?]
    unfold Fields.has
    cases Fields.get? last fields with
    | none => exact iff_of_true rfl rfl
    | some v => exact iff_of_false nofun nofun
  | cons key rest ih =>
    rw [List.cons_append, find?_cons, remove?]
    cases hg : Fields.get? key fields with
    | none => exact iff_of_true rfl rfl
    | some v =>
      rw [Option.bind_some]
      cases v with
      | table inner =>
        dsimp only
        rw [Option.map_eq_none_iff, ih]
      | _ => exact iff_of_true rfl (find?_of_not_table nofun (by simp))

theorem find?_remove?_self (hd : (Value.table fields).Distinct)
    (h : remove? last outer fields = some t) : find? (outer ++ [last]) (.table t) = none := by
  induction outer generalizing fields t with
  | nil =>
    obtain ⟨-, rfl⟩ := remove?_nil_eq_some_iff.1 h
    rw [List.nil_append, find?_cons, Fields.get?_remove_self (Value.distinct_table_iff.1 hd).1]
    rfl
  | cons key rest ih =>
    obtain ⟨inner, changed, hi, hr, rfl⟩ := remove?_cons_eq_some_iff.1 h
    rw [List.cons_append, find?_cons, Fields.get?_put_self]
    exact ih (hd.get? hi) hr

theorem find?_remove?_of_unrelated (h : remove? last outer fields = some t)
    (hq : Unrelated (outer ++ [last]) q) : find? q (.table t) = find? q (.table fields) := by
  induction outer generalizing fields t q with
  | nil =>
    obtain ⟨k, rest, rfl⟩ := hq.exists_cons
    have hne : last ≠ k := by
      rintro rfl
      exact hq.1 ((List.prefix_cons_inj last).2 List.nil_prefix)
    obtain ⟨-, rfl⟩ := remove?_nil_eq_some_iff.1 h
    rw [find?_cons, find?_cons, Fields.get?_remove_of_ne hne]
  | cons key rest ih =>
    obtain ⟨k, q, rfl⟩ := hq.exists_cons
    obtain ⟨inner, changed, hi, hr, rfl⟩ := remove?_cons_eq_some_iff.1 h
    by_cases hk : key = k
    · subst hk
      rw [find?_cons, find?_cons, Fields.get?_put_self, hi]
      exact ih hr hq.tail
    · rw [find?_cons, find?_cons, Fields.get?_put_of_ne _ _ hk]

/-! ### Keys that are distinct, in any order -/

theorem distinct_put (hd : (Value.table fields).Distinct) (hv : new.Distinct)
    (h : put last new outer fields = .ok t) : (Value.table t).Distinct := by
  induction outer generalizing fields t with
  | nil =>
    cases h
    exact hd.put hv
  | cons key rest ih =>
    obtain ⟨inner, changed, hi, hp, rfl⟩ := put_cons_eq_ok_iff.1 h
    have hinner : (Value.table inner).Distinct := by
      cases hg : Fields.get? key fields with
      | none =>
        rw [hg] at hi
        cases hi
        exact Value.distinct_nil
      | some v =>
        rw [hg] at hi
        cases hi
        exact hd.get? hg
    exact hd.put (ih hinner hp)

theorem distinct_remove? (hd : (Value.table fields).Distinct)
    (h : remove? last outer fields = some t) : (Value.table t).Distinct := by
  induction outer generalizing fields t with
  | nil =>
    obtain ⟨-, rfl⟩ := remove?_nil_eq_some_iff.1 h
    exact hd.remove
  | cons key rest ih =>
    obtain ⟨inner, changed, hi, hr, rfl⟩ := remove?_cons_eq_some_iff.1 h
    exact hd.put (ih (hd.get? hi) hr)

theorem exists_getD_congr {key : String} {inner more : Table} (hd : (Value.table fields).Distinct)
    (hd' : (Value.table more).Distinct)
    (h : (Value.table fields).canonical = (Value.table more).canonical)
    (hi : (Fields.get? key fields).getD (.table []) = .table inner) :
    ∃ inner', (Fields.get? key more).getD (.table []) = .table inner' ∧
      (Value.table inner).Distinct ∧ (Value.table inner').Distinct ∧
      (Value.table inner).canonical = (Value.table inner').canonical := by
  have hget := (Value.canonical_table_eq_iff hd hd').1 h key
  cases hg : Fields.get? key fields with
  | none =>
    rw [hg] at hi hget
    cases hi
    rw [Option.map_eq_none_iff.1 hget.symm]
    exact ⟨[], rfl, Value.distinct_nil, Value.distinct_nil, rfl⟩
  | some v =>
    rw [hg] at hi hget
    cases hi
    obtain ⟨v', hg', hv'⟩ := Option.map_eq_some_iff.1 hget.symm
    obtain ⟨inner', rfl⟩ := Value.canonical_eq_table_iff.1 ⟨_, hv'⟩
    exact ⟨inner', by rw [hg']; rfl, hd.get? hg, hd'.get? hg', hv'.symm⟩

/-- What is put in trees that are the same makes trees that are the same. -/
theorem put_congr {more : Table} (hd : (Value.table fields).Distinct)
    (hd' : (Value.table more).Distinct) (hv : new.Distinct)
    (h : (Value.table fields).canonical = (Value.table more).canonical)
    (hp : put last new outer fields = .ok t) :
    ∃ t', put last new outer more = .ok t' ∧ (Value.table t).canonical = (Value.table t').canonical := by
  induction outer generalizing fields more t with
  | nil =>
    cases hp
    exact ⟨_, rfl, Value.canonical_put hd hd' hv hv h rfl last⟩
  | cons key rest ih =>
    obtain ⟨inner, changed, hi, hrest, rfl⟩ := put_cons_eq_ok_iff.1 hp
    obtain ⟨inner', hi', hdi, hdi', hinner⟩ := exists_getD_congr hd hd' h hi
    obtain ⟨changed', hrest', hchanged⟩ := ih hdi hdi' hinner hrest
    refine ⟨_, put_cons_eq_ok_iff.2 ⟨inner', changed', hi', hrest', rfl⟩, ?_⟩
    exact Value.canonical_put hd hd' (distinct_put hdi hv hrest) (distinct_put hdi' hv hrest') h
      hchanged key

theorem find?_canonical {v : Value} (hd : v.Distinct) (p : List String) :
    find? p v.canonical = (find? p v).map Value.canonical := by
  induction p generalizing v with
  | nil => rfl
  | cons key rest ih =>
    cases v with
    | table fields =>
      rw [Value.canonical, find?_cons, find?_cons, Value.get?_arranged_canonicalFields hd]
      cases hg : Fields.get? key fields with
      | none => rfl
      | some v => exact ih (hd.get? hg)
    | _ => rfl

/-- The same is found in trees that are the same. -/
theorem find?_congr {v w : Value} (hv : v.Distinct) (hw : w.Distinct)
    (h : v.canonical = w.canonical) (p : List String) :
    (find? p v).map Value.canonical = (find? p w).map Value.canonical := by
  rw [← find?_canonical hv, h, find?_canonical hw]

end NativeVariants.Settings
