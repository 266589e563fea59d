import Mathlib.Data.List.Perm.Basic
import NativeVariants.Json.Printer
import NativeVariants.Machine
import NativeVariants.Proofs.KeyOrder

/-!
# Leaves of values

What is spelt of a value, as a literal, a text or in JSON, is spelt of the scalars inside it. So a value
has no text for the sake of its first leaf that has none (`Value.failure?_text`), or because it is
nested too deep. The order of keys makes no difference to either (`Value.isOk_spell_canonical`), and
where there is no table it makes no difference to anything (`Value.eq_of_canonical_eq`).
-/

namespace NativeVariants

/-- Why a computation fails, if it does. -/
def failure? {α : Type} : Except Failure α → Option Failure
  | .ok _ => none
  | .error failure => some failure

section
variable {α β γ : Type} {x : Except Failure α} {failure : Failure}

theorem failure?_eq_some_iff : failure? x = some failure ↔ x = .error failure := by
  cases x <;> simp [failure?]

theorem failure?_eq_none_iff : failure? x = none ↔ x.isOk := by
  cases x <;> simp [failure?, Except.isOk, Except.toBool]

theorem failure?_map (f : α → β) (x : Except Failure α) : failure? (x.map f) = failure? x := by
  cases x <;> rfl

/-- Of two computations in turn the first failure counts. -/
theorem failure?_both (f : α → β → γ) (x : Except Failure α) (y : Except Failure β) :
    failure? (do let a ← x; let b ← y; return f a b) = (failure? x).or (failure? y) := by
  cases x <;> cases y <;> rfl

end

namespace Value

mutual

/-- The scalars inside a value, from left to right. -/
def leaves : Value → List Value
  | .list items => leavesOfItems items
  | .table fields => leavesOfFields fields
  | v => [v]

def leavesOfItems : List Value → List Value
  | [] => []
  | v :: rest => leaves v ++ leavesOfItems rest

def leavesOfFields : List (String × Value) → List Value
  | [] => []
  | (_, v) :: rest => leaves v ++ leavesOfFields rest

end

theorem leavesOfItems_strings (ss : List String) :
    leavesOfItems (ss.map string) = ss.map string := by
  induction ss with
  | nil => rfl
  | cons s ss ih =>
    rw [List.map_cons, leavesOfItems, ih]
    rfl

theorem depthOfItems_strings (ss : List String) : depthOfItems (ss.map string) = 0 := by
  induction ss with
  | nil => rfl
  | cons s ss ih =>
    rw [List.map_cons, depthOfItems, ih]
    rfl

/-- Why a scalar has no text. -/
def unspelt? : Value → Option Failure
  | .int n => if isLong n then some .longNumber else none
  | _ => none

/-- Why a scalar cannot be printed in JSON. -/
def unprinted? : Value → Option Failure
  | .moment _ => some .wrongType
  | v => v.unspelt?

variable {v w : Value} {failure : Failure}

theorem unprinted?_of_ne_moment (h : ∀ m, v ≠ .moment m) : v.unprinted? = v.unspelt? := by
  cases v with
  | moment m => exact absurd rfl (h m)
  | _ => rfl

theorem failure?_numberText (n : Int) : failure? (numberText n) = unspelt? (.int n) := by
  rw [numberText, unspelt?]
  split_ifs <;> rfl

mutual

theorem failure?_literal : ∀ v : Value, failure? v.literal = v.leaves.findSome? unspelt?
  | .null => rfl
  | .bool _ => rfl
  | .int n => by
    change failure? (numberText n) = [.int n].findSome? unspelt?
    rw [failure?_numberText, List.findSome?_singleton]
  | .float _ => rfl
  | .moment _ => rfl
  | .string _ => rfl
  | .list items => by rw [literal, failure?_map, leaves, failure?_itemLiterals]
  | .table fields => by rw [literal, failure?_map, leaves, failure?_fieldLiterals]

theorem failure?_itemLiterals : ∀ items : List Value,
    failure? (itemLiterals items) = (leavesOfItems items).findSome? unspelt?
  | [] => rfl
  | v :: rest => by
    rw [itemLiterals, failure?_both, failure?_literal v, failure?_itemLiterals rest, leavesOfItems,
      List.findSome?_append]

theorem failure?_fieldLiterals : ∀ fields : List (String × Value),
    failure? (fieldLiterals fields) = (leavesOfFields fields).findSome? unspelt?
  | [] => rfl
  | (key, v) :: rest => by
    rw [fieldLiterals, failure?_both, failure?_literal v, failure?_fieldLiterals rest, leavesOfFields,
      List.findSome?_append]

end

theorem failure?_text (v : Value) : failure? v.text = v.leaves.findSome? unspelt? := by
  cases v with
  | string s => rfl
  | moment m => rfl
  | _ => exact failure?_literal _

theorem unspelt?_eq_some_iff :
    v.unspelt? = some failure ↔ failure = .longNumber ∧ ∃ n, v = .int n ∧ isLong n := by
  cases v with
  | int n =>
    rw [unspelt?, Option.ite_none_right_eq_some, Option.some_inj]
    constructor
    · rintro ⟨hlong, rfl⟩
      exact ⟨rfl, n, rfl, hlong⟩
    · rintro ⟨rfl, _, hn, hlong⟩
      cases hn
      exact ⟨hlong, rfl⟩
  | _ => exact iff_of_false nofun (by rintro ⟨-, _, h, -⟩; cases h)

/-- A value has no text exactly if there is a number in it that is too long. -/
theorem text_eq_error_iff :
    v.text = .error failure ↔ failure = .longNumber ∧ ∃ n, .int n ∈ v.leaves ∧ isLong n := by
  rw [← failure?_eq_some_iff, failure?_text]
  constructor
  · intro h
    obtain ⟨leaf, hleaf, hunspelt⟩ := List.exists_of_findSome?_eq_some h
    obtain ⟨rfl, n, rfl, hlong⟩ := unspelt?_eq_some_iff.1 hunspelt
    exact ⟨rfl, n, hleaf, hlong⟩
  · rintro ⟨rfl, n, hleaf, hlong⟩
    have hsome : (v.leaves.findSome? unspelt?).isSome :=
      List.findSome?_isSome_iff.2 ⟨_, hleaf, by rw [unspelt?, if_pos hlong]; rfl⟩
    -- whichever leaf is met first, it is a number that is too long
    obtain ⟨other, hother⟩ := Option.isSome_iff_exists.1 hsome
    obtain ⟨leaf, -, hunspelt⟩ := List.exists_of_findSome?_eq_some hother
    rw [hother, (unspelt?_eq_some_iff.1 hunspelt).1]

end Value

namespace Json

variable (layout : Layout)

mutual

theorem failure?_renderAt (level : Nat) : ∀ v : Value,
    failure? (renderAt layout level v) = v.leaves.findSome? Value.unprinted?
  | .null => rfl
  | .bool _ => rfl
  | .int n => by
    change failure? (Value.numberText n) = [.int n].findSome? Value.unprinted?
    rw [Value.failure?_numberText, List.findSome?_singleton]
    rfl
  | .float _ => rfl
  | .moment _ => rfl
  | .string _ => rfl
  | .list items => by rw [renderAt, failure?_map, Value.leaves, failure?_renderItems]
  | .table fields => by rw [renderAt, failure?_map, Value.leaves, failure?_renderFields]

theorem failure?_renderItems (level : Nat) : ∀ items : List Value,
    failure? (renderItems layout level items) =
      (Value.leavesOfItems items).findSome? Value.unprinted?
  | [] => rfl
  | v :: rest => by
    rw [renderItems, failure?_both, failure?_renderAt level v, failure?_renderItems level rest,
      Value.leavesOfItems, List.findSome?_append]

theorem failure?_renderFields (level : Nat) : ∀ fields : List (String × Value),
    failure? (renderFields layout level fields) =
      (Value.leavesOfFields fields).findSome? Value.unprinted?
  | [] => rfl
  | (key, v) :: rest => by
    rw [renderFields, failure?_both, failure?_renderAt level v, failure?_renderFields level rest,
      Value.leavesOfFields, List.findSome?_append]

end

/-- A value cannot be printed for the first leaf that cannot be. -/
theorem render_eq_error_iff {v : Value} {failure : Failure} : render layout v = .error failure ↔
    v.leaves.findSome? Value.unprinted? = some failure := by
  rw [render, ← failure?_eq_some_iff, failure?_renderAt]

end Json

/-! ### Depth -/

namespace Host

variable {host : Host} {doing : String} {act : Value → Except Failure String} {v : Value}
  {text : String} {failure : Failure}

theorem within_eq_ok_iff :
    host.within doing act v = .ok text ↔ v.depth ≤ host.stack + 1 ∧ act v = .ok text := by
  unfold within
  split_ifs with h <;> simp [h]

theorem within_eq_error_iff : host.within doing act v = .error failure ↔
    host.stack + 1 < v.depth ∧ failure = .tooDeep doing ∨
      v.depth ≤ host.stack + 1 ∧ act v = .error failure := by
  unfold within
  split_ifs with h
  · simp [h]
  · simp [h, Nat.lt_of_not_le h, eq_comm]

/-- Why a host cannot spell a value. -/
inductive Unspelt (host : Host) (v : Value) : Failure → Prop where
  | deep (h : host.stack + 1 < v.depth) : Unspelt host v (.tooDeep "getting the repr of an object")
  | long {n : Int} (hleaf : .int n ∈ v.leaves) (hlong : Value.isLong n) :
      Unspelt host v .longNumber

theorem unspelt_of_spell (h : host.spell v = .error failure) : host.Unspelt v failure := by
  rcases within_eq_error_iff.1 h with ⟨hdeep, rfl⟩ | ⟨-, htext⟩
  · exact .deep hdeep
  · obtain ⟨rfl, n, hleaf, hlong⟩ := Value.text_eq_error_iff.1 htext
    exact .long hleaf hlong

theorem spell_string (host : Host) (s : String) : host.spell (.string s) = .ok s :=
  within_eq_ok_iff.2 ⟨Nat.zero_le _, rfl⟩

end Host

/-! ### The order of keys -/

namespace Value

variable {v w : Value} {host : Host}

theorem leavesOfFields_eq_flatMap (fields : Table) :
    leavesOfFields fields = fields.flatMap fun f => f.2.leaves := by
  induction fields with
  | nil => rfl
  | cons f rest ih => rw [leavesOfFields, ih, List.flatMap_cons]

theorem depthOfFields_perm {fields more : Table} (h : fields.Perm more) :
    depthOfFields fields = depthOfFields more := by
  induction h with
  | nil => rfl
  | cons f _ ih => rw [depthOfFields, depthOfFields, ih]
  | swap f g rest => exact Nat.max_left_comm ..
  | trans _ _ ih ih' => rw [ih, ih']

mutual

theorem depth_canonical : ∀ v : Value, v.canonical.depth = v.depth
  | .null => rfl
  | .bool _ => rfl
  | .int _ => rfl
  | .float _ => rfl
  | .moment _ => rfl
  | .string _ => rfl
  | .list items => by rw [canonical, depth, depth, depthOfItems_canonicalItems]
  | .table fields => by
    rw [canonical, depth, depth, depthOfFields_perm (Fields.arranged_perm _),
      depthOfFields_canonicalFields]

theorem depthOfItems_canonicalItems : ∀ items : List Value,
    depthOfItems (canonicalItems items) = depthOfItems items
  | [] => rfl
  | v :: rest => by
    rw [canonicalItems, depthOfItems, depthOfItems, depth_canonical v, depthOfItems_canonicalItems]

theorem depthOfFields_canonicalFields : ∀ fields : List (String × Value),
    depthOfFields (canonicalFields fields) = depthOfFields fields
  | [] => rfl
  | (key, v) :: rest => by
    rw [canonicalFields, depthOfFields, depthOfFields, depth_canonical v,
      depthOfFields_canonicalFields]

end

mutual

theorem leaves_canonical_perm : ∀ v : Value, v.canonical.leaves.Perm v.leaves
  | .null => .refl _
  | .bool _ => .refl _
  | .int _ => .refl _
  | .float _ => .refl _
  | .moment _ => .refl _
  | .string _ => .refl _
  | .list items => by
    rw [canonical, leaves, leaves]
    exact leavesOfItems_canonicalItems_perm items
  | .table fields => by
    rw [canonical, leaves, leaves]
    refine .trans ?_ (leavesOfFields_canonicalFields_perm fields)
    rw [leavesOfFields_eq_flatMap, leavesOfFields_eq_flatMap]
    exact (Fields.arranged_perm _).flatMap_right _

theorem leavesOfItems_canonicalItems_perm : ∀ items : List Value,
    (leavesOfItems (canonicalItems items)).Perm (leavesOfItems items)
  | [] => .refl _
  | v :: rest => (leaves_canonical_perm v).append (leavesOfItems_canonicalItems_perm rest)

theorem leavesOfFields_canonicalFields_perm : ∀ fields : List (String × Value),
    (leavesOfFields (canonicalFields fields)).Perm (leavesOfFields fields)
  | [] => .refl _
  | (_, v) :: rest => (leaves_canonical_perm v).append (leavesOfFields_canonicalFields_perm rest)

end

theorem isOk_spell_iff :
    (host.spell v).isOk ↔ v.depth ≤ host.stack + 1 ∧ ∀ leaf ∈ v.leaves, leaf.unspelt? = none := by
  rw [← List.findSome?_eq_none_iff, ← failure?_text, failure?_eq_none_iff]
  unfold Host.spell Host.within
  split_ifs with h
  · simp [h]
  · simp [h, Except.isOk, Except.toBool]

theorem isOk_spell_canonical (host : Host) (v : Value) :
    (host.spell v.canonical).isOk ↔ (host.spell v).isOk := by
  rw [isOk_spell_iff, isOk_spell_iff, depth_canonical]
  simp only [(leaves_canonical_perm v).mem_iff]

/-- A table, or a list with one inside. -/
inductive HoldsTable : Value → Prop where
  | table (fields : Table) : HoldsTable (.table fields)
  | item {items : List Value} {v : Value} (hmem : v ∈ items) (h : HoldsTable v) :
      HoldsTable (.list items)

mutual

/-- Where there is no table no keys could stand in another order. -/
theorem eq_of_canonical_eq : ∀ {v w : Value}, ¬ v.HoldsTable → v.canonical = w.canonical → v = w
  | .null, w, _, h => by cases w <;> first | rfl | cases h
  | .bool _, w, _, h => by cases w <;> first | exact h | cases h
  | .int _, w, _, h => by cases w <;> first | exact h | cases h
  | .float _, w, _, h => by cases w <;> first | exact h | cases h
  | .moment _, w, _, h => by cases w <;> first | exact h | cases h
  | .string _, w, _, h => by cases w <;> first | exact h | cases h
  | .table fields, _, hfree, _ => absurd (.table fields) hfree
  | .list items, w, hfree, h => by
    cases w with
    | list more =>
      rw [eq_of_canonicalItems_eq (fun v hv hholds => hfree (.item hv hholds)) (Value.list.inj h)]
    | _ => cases h

theorem eq_of_canonicalItems_eq : ∀ {items more : List Value}, (∀ v ∈ items, ¬ v.HoldsTable) →
    canonicalItems items = canonicalItems more → items = more
  | [], more, _, h => by cases more <;> first | rfl | cases h
  | v :: rest, more, hfree, h => by
    cases more with
    | nil => cases h
    | cons w more =>
      obtain ⟨hv, hrest⟩ := List.cons.inj h
      obtain ⟨hfree, hfrees⟩ := List.forall_mem_cons.1 hfree
      rw [eq_of_canonical_eq hfree hv, eq_of_canonicalItems_eq hfrees hrest]

end

end Value

end NativeVariants
