import Mathlib
import NativeVariants.Registry

/-!
# Priorities that are numbers

Numbers of all kinds have a place on one line (`Value.place?`), and comparing them compares their
places. So registrations under numbers can be sorted: `sortByPriority?` gives `sortedBy`, the stable
sort, of any list of them. Sorting again after every registration comes to the same as sorting once,
since one item more is put behind all that have no greater key (`sortedBy_concat`).
-/

namespace NativeVariants

section Sorting

variable {α κ : Type} {r : α → α → Prop} [DecidableRel r] {a b : α} {front back l : List α}

theorem orderedInsert_append_of_forall_not (h : ∀ b ∈ front, ¬ r a b) :
    (front ++ back).orderedInsert r a = front ++ back.orderedInsert r a := by
  induction front with
  | nil => rfl
  | cons c front ih =>
    rw [List.cons_append, List.orderedInsert_cons, if_neg (h c List.mem_cons_self),
      ih fun b hb => h b (List.mem_cons_of_mem c hb), List.cons_append]

/-- Two insertions commute if exactly one of the two items goes before the other, in whatever place
they meet. -/
theorem orderedInsert_comm {s : α → α → Prop} [DecidableRel s] (hab : r a b ↔ ¬ s b a)
    (hr : ∀ c, r a c → ¬ s b c → r a b) (hs : ∀ c, s b c → ¬ r a c → s b a) :
    (l.orderedInsert s b).orderedInsert r a = (l.orderedInsert r a).orderedInsert s b := by
  induction l with
  | nil =>
    by_cases h : r a b
    · simp [h, hab.1 h]
    · simp [h, not_not.1 (mt hab.2 h)]
  | cons c l ih =>
    by_cases hsc : s b c <;> by_cases hrc : r a c
    · by_cases h : r a b
      · simp [hsc, hrc, h, hab.1 h]
      · simp [hsc, hrc, h, not_not.1 (mt hab.2 h)]
    · have hba : s b a := hs c hsc hrc
      have hnot : ¬ r a b := fun h => hab.1 h hba
      simp [hsc, hrc, hnot]
    · have h : r a b := hr c hrc hsc
      simp [hsc, hrc, hab.1 h]
    · simp [hsc, hrc, ih]

variable [LinearOrder κ] {key : α → κ}

/-- The items in the order of their keys, equal ones in the order given. -/
def sortedBy (key : α → κ) (l : List α) : List α :=
  l.mergeSort fun a b => decide (key a ≤ key b)

/-- Puts an item behind all that have no greater key. -/
def insertBehind (key : α → κ) (a : α) (l : List α) : List α :=
  l.orderedInsert (fun a b => key a < key b) a

theorem insertBehind_append_of_lt (h : key a < key b) :
    insertBehind key a (front ++ b :: back) = insertBehind key a front ++ b :: back := by
  unfold insertBehind
  induction front with
  | nil => simp [h]
  | cons c front ih =>
    rw [List.cons_append, List.orderedInsert_cons, List.orderedInsert_cons, ih]
    split <;> rfl

theorem insertBehind_append_of_le (h : ∀ b ∈ front, key b ≤ key a) :
    insertBehind key a (front ++ back) = front ++ insertBehind key a back :=
  orderedInsert_append_of_forall_not fun b hb => not_lt.2 (h b hb)

theorem pairwise_sortedBy (key : α → κ) (l : List α) :
    (sortedBy key l).Pairwise fun a b => key a ≤ key b := by
  have hsorted := @List.pairwise_mergeSort _ (fun a b => decide (key a ≤ key b))
    (by simpa using fun _ _ _ => le_trans) (by simpa using fun _ _ => le_total _ _) l
  simpa [sortedBy] using hsorted

@[simp] theorem mem_sortedBy : a ∈ sortedBy key l ↔ a ∈ l :=
  List.mem_mergeSort

@[simp] theorem length_sortedBy (key : α → κ) (l : List α) : (sortedBy key l).length = l.length :=
  List.length_mergeSort l

theorem sortedBy_of_pairwise (h : l.Pairwise fun a b => key a ≤ key b) : sortedBy key l = l :=
  List.mergeSort_of_pairwise (by simpa using h)

/-- The first item goes before all that have no smaller key. -/
theorem sortedBy_cons (key : α → κ) (a : α) (l : List α) :
    sortedBy key (a :: l) = (sortedBy key l).orderedInsert (fun a b => key a ≤ key b) a := by
  obtain ⟨front, back, hall, hrest, hfront⟩ :=
    @List.mergeSort_cons _ (fun a b => decide (key a ≤ key b))
      (by simpa using fun _ _ _ => le_trans) (by simpa using fun _ _ => le_total _ _) a l
  have hsorted := pairwise_sortedBy key (a :: l)
  have hbefore : ∀ b ∈ front, ¬ key a ≤ key b := by simpa using hfront
  rw [sortedBy, hall] at hsorted ⊢
  rw [sortedBy, hrest, orderedInsert_append_of_forall_not hbefore]
  congr 1
  cases back with
  | nil => rfl
  | cons b back =>
    have hle : key a ≤ key b := by
      have htail := (List.pairwise_append.1 hsorted).2.1
      exact (List.pairwise_cons.1 htail).1 b List.mem_cons_self
    rw [List.orderedInsert_cons_of_le _ back hle]

theorem sortedBy_concat (key : α → κ) (l : List α) (a : α) :
    sortedBy key (l ++ [a]) = insertBehind key a (sortedBy key l) := by
  induction l with
  | nil => simp [sortedBy, insertBehind]
  | cons b l ih =>
    rw [List.cons_append, sortedBy_cons, sortedBy_cons, ih, insertBehind, insertBehind]
    -- the last item goes before an item exactly if this one does not go before it
    exact orderedInsert_comm not_lt.symm (fun c hc hac => hc.trans (not_lt.1 hac))
      fun c hac hc => hac.trans (not_le.1 hc)

theorem sortedBy_append (key : α → κ) (l l' : List α) :
    sortedBy key (l ++ l') =
      l'.foldl (fun sorted a => insertBehind key a sorted) (sortedBy key l) := by
  induction l' generalizing l with
  | nil => rw [List.append_nil]; rfl
  | cons a l' ih => rw [List.append_cons, ih, sortedBy_concat]; rfl

/-- Items with different keys may come in either order. -/
theorem sortedBy_swap (l : List α) (h : key a ≠ key b) :
    sortedBy key (l ++ [a, b]) = sortedBy key (l ++ [b, a]) := by
  have hlt : key b < key a ↔ ¬ key a < key b :=
    ⟨fun hlt => not_lt_of_gt hlt, fun hnot => lt_of_le_of_ne (not_lt.1 hnot) (Ne.symm h)⟩
  rw [sortedBy_append, sortedBy_append]
  exact orderedInsert_comm hlt (fun c hc hac => lt_of_lt_of_le hc (not_lt.1 hac))
    fun c hac hc => lt_of_lt_of_le hac (not_lt.1 hc)

end Sorting

/-! ### The order of numbers -/

namespace Binary64

/-- Where a number stands among all numbers, counted in the smallest positive one and with the
infinities at both ends. What is no number stands nowhere. -/
def place? : Binary64 → Option (WithBot (WithTop Int))
  | .infinity negative => some (if negative then ⊥ else ⊤)
  | x => x.units.map fun n => ((n : WithTop Int) : WithBot (WithTop Int))

variable {x y : Binary64}

theorem lt_of_units {m n : Int} (hx : x.units = some m) (hy : y.units = some n) :
    x.lt y = decide (m < n) := by
  cases x with
  | notANumber | infinity s => cases hx
  | finite =>
    cases y with
    | notANumber | infinity t => cases hy
    | finite => simp only [lt, hx, hy]

/-- Comparing numbers compares their places. -/
theorem lt_eq {p q : WithBot (WithTop Int)} (hx : x.place? = some p) (hy : y.place? = some q) :
    x.lt y = decide (p < q) := by
  cases x with
  | notANumber => cases hx
  | infinity s =>
    cases y with
    | notANumber => cases hy
    | infinity t => cases hx; cases hy; cases s <;> cases t <;> simp [lt]
    | finite => cases hx; cases hy; cases s <;> simp [lt]
  | finite =>
    cases y with
    | notANumber => cases hy
    | infinity t =>
      cases hx
      cases hy
      cases t with
      | false => simpa [lt] using WithBot.coe_lt_coe.2 (WithTop.coe_lt_top _)
      | true => simp [lt]
    | finite => cases hx; cases hy; rw [lt_of_units rfl rfl]; simp

theorem units_ofInt (n : Int) : (ofInt n).units = some (unitsOfInt n) := by
  simp only [ofInt, units, unitsOfInt, decide_eq_true_eq, Int.zero_sub]
  split_ifs with h
  · rw [Int.ofNat_natAbs_of_nonpos h.le, Int.neg_mul, Int.neg_neg]
  · rw [Int.natAbs_of_nonneg (not_lt.1 h)]

theorem lt_ofInt (m n : Int) : (ofInt m).lt (ofInt n) = decide (m < n) := by
  have hpower : (0 : Int) < power 2 (-minExponent).toNat := by
    generalize (-minExponent).toNat = k
    exact_mod_cast Nat.pow_pos Nat.two_pos
  rw [lt_of_units (units_ofInt m) (units_ofInt n), unitsOfInt, unitsOfInt,
    decide_eq_decide, Int.mul_lt_mul_right hpower]

end Binary64

namespace Value

/-- The number that a value is, if it is one. -/
def number? : Value → Option Binary64
  | .float x => some x
  | v => v.whole?.map Binary64.ofInt

/-- Where a value stands among all numbers. -/
def place? (v : Value) : Option (WithBot (WithTop Int)) :=
  v.number?.bind Binary64.place?

theorem before?_of_number {v w : Value} {x y : Binary64} (hv : v.number? = some x)
    (hw : w.number? = some y) : v.before? w = some (x.lt y) := by
  cases v <;> cases hv <;> cases w <;> cases hw <;>
    simp [before?, numberBefore?, whole?, Binary64.lt_ofInt]

/-- Numbers are compared by their places. -/
theorem before?_of_place {v w : Value} {p q : WithBot (WithTop Int)} (hv : v.place? = some p)
    (hw : w.place? = some q) : v.before? w = some (decide (p < q)) := by
  obtain ⟨x, hx, hp⟩ := Option.bind_eq_some_iff.1 hv
  obtain ⟨y, hy, hq⟩ := Option.bind_eq_some_iff.1 hw
  rw [before?_of_number hx hy, Binary64.lt_eq hp hq]

end Value

/-! ### Sorting by priority -/

variable {φ : Type} {r s : Registration φ} {rs : List (Registration φ)}

namespace Registration

/-- Where the priority of a registration stands; what is no number comes last. -/
def rank (r : Registration φ) : WithBot (WithTop Int) :=
  r.priority.place?.getD ⊤

/-- The priority of a registration is a number. -/
def Numbered (r : Registration φ) : Prop :=
  r.priority.place?.isSome

theorem Numbered.before? (hr : r.Numbered) (hs : s.Numbered) :
    r.priority.before? s.priority = some (decide (r.rank < s.rank)) := by
  obtain ⟨p, hp⟩ := Option.isSome_iff_exists.1 hr
  obtain ⟨q, hq⟩ := Option.isSome_iff_exists.1 hs
  rw [rank, rank, hp, hq]
  exact Value.before?_of_place hp hq

end Registration

open Registration in
theorem insertWithin?_eq {fuel : Nat} (hfuel : rs.length < fuel) (hr : r.Numbered)
    (hrs : ∀ s ∈ rs, s.Numbered) (hsorted : rs.Pairwise fun s t => s.rank ≤ t.rank) :
    insertByPriority?.insertWithin? r fuel rs = some (insertBehind rank r rs) := by
  induction fuel generalizing rs with
  | zero => exact absurd hfuel (Nat.not_lt_zero _)
  | succ fuel ih =>
    rw [insertByPriority?.insertWithin?]
    generalize hhalf : rs.length / 2 = half
    have hsplit : rs = rs.take half ++ rs.drop half := (List.take_append_drop half rs).symm
    have hlength : (rs.take half).length = half := by
      rw [List.length_take]
      omega
    generalize rs.take half = front at hsplit hlength ⊢
    generalize rs.drop half = behind at hsplit ⊢
    subst hsplit
    cases behind with
    | nil =>
      have hnil : front = [] := List.length_eq_zero_iff.1 (by simp at hhalf; omega)
      subst hnil
      rfl
    | cons middle back =>
      have hmiddle : middle.Numbered := hrs middle (by simp)
      obtain ⟨hfront, hback, hbetween⟩ := List.pairwise_append.1 hsorted
      rw [List.length_append, List.length_cons] at hfuel
      simp only [hr.before? hmiddle, Option.bind_eq_bind, Option.bind_some, decide_eq_true_eq]
      split_ifs with hlt
      · rw [ih (by omega) (fun s hs => hrs s (by simp [hs])) hfront, insertBehind_append_of_lt hlt]
        rfl
      · -- all in front of the middle are no greater than it
        have hle : ∀ s ∈ front ++ [middle], s.rank ≤ r.rank := by
          intro s hs
          rcases List.mem_append.1 hs with hs | hs
          · exact (hbetween s hs middle List.mem_cons_self).trans (not_lt.1 hlt)
          · rw [List.mem_singleton.1 hs]
            exact not_lt.1 hlt
        rw [ih (by omega) (fun s hs => hrs s (by simp [hs])) (List.pairwise_cons.1 hback).2,
          List.append_cons, insertBehind_append_of_le hle, List.append_assoc]
        rfl

theorem insertByPriority?_eq (hr : r.Numbered) (hrs : ∀ s ∈ rs, s.Numbered)
    (hsorted : rs.Pairwise fun s t => s.rank ≤ t.rank) :
    insertByPriority? r rs = some (insertBehind Registration.rank r rs) :=
  insertWithin?_eq (Nat.lt_succ_self _) hr hrs hsorted

theorem exists_splitRun?_eq (hrs : ∀ s ∈ rs, s.Numbered) :
    ∃ run rest, splitRun? rs = some (run, rest) ∧ run ++ rest = rs ∧
      run.Pairwise fun s t => s.rank ≤ t.rank := by
  induction rs with
  | nil => exact ⟨[], [], rfl, rfl, .nil⟩
  | cons r rs ih =>
    cases rs with
    | nil => exact ⟨[r], [], rfl, rfl, List.pairwise_singleton ..⟩
    | cons s tail =>
      have hr : r.Numbered := hrs r List.mem_cons_self
      have hs : s.Numbered := hrs s (by simp)
      obtain ⟨run, rest, hsplit, happend, hrun⟩ := ih fun t ht => hrs t (List.mem_cons_of_mem r ht)
      simp only [splitRun?, hs.before? hr, Option.bind_eq_bind, Option.bind_some, decide_eq_true_eq]
      split_ifs with hlt
      · exact ⟨[r], s :: tail, rfl, rfl, List.pairwise_singleton ..⟩
      · refine ⟨r :: run, rest, by rw [hsplit]; rfl, by rw [List.cons_append, happend], ?_⟩
        refine List.pairwise_cons.2 ⟨fun t ht => ?_, hrun⟩
        -- the run goes on with `s`, which `r` may stand in front of
        cases run with
        | nil => cases ht
        | cons s' run =>
          cases happend
          rcases List.mem_cons.1 ht with rfl | ht
          · exact not_lt.1 hlt
          · exact (not_lt.1 hlt).trans ((List.pairwise_cons.1 hrun).1 t ht)

theorem foldlM_insertByPriority?_eq {l : List (Registration φ)} (hl : ∀ s ∈ l, s.Numbered)
    (hrs : ∀ s ∈ rs, s.Numbered) :
    rs.foldlM (fun sorted r => insertByPriority? r sorted) (sortedBy Registration.rank l) =
      some (sortedBy Registration.rank (l ++ rs)) := by
  induction rs generalizing l with
  | nil => rw [List.append_nil]; rfl
  | cons r rs ih =>
    have hr : r.Numbered := hrs r List.mem_cons_self
    have hsorted : ∀ s ∈ sortedBy Registration.rank l, s.Numbered := fun s hs =>
      hl s (mem_sortedBy.1 hs)
    have hlr : ∀ s ∈ l ++ [r], s.Numbered := fun s hs => by
      rcases List.mem_append.1 hs with hs | hs
      · exact hl s hs
      · rwa [List.mem_singleton.1 hs]
    rw [List.foldlM_cons, insertByPriority?_eq hr hsorted (pairwise_sortedBy ..),
      ← sortedBy_concat, List.append_cons l r rs]
    exact ih hlr fun s hs => hrs s (List.mem_cons_of_mem r hs)

/-- Sorting by priorities that are numbers is the stable sort by their places. -/
theorem sortByPriority?_eq (hrs : ∀ s ∈ rs, s.Numbered) :
    sortByPriority? rs = some (sortedBy Registration.rank rs) := by
  obtain ⟨run, rest, hsplit, rfl, hrun⟩ := exists_splitRun?_eq hrs
  have hinsert := foldlM_insertByPriority?_eq (fun s hs => hrs s (List.mem_append_left rest hs))
    fun s hs => hrs s (List.mem_append_right run hs)
  rw [sortedBy_of_pairwise hrun] at hinsert
  rw [sortByPriority?, hsplit]
  exact hinsert

end NativeVariants
