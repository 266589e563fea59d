import Mathlib.Data.List.Induction
import NativeVariants.Proofs.Distinct

/-!
# Expansion as an ordered product

A dimension of an expansion has the first occurrences of its values, in their order
(`eraseDups_eq_firstOccurrences`); the dimension of linkages has the missing linkage if there are no
values. The expansion is the product of its dimensions, and an index into it is a number whose digits
are indices into the dimensions, that of the linkage the last one (`isProduct_combinations`).
-/

namespace NativeVariants

section
variable {α β : Type}

/-! ### First occurrences -/

/-- The values of a list that stand where they occur first. -/
def firstOccurrences [BEq α] (values : List α) : List α :=
  (values.zipIdx.filter fun (a, i) => values.idxOf a == i).map Prod.fst

variable [BEq α] [LawfulBEq α]

theorem eraseDups_concat (values : List α) (a : α) :
    (values ++ [a]).eraseDups = values.eraseDups ++ if values.contains a then [] else [a] := by
  have hleft : [a].removeAll values = if values.contains a then [] else [a] := by
    simp only [List.removeAll, List.filter_singleton, List.elem_eq_contains]
    cases values.contains a <;> rfl
  rw [List.eraseDups_append, hleft]
  cases values.contains a <;> rfl

theorem firstOccurrences_concat (values : List α) (a : α) :
    firstOccurrences (values ++ [a]) =
      firstOccurrences values ++ if values.contains a then [] else [a] := by
  -- what stands before the end occurs first where it did
  have hbefore : (values.zipIdx.filter fun (b, i) => (values ++ [a]).idxOf b == i) =
      values.zipIdx.filter fun (b, i) => values.idxOf b == i := by
    refine List.filter_congr fun ⟨b, i⟩ hb => ?_
    dsimp only
    rw [List.idxOf_append_of_mem (List.fst_mem_of_mem_zipIdx hb)]
  have hlast : ((values ++ [a]).idxOf a == values.length) = !values.contains a := by
    cases h : values.contains a with
    | true =>
      have hmem : a ∈ values := List.contains_iff_mem.1 h
      rw [List.idxOf_append_of_mem hmem]
      exact beq_false_of_ne (Nat.ne_of_lt (List.idxOf_lt_length_of_mem hmem))
    | false =>
      have hmem : a ∉ values := by simpa using h
      rw [List.idxOf_append_of_notMem hmem]
      simp
  rw [firstOccurrences, List.zipIdx_append, List.filter_append, List.map_append, hbefore]
  simp only [List.zipIdx_singleton, Nat.zero_add, List.filter_singleton, hlast, firstOccurrences]
  cases values.contains a <;> rfl

/-- Dropping every value that has been seen leaves the first occurrences. -/
theorem eraseDups_eq_firstOccurrences (values : List α) :
    values.eraseDups = firstOccurrences values := by
  induction values using List.reverseRecOn with
  | nil => rfl
  | append_singleton values a ih => rw [eraseDups_concat, firstOccurrences_concat, ih]

/-! ### Indices into products -/

variable {n : Nat} {f : α → List β}

omit [BEq α] [LawfulBEq α] in
theorem length_flatMap_of_length (hf : ∀ a, (f a).length = n) (l : List α) :
    (l.flatMap f).length = l.length * n := by
  simp only [List.length_flatMap, hf, List.map_const', List.sum_replicate_nat]

omit [BEq α] [LawfulBEq α] in
/-- In a row of lists of one length, an index tells the list and the place in it. -/
theorem getElem?_flatMap_of_length (hf : ∀ a, (f a).length = n) (l : List α) (i : Nat) {j : Nat}
    (hj : j < n) : (l.flatMap f)[i * n + j]? = l[i]?.bind fun a => (f a)[j]? := by
  induction l generalizing i with
  | nil => rfl
  | cons a l ih =>
    rw [List.flatMap_cons]
    cases i with
    | zero =>
      rw [Nat.zero_mul, Nat.zero_add, List.getElem?_append_left (by rwa [hf])]
      rfl
    | succ i =>
      have hskip : (i + 1) * n + j = (f a).length + (i * n + j) := by
        rw [hf, Nat.succ_mul]
        omega
      rw [hskip, List.getElem?_append_right (Nat.le_add_right _ _), Nat.add_sub_cancel_left, ih]
      rfl

end

/-! ### Combinations -/

variable (buildTypes : List BuildType) (machines : List Machine) (linkages : List (Option Linkage))

theorem distinctOr_eq_firstOccurrences :
    distinctOr none linkages = if linkages = [] then [none] else firstOccurrences linkages := by
  split
  · subst linkages
    rfl
  · rw [distinctOr_of_ne_nil none ‹_›, eraseDups_eq_firstOccurrences]

/-- `all` has each combination of values of the dimensions once. Build types vary slowest and linkages
fastest. -/
structure IsProduct (buildTypes : List BuildType) (machines : List Machine)
    (linkages : List (Option Linkage)) (all : List Combination) : Prop where
  nodup : all.Nodup
  length : all.length = buildTypes.length * machines.length * linkages.length
  getElem? : ∀ (i : Fin buildTypes.length) (j : Fin machines.length) (k : Fin linkages.length),
    all[(i * machines.length + j) * linkages.length + k]? =
      some ⟨buildTypes[i], machines[j], linkages[k]⟩

theorem isProduct_combinations :
    IsProduct buildTypes.eraseDups machines.eraseDups (distinctOr none linkages)
      (combinations buildTypes machines linkages) := by
  have hrow (b : BuildType) (m : Machine) :
      ((distinctOr none linkages).map fun l => (⟨b, m, l⟩ : Combination)).length =
        (distinctOr none linkages).length :=
    List.length_map _
  have htable (b : BuildType) :
      (machines.eraseDups.flatMap fun m =>
        (distinctOr none linkages).map fun l => (⟨b, m, l⟩ : Combination)).length =
        machines.eraseDups.length * (distinctOr none linkages).length :=
    length_flatMap_of_length (hrow b) _
  refine ⟨nodup_combinations buildTypes machines linkages, ?_, fun i j k => ?_⟩
  · rw [combinations, length_flatMap_of_length htable, Nat.mul_assoc]
  · have hdigits : (i * machines.eraseDups.length + j) * (distinctOr none linkages).length + k =
        i * (machines.eraseDups.length * (distinctOr none linkages).length) +
          (j * (distinctOr none linkages).length + k) := by
      rw [Nat.add_mul, Nat.mul_assoc, Nat.add_assoc]
    have hlow : j * (distinctOr none linkages).length + k <
        machines.eraseDups.length * (distinctOr none linkages).length := by
      calc j * (distinctOr none linkages).length + k
          < (j + 1) * (distinctOr none linkages).length := by rw [Nat.succ_mul]; omega
        _ ≤ machines.eraseDups.length * (distinctOr none linkages).length :=
          Nat.mul_le_mul_right _ j.isLt
    rw [combinations, hdigits, getElem?_flatMap_of_length htable _ _ hlow,
      List.getElem?_eq_getElem i.isLt, Option.bind_some,
      getElem?_flatMap_of_length (hrow _) _ _ k.isLt, List.getElem?_eq_getElem j.isLt,
      Option.bind_some, List.getElem?_map, List.getElem?_eq_getElem k.isLt, Option.map_some]
    rfl

theorem distinctOr_distinctOr :
    distinctOr none (distinctOr none linkages) = distinctOr none linkages := by
  rw [distinctOr_of_ne_nil none (distinctOr_ne_nil none linkages),
    eraseDups_of_nodup (nodup_distinctOr none linkages)]

theorem distinctOr_eraseDups : distinctOr none linkages.eraseDups = distinctOr none linkages := by
  unfold distinctOr
  rw [eraseDups_eraseDups]

/-- An expansion is the product of the first occurrences in its dimensions, where a missing linkage
stands for no linkages, and to expand these once more changes nothing. -/
theorem expand_isProduct (buildTypes : List BuildType) (machines : List Machine)
    (linkages : List (Option Linkage)) :
    let bs := firstOccurrences buildTypes
    let ms := firstOccurrences machines
    let ls := if linkages = [] then [none] else firstOccurrences linkages
    (∃ all, (expand buildTypes machines linkages).result = .ok all ∧ IsProduct bs ms ls all) ∧
      expand bs ms ls = expand buildTypes machines linkages ∧
      expand bs ms (firstOccurrences linkages) = expand buildTypes machines linkages := by
  intro bs ms ls
  have hbs : bs = buildTypes.eraseDups := (eraseDups_eq_firstOccurrences buildTypes).symm
  have hms : ms = machines.eraseDups := (eraseDups_eq_firstOccurrences machines).symm
  have hls : ls = distinctOr none linkages := (distinctOr_eq_firstOccurrences linkages).symm
  rw [hbs, hms, hls, ← eraseDups_eq_firstOccurrences linkages]
  refine ⟨⟨_, rfl, isProduct_combinations buildTypes machines linkages⟩, ?_, ?_⟩
  · simp only [expand, combinations, eraseDups_eraseDups, distinctOr_distinctOr]
  · simp only [expand, combinations, eraseDups_eraseDups, distinctOr_eraseDups]

end NativeVariants
