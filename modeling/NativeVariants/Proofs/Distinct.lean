import Mathlib.Data.List.Nodup
import NativeVariants.Expansion

/-!
# Distinct values

`eraseDups` keeps the first of equal values, so the result has no repetitions. `distinctOr` adds what
stands for a dimension without values, and a product of such lists gives every combination once.
-/

namespace NativeVariants

variable {α : Type}

section
variable [BEq α]

@[simp] theorem eraseDups_eq_nil_iff {l : List α} : l.eraseDups = [] ↔ l = [] := by
  cases l <;> simp [List.eraseDups_cons]

theorem distinctOr_of_ne_nil (missing : α) {values : List α} (h : values ≠ []) :
    distinctOr missing values = values.eraseDups := by
  unfold distinctOr
  split
  · rename_i h'; exact absurd (eraseDups_eq_nil_iff.1 h') h
  · rfl

variable [LawfulBEq α]

theorem nodup_eraseDups : ∀ l : List α, l.eraseDups.Nodup
  | [] => by simp
  | a :: l => by
    rw [List.eraseDups_cons, List.nodup_cons]
    refine ⟨fun h => ?_, nodup_eraseDups _⟩
    rw [List.mem_eraseDups] at h
    simp at h
termination_by l => l.length
decreasing_by exact Nat.lt_succ_of_le (List.length_filter_le _ _)

theorem eraseDups_of_nodup {l : List α} (h : l.Nodup) : l.eraseDups = l := by
  induction l with
  | nil => rfl
  | cons a l ih =>
    obtain ⟨ha, hl⟩ := List.nodup_cons.1 h
    have hfilter : l.filter (fun b => !b == a) = l :=
      List.filter_eq_self.2 fun b hb => by simpa using ne_of_mem_of_not_mem hb ha
    rw [List.eraseDups_cons, hfilter, ih hl]

@[simp] theorem eraseDups_eraseDups (l : List α) : l.eraseDups.eraseDups = l.eraseDups :=
  eraseDups_of_nodup (nodup_eraseDups l)

/-- There is at most one distinct value exactly if all values are equal. -/
theorem length_eraseDups_le_one_iff {l : List α} :
    l.eraseDups.length ≤ 1 ↔ ∀ a ∈ l, ∀ b ∈ l, a = b := by
  have hm : ∀ a, a ∈ l ↔ a ∈ l.eraseDups := fun a => List.mem_eraseDups.symm
  simp only [hm]
  match h : l.eraseDups with
  | [] | [_] => simp
  | x :: y :: rest =>
    have hd := nodup_eraseDups l
    rw [h] at hd
    have hxy : x ≠ y := fun hxy => (List.nodup_cons.1 hd).1 (by simp [hxy])
    refine ⟨fun hlen => absurd hlen (by simp), fun hall => ?_⟩
    exact absurd (hall x (by simp) y (by simp)) hxy

theorem nodup_distinctOr (missing : α) (values : List α) : (distinctOr missing values).Nodup := by
  by_cases h : values = []
  · subst h; simp [distinctOr]
  · rw [distinctOr_of_ne_nil missing h]; exact nodup_eraseDups values

end

/-- The dimensions of a product without repetitions give every combination once. -/
theorem nodup_combinations (buildTypes : List BuildType) (machines : List Machine)
    (linkages : List (Option Linkage)) : (combinations buildTypes machines linkages).Nodup := by
  have hl := nodup_distinctOr none linkages
  simp only [combinations, List.Nodup, List.pairwise_flatMap, List.pairwise_map]
  refine ⟨fun b _ => ⟨fun m _ => ?_, ?_⟩, ?_⟩
  · exact hl.imp fun hne h => hne (Combination.mk.inj h).2.2
  · refine (nodup_eraseDups machines).imp fun hne x hx y hy h => ?_
    obtain ⟨l, -, rfl⟩ := List.mem_map.1 hx
    obtain ⟨l', -, rfl⟩ := List.mem_map.1 hy
    exact hne (Combination.mk.inj h).2.1
  · refine (nodup_eraseDups buildTypes).imp fun hne x hx y hy h => ?_
    simp only [List.mem_flatMap, List.mem_map] at hx hy
    obtain ⟨m, -, l, -, rfl⟩ := hx
    obtain ⟨m', -, l', -, rfl⟩ := hy
    exact hne (Combination.mk.inj h).1

end NativeVariants
