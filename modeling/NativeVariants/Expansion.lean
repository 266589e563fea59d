import NativeVariants.Dimension
import NativeVariants.Logged
import NativeVariants.Machine

/-!
# Expansion

The combinations of build types, machines and linkages. Each dimension keeps the first of equal
values; build types vary slowest and linkages fastest.
-/

namespace NativeVariants

/-- One combination of the build dimensions; applications have no linkage. -/
structure Combination where
  buildType : BuildType
  machine : Machine
  linkage : Option Linkage
  deriving DecidableEq, Repr, Inhabited

/-- The distinct values of a dimension, or what stands for a missing value if there are none. -/
def distinctOr {α : Type} [BEq α] (missing : α) (values : List α) : List α :=
  match values.eraseDups with
  | [] => [missing]
  | distinct => distinct

/-- Every combination of the distinct values; without linkages each pair of build type and machine
occurs once. -/
def combinations (buildTypes : List BuildType) (machines : List Machine)
    (linkages : List (Option Linkage)) : List Combination :=
  buildTypes.eraseDups.flatMap fun buildType =>
    machines.eraseDups.flatMap fun machine =>
      (distinctOr none linkages).map fun linkage => ⟨buildType, machine, linkage⟩

/-- Every combination, with a note of how many there are. -/
def expand (buildTypes : List BuildType) (machines : List Machine)
    (linkages : List (Option Linkage)) : Logged (List Combination) := do
  let all := combinations buildTypes machines linkages
  Logged.write .debug s!"Expanded {all.length} variant(s) from the build dimensions."
  return all

theorem distinctOr_ne_nil {α : Type} [BEq α] (missing : α) (values : List α) :
    distinctOr missing values ≠ [] := by
  unfold distinctOr
  split
  · simp
  · rename_i h
    simpa using h

theorem mem_combinations {buildTypes : List BuildType} {machines : List Machine}
    {linkages : List (Option Linkage)} {c : Combination} :
    c ∈ combinations buildTypes machines linkages ↔
      c.buildType ∈ buildTypes.eraseDups ∧ c.machine ∈ machines.eraseDups ∧
        c.linkage ∈ distinctOr none linkages := by
  simp only [combinations, List.mem_flatMap, List.mem_map]
  constructor
  · rintro ⟨b, hb, m, hm, l, hl, rfl⟩
    exact ⟨hb, hm, hl⟩
  · rintro ⟨hb, hm, hl⟩
    exact ⟨_, hb, _, hm, _, hl, rfl⟩

end NativeVariants
