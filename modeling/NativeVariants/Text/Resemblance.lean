/-!
# Resemblance

How much two texts have in common, and which of several names a mistyped word may have been meant
for. What two texts have in common is the longest run that stands in both, with what they have in
common before it and behind it.
-/

namespace NativeVariants.Text

/-- How long two texts agree from their beginnings on. -/
def agreement : List Char → List Char → Nat
  | a :: s, b :: t => if a = b then agreement s t + 1 else 0
  | _, _ => 0

/-- Characters that stand in two texts alike: where they begin in either, and how many they are. -/
structure CommonRun where
  left : Nat
  right : Nat
  length : Nat
  deriving DecidableEq, Repr, Inhabited

/-- The longest run of two texts; of several the one that begins first in the left text, and of
those the one that begins first in the right one. -/
def longestRun (s t : List Char) : CommonRun :=
  (List.range s.length).foldl (fun best left =>
    (List.range t.length).foldl (fun best right =>
      let length := agreement (s.drop left) (t.drop right)
      if best.length < length then ⟨left, right, length⟩ else best) best) ⟨0, 0, 0⟩

/-- How many characters are in the runs of two texts, of which the left one is no longer than the
fuel: every run takes away some of it. -/
def inRuns : Nat → List Char → List Char → Nat
  | 0, _, _ => 0
  | fuel + 1, s, t =>
    let run := longestRun s t
    if run.length = 0 then 0
    else
      run.length + inRuns fuel (s.take run.left) (t.take run.right) +
        inRuns fuel (s.drop (run.left + run.length)) (t.drop (run.right + run.length))

/-- How many characters two texts have in common. -/
def inCommon (s t : List Char) : Nat :=
  inRuns s.length s t

/-- A name beside a word: the characters that they have in common, and those of both. -/
structure Likeness where
  name : String
  common : Nat
  total : Nat
  deriving DecidableEq, Repr, Inhabited

namespace Likeness

/-- Three fifths of the characters of both belong to the common ones of either. -/
def isClose (common total : Nat) : Bool :=
  decide (3 * total ≤ 5 * (2 * common))

/-- The likeness of a name, unless it is not close. No two texts have more in common than the
shorter one holds, so that a name of quite another length is not looked at. -/
def ofName? (word name : String) : Option Likeness :=
  let total := name.length + word.length
  if isClose (min name.length word.length) total then
    let common := inCommon name.toList word.toList
    if isClose common total then some ⟨name, common, total⟩ else none
  else none

/-- Closer names come first, and of equally close ones the later in the alphabet. -/
def precedes (a b : Likeness) : Bool :=
  let ours := a.common * b.total
  let theirs := b.common * a.total
  decide (theirs < ours) || (ours == theirs && decide (b.name ≤ a.name))

end Likeness

/-- The names that a word may have been meant for, the three closest at most, by the alphabet. -/
def resembling (word : String) (names : List String) : List String :=
  let close := (names.filterMap (Likeness.ofName? word)).mergeSort Likeness.precedes
  ((close.take 3).map (·.name)).mergeSort fun a b => decide (a ≤ b)

example : inCommon "unset".toList "nset".toList = 4 := by decide +kernel
example : Likeness.ofName? "Get" "set" = some ⟨"set", 2, 6⟩ := by decide +kernel
example : Likeness.ofName? "logs" "list" = none := by decide +kernel

end NativeVariants.Text
