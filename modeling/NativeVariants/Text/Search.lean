/-!
# Searching and cutting text

Substrings, the cut at the first separator, and joining.
-/

namespace NativeVariants.Text

/-- Whether `needle` occurs somewhere in the text. -/
def occursIn (needle : List Char) : List Char → Bool
  | [] => needle.isEmpty
  | c :: cs => needle.isPrefixOf (c :: cs) || occursIn needle cs

def holds (s needle : String) : Bool :=
  occursIn needle.toList s.toList

/-- The text before the first `sep` and, if there is one, the text after it. -/
def cutChars (sep : Char) : List Char → List Char × Option (List Char)
  | [] => ([], none)
  | c :: cs =>
    if c = sep then ([], some cs)
    else
      let (before, after) := cutChars sep cs
      (c :: before, after)

def cut (sep : Char) (s : String) : String × Option String :=
  let (before, after) := cutChars sep s.toList
  (String.ofList before, after.map String.ofList)

/-- The pieces between the occurrences of `sep`; a text without any is its only piece. -/
def split (sep : Char) (s : String) : List String :=
  (s.toList.splitOn sep).map String.ofList

/-- Every occurrence of one character replaced by another. -/
def replaceChar (old new : Char) (cs : List Char) : List Char :=
  cs.map fun c => if c = old then new else c

theorem not_mem_cutChars (sep : Char) (cs : List Char) : sep ∉ (cutChars sep cs).1 := by
  induction cs with
  | nil => simp [cutChars]
  | cons c cs ih =>
    simp only [cutChars]
    split
    · simp
    · rename_i h
      simp [ih, Ne.symm h]

end NativeVariants.Text
