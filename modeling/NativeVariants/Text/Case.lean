import NativeVariants.Text.Ranges
import NativeVariants.Text.CaseTable

/-!
# Letter case

Full case mappings: a character may become several, and a capital sigma becomes the final form at
the end of a word.
-/

namespace NativeVariants.Text

/-- What a mapping makes of one character: several characters, another one, or itself. -/
def mapCase (several : List (Nat × List Nat)) (runs : List CaseRun) (c : Char) : List Char :=
  match several.lookup c.toNat with
  | some ns => ns.map Char.ofNat
  | none =>
    match CaseRun.image? runs c.toNat with
    | some n => [Char.ofNat n]
    | none => [c]

/-- The lower case of a character that stands alone. -/
def lowerChar (c : Char) : List Char :=
  mapCase lowerSeveral lowerRuns c

def upperChar (c : Char) : List Char :=
  mapCase upperSeveral upperRuns c

def isCased (c : Char) : Bool :=
  inRanges casedRanges c.toNat

def isCaseIgnorable (c : Char) : Bool :=
  inRanges caseIgnorableRanges c.toNat

/-- Whether a cased letter comes next, characters without influence on case left out. -/
def casedNext (cs : List Char) : Bool :=
  match cs.dropWhile isCaseIgnorable with
  | [] => false
  | c :: _ => isCased c

/-- The lower case of a text; `afterCased` tells whether the nearest character before it that has
influence on case is a cased letter. A capital sigma after a cased letter and not before one
takes its final form. -/
def lowerFrom (afterCased : Bool) : List Char → List Char
  | [] => []
  | c :: cs =>
    (if c = 'Σ' then [if afterCased && !casedNext cs then 'ς' else 'σ'] else lowerChar c) ++
      lowerFrom (if isCaseIgnorable c then afterCased else isCased c) cs

def lowerChars (cs : List Char) : List Char :=
  lowerFrom false cs

def lower (s : String) : String :=
  String.ofList (lowerChars s.toList)

/-- The first character in upper case and the rest as it is. -/
def capitalizeChars : List Char → List Char
  | [] => []
  | c :: cs => upperChar c ++ cs

end NativeVariants.Text
