import NativeVariants.Label

/-!
# Deferred values

Values that are only worked out when they are read. A supplier works on a world of some type `σ`,
which it may change. A plain deferred value asks its supplier on every read and so keeps in step
with the world; a memoized one asks until it succeeds and keeps that value in a cell of its own. A
mapped one transforms what another yields, on every read.
-/

namespace NativeVariants

/-- Works out a value from the state of the world, or fails. -/
abbrev Supplier (σ : Type) := σ → Except Failure Value × σ

inductive Deferred (σ : Type) where
  /-- No value was given. -/
  | undefined (description : Option String)
  | plain (supply : Supplier σ) (description : Option String)
  /-- Keeps its first value in the cell of this number. -/
  | memoized (cell : Nat) (supply : Supplier σ) (description : Option String)
  | mapped (source : Deferred σ) (transform : Value → Supplier σ)

/-- The state of the world and the cells that are filled. -/
structure Memory (σ : Type) where
  world : σ
  cells : List (Nat × Value) := []

namespace Memory

variable {σ : Type}

def cell? (m : Memory σ) (n : Nat) : Option Value :=
  m.cells.lookup n

/-- Lets a supplier work on the world. -/
def ask (supply : Supplier σ) (m : Memory σ) : Except Failure Value × Memory σ :=
  let (result, world) := supply m.world
  (result, { m with world })

/-- Asks a supplier and keeps its value, if it gives one. -/
def fill (n : Nat) (supply : Supplier σ) (m : Memory σ) : Except Failure Value × Memory σ :=
  match m.ask supply with
  | (.ok v, m) => (.ok v, { m with cells := (n, v) :: m.cells })
  | (.error failure, m) => (.error failure, m)

end Memory

namespace Deferred

variable {σ : Type}

/-- A deferred value that is always the same. -/
def of (l : Label) : Deferred σ :=
  plain (fun world => (.ok l.value, world)) (some l.literal)

/-- Transforms what `d` yields; what has no value still has none. -/
def map (transform : Value → Supplier σ) (d : Deferred σ) : Deferred σ :=
  match d with
  | undefined description => undefined description
  | d => mapped d transform

/-- What is known of the value before it is read. -/
def description : Deferred σ → Option String
  | undefined description | plain _ description | memoized _ _ description => description
  | mapped source _ => source.description

/-- The description, unless there is none or it is empty. -/
def label? (d : Deferred σ) : Option String :=
  match d.description with
  | some "" | none => none
  | some label => some label

/-- Whether a value was given, read or not. -/
def isPresent : Deferred σ → Bool
  | undefined _ => false
  | _ => true

/-- The value that is kept already. -/
def kept? (m : Memory σ) : Deferred σ → Option Value
  | memoized cell _ _ => m.cell? cell
  | _ => none

def isEvaluated (d : Deferred σ) (m : Memory σ) : Bool :=
  (d.kept? m).isSome

def get (d : Deferred σ) (m : Memory σ) : Except Failure Value × Memory σ :=
  match d with
  | undefined description =>
    (.error (.missingValue ((undefined description : Deferred σ).label?.getD "deferred value")), m)
  | plain supply _ => m.ask supply
  | memoized cell supply _ =>
    match m.cell? cell with
    | some v => (.ok v, m)
    | none => m.fill cell supply
  | mapped source transform =>
    match source.get m with
    | (.ok v, m) => m.ask (transform v)
    | (.error failure, m) => (.error failure, m)

/-- Reads the value, or gives `default` where none was ever given. -/
def getOrElse (d : Deferred σ) (default : Value) (m : Memory σ) :
    Except Failure Value × Memory σ :=
  if d.isPresent then d.get m else (.ok default, m)

/-- Reads a value that keeps nothing. -/
def read (d : Deferred σ) (world : σ) : Except Failure Value :=
  (d.get ⟨world, []⟩).1

/-- What a message shows of a deferred value that keeps none yet. -/
def pendingText (label? : Option String) : String :=
  "Deferred(" ++ label?.getD "<pending>" ++ ")"

def text (d : Deferred σ) (m : Memory σ) : Except Failure String :=
  match d.kept? m with
  | some v => v.literal.map fun kept => s!"Deferred({kept})"
  | none => .ok (if d.isPresent then pendingText d.label? else "Deferred(<not defined>)")

theorem get_undefined {description : String} (h : description ≠ "") (m : Memory σ) :
    (undefined (some description)).get m = (.error (.missingValue description), m) := by
  have hlabel : (undefined (some description) : Deferred σ).label? = some description := by
    unfold label? Deferred.description
    split
    · exact absurd (Option.some.inj ‹_›) h
    · cases ‹_›
    · exact ‹some description = some _›.symm
  rw [get, hlabel]
  rfl

theorem get_map (transform : Value → Supplier σ) (d : Deferred σ) (m : Memory σ) :
    (d.map transform).get m =
      match d.get m with
      | (.ok v, m) => m.ask (transform v)
      | (.error failure, m) => (.error failure, m) := by
  cases d <;> rfl

@[simp] theorem isPresent_map (transform : Value → Supplier σ) (d : Deferred σ) :
    (d.map transform).isPresent = d.isPresent := by
  cases d <;> rfl

@[simp] theorem kept?_map (transform : Value → Supplier σ) (d : Deferred σ) (m : Memory σ) :
    (d.map transform).kept? m = none := by
  cases d <;> rfl

end Deferred

end NativeVariants
