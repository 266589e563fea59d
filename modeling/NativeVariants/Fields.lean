/-!
# Fields

Keys with values, in the order in which the keys were first given. Each operation keeps a key from
occurring twice.
-/

namespace NativeVariants

abbrev Fields (α : Type) := List (String × α)

namespace Fields

variable {α : Type}

/-- Adds a field at the end, or replaces the value of the key where it stands. -/
def put (key : String) (value : α) : Fields α → Fields α
  | [] => [(key, value)]
  | (k, v) :: rest => if k = key then (k, value) :: rest else (k, v) :: put key value rest

def remove (key : String) : Fields α → Fields α
  | [] => []
  | (k, v) :: rest => if k = key then rest else (k, v) :: remove key rest

def get? (key : String) : Fields α → Option α
  | [] => none
  | (k, v) :: rest => if k = key then some v else get? key rest

def has (key : String) (fields : Fields α) : Bool :=
  (get? key fields).isSome

def keys (fields : Fields α) : List String :=
  fields.map (·.1)

/-- The fields that a sequence of them leaves: a later value for a key replaces the earlier one. -/
def ofList (fields : List (String × α)) : Fields α :=
  fields.foldl (fun t f => put f.1 f.2 t) []

/-- The fields in the order of their keys. -/
def sorted (fields : Fields α) : Fields α :=
  fields.mergeSort fun f g => decide (f.1 ≤ g.1)

theorem get?_cons_self (key : String) (value : α) (rest : Fields α) :
    get? key ((key, value) :: rest) = some value :=
  if_pos rfl

theorem get?_cons_of_ne {key other : String} (value : α) (rest : Fields α) (h : key ≠ other) :
    get? other ((key, value) :: rest) = get? other rest :=
  if_neg h

theorem remove_cons_self (key : String) (value : α) (rest : Fields α) :
    remove key ((key, value) :: rest) = rest :=
  if_pos rfl

theorem get?_put_self (key : String) (value : α) (fields : Fields α) :
    get? key (put key value fields) = some value := by
  induction fields with
  | nil => simp [put, get?]
  | cons f rest ih => simp only [put]; split <;> simp_all [get?]

theorem get?_put_of_ne {key other : String} (value : α) (fields : Fields α) (h : key ≠ other) :
    get? other (put key value fields) = get? other fields := by
  induction fields with
  | nil => simp [put, get?, h]
  | cons f rest ih => simp only [put]; split <;> simp_all [get?]

end Fields

end NativeVariants
