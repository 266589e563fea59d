import NativeVariants.Registry

/-!
# Registries that change in place

A registry by reference keeps the list of each kind in a cell, where it is changed in place; two
registries with a cell in common would change each other. A `Store` has the cells of all registries.
A copy gets cells of its own, so no cell is ever shared (`Separated`). Each operation is then the one
on the value of a registry and leaves the values of all others alone (`register_spec`, `copy_spec`),
and as long as a registry is not made new, it evolves as if it were alone (`EvolvesAlone`).
-/

namespace NativeVariants

/-- The cells of all registries; registries are numbered. -/
structure Store (φ : Type) where
  cells : List (List (Registration φ)) := []
  /-- Where a registry keeps its registrations of a kind, once it has any. -/
  cell? : Nat → BinaryKind → Option Nat := fun _ _ => none

namespace Store

variable {φ : Type}

def contents (s : Store φ) (cell : Nat) : List (Registration φ) :=
  s.cells[cell]?.getD []

/-- What a registry holds of a kind. -/
def registrations (s : Store φ) (r : Nat) (kind : BinaryKind) : List (Registration φ) :=
  ((s.cell? r kind).map s.contents).getD []

/-- What a registry holds, as a value. -/
def view (s : Store φ) (r : Nat) : Registry φ where
  sharedLibrary := s.registrations r .sharedLibrary
  staticLibrary := s.registrations r .staticLibrary
  executable := s.registrations r .executable

/-- Gives a registry a new cell for a kind. -/
def allot (s : Store φ) (r : Nat) (kind : BinaryKind) (list : List (Registration φ)) : Store φ where
  cells := s.cells ++ [list]
  cell? := fun r' kind' =>
    if r' = r ∧ kind' = kind then some s.cells.length else s.cell? r' kind'

def write (s : Store φ) (cell : Nat) (list : List (Registration φ)) : Store φ :=
  { s with cells := s.cells.set cell list }

def create (s : Store φ) (r : Nat) : Store φ :=
  { s with cell? := fun r' kind => if r' = r then none else s.cell? r' kind }

/-- The cell of a registry for a kind; an empty one is made where there is none. -/
def place (s : Store φ) (r : Nat) (kind : BinaryKind) : Nat × Store φ :=
  match s.cell? r kind with
  | some cell => (cell, s)
  | none => (s.cells.length, s.allot r kind [])

/-- Adds a factory at the end of the cell of its kind, and sorts the cell if it has an order. -/
def register (s : Store φ) (r : Nat) (kind : BinaryKind) (factory : φ) (priority : Value) :
    Except Failure Unit × Store φ :=
  let (cell, s) := s.place r kind
  let s := s.write cell (s.contents cell ++ [⟨priority, factory⟩])
  match sortByPriority? (s.contents cell) with
  | some sorted => (.ok (), s.write cell sorted)
  | none => (.error .wrongType, s)

/-- Adds a factory for the kind that a value names. -/
def registerFor (s : Store φ) (r : Nat) (kind : Value) (factory : φ) (priority : Value) :
    Except Failure Unit × Store φ :=
  match BinaryKind.ofValue kind with
  | .ok kind => s.register r kind factory priority
  | .error failure => (.error failure, s)

/-- Gives a registry a list of its own with what a cell holds. -/
def copyKind (cell? : BinaryKind → Option Nat) (target : Nat) (s : Store φ) (kind : BinaryKind) :
    Store φ :=
  match cell? kind with
  | some cell => s.allot target kind (s.contents cell)
  | none => s

/-- Makes one registry a copy of another. -/
def copy (s : Store φ) (source target : Nat) : Store φ :=
  BinaryKind.all.foldl (copyKind (s.cell? source) target) (s.create target)

/-- Every cell belongs to one kind of one registry. -/
structure Separated (s : Store φ) : Prop where
  allocated : ∀ r kind cell, s.cell? r kind = some cell → cell < s.cells.length
  apart : ∀ r kind r' kind' cell, s.cell? r kind = some cell → s.cell? r' kind' = some cell →
    r' = r ∧ kind' = kind

/-- `t` is `s` with another value of one registry. -/
structure Becomes (s : Store φ) (r : Nat) (value : Registry φ) (t : Store φ) : Prop where
  separated : t.Separated
  view : ∀ r', t.view r' = if r' = r then value else s.view r'

variable {s t u : Store φ} {r cell : Nat} {kind : BinaryKind} {value value' : Registry φ}
  {list : List (Registration φ)}

theorem separated_empty : ({} : Store φ).Separated where
  allocated := nofun
  apart := nofun

@[simp] theorem registrations_view (s : Store φ) (r : Nat) (kind : BinaryKind) :
    (s.view r).registrations kind = s.registrations r kind := by
  cases kind <;> rfl

theorem registrations_of_some (h : s.cell? r kind = some cell) :
    s.registrations r kind = s.contents cell := by
  rw [registrations, h, Option.map_some, Option.getD_some]

theorem registrations_of_none (h : s.cell? r kind = none) : s.registrations r kind = [] := by
  rw [registrations, h, Option.map_none, Option.getD_none]

/-- Registries with the same registrations of every kind are equal. -/
theorem view_eq_of_registrations
    (h : ∀ kind, s.registrations r kind = value.registrations kind) : s.view r = value := by
  obtain ⟨shared, static, executable⟩ := value
  rw [view, h .sharedLibrary, h .staticLibrary, h .executable]
  rfl

namespace Becomes

theorem view_self (h : s.Becomes r value t) : t.view r = value :=
  (h.view r).trans (if_pos rfl)

theorem view_of_ne (h : s.Becomes r value t) {r' : Nat} (hr : r' ≠ r) : t.view r' = s.view r' :=
  (h.view r').trans (if_neg hr)

theorem refl (hs : s.Separated) (r : Nat) : s.Becomes r (s.view r) s where
  separated := hs
  view r' := by
    split
    · rename_i hr
      rw [hr]
    · rfl

theorem trans (h : s.Becomes r value t) (h' : t.Becomes r value' u) : s.Becomes r value' u where
  separated := h'.separated
  view r' := by
    rw [h'.view, h.view]
    split <;> rfl

theorem of_registrations (ht : t.Separated) (h : ∀ r' kind', t.registrations r' kind' =
    if r' = r ∧ kind' = kind then list else s.registrations r' kind') :
    s.Becomes r ((s.view r).withRegistrations kind list) t where
  separated := ht
  view r' := by
    refine view_eq_of_registrations fun kind' => ?_
    rw [h]
    by_cases hr : r' = r
    · subst hr
      by_cases hkind : kind' = kind
      · subst hkind
        simp
      · simp [hkind, Registry.registrations_withRegistrations_of_ne _ _ (Ne.symm hkind)]
    · simp [hr]

end Becomes

theorem contents_allot_of_lt (h : cell < s.cells.length) (r : Nat) (kind : BinaryKind)
    (list : List (Registration φ)) : (s.allot r kind list).contents cell = s.contents cell := by
  rw [contents, allot, List.getElem?_append_left h, contents]

namespace Separated

theorem allot (hs : s.Separated) (r : Nat) (kind : BinaryKind) (list : List (Registration φ)) :
    s.Becomes r ((s.view r).withRegistrations kind list) (s.allot r kind list) := by
  refine .of_registrations
    ⟨fun r₁ kind₁ cell h₁ => ?_, fun r₁ kind₁ r₂ kind₂ cell h₁ h₂ => ?_⟩ fun r' kind' => ?_
  · simp only [Store.allot] at h₁ ⊢
    rw [List.length_append]
    split at h₁
    · cases h₁
      exact Nat.lt_succ_self _
    · exact Nat.lt_succ_of_lt (hs.allocated _ _ _ h₁)
  · -- the cells there were before lie below the new one
    simp only [Store.allot] at h₁ h₂
    split at h₁ <;> split at h₂
    · rename_i hr₁ hr₂
      rw [hr₁.1, hr₁.2, hr₂.1, hr₂.2]
      exact ⟨rfl, rfl⟩
    · cases h₁
      exact absurd (hs.allocated _ _ _ h₂) (Nat.lt_irrefl _)
    · cases h₂
      exact absurd (hs.allocated _ _ _ h₁) (Nat.lt_irrefl _)
    · exact hs.apart _ _ _ _ _ h₁ h₂
  · by_cases hr : r' = r ∧ kind' = kind
    · have hcell : (s.allot r kind list).cell? r' kind' = some s.cells.length := if_pos hr
      rw [if_pos hr, registrations_of_some hcell]
      simp [contents, Store.allot]
    · have hcell : (s.allot r kind list).cell? r' kind' = s.cell? r' kind' := if_neg hr
      rw [if_neg hr]
      cases hc : s.cell? r' kind' with
      | none => rw [registrations_of_none hc, registrations_of_none (hcell.trans hc)]
      | some cell =>
        rw [registrations_of_some hc, registrations_of_some (hcell.trans hc),
          contents_allot_of_lt (hs.allocated _ _ _ hc)]

theorem write (hs : s.Separated) (hc : s.cell? r kind = some cell)
    (list : List (Registration φ)) :
    s.Becomes r ((s.view r).withRegistrations kind list) (s.write cell list) := by
  refine .of_registrations ⟨fun r₁ kind₁ cell₁ h₁ => ?_, hs.apart⟩ fun r' kind' => ?_
  · rw [Store.write, List.length_set]
    exact hs.allocated _ _ _ h₁
  · by_cases hr : r' = r ∧ kind' = kind
    · obtain ⟨rfl, rfl⟩ := hr
      have hlt := hs.allocated _ _ _ hc
      have hcell : (s.write cell list).cell? r' kind' = some cell := hc
      rw [if_pos ⟨rfl, rfl⟩, registrations_of_some hcell, contents, Store.write,
        List.getElem?_set_self hlt, Option.getD_some]
    · rw [if_neg hr]
      cases hc' : s.cell? r' kind' with
      | none =>
        have hcell : (s.write cell list).cell? r' kind' = none := hc'
        rw [registrations_of_none hc', registrations_of_none hcell]
      | some cell' =>
        have hne : cell ≠ cell' := by
          rintro rfl
          exact hr (hs.apart _ _ _ _ _ hc hc')
        have hcell : (s.write cell list).cell? r' kind' = some cell' := hc'
        rw [registrations_of_some hc', registrations_of_some hcell, contents, Store.write,
          List.getElem?_set_ne hne, contents]

theorem create (hs : s.Separated) (r : Nat) : s.Becomes r {} (s.create r) := by
  refine ⟨⟨fun r₁ kind₁ cell h₁ => ?_, fun r₁ kind₁ r₂ kind₂ cell h₁ h₂ => ?_⟩, fun r' => ?_⟩
  · simp only [Store.create] at h₁
    split at h₁
    · cases h₁
    · exact hs.allocated _ _ _ h₁
  · simp only [Store.create] at h₁ h₂
    split at h₁
    · cases h₁
    · split at h₂
      · cases h₂
      · exact hs.apart _ _ _ _ _ h₁ h₂
  · split
    · rename_i hr
      simp [Store.view, registrations, Store.create, hr]
    · rename_i hr
      refine view_eq_of_registrations fun kind => ?_
      have hcell : (s.create r).cell? r' kind = s.cell? r' kind := if_neg hr
      rw [registrations_view, registrations, hcell]
      rfl

theorem place (hs : s.Separated) (r : Nat) (kind : BinaryKind) :
    (s.place r kind).2.cell? r kind = some (s.place r kind).1 ∧
      s.Becomes r (s.view r) (s.place r kind).2 := by
  unfold Store.place
  cases hc : s.cell? r kind with
  | some cell => exact ⟨hc, .refl hs r⟩
  | none =>
    have hempty : (s.view r).withRegistrations kind [] = s.view r := by
      have hnone := registrations_of_none hc
      cases kind <;> simp [Registry.withRegistrations, view, hnone]
    refine ⟨if_pos ⟨rfl, rfl⟩, ?_⟩
    rw [← hempty]
    exact hs.allot r kind []

end Separated

theorem withRegistrations_withRegistrations (value : Registry φ) (kind : BinaryKind)
    (list list' : List (Registration φ)) :
    (value.withRegistrations kind list).withRegistrations kind list' =
      value.withRegistrations kind list' := by
  cases kind <;> rfl

/-- Registering by reference does to the value of the registry what registering does. -/
theorem register_spec (hs : s.Separated) (r : Nat) (kind : BinaryKind) (factory : φ)
    (priority : Value) :
    (s.register r kind factory priority).1 = ((s.view r).register kind factory priority).1 ∧
      s.Becomes r ((s.view r).register kind factory priority).2
        (s.register r kind factory priority).2 := by
  obtain ⟨hcell, hplace⟩ := hs.place r kind
  unfold register Registry.register
  generalize s.place r kind = placed at hcell hplace
  obtain ⟨cell, t⟩ := placed
  dsimp only at hcell hplace ⊢
  have hcontents : t.contents cell = (s.view r).registrations kind := by
    rw [← registrations_of_some hcell, ← registrations_view, hplace.view_self]
  rw [hcontents]
  generalize hall : (s.view r).registrations kind ++ [⟨priority, factory⟩] = all
  have happend : s.Becomes r ((s.view r).withRegistrations kind all) (t.write cell all) := by
    have hwrite := hplace.trans (hplace.separated.write hcell all)
    rwa [hplace.view_self] at hwrite
  have hcell' : (t.write cell all).cell? r kind = some cell := hcell
  have hcontents' : (t.write cell all).contents cell = all := by
    rw [← registrations_of_some hcell', ← registrations_view, happend.view_self,
      Registry.registrations_withRegistrations_self]
  rw [hcontents']
  cases sortByPriority? all with
  | none => exact ⟨rfl, happend⟩
  | some sorted =>
    have hsort := happend.trans (happend.separated.write hcell' sorted)
    rw [happend.view_self, withRegistrations_withRegistrations] at hsort
    exact ⟨rfl, hsort⟩

theorem registerFor_spec (hs : s.Separated) (r : Nat) (kind : Value) (factory : φ)
    (priority : Value) :
    (s.registerFor r kind factory priority).1 =
        ((s.view r).registerFor kind factory priority).1 ∧
      s.Becomes r ((s.view r).registerFor kind factory priority).2
        (s.registerFor r kind factory priority).2 := by
  unfold registerFor Registry.registerFor
  cases BinaryKind.ofValue kind with
  | ok kind => exact register_spec hs r kind factory priority
  | error failure => exact ⟨rfl, .refl hs r⟩

/-- The copy of `source` under way: the kinds in `done` have their lists in `target`. -/
structure Copying (s : Store φ) (source target : Nat) (done : List BinaryKind) (t : Store φ) :
    Prop where
  separated : t.Separated
  contents : ∀ cell < s.cells.length, t.contents cell = s.contents cell
  grown : s.cells.length ≤ t.cells.length
  view_of_ne : ∀ r ≠ target, t.view r = s.view r
  registrations : ∀ kind, t.registrations target kind =
    if kind ∈ done then s.registrations source kind else []

theorem Copying.copyKind {source target : Nat} {done : List BinaryKind} (hs : s.Separated)
    (h : s.Copying source target done t) (kind : BinaryKind) :
    s.Copying source target (done ++ [kind]) (copyKind (s.cell? source) target t kind) := by
  unfold Store.copyKind
  cases hc : s.cell? source kind with
  | none =>
    refine { h with registrations := fun kind' => ?_ }
    rw [h.registrations kind']
    by_cases hkind : kind' = kind
    · subst hkind
      rw [registrations_of_none hc, ite_self, ite_self]
    · simp [hkind]
  | some cell =>
    have hlt := hs.allocated _ _ _ hc
    have hallot := h.separated.allot target kind (t.contents cell)
    refine ⟨hallot.separated, fun cell' hlt' => ?_, ?_, fun r hr => ?_, fun kind' => ?_⟩
    · rw [contents_allot_of_lt (Nat.lt_of_lt_of_le hlt' h.grown), h.contents cell' hlt']
    · have hlength : (t.allot target kind (t.contents cell)).cells.length = t.cells.length + 1 :=
        List.length_append
      exact hlength ▸ Nat.le_succ_of_le h.grown
    · rw [hallot.view_of_ne hr, h.view_of_ne r hr]
    · rw [← registrations_view, hallot.view_self, h.contents cell hlt, ← registrations_of_some hc]
      by_cases hkind : kind' = kind
      · subst hkind
        simp
      · rw [Registry.registrations_withRegistrations_of_ne _ _ (Ne.symm hkind), registrations_view,
          h.registrations kind']
        simp [hkind]

theorem Copying.foldl {source target : Nat} {done : List BinaryKind} (hs : s.Separated)
    (h : s.Copying source target done t) (kinds : List BinaryKind) :
    s.Copying source target (done ++ kinds)
      (kinds.foldl (Store.copyKind (s.cell? source) target) t) := by
  induction kinds generalizing done t with
  | nil => rwa [List.append_nil]
  | cons kind rest ih =>
    rw [List.append_cons]
    exact ih (h.copyKind hs kind)

theorem copy_spec (hs : s.Separated) (source target : Nat) :
    s.Becomes target (s.view source) (s.copy source target) := by
  have hcreate := hs.create target
  have hstart : s.Copying source target [] (s.create target) :=
    { separated := hcreate.separated
      contents := fun _ _ => rfl
      grown := Nat.le_refl _
      view_of_ne := fun r hr => hcreate.view_of_ne hr
      registrations := fun kind => by
        rw [← registrations_view, hcreate.view_self]
        cases kind <;> rfl }
  have hcopy := hstart.foldl hs BinaryKind.all
  refine ⟨hcopy.separated, fun r => ?_⟩
  split
  · rename_i hr
    subst hr
    refine view_eq_of_registrations fun kind => ?_
    rw [registrations_view]
    exact (hcopy.registrations kind).trans (if_pos (BinaryKind.mem_all kind))
  · rename_i hr
    exact hcopy.view_of_ne r hr

inductive Action (φ : Type) where
  | create (r : Nat)
  | register (r : Nat) (kind : Value) (factory : φ) (priority : Value)
  | copy (source target : Nat)

namespace Action

/-- The registry that an action makes new. -/
def renewed? : Action φ → Option Nat
  | create r => some r
  | copy _ target => some target
  | register .. => none

/-- What an action registers in a registry. -/
def entryFor (r : Nat) : Action φ → Option (Value × φ × Value)
  | register r' kind factory priority => if r' = r then some (kind, factory, priority) else none
  | _ => none

end Action

def step (s : Store φ) : Action φ → Store φ
  | .create r => s.create r
  | .register r kind factory priority => (s.registerFor r kind factory priority).2
  | .copy source target => s.copy source target

def run (s : Store φ) (actions : List (Action φ)) : Store φ :=
  actions.foldl step s

theorem Separated.step (hs : s.Separated) (a : Action φ) : (s.step a).Separated := by
  cases a with
  | create r => exact (hs.create r).separated
  | register r kind factory priority => exact (registerFor_spec hs r kind factory priority).2.separated
  | copy source target => exact (copy_spec hs source target).separated

theorem Separated.run (hs : s.Separated) (actions : List (Action φ)) : (s.run actions).Separated := by
  induction actions generalizing s with
  | nil => exact hs
  | cons a rest ih => exact ih (hs.step a)

end Store

/-- Registers all entries, whatever comes of each. -/
def Registry.registerAll {φ : Type} (value : Registry φ) (entries : List (Value × φ × Value)) :
    Registry φ :=
  entries.foldl (fun value (kind, factory, priority) =>
    (value.registerFor kind factory priority).2) value

namespace Store

variable {φ : Type} {s : Store φ} {r : Nat}

theorem view_step_of_not_renewed (hs : s.Separated) {a : Action φ} (h : a.renewed? ≠ some r) :
    (s.step a).view r = (s.view r).registerAll (a.entryFor r).toList := by
  cases a with
  | create r' =>
    have hr : r ≠ r' := fun hr => h (congrArg some hr.symm)
    exact (hs.create r').view_of_ne hr
  | copy source target =>
    have hr : r ≠ target := fun hr => h (congrArg some hr.symm)
    exact (copy_spec hs source target).view_of_ne hr
  | register r' kind factory priority =>
    have hregister := (registerFor_spec hs r' kind factory priority).2
    by_cases hr : r' = r
    · subst hr
      simp only [Action.entryFor, if_true]
      exact hregister.view_self
    · simp only [Action.entryFor, hr, if_false]
      exact hregister.view_of_ne (Ne.symm hr)

theorem view_run_of_not_renewed (hs : s.Separated) {actions : List (Action φ)}
    (h : ∀ a ∈ actions, a.renewed? ≠ some r) :
    (s.run actions).view r = (s.view r).registerAll (actions.filterMap (Action.entryFor r)) := by
  induction actions generalizing s with
  | nil => rfl
  | cons a rest ih =>
    have hstep := view_step_of_not_renewed hs (h a List.mem_cons_self)
    have hrest := ih (hs.step a) fun a' ha' => h a' (List.mem_cons_of_mem a ha')
    have hentries : (a :: rest).filterMap (Action.entryFor r) =
        (a.entryFor r).toList ++ rest.filterMap (Action.entryFor r) := by
      rw [List.filterMap_cons]
      cases a.entryFor r <;> rfl
    rw [hentries, Registry.registerAll, List.foldl_append]
    rw [hstep] at hrest
    exact hrest

/-- In a run a registry becomes what the entries for it make of it, and it answers the next one as
if there were no other registries. -/
structure EvolvesAlone (s : Store φ) (actions : List (Action φ)) (r : Nat) : Prop where
  view : (s.run actions).view r = (s.view r).registerAll (actions.filterMap (Action.entryFor r))
  answer : ∀ kind factory priority, ((s.run actions).registerFor r kind factory priority).1 =
    (((s.view r).registerAll (actions.filterMap (Action.entryFor r))).registerFor
      kind factory priority).1

theorem Separated.evolvesAlone (hs : s.Separated) {actions : List (Action φ)}
    (h : ∀ a ∈ actions, a.renewed? ≠ some r) : s.EvolvesAlone actions r where
  view := view_run_of_not_renewed hs h
  answer kind factory priority := by
    rw [← view_run_of_not_renewed hs h]
    exact (registerFor_spec (hs.run actions) r kind factory priority).1

end Store

end NativeVariants
