import NativeVariants.Proofs.Priorities
import NativeVariants.Proofs.Refusals

/-!
# Registries in the order of priorities

The `history` of a registry is what was registered in it, and before that in the one that it is a
copy of. Each registration sorts its kind again, but under priorities that are numbers this comes to
one stable sort of the whole history (`Registry.Ordered`), whatever registries are copied in between
(`Store.InOrder`). So registrations of different kinds or places commute.
-/

namespace NativeVariants

variable {φ : Type}

namespace Registry

variable {r : Registry φ} {history : List (Value × φ × Value)} {kind priority : Value} {factory : φ}
  {k : BinaryKind}

/-- Of each kind a registry holds what its history has of it, by priority. -/
def Ordered (r : Registry φ) (history : List (Value × φ × Value)) : Prop :=
  ∀ k, r.registrations k = sortedBy Registration.rank (registrationsOf k history)

/-- The priorities of all entries are numbers. -/
def Numbered (entries : List (Value × φ × Value)) : Prop :=
  ∀ entry ∈ entries, entry.2.2.place?.isSome

instance (entries : List (Value × φ × Value)) : Decidable (Numbered entries) :=
  inferInstanceAs (Decidable (∀ entry ∈ entries, _))

theorem Numbered.append {entries entries' : List (Value × φ × Value)} (h : Numbered entries)
    (h' : Numbered entries') : Numbered (entries ++ entries') := fun entry he =>
  (List.mem_append.1 he).elim (h entry) (h' entry)

theorem Numbered.registrationsOf (h : Numbered history) (k : BinaryKind) :
    ∀ s ∈ registrationsOf k history, s.Numbered := by
  intro s hs
  obtain ⟨⟨kind, factory, priority⟩, hmem, hsome⟩ := List.mem_filterMap.1 hs
  dsimp only at hsome
  split at hsome
  · cases hsome
    exact h _ hmem
  · cases hsome

theorem ordered_empty : ({} : Registry φ).Ordered [] := by
  intro k
  cases k <;> exact List.mergeSort_nil.symm

/-- Sorting once more after a registration is sorting the history with it. -/
theorem Ordered.sortByPriority? (h : r.Ordered history) (hn : Numbered history)
    (hp : priority.place?.isSome) (hk : BinaryKind.ofValue kind = .ok k) :
    sortByPriority? (r.registrations k ++ [⟨priority, factory⟩]) =
      some (sortedBy Registration.rank
        (registrationsOf k (history ++ [(kind, factory, priority)]))) := by
  have hone : registrationsOf k [(kind, factory, priority)] = [⟨priority, factory⟩] := by
    simp [registrationsOf, hk]
  rw [h k, sortByPriority?_eq, sortedBy_concat, sortedBy_of_pairwise (pairwise_sortedBy ..),
    registrationsOf_append, hone, sortedBy_concat]
  intro s hs
  rcases List.mem_append.1 hs with hs | hs
  · exact hn.registrationsOf k s (mem_sortedBy.1 hs)
  · rw [List.mem_singleton.1 hs]
    exact hp

theorem Ordered.registerFor (h : r.Ordered history) (hn : Numbered history)
    (hp : priority.place?.isSome) (kind : Value) (factory : φ) :
    (r.registerFor kind factory priority).2.Ordered (history ++ [(kind, factory, priority)]) := by
  intro k'
  cases hk : BinaryKind.ofValue kind with
  | error failure =>
    simp only [Registry.registerFor, hk]
    rw [h k', registrationsOf_append]
    simp [registrationsOf, hk]
  | ok k =>
    rw [registerFor_of_kind hk, register_of_some (h.sortByPriority? hn hp hk)]
    by_cases hkk : k = k'
    · rw [hkk, registrations_withRegistrations_self]
    · rw [registrations_withRegistrations_of_ne _ _ hkk, h k', registrationsOf_append]
      simp [registrationsOf, hk, hkk]

/-- A factory of a kind that there is gets registered. -/
theorem Ordered.registerFor_ok (h : r.Ordered history) (hn : Numbered history)
    (hp : priority.place?.isSome) (hk : BinaryKind.ofValue kind = .ok k) (factory : φ) :
    (r.registerFor kind factory priority).1 = .ok () := by
  rw [registerFor_of_kind hk, register_of_some (h.sortByPriority? hn hp hk)]

/-- Registries that are in the order of one history are equal. -/
theorem Ordered.eq_of_sortedBy {r' : Registry φ} {history' : List (Value × φ × Value)}
    (h : r.Ordered history) (h' : r'.Ordered history')
    (heq : ∀ k, sortedBy Registration.rank (registrationsOf k history) =
      sortedBy Registration.rank (registrationsOf k history')) : r = r' := by
  have hkind : ∀ k, r.registrations k = r'.registrations k := fun k => by rw [h k, h' k, heq k]
  obtain ⟨shared, static, executable⟩ := r
  obtain ⟨shared', static', executable'⟩ := r'
  have hshared : shared = shared' := hkind .sharedLibrary
  have hstatic : static = static' := hkind .staticLibrary
  have hexecutable : executable = executable' := hkind .executable
  rw [hshared, hstatic, hexecutable]

/-- What a registry tells of its history. -/
structure Lists (r : Registry φ) (history : List (Value × φ × Value)) : Prop where
  candidates : ∀ k, r.candidates k =
    (sortedBy Registration.rank (registrationsOf k history)).map (·.factory)
  select : ∀ k, r.select k = (r.candidates k).head?
  allFactories : r.allFactories = BinaryKind.all.flatMap r.candidates
  /-- Entries for no kind are not registered. -/
  size : r.size = (history.filter fun entry => (BinaryKind.ofValue entry.1).isOk).length
  length_allFactories : r.allFactories.length = r.size

theorem allFactories_eq (r : Registry φ) :
    r.allFactories = BinaryKind.all.flatMap r.candidates := by
  unfold allFactories kinds
  induction BinaryKind.all with
  | nil => rfl
  | cons k kinds ih =>
    cases hk : r.registrations k with
    | nil => simp [hk, ih, candidates]
    | cons s rest => simp [hk, ih]

theorem length_allFactories (r : Registry φ) : r.allFactories.length = r.size := by
  simp [allFactories_eq, size, BinaryKind.all, candidates, Nat.add_assoc]

/-- Every entry for a kind is among those of exactly one. -/
theorem length_registrationsOf (history : List (Value × φ × Value)) :
    (registrationsOf .sharedLibrary history).length +
        (registrationsOf .staticLibrary history).length +
        (registrationsOf .executable history).length =
      (history.filter fun entry => (BinaryKind.ofValue entry.1).isOk).length := by
  induction history with
  | nil => rfl
  | cons entry rest ih =>
    obtain ⟨kind, factory, priority⟩ := entry
    simp only [registrationsOf_cons, List.filter_cons]
    cases hk : BinaryKind.ofValue kind with
    | error failure => simpa [Except.isOk, Except.toBool] using ih
    | ok k => cases k <;> simp [Except.isOk, Except.toBool] at ih ⊢ <;> omega

theorem Ordered.lists (h : r.Ordered history) : r.Lists history where
  candidates k := by rw [candidates, h k]
  select _ := rfl
  allFactories := r.allFactories_eq
  size := by
    have hkind : ∀ k, (r.registrations k).length = (registrationsOf k history).length := fun k => by
      rw [h k, length_sortedBy]
    rw [← length_registrationsOf]
    simp [Registry.size, BinaryKind.all, hkind]
  length_allFactories := r.length_allFactories

/-- Two entries are for different kinds, or under different priorities: numbers with two places. -/
def Apart (entry entry' : Value × φ × Value) : Prop :=
  BinaryKind.ofValue entry.1 ≠ BinaryKind.ofValue entry'.1 ∨
    entry.2.2.place? ≠ entry'.2.2.place?

theorem Apart.sortedBy_eq {entry entry' : Value × φ × Value} (h : Apart entry entry')
    (hn : Numbered [entry, entry']) (history : List (Value × φ × Value)) (k : BinaryKind) :
    sortedBy Registration.rank (registrationsOf k (history ++ [entry, entry'])) =
      sortedBy Registration.rank (registrationsOf k (history ++ [entry', entry])) := by
  obtain ⟨kind, factory, priority⟩ := entry
  obtain ⟨kind', factory', priority'⟩ := entry'
  have hnil : registrationsOf (φ := φ) k [] = [] := rfl
  simp only [registrationsOf_append, registrationsOf_cons, hnil]
  by_cases hk : BinaryKind.ofValue kind = .ok k <;> by_cases hk' : BinaryKind.ofValue kind' = .ok k
  · -- both are of this kind, so they have different places
    have hplaces : priority.place? ≠ priority'.place? :=
      h.resolve_left fun hkinds => hkinds (hk.trans hk'.symm)
    obtain ⟨p, hp⟩ := Option.isSome_iff_exists.1 (hn _ List.mem_cons_self)
    obtain ⟨q, hq⟩ := Option.isSome_iff_exists.1 (hn _ (List.mem_cons_of_mem _ List.mem_cons_self))
    rw [if_pos hk, if_pos hk', if_pos hk, if_pos hk']
    refine sortedBy_swap _ fun hrank => hplaces ?_
    dsimp only at hp hq
    rw [Registration.rank, Registration.rank, hp, hq] at hrank
    exact hp.trans ((congrArg some hrank).trans hq.symm)
  · simp only [if_pos hk, if_neg hk']
  · simp only [if_neg hk, if_pos hk']
  · simp only [if_neg hk, if_neg hk']

end Registry

namespace Store

namespace Action

/-- Registers an entry. -/
def registering (r : Nat) (entry : Value × φ × Value) : Action φ :=
  .register r entry.1 entry.2.1 entry.2.2

/-- What an action makes of the histories of all registries. -/
def record (histories : Nat → List (Value × φ × Value)) :
    Action φ → Nat → List (Value × φ × Value)
  | create r => Function.update histories r []
  | register r kind factory priority =>
    Function.update histories r (histories r ++ [(kind, factory, priority)])
  | copy source target => Function.update histories target (histories source)

/-- The priority that an action registers under, if it does, is a number. -/
def Numbered : Action φ → Prop
  | register _ _ _ priority => priority.place?.isSome
  | _ => True

instance : DecidablePred (Numbered (φ := φ))
  | register .. => inferInstanceAs (Decidable (_ = true))
  | create _ | copy .. => isTrue trivial

end Action

/-- What was registered in each registry, and before that in the one that it is a copy of. -/
def history (actions : List (Action φ)) : Nat → List (Value × φ × Value) :=
  actions.foldl Action.record fun _ => []

/-- All registries are in the order of their histories. -/
structure InOrder (s : Store φ) (histories : Nat → List (Value × φ × Value)) : Prop where
  separated : s.Separated
  numbered : ∀ r, Registry.Numbered (histories r)
  ordered : ∀ r, (s.view r).Ordered (histories r)

variable {s t : Store φ} {histories : Nat → List (Value × φ × Value)}

theorem inOrder_empty : ({} : Store φ).InOrder fun _ => [] where
  separated := separated_empty
  numbered _ := nofun
  ordered _ := Registry.ordered_empty

/-- One registry gets another value, and its history with it. -/
theorem InOrder.becomes {r : Nat} {value : Registry φ} {history : List (Value × φ × Value)}
    (h : s.InOrder histories) (hbecomes : s.Becomes r value t) (hn : Registry.Numbered history)
    (hordered : value.Ordered history) : t.InOrder (Function.update histories r history) where
  separated := hbecomes.separated
  numbered r' := by
    by_cases hr : r' = r
    · subst hr
      rwa [Function.update_self]
    · rw [Function.update_of_ne hr]
      exact h.numbered r'
  ordered r' := by
    by_cases hr : r' = r
    · subst hr
      rwa [Function.update_self, hbecomes.view_self]
    · rw [Function.update_of_ne hr, hbecomes.view_of_ne hr]
      exact h.ordered r'

theorem InOrder.step (h : s.InOrder histories) {a : Action φ} (ha : a.Numbered) :
    (s.step a).InOrder (a.record histories) := by
  cases a with
  | create r => exact h.becomes (h.separated.create r) nofun Registry.ordered_empty
  | copy source target =>
    exact h.becomes (copy_spec h.separated source target) (h.numbered source) (h.ordered source)
  | register r kind factory priority =>
    have hn : Registry.Numbered [(kind, factory, priority)] := fun entry he =>
      List.mem_singleton.1 he ▸ ha
    exact h.becomes (registerFor_spec h.separated r kind factory priority).2
      ((h.numbered r).append hn) ((h.ordered r).registerFor (h.numbered r) ha kind factory)

theorem InOrder.run (h : s.InOrder histories) {actions : List (Action φ)}
    (ha : ∀ a ∈ actions, a.Numbered) :
    (s.run actions).InOrder (actions.foldl Action.record histories) := by
  induction actions generalizing s histories with
  | nil => exact h
  | cons a rest ih =>
    exact ih (h.step (ha a List.mem_cons_self)) fun a' ha' => ha a' (List.mem_cons_of_mem a ha')

/-- What an action makes of the values of all registries depends on these values alone. -/
theorem view_step_congr (hs : s.Separated) (ht : t.Separated) (h : ∀ r, s.view r = t.view r)
    (a : Action φ) (r : Nat) : (s.step a).view r = (t.step a).view r := by
  cases a with
  | create r' => rw [step, step, (hs.create r').view, (ht.create r').view, h r]
  | copy source target =>
    rw [step, step, (copy_spec hs source target).view, (copy_spec ht source target).view, h r,
      h source]
  | register r' kind factory priority =>
    rw [step, step, (registerFor_spec hs r' kind factory priority).2.view,
      (registerFor_spec ht r' kind factory priority).2.view, h r, h r']

theorem view_run_congr (hs : s.Separated) (ht : t.Separated) (h : ∀ r, s.view r = t.view r)
    (actions : List (Action φ)) (r : Nat) : (s.run actions).view r = (t.run actions).view r := by
  induction actions generalizing s t with
  | nil => exact h r
  | cons a rest ih => exact ih (hs.step a) (ht.step a) (view_step_congr hs ht h a)

theorem InOrder.view_swapped (h : s.InOrder histories) (r : Nat) {entry entry' : Value × φ × Value}
    (hn : Registry.Numbered [entry, entry']) (hapart : Registry.Apart entry entry')
    (rest : List (Action φ)) (r' : Nat) :
    (s.run (.registering r entry :: .registering r entry' :: rest)).view r' =
      (s.run (.registering r entry' :: .registering r entry :: rest)).view r' := by
  have hentry : (Action.registering r entry).Numbered := hn _ List.mem_cons_self
  have hentry' : (Action.registering r entry').Numbered :=
    hn _ (List.mem_cons_of_mem _ List.mem_cons_self)
  have hone := (h.step hentry).step hentry'
  have hother := (h.step hentry').step hentry
  refine view_run_congr hone.separated hother.separated (fun r' => ?_) rest r'
  refine (hone.ordered r').eq_of_sortedBy (hother.ordered r') fun k => ?_
  by_cases hr : r' = r
  · subst hr
    simpa [Action.registering, Action.record] using hapart.sortedBy_eq hn (histories r') k
  · simp [Action.registering, Action.record, hr]

/-- After any run every registry lists its history by priority, and of equal priorities the earlier
one first. The next registration for a kind that there is succeeds, and of two registrations that
are apart either may come first, whatever is done after them. -/
theorem lists_run (actions : List (Action φ)) (hn : ∀ a ∈ actions, a.Numbered) :
    (∀ r, ((({} : Store φ).run actions).view r).Lists (history actions r)) ∧
    (∀ r kind k factory priority, BinaryKind.ofValue kind = .ok k → priority.place?.isSome →
      ((({} : Store φ).run actions).registerFor r kind factory priority).1 = .ok ()) ∧
    ∀ r entry entry', Registry.Numbered [entry, entry'] → Registry.Apart entry entry' →
      ∀ rest r',
        (({} : Store φ).run
            (actions ++ .registering r entry :: .registering r entry' :: rest)).view r' =
          (({} : Store φ).run
            (actions ++ .registering r entry' :: .registering r entry :: rest)).view r' := by
  have hrun : (({} : Store φ).run actions).InOrder (history actions) := inOrder_empty.run hn
  refine ⟨fun r => (hrun.ordered r).lists, fun r kind k factory priority hk hp => ?_,
    fun r entry entry' hentries hapart rest r' => ?_⟩
  · rw [(registerFor_spec hrun.separated r kind factory priority).1]
    exact (hrun.ordered r).registerFor_ok (hrun.numbered r) hp hk factory
  · rw [run, run, List.foldl_append, List.foldl_append]
    exact hrun.view_swapped r hentries hapart rest r'

/-- Two registries, one of them a copy of the other at an earlier time. -/
def shelf : List (Action String) :=
  [.register 0 (.string "executable") "last" (.int 7),
    .register 0 (.string "executable") "first" (.float (.finite true 5 (-1))), .copy 0 1,
    .register 0 (.string "static-library") "archive" (.int 7),
    .register 1 (.string "executable") "second" (.bool true),
    .register 1 (.string "executable") "behind" (.float (.finite false 7 0))]

theorem lists_run_shelf :
    (∀ a ∈ shelf, a.Numbered) ∧
      ((({} : Store String).run shelf).view 1).Lists (history shelf 1) ∧
      ((({} : Store String).run shelf).view 1).candidates .executable =
        ["first", "second", "last", "behind"] ∧
      ((({} : Store String).run shelf).registerFor 1 (.string "executable") "none" (.int 3)).1 =
        .ok () ∧
      (({} : Store String).run (shelf ++
        [.register 0 (.string "executable") "a" (.int 2),
          .register 0 (.string "executable") "b" (.int 1), .copy 0 2])).view 2 =
        (({} : Store String).run (shelf ++
          [.register 0 (.string "executable") "b" (.int 1),
            .register 0 (.string "executable") "a" (.int 2), .copy 0 2])).view 2 := by
  have hn : ∀ a ∈ shelf, a.Numbered := by decide +kernel
  obtain ⟨hlists, hok, hswap⟩ := lists_run shelf hn
  refine ⟨hn, hlists 1, by decide +kernel, hok 1 _ .executable _ _ (by decide +kernel)
    (by decide +kernel), ?_⟩
  exact hswap 0 (.string "executable", "a", .int 2) (.string "executable", "b", .int 1)
    (by decide +kernel) (.inr (by decide +kernel)) [.copy 0 2] 2

/-- What is no number stays where it is registered, whatever is registered with it. -/
example : (((({} : Registry String).registerAll [(.string "executable", "a", .float .notANumber),
      (.string "executable", "b", .int 1)]).candidates .executable) = ["a", "b"]) ∧
    (((({} : Registry String).registerAll [(.string "executable", "b", .int 1),
      (.string "executable", "a", .float .notANumber)]).candidates .executable) = ["b", "a"]) := by
  decide +kernel

end Store

end NativeVariants
