import NativeVariants.Proofs.SharedRegistries
import NativeVariants.Proofs.Workbench

/-!
# Snapshots of a builder

On a `Desk` the registry of a builder is held by reference, and so are those of the snapshots that are
taken of it. What is done to the builder comes to the same on its `value` (`value_work`). A snapshot
has a registry of its own, so every action leaves it as it was taken (`Keeps`), and what it is
evaluated to stays the same through any run (`Isolated`).
-/

namespace NativeVariants

variable {φ σ β : Type}

/-- Factories whose outcome depends on their arguments alone, not on the state they are in. -/
def OnArguments (make : Make φ σ β) : Prop :=
  ∀ factory v state state', (make factory v state).1 = (make factory v state').1

theorem runSteps_onArguments {make : Make φ σ β} (h : OnArguments make) (host : String)
    (steps : List (DispatchStep φ)) (state state' : σ) :
    (runSteps make host steps state).result = (runSteps make host steps state').result ∧
      (runSteps make host steps state).calls = (runSteps make host steps state').calls := by
  induction steps generalizing state state' with
  | nil => exact ⟨rfl, rfl⟩
  | cons step rest ih =>
    cases step with
    | skip v => exact ih state state'
    | unserved kind v => exact ih state state'
    | call factory v =>
      have hmake := h factory v state state'
      simp only [runSteps]
      generalize make factory v state = first at hmake ⊢
      generalize make factory v state' = second at hmake ⊢
      obtain ⟨outcome, middle⟩ := first
      obtain ⟨_, middle'⟩ := second
      cases hmake
      cases outcome with
      | error failure => exact ⟨rfl, rfl⟩
      | ok binary =>
        obtain ⟨hresult, hcalls⟩ := ih middle middle'
        dsimp only
        rw [hresult, hcalls]
        exact ⟨rfl, rfl⟩

theorem Configuration.calls_build_onArguments {make : Make φ σ β} (h : OnArguments make)
    (c : Configuration φ) (state state' : σ) :
    (c.build make state).calls = (c.build make state').calls := by
  cases hr : c.identifyVariants.result with
  | error failure => simp only [build, hr]
  | ok variants =>
    simp only [build, hr]
    exact (runSteps_onArguments h _ _ state state').2

/-- A builder and the snapshots of it, with their registries by reference. -/
structure Desk (φ σ β : Type) where
  /-- The builder in its surroundings; the registry in it is not the builder's. -/
  workbench : Workbench φ σ β
  store : Store φ := {}
  /-- How many registries there are; number 0 is the builder's own. -/
  count : Nat := 1
  /-- What the snapshots hold, each with the number of its registry. -/
  snapshots : List (Configuration φ × Nat) := []

namespace Desk

inductive Action (φ σ : Type) where
  | work (a : Workbench.Action φ σ)
  | snapshot
  /-- The variants of a snapshot are identified. -/
  | identify (n : Nat)
  /-- The binaries of a snapshot are built. -/
  | build (n : Nat)

def new (component : String) (project : Project) (host : Host) (state : σ) : Desk φ σ β where
  workbench := .new component project host state

/-- The builder with its registry, in its surroundings. -/
def value (d : Desk φ σ β) : Workbench φ σ β :=
  { d.workbench with builder := { d.workbench.builder with registry := d.store.view 0 } }

def configuration (d : Desk φ σ β) : Configuration φ :=
  d.value.configuration

/-- A snapshot as it reads now. -/
def snapshot? (d : Desk φ σ β) (n : Nat) : Option (Configuration φ) :=
  d.snapshots[n]?.map fun (c, r) => { c with registry := d.store.view r }

/-- What identifying the variants of a snapshot gives. -/
def identified (d : Desk φ σ β) (n : Nat) : Option (Logged (List Variant)) :=
  (d.snapshot? n).map Configuration.identifyVariants

/-- What building the binaries of a snapshot gives. -/
def built (make : Make φ σ β) (d : Desk φ σ β) (n : Nat) (state : σ) :
    Option (DispatchRun φ σ β) :=
  (d.snapshot? n).map (Configuration.build make state)

def copied (d : Desk φ σ β) : Desk φ σ β :=
  { d with store := d.store.copy 0 d.count, count := d.count + 1 }

/-- Works with the builder. Factories are registered in place, and reads work on a copy. -/
def work (make : Make φ σ β) (d : Desk φ σ β) : Workbench.Action φ σ → Desk φ σ β
  | .declare (.factory kind factory priority) =>
    if d.workbench.builder.isBuilt then d
    else { d with store := (d.store.registerFor 0 kind factory (Builder.givenPriority priority)).2 }
  | .readVariants => { d.copied with workbench := d.value.step make .readVariants }
  | .readBinaries => { d.copied with workbench := d.value.step make .readBinaries }
  | a => { d with workbench := d.value.step make a }

def step (make : Make φ σ β) (d : Desk φ σ β) : Action φ σ → Desk φ σ β
  | .work a => d.work make a
  | .snapshot =>
    { d.copied with snapshots := d.snapshots ++ [(d.workbench.configuration, d.count)] }
  | .identify _ => d
  | .build n =>
    match d.built make n d.workbench.state with
    | some run => { d with workbench := { d.workbench with state := run.state } }
    | none => d

def run (make : Make φ σ β) (d : Desk φ σ β) (actions : List (Action φ σ)) : Desk φ σ β :=
  actions.foldl (step make) d

/-- Registries are apart, and snapshots have others than the builder's. -/
structure Sound (d : Desk φ σ β) : Prop where
  separated : d.store.Separated
  own : 0 < d.count
  snapshots : ∀ taken ∈ d.snapshots, 0 < taken.2 ∧ taken.2 < d.count

/-- All snapshots of `d` read the same in `e`. -/
structure Keeps (d e : Desk φ σ β) : Prop where
  sound : e.Sound
  snapshot? : ∀ n c, d.snapshot? n = some c → e.snapshot? n = some c

variable {make : Make φ σ β} {d e f : Desk φ σ β}

theorem sound_new (component : String) (project : Project) (host : Host) (state : σ) :
    (new component project host state : Desk φ σ β).Sound where
  separated := Store.separated_empty
  own := Nat.one_pos
  snapshots := nofun

theorem Keeps.trans (h : d.Keeps e) (h' : e.Keeps f) : d.Keeps f where
  sound := h'.sound
  snapshot? n c hc := h'.snapshot? n c (h.snapshot? n c hc)

/-- Snapshots are kept if the registries between the builder's own and the new ones are. -/
theorem Sound.keeps (hd : d.Sound) (hseparated : e.store.Separated) (hcount : d.count ≤ e.count)
    {more : List (Configuration φ × Nat)} (hsnapshots : e.snapshots = d.snapshots ++ more)
    (hmore : ∀ taken ∈ more, 0 < taken.2 ∧ taken.2 < e.count)
    (hview : ∀ r, 0 < r → r < d.count → e.store.view r = d.store.view r) : d.Keeps e := by
  refine ⟨⟨hseparated, Nat.lt_of_lt_of_le hd.own hcount, fun taken htaken => ?_⟩, fun n c hc => ?_⟩
  · rw [hsnapshots] at htaken
    rcases List.mem_append.1 htaken with htaken | htaken
    · obtain ⟨hown, hlt⟩ := hd.snapshots taken htaken
      exact ⟨hown, Nat.lt_of_lt_of_le hlt hcount⟩
    · exact hmore taken htaken
  · obtain ⟨⟨held, r⟩, htaken, rfl⟩ := Option.map_eq_some_iff.1 hc
    obtain ⟨hlt, hget⟩ := List.getElem?_eq_some_iff.1 htaken
    obtain ⟨hown, hr⟩ := hd.snapshots (held, r) (hget ▸ List.getElem_mem hlt)
    have hsame : e.snapshots[n]? = some (held, r) := by
      rw [hsnapshots, List.getElem?_append_left hlt, htaken]
    rw [Desk.snapshot?, hsame, Option.map_some]
    dsimp only
    rw [hview r hown hr]

theorem Sound.keeps_of_store_eq (hd : d.Sound) (hstore : e.store = d.store)
    (hcount : e.count = d.count) (hsnapshots : e.snapshots = d.snapshots) : d.Keeps e :=
  hd.keeps (hstore ▸ hd.separated) (Nat.le_of_eq hcount.symm)
    (hsnapshots.trans (List.append_nil _).symm) nofun fun r _ _ => by rw [hstore]

theorem becomes_copied (hd : d.Sound) : d.store.Becomes d.count (d.store.view 0) d.copied.store :=
  Store.copy_spec hd.separated 0 d.count

theorem Sound.keeps_copied (hd : d.Sound) (w : Workbench φ σ β) :
    d.Keeps { d.copied with workbench := w } := by
  have hcopy := becomes_copied hd
  exact hd.keeps hcopy.separated (Nat.le_succ _) (List.append_nil _).symm nofun
    fun r _ hr => hcopy.view_of_ne (Nat.ne_of_lt hr)

theorem Sound.keeps_work (hd : d.Sound) (a : Workbench.Action φ σ) : d.Keeps (d.work make a) := by
  cases a with
  | readVariants => exact hd.keeps_copied _
  | readBinaries => exact hd.keeps_copied _
  | change project host state => exact hd.keeps_of_store_eq rfl rfl rfl
  | declare declaration =>
    cases declaration with
    | factory kind factory priority =>
      show d.Keeps (if d.workbench.builder.isBuilt then d else _)
      split
      · exact hd.keeps_of_store_eq rfl rfl rfl
      · have hregister := (Store.registerFor_spec hd.separated 0 kind factory
          (Builder.givenPriority priority)).2
        exact hd.keeps hregister.separated (Nat.le_refl _) (List.append_nil _).symm nofun
          fun r hr _ => hregister.view_of_ne (Nat.ne_of_gt hr)
    | _ => exact hd.keeps_of_store_eq rfl rfl rfl

theorem Sound.keeps_step (hd : d.Sound) (a : Action φ σ) : d.Keeps (d.step make a) := by
  cases a with
  | work a => exact hd.keeps_work a
  | identify n => exact hd.keeps_of_store_eq rfl rfl rfl
  | build n =>
    unfold step
    dsimp only
    split <;> exact hd.keeps_of_store_eq rfl rfl rfl
  | snapshot =>
    have hcopy := becomes_copied hd
    refine hd.keeps hcopy.separated (Nat.le_succ _) rfl (fun taken htaken => ?_)
      fun r _ hr => hcopy.view_of_ne (Nat.ne_of_lt hr)
    rw [List.mem_singleton.1 htaken]
    exact ⟨hd.own, Nat.lt_succ_self _⟩

theorem Sound.keeps_run (hd : d.Sound) (actions : List (Action φ σ)) :
    d.Keeps (d.run make actions) := by
  induction actions generalizing d with
  | nil => exact hd.keeps_of_store_eq rfl rfl rfl
  | cons a rest ih =>
    have hstep : d.Keeps (d.step make a) := hd.keeps_step a
    exact hstep.trans (ih hstep.sound)

/-- A snapshot is the builder's configuration of the moment. -/
theorem snapshot?_step_snapshot (hd : d.Sound) :
    (d.step make .snapshot).snapshot? d.snapshots.length = some d.configuration := by
  have hget : (d.step make .snapshot).snapshots[d.snapshots.length]? =
      some (d.workbench.configuration, d.count) := List.getElem?_concat_length
  have hview : (d.step make .snapshot).store.view d.count = d.store.view 0 :=
    (becomes_copied hd).view_self
  rw [snapshot?, hget, Option.map_some]
  dsimp only
  rw [hview]
  rfl

/-- Only a declaration of a factory changes the registry of a builder. -/
theorem registry_step {w : Workbench φ σ β} {a : Workbench.Action φ σ}
    (ha : ∀ kind factory priority, a ≠ .declare (.factory kind factory priority)) :
    (w.step make a).builder.registry = w.builder.registry := by
  cases a with
  | readVariants => simp only [Workbench.step, Builder.variants_eq]
  | readBinaries => simp only [Workbench.step, Builder.binaries_eq]
  | change project host state => rfl
  | declare declaration =>
    simp only [Workbench.step, Builder.declare]
    split
    · rfl
    · cases declaration with
      | factory kind factory priority => exact absurd rfl (ha kind factory priority)
      | linkages names required =>
        simp only [Builder.accept]
        split <;> rfl
      | _ => rfl

theorem value_eq {w : Workbench φ σ β} (hw : d.workbench = w)
    (hr : d.store.view 0 = w.builder.registry) : d.value = w := by
  rw [value, hw, hr]

/-- What is done to a builder by reference comes to the same on its value. -/
theorem value_work (hd : d.Sound) (a : Workbench.Action φ σ) :
    (d.work make a).value = d.value.step make a := by
  by_cases ha : ∃ kind factory priority, a = .declare (.factory kind factory priority)
  · obtain ⟨kind, factory, priority, rfl⟩ := ha
    have hregister := (Store.registerFor_spec hd.separated 0 kind factory
      (Builder.givenPriority priority)).2.view_self
    have hbuilt : d.value.builder.isBuilt = d.workbench.builder.isBuilt := rfl
    simp only [work, Workbench.step, Builder.declare, hbuilt]
    split
    · rfl
    · rw [value, hregister]
      rfl
  · have hregistry : (d.value.step make a).builder.registry = d.store.view 0 :=
      registry_step fun kind factory priority h => ha ⟨kind, factory, priority, h⟩
    have hcopied : d.copied.store.view 0 = d.store.view 0 :=
      (becomes_copied hd).view_of_ne (Nat.ne_of_lt hd.own)
    cases a with
    | readVariants => exact value_eq rfl (hcopied.trans hregistry.symm)
    | readBinaries => exact value_eq rfl (hcopied.trans hregistry.symm)
    | change project host state => exact value_eq rfl hregistry.symm
    | declare declaration =>
      cases declaration with
      | factory kind factory priority => exact absurd ⟨kind, factory, priority, rfl⟩ ha
      | _ => exact value_eq rfl hregistry.symm

/-- Evaluating a snapshot leaves the builder's own configuration as it is. -/
theorem configuration_evaluate (make : Make φ σ β) (d : Desk φ σ β) (n : Nat) :
    (d.step make (.identify n)).configuration = d.configuration ∧
      (d.step make (.build n)).configuration = d.configuration := by
  refine ⟨rfl, ?_⟩
  unfold step
  dsimp only
  split <;> rfl

/-- A snapshot gives the same variants, or the same error, in `later` as in `taken`, and factories
whose outcome depends on their arguments alone get the same calls. -/
structure Isolated (make : Make φ σ β) (taken later : Desk φ σ β) (n : Nat) : Prop where
  variants : later.identified n = taken.identified n
  calls : OnArguments make → ∀ state state',
    (later.built make n state).map (·.calls) = (taken.built make n state').map (·.calls)

theorem Keeps.isolated {taken later : Desk φ σ β} (h : taken.Keeps later) {n : Nat}
    {c : Configuration φ} (hc : taken.snapshot? n = some c) : Isolated make taken later n := by
  have hlater := h.snapshot? n c hc
  refine ⟨?_, fun hmake state state' => ?_⟩
  · rw [identified, identified, hlater, hc]
  · rw [built, built, hlater, hc]
    exact congrArg some (c.calls_build_onArguments hmake state state')

/-- A snapshot that is taken at any moment is the builder's configuration of that moment, and it is
isolated from all that happens later. Evaluating snapshots leaves the builder's configuration as it
is, and the builder does by reference what it does as a value. Likewise a copy of a registry starts
as the registry was, and from then on each of them evolves as if it were alone. -/
theorem isolated_run (component : String) (project : Project) (host : Host) (state : σ)
    (make : Make φ σ β) (before after : List (Action φ σ))
    (earlier later : List (Store.Action φ)) (source target : Nat) :
    (let d := (new component project host state : Desk φ σ β).run make before
      let taken := d.step make .snapshot
      let final := taken.run make after
      taken.snapshot? d.snapshots.length = some d.configuration ∧
        Isolated make taken final d.snapshots.length ∧
        (∀ n, (final.step make (.identify n)).configuration = final.configuration ∧
          (final.step make (.build n)).configuration = final.configuration) ∧
        ∀ a, (final.work make a).value = final.value.step make a) ∧
    (let s := ({} : Store φ).run earlier
      let copied := s.copy source target
      copied.view target = s.view source ∧
        ∀ r, (∀ a ∈ later, a.renewed? ≠ some r) → copied.EvolvesAlone later r) := by
  constructor
  · intro d taken final
    have hd : d.Sound := ((sound_new component project host state).keeps_run before).sound
    have htaken : taken.Sound := (hd.keeps_step .snapshot).sound
    have hfinal : taken.Keeps final := htaken.keeps_run after
    have hsnapshot : taken.snapshot? d.snapshots.length = some d.configuration :=
      snapshot?_step_snapshot hd
    exact ⟨hsnapshot, hfinal.isolated hsnapshot, configuration_evaluate make final,
      value_work hfinal.sound⟩
  · intro s copied
    have hs : s.Separated := Store.separated_empty.run earlier
    have hcopied := Store.copy_spec hs source target
    exact ⟨hcopied.view_self, fun r hr => hcopied.separated.evolvesAlone hr⟩

/-- Factories that write their name before that of the variant. -/
def labelling : Make String Unit String :=
  fun factory v state => (.ok (factory ++ " " ++ v.name), state)

/-- A library with one factory, of which a snapshot is taken before a preferred factory comes. -/
def overtaken : Desk String Unit String :=
  (new "library" ⟨.string "ring", .null, .null⟩ {} ()).run labelling
    [.work (.declare (.machines [⟨"linux", "x86"⟩])),
      .work (.declare (.linkages [.string "shared"] true)),
      .work (.declare (.factory (.string "shared-library") "general" genericPriority)), .snapshot,
      .work (.declare (.factory (.string "shared-library") "preferred" languagePriority)), .build 0]

example : OnArguments labelling ∧
    overtaken.configuration.registry.select .sharedLibrary = some "preferred" ∧
    (overtaken.built labelling 0 ()).map (·.calls.map fun call => (call.1, call.2.name)) =
      some [("general", "debug"), ("general", "release")] :=
  ⟨fun _ _ _ _ => rfl, by decide +kernel⟩

end Desk

end NativeVariants
