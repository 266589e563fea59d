import NativeVariants.Proofs.Component

/-!
# Components that are configured again and again

A run configures a component any number of times and changes what is declared about it in between.
`configure_cases` says all that one configuring does. Each successful one is a milestone, after which
the library publishes all of its binaries, the older ones once more (`Accounts`). So the publications
match the binaries (`PublishesEach`) only if no milestone but the last has any.
-/

namespace NativeVariants.Component

inductive Action where
  | configure (project : Project) (host : Host) (request : ConfigureRequest)
  /-- Something else changes what is declared. -/
  | adjust (name : String) (module baseName : Label) (machines : List Machine)
      (linkages : Option (List Value))

def step (c : Component) : Action → Component
  | .configure project host request => (c.configure project host request).2
  | .adjust name module baseName machines linkages =>
    { c with name, module, baseName, machines, linkages }

def run (c : Component) (actions : List Action) : Component :=
  actions.foldl step c

/-- The binaries that a configuring leaves if it succeeds. -/
def milestone? (c : Component) : Action → Option (List Binary)
  | .configure project host request =>
    let (built, c) := c.configure project host request
    if built.result.isOk then some c.binaries else none
  | .adjust .. => none

def milestones (c : Component) : List Action → List (List Binary)
  | [] => []
  | a :: rest => (c.milestone? a).toList ++ (c.step a).milestones rest

variable {c : Component}

theorem configure_cases (c : Component) (project : Project) (host : Host)
    (request : ConfigureRequest) :
    (∃ failure, (c.configure project host request).1.result = .error failure ∧
      (c.configure project host request).2 = c) ∨
    ∃ b added, (c.configure project host request).1.result = .ok b ∧
      (c.configure project host request).2 = c.withBinaries added := by
  cases hb : (c.builder request).result with
  | error failure => exact .inl ⟨failure, configure_of_error hb project host⟩
  | ok b =>
    cases hr : (b.binaries LanguageFactory.make project host ()).1.result with
    | error failure =>
      refine .inl ⟨failure, ?_, ?_⟩ <;> simp only [configure, hb, hr]
    | ok added =>
      refine .inr ⟨(b.binaries LanguageFactory.make project host ()).2, added, ?_, ?_⟩ <;>
        simp only [configure, hb, hr]

theorem step_cases (c : Component) (a : Action) :
    (c.milestone? a = none ∧ (c.step a).type = c.type ∧ (c.step a).binaries = c.binaries ∧
      (c.step a).publications = c.publications) ∨
    ∃ added, c.milestone? a = some (c.binaries ++ added) ∧ c.step a = c.withBinaries added := by
  cases a with
  | adjust name module baseName machines linkages => exact .inl ⟨rfl, rfl, rfl, rfl⟩
  | configure project host request =>
    rcases c.configure_cases project host request with ⟨failure, hr, hc⟩ | ⟨b, added, hr, hc⟩
    · left
      have hstep : c.step (.configure project host request) = c := hc
      rw [hstep]
      refine ⟨?_, rfl, rfl, rfl⟩
      simp only [milestone?, hr]
      rfl
    · right
      refine ⟨added, ?_, hc⟩
      simp only [milestone?, hr, hc]
      rfl

/-- A library has the binaries of the last of its milestones and has published those of each. -/
structure Accounts (c : Component) (milestones : List (List Binary)) : Prop where
  type : c.type = .library
  growing : milestones.Pairwise (· <+: ·)
  within : ∀ m ∈ milestones, m <+: c.binaries
  binaries : c.binaries = milestones.getLast?.getD []
  publications : c.publications = milestones.flatMap (·.map Publication.ofBinary)

theorem accounts_ofProject (projectName : String) : Accounts (ofProject .library projectName) [] where
  type := rfl
  growing := .nil
  within := nofun
  binaries := rfl
  publications := rfl

theorem Accounts.step {ms : List (List Binary)} (h : Accounts c ms) (a : Action) :
    Accounts (c.step a) (ms ++ (c.milestone? a).toList) := by
  rcases c.step_cases a with ⟨hm, ht, hb, hp⟩ | ⟨added, hm, hc⟩
  · rw [hm, Option.toList_none, List.append_nil]
    exact ⟨ht.trans h.type, h.growing, hb ▸ h.within, hb.trans h.binaries, hp.trans h.publications⟩
  · have hbinaries : (c.withBinaries added).binaries = c.binaries ++ added := rfl
    have hpublications : (c.withBinaries added).publications =
        c.publications ++ (c.binaries ++ added).map Publication.ofBinary := if_pos h.type
    have hbefore : ∀ m ∈ ms, m <+: c.binaries ++ added := fun m hmem =>
      (h.within m hmem).trans (List.prefix_append ..)
    rw [hm, hc, Option.toList_some]
    refine ⟨h.type, ?_, ?_, ?_, ?_⟩
    · rw [List.pairwise_append]
      refine ⟨h.growing, List.pairwise_singleton .., fun m hmem n hn => ?_⟩
      rw [List.mem_singleton.1 hn]
      exact hbefore m hmem
    · intro m hmem
      rcases List.mem_append.1 hmem with hmem | hmem
      · exact hbefore m hmem
      · rw [List.mem_singleton.1 hmem]
        exact List.prefix_rfl
    · rw [hbinaries, List.getLast?_concat, Option.getD_some]
    · rw [hpublications, h.publications, List.flatMap_append, List.flatMap_singleton]

theorem Accounts.run {ms : List (List Binary)} (h : Accounts c ms) (actions : List Action) :
    Accounts (c.run actions) (ms ++ c.milestones actions) := by
  induction actions generalizing c ms with
  | nil => rwa [milestones, List.append_nil]
  | cons a rest ih =>
    rw [milestones, ← List.append_assoc]
    exact ih (h.step a)

/-- There is one publication for each binary, in order and under its name. -/
def PublishesEach (c : Component) : Prop :=
  c.publications.map (·.name) =
    c.binaries.map fun b => b.name ++ b.language.title ++ "ApiElements"

instance (c : Component) : Decidable c.PublishesEach :=
  inferInstanceAs (Decidable (_ = _))

theorem Accounts.publishesEach_iff {ms : List (List Binary)} (h : Accounts c ms) :
    c.PublishesEach ↔ ∀ m ∈ ms.dropLast, m = [] := by
  have hname : (fun b => (Publication.ofBinary b).name) =
      fun b => b.name ++ b.language.title ++ "ApiElements" := rfl
  rw [PublishesEach, h.publications, h.binaries]
  rcases List.eq_nil_or_concat ms with rfl | ⟨init, last, rfl⟩
  · simp
  · simp only [List.concat_eq_append, List.getLast?_concat, Option.getD_some, List.flatMap_append,
      List.flatMap_singleton, List.map_append, List.map_map, Function.comp_def, hname,
      List.dropLast_concat, List.append_left_eq_self, List.map_eq_nil_iff, List.flatMap_eq_nil_iff]

/-- After any run from a new library the publications are those of all milestones one after the
other. They match the binaries exactly if no milestone but the last has any. -/
theorem publishesEach_run_iff (projectName : String) (actions : List Action) :
    Accounts ((ofProject .library projectName).run actions)
      ((ofProject .library projectName).milestones actions) ∧
    (((ofProject .library projectName).run actions).PublishesEach ↔
      ∀ m ∈ ((ofProject .library projectName).milestones actions).dropLast, m = []) := by
  have h := (accounts_ofProject projectName).run actions
  rw [List.nil_append] at h
  exact ⟨h, h.publishesEach_iff⟩

/-- A library that is configured twice. -/
def twice : List Action :=
  [.adjust "main" (.string "ring") (.string "ring") [⟨"linux", "x86-64"⟩] (some [.string "shared"]),
    .configure ⟨.string "ring", .null, .null⟩ {} {}, .configure ⟨.string "ring", .null, .null⟩ {} {}]

theorem not_publishesEach_twice : ¬ ((ofProject .library "ring").run twice).PublishesEach := by
  decide +kernel

end NativeVariants.Component
