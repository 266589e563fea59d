import NativeVariants.Binary
import NativeVariants.Proofs.Workbench

/-!
# Names that follow the project

What an identity is called takes part in no expansion: group and version are read from the project, the
base name from what was given last when the identity was made. In a `Scene` all of them may be read at
any time, while the builder works and the project changes. Whatever happens, an identity that was
obtained stays in the list it is kept in, and its names follow (`Scene.live_of_mem_variants`).
-/

namespace NativeVariants

variable {φ σ β : Type}

/-- A builder in its surroundings, with the cells of the values that are kept. -/
structure Scene (φ σ β : Type) where
  bench : Workbench φ σ β
  cells : List (Nat × Value)

namespace Scene

inductive Action (φ σ : Type) where
  | work (a : Workbench.Action φ σ)
  /-- A deferred value is read, for instance the base name of an identity. -/
  | read (d : Deferred Project)

/-- What deferred values are read from. -/
def memory (s : Scene φ σ β) : Memory Project :=
  ⟨s.bench.project, s.cells⟩

def step (make : Make φ σ β) (s : Scene φ σ β) : Action φ σ → Scene φ σ β
  | .work a => { s with bench := s.bench.step make a }
  | .read d =>
    let after := (d.get s.memory).2
    { bench := { s.bench with project := after.world }, cells := after.cells }

def run (make : Make φ σ β) (s : Scene φ σ β) (actions : List (Action φ σ)) : Scene φ σ β :=
  actions.foldl (step make) s

/-- The base name that an action gives, unless it comes too late. -/
def Action.given? (s : Scene φ σ β) : Action φ σ → Option (Deferred Project)
  | .work (.declare (.baseName d)) => if s.bench.builder.isBuilt then none else some d
  | _ => none

/-- The base name that is given last. -/
def given? (make : Make φ σ β) (s : Scene φ σ β) : List (Action φ σ) → Option (Deferred Project)
  | [] => none
  | a :: rest => (given? make (s.step make a) rest).or (a.given? s)

/-- Binaries carry the identity of the variant that they are made for. -/
def Carries (make : Make φ σ β) (carried : β → VariantIdentity) : Prop :=
  ∀ factory v state b after, make factory v state = (.ok b, after) → carried b = v.identity

/-- An action reads a list with the identity: of the variants, or of binaries that carry it. -/
def Gives (make : Make φ σ β) (carried : β → VariantIdentity) (s : Scene φ σ β)
    (i : VariantIdentity) : Action φ σ → Prop
  | .work .readVariants => ∃ variants,
    (s.bench.builder.variants s.bench.project s.bench.host).1.result = .ok variants ∧
      ∃ v ∈ variants, v.identity = i
  | .work .readBinaries => ∃ binaries,
    (s.bench.builder.binaries make s.bench.project s.bench.host s.bench.state).1.result =
        .ok binaries ∧
      ∃ b ∈ binaries, carried b = i
  | _ => False

def Obtained (carried : β → VariantIdentity) (s : Scene φ σ β) (i : VariantIdentity) : Prop :=
  (∃ variants, s.bench.builder.variants? = some variants ∧ ∃ v ∈ variants, v.identity = i) ∨
    ∃ binaries, s.bench.builder.binaries? = some binaries ∧ ∃ b ∈ binaries, carried b = i

/-- The lists that are kept in `s` are the same in `t`. -/
structure Keeps (s t : Scene φ σ β) : Prop where
  variants : ∀ variants, s.bench.builder.variants? = some variants →
    t.bench.builder.variants? = some variants
  binaries : ∀ binaries, s.bench.builder.binaries? = some binaries →
    t.bench.builder.binaries? = some binaries

/-- How the names of an identity that was made after `before` read in `s`. -/
structure Live (make : Make φ σ β) (start : Scene φ σ β) (before : List (Action φ σ))
    (i : VariantIdentity) (s : Scene φ σ β) : Prop where
  group : i.names.group.get s.memory = (s.bench.project.group.text.map .string, s.memory)
  version : i.names.version.get s.memory = (s.bench.project.version.text.map .string, s.memory)
  baseName : ∀ d, given? make start before = some d →
    i.names.baseName.get s.memory = d.get s.memory
  missing : given? make start before = none →
    i.names.baseName.get s.memory =
      (.error (.missingValue s!"base name of the {start.bench.builder.component}"), s.memory)

variable {make : Make φ σ β} {carried : β → VariantIdentity} {s t u : Scene φ σ β} {a : Action φ σ}
  {actions : List (Action φ σ)} {i : VariantIdentity}

theorem run_append (make : Make φ σ β) (s : Scene φ σ β) (before after : List (Action φ σ)) :
    s.run make (before ++ after) = (s.run make before).run make after :=
  List.foldl_append

/-! ### The base name -/

theorem baseName_declare (b : Builder φ β) (d : Declaration φ) (hd : ∀ name, d ≠ .baseName name) :
    (b.declare d).2.baseName = b.baseName := by
  unfold Builder.declare
  split
  · rfl
  · cases d with
    | baseName name => exact absurd rfl (hd name)
    | linkages names required =>
      unfold Builder.accept
      dsimp only
      split <;> rfl
    | _ => rfl

theorem baseName_step (make : Make φ σ β) (s : Scene φ σ β) (a : Action φ σ) :
    (s.step make a).bench.builder.baseName = (a.given? s).getD s.bench.builder.baseName := by
  cases a with
  | read d => rfl
  | work a =>
    cases a with
    | change project host state => rfl
    | readVariants => simp only [step, Workbench.step, Builder.variants_eq]; rfl
    | readBinaries => simp only [step, Workbench.step, Builder.binaries_eq]; rfl
    | declare d =>
      cases d with
      | baseName name =>
        simp only [step, Workbench.step, Action.given?]
        cases hbuilt : s.bench.builder.isBuilt with
        | true => rw [Builder.declare_of_isBuilt hbuilt]; rfl
        | false => simp [Builder.declare, hbuilt, Builder.accept]
      | _ => exact baseName_declare _ _ fun name h => by cases h

theorem baseName_run (make : Make φ σ β) (s : Scene φ σ β) (actions : List (Action φ σ)) :
    (s.run make actions).bench.builder.baseName =
      (given? make s actions).getD s.bench.builder.baseName := by
  induction actions generalizing s with
  | nil => rfl
  | cons a rest ih =>
    have hrest := ih (s.step make a)
    rw [baseName_step] at hrest
    rw [given?, Option.getD_or]
    exact hrest

/-! ### What is kept -/

theorem Keeps.refl (s : Scene φ σ β) : s.Keeps s :=
  ⟨fun _ => id, fun _ => id⟩

theorem Keeps.trans (h : s.Keeps t) (h' : t.Keeps u) : s.Keeps u :=
  ⟨fun _ hv => h'.variants _ (h.variants _ hv), fun _ hb => h'.binaries _ (h.binaries _ hb)⟩

theorem keeps_step (make : Make φ σ β) (s : Scene φ σ β) (a : Action φ σ) :
    s.Keeps (s.step make a) := by
  cases a with
  | work a =>
    exact ⟨Workbench.variants?_step_of_some s.bench a, Workbench.binaries?_step_of_some s.bench a⟩
  | read d => exact ⟨fun _ => id, fun _ => id⟩

theorem keeps_run (make : Make φ σ β) (s : Scene φ σ β) (actions : List (Action φ σ)) :
    s.Keeps (s.run make actions) := by
  induction actions generalizing s with
  | nil => exact .refl s
  | cons a rest ih => exact (keeps_step make s a).trans (ih _)

/-! ### Where identities come from -/

theorem obtained_of_gives (h : s.Gives make carried i a) : (s.step make a).Obtained carried i := by
  cases a with
  | read d => exact h.elim
  | work a =>
    cases a with
    | readVariants =>
      obtain ⟨variants, hr, v, hv, hi⟩ := h
      exact .inl ⟨variants, Builder.variants?_of_result hr, v, hv, hi⟩
    | readBinaries =>
      obtain ⟨binaries, hr, b, hb, hi⟩ := h
      exact .inr ⟨binaries, Builder.binaries?_of_result hr, b, hb, hi⟩
    | declare d => exact h.elim
    | change project host state => exact h.elim

theorem exists_call {state after : σ} {calls : List (φ × Variant)} {binaries : List β} {b : β}
    (h : Answers make state calls binaries after) (hb : b ∈ binaries) :
    ∃ call ∈ calls, ∃ before after, make call.1 call.2 before = (.ok b, after) := by
  induction h with
  | nil => cases hb
  | cons head tail ih =>
    rcases List.mem_cons.1 hb with rfl | hb
    · exact ⟨_, List.mem_cons_self, _, _, head⟩
    · obtain ⟨call, hcall, hmake⟩ := ih hb
      exact ⟨call, List.mem_cons_of_mem _ hcall, hmake⟩

/-- Each binary of a build carries the identity of a variant. -/
theorem exists_variant_of_mem_build (hc : Carries make carried) {w : Workbench φ σ β}
    {binaries : List β} (hr : (w.build make).result = .ok binaries) {b : β} (hb : b ∈ binaries) :
    ∃ v ∈ w.configuration.variants, v.identity = carried b := by
  have hv : w.configuration.Valid := Configuration.valid_of_result_build hr
  obtain ⟨-, hanswers⟩ := (hv.build_follows make w.state).of_ok hr
  obtain ⟨call, hcall, before, after, hmake⟩ := exists_call hanswers hb
  exact ⟨call.2, (Registry.mem_callSequence.1 hcall).1, (hc _ _ _ _ _ hmake).symm⟩

/-- The actions that make identities. -/
def Action.isRead : Action φ σ → Bool
  | .work .readVariants | .work .readBinaries => true
  | _ => false

/-- An identity that is obtained by an action is one of the configuration that the action finds. -/
theorem obtained_step_cases (hc : Carries make carried)
    (h : (s.step make a).Obtained carried i) :
    s.Obtained carried i ∨
      a.isRead ∧ ∃ v ∈ s.bench.configuration.variants, v.identity = i := by
  cases a with
  | read d => exact .inl h
  | work a =>
    -- the list was kept before and is the same, or the action is the read that makes it
    rcases h with ⟨variants, hvariants, v, hv, hi⟩ | ⟨binaries, hbinaries, b, hb, hi⟩
    · cases hn : s.bench.builder.variants? with
      | some kept =>
        have hkept := (keeps_step make s (.work a)).variants kept hn
        rw [hvariants] at hkept
        cases hkept
        exact .inl (.inl ⟨variants, hn, v, hv, hi⟩)
      | none =>
        obtain ⟨rfl, -, rfl⟩ := Workbench.eq_readVariants hn hvariants
        exact .inr ⟨rfl, v, hv, hi⟩
    · cases hn : s.bench.builder.binaries? with
      | some kept =>
        have hkept := (keeps_step make s (.work a)).binaries kept hn
        rw [hbinaries] at hkept
        cases hkept
        exact .inl (.inr ⟨binaries, hn, b, hb, hi⟩)
      | none =>
        obtain ⟨rfl, hr⟩ := Workbench.eq_readBinaries hn hbinaries
        obtain ⟨v, hv, hcarried⟩ := exists_variant_of_mem_build hc hr hb
        exact .inr ⟨rfl, v, hv, hcarried.trans hi⟩

/-- Every identity was made by a read, of the configuration that was in force. -/
theorem exists_read_of_obtained (hc : Carries make carried) (hnew : ¬ s.Obtained carried i)
    (h : (s.run make actions).Obtained carried i) :
    ∃ before a after, actions = before ++ a :: after ∧ a.isRead ∧
      ∃ v ∈ (s.run make before).bench.configuration.variants, v.identity = i := by
  induction actions generalizing s with
  | nil => exact absurd h hnew
  | cons a rest ih =>
    by_cases hstep : (s.step make a).Obtained carried i
    · rcases obtained_step_cases hc hstep with hs | ⟨ha, hmade⟩
      · exact absurd hs hnew
      · exact ⟨[], a, rest, rfl, ha, hmade⟩
    · obtain ⟨before, a', after, rfl, ha, hmade⟩ := ih hstep h
      exact ⟨a :: before, a', after, rfl, ha, hmade⟩

section New

variable {start : Scene φ σ β} {component : String} {before past : List (Action φ σ)}

theorem not_obtained_new (hnew : start.bench.builder = .ofComponent component) :
    ¬ start.Obtained carried i := by
  unfold Obtained
  rw [hnew]
  rintro (⟨variants, h, -⟩ | ⟨binaries, h, -⟩)
  · cases h
  · cases h

theorem live_of_mem_variants (hnew : start.bench.builder = .ofComponent component) {v : Variant}
    (hv : v ∈ (start.run make before).bench.configuration.variants) (s : Scene φ σ β) :
    Live make start before v.identity s := by
  have hnames : v.identity.names = (start.run make before).bench.configuration.names := by
    rw [(Configuration.mem_variants.1 hv).2]
    rfl
  have hbase : (start.run make before).bench.configuration.names.baseName =
      (given? make start before).getD (.undefined (some s!"base name of the {component}")) := by
    have hrun := baseName_run make start before
    rw [hnew] at hrun
    exact hrun
  constructor
  · rw [hnames]
    rfl
  · rw [hnames]
    rfl
  · intro d hd
    rw [hnames, hbase, hd, Option.getD_some]
  · intro hd
    have hdescription : s!"base name of the {component}" ≠ "" := by
      intro h
      exact absurd (String.append_eq_empty_iff.1 h).1 (by decide)
    rw [hnames, hbase, hd, Option.getD_none, Deferred.get_undefined hdescription, hnew]
    rfl

/-- The identities that a read gives were made by a first read, of the configuration that was in force
then. Whatever comes after, the lists that are kept stay the same, and the names of the identities in
them follow the project and the base name that had been given when they were made. -/
theorem live_of_gives (hc : Carries make carried)
    (hnew : start.bench.builder = .ofComponent component)
    (h : (start.run make past).Gives make carried i a) :
    ∃ before read after, past ++ [a] = before ++ read :: after ∧ read.isRead ∧
      (∃ v ∈ (start.run make before).bench.configuration.variants, v.identity = i) ∧
      ∀ more, (start.run make (past ++ [a])).Keeps (start.run make (past ++ [a] ++ more)) ∧
        Live make start before i (start.run make (past ++ [a] ++ more)) := by
  have hrun : (start.run make past).step make a = start.run make (past ++ [a]) := by
    rw [run_append]
    rfl
  have hobtained := obtained_of_gives h
  rw [hrun] at hobtained
  obtain ⟨before, read, after, hsplit, hread, v, hv, rfl⟩ :=
    exists_read_of_obtained hc (not_obtained_new hnew) hobtained
  refine ⟨before, read, after, hsplit, hread, ⟨v, hv, rfl⟩, fun more => ⟨?_, ?_⟩⟩
  · rw [run_append make start (past ++ [a]) more]
    exact keeps_run make _ more
  · exact live_of_mem_variants hnew hv _

end New

/-- A library of a project, before anything is declared. -/
def library : Scene LanguageFactory Unit Binary :=
  ⟨.new "library" ⟨.string "ring", .string "org.example", .string "1.0"⟩ {} (), []⟩

/-- A base name that is kept, the name of the project when it is first read. -/
def memoizedName : Deferred Project :=
  .memoized 0 (fun now => (.ok now.name.value, now)) none

/-- A component for one machine, whose base name is kept when it is read. -/
def declared : List (Action LanguageFactory Unit) :=
  [.work (.declare (.machines [⟨"linux", "x86-64"⟩])),
    .work (.declare (.factory (.string "executable") ⟨.executable, .cpp, .string "Ring"⟩
      genericPriority)),
    .work (.declare (.baseName memoizedName))]

/-- The project changes, the base name is read, and another one is declared. -/
def renamed : List (Action LanguageFactory Unit) :=
  [.work (.change ⟨.string "hoop", .string "org.example", .string "2.0"⟩ {} ()),
    .read memoizedName, .work (.declare (.baseName Project.nameProvider))]

/-- The identity of the debug variant of that component. -/
def debugIdentity : VariantIdentity :=
  identityOf ⟨.debug, ⟨"linux", "x86-64"⟩, none⟩ [⟨"linux", "x86-64"⟩] [none]
    ⟨memoizedName, library.bench.project.groupProvider, library.bench.project.versionProvider⟩

theorem carries_make : Carries LanguageFactory.make fun b => b.variant.identity := by
  rintro factory v state b after h
  rw [← Except.ok.inj (Prod.mk.inj h).1]

theorem live_of_gives_renamed :
    library.bench.builder = .ofComponent "library" ∧
    (library.run LanguageFactory.make declared).Gives LanguageFactory.make
      (fun b => b.variant.identity) debugIdentity (.work .readVariants) ∧
    (library.run LanguageFactory.make (declared ++ [.work .readVariants])).Keeps
      (library.run LanguageFactory.make (declared ++ [.work .readVariants] ++ renamed)) ∧
    let names := debugIdentity.names
    let after := (library.run LanguageFactory.make
      (declared ++ [.work .readVariants] ++ renamed)).memory
    names.group.get after = (.ok (.string "org.example"), after) ∧
      names.version.get after = (.ok (.string "2.0"), after) ∧
      names.baseName.get after = (.ok (.string "hoop"), after) := by
  have hgives : (library.run LanguageFactory.make declared).Gives LanguageFactory.make
      (fun b => b.variant.identity) debugIdentity (.work .readVariants) :=
    ⟨_, rfl, _, List.mem_cons_self, rfl⟩
  obtain ⟨before, read, after, hsplit, hread, -, hmore⟩ := live_of_gives carries_make rfl hgives
  obtain ⟨hkeeps, hlive⟩ := hmore renamed
  -- only the last action is a read
  have hbefore : declared = before := by
    rcases List.eq_nil_or_concat after with rfl | ⟨init, last, rfl⟩
    · exact List.append_inj_left' hsplit rfl
    · rw [List.concat_eq_append, ← List.cons_append, ← List.append_assoc] at hsplit
      have hmem : read ∈ declared := by
        rw [List.append_inj_left' hsplit rfl]
        exact List.mem_append_right _ List.mem_cons_self
      have hdeclared : ∀ d ∈ declared, d.isRead = false := by simp [declared, Action.isRead]
      exact absurd (hdeclared _ hmem) (by simp [hread])
  subst hbefore
  have hname : given? LanguageFactory.make library declared = some memoizedName := rfl
  refine ⟨rfl, hgives, hkeeps, hlive.group.trans ?_, hlive.version.trans ?_,
    (hlive.baseName _ hname).trans ?_⟩
  · rfl
  · rfl
  · rfl

end Scene

end NativeVariants
