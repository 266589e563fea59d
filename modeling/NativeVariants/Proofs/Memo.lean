import NativeVariants.Proofs.Workbench

/-!
# Two memos of one builder

The variants and the binaries of a builder are kept from two reads, each under what was declared at
its time. If the dimensions were the same, the calls behind the binaries are those for the kept
variants. They are the same if the binaries were built first, since a build ends all declarations.
A read of the variants ends none, so binaries that are built later may be of variants that are not
listed.
-/

namespace NativeVariants

variable {φ σ β : Type}

/-- The variant under other names of its component. -/
def Variant.named (names : ComponentNames) (v : Variant) : Variant :=
  { v with identity := { v.identity with names } }

@[simp] theorem Variant.name_named (names : ComponentNames) (v : Variant) :
    (v.named names).name = v.name := rfl

/-- Configurations over the same build types, machines and linkages. -/
structure Configuration.SameDimensions (c d : Configuration φ) : Prop where
  buildTypes : c.buildTypes = d.buildTypes
  machines : c.machines = d.machines
  linkages : c.linkages = d.linkages

/-- The variants depend on the dimensions and on the names alone. -/
theorem Configuration.SameDimensions.map_named_variants {c d : Configuration φ}
    (h : c.SameDimensions d) : c.variants.map (·.named d.names) = d.variants := by
  have hl : c.linkageDimension = d.linkageDimension := by
    rw [linkageDimension, linkageDimension, h.linkages]
  rw [variants_eq_map, variants_eq_map, List.map_map, h.buildTypes, h.machines, hl]
  refine List.map_congr_left fun combination _ => ?_
  rw [Function.comp_apply, variantOf, variantOf, h.machines, hl]
  rfl

namespace Workbench

variable {make : Make φ σ β} {w listing building : Workbench φ σ β} {actions : List (Action φ σ)}
  {variants : List Variant} {binaries : List β}

/-- In a run from `w` the variants are first read in `listing`, which gives `variants`. -/
def ListedIn (make : Make φ σ β) (w : Workbench φ σ β) (actions : List (Action φ σ))
    (variants : List Variant) (listing : Workbench φ σ β) : Prop :=
  ∃ before after, actions = before ++ .readVariants :: after ∧ listing = w.run make before ∧
    listing.builder.variants? = none ∧ listing.configuration.Valid ∧
    variants = listing.configuration.variants

/-- In a run from `w` the binaries are first built in `building`, which makes `binaries`. -/
def BuiltIn (make : Make φ σ β) (w : Workbench φ σ β) (actions : List (Action φ σ))
    (binaries : List β) (building : Workbench φ σ β) : Prop :=
  ∃ before after, actions = before ++ .readBinaries :: after ∧ building = w.run make before ∧
    building.builder.binaries? = none ∧ (building.build make).result = .ok binaries

theorem BuiltIn.append (h : BuiltIn make w actions binaries building) (rest : List (Action φ σ)) :
    BuiltIn make w (actions ++ rest) binaries building := by
  obtain ⟨before, after, rfl, hw⟩ := h
  exact ⟨before, after ++ rest, by rw [List.append_assoc, List.cons_append], hw⟩

theorem exists_listedIn (hn : w.builder.variants? = none)
    (h : (w.run make actions).builder.variants? = some variants) :
    ∃ listing, ListedIn make w actions variants listing := by
  obtain ⟨before, a, after, rfl, hbefore, hstep⟩ :=
    exists_first_read (m := (·.builder.variants?)) variants?_step_of_some hn h
  obtain ⟨rfl, hv, rfl⟩ := eq_readVariants hbefore hstep
  exact ⟨_, before, after, rfl, rfl, hbefore, hv, rfl⟩

/-- Kept binaries were built, and of the builder nothing else has changed since then but the memo of
its variants. -/
theorem exists_builtIn (hn : w.builder.binaries? = none)
    (h : (w.run make actions).builder.binaries? = some binaries) :
    ∃ building, BuiltIn make w actions binaries building ∧ ∃ variants?,
      (w.run make actions).builder =
        { building.builder with variants?, binaries? := some binaries } := by
  obtain ⟨before, a, after, rfl, hbefore, hstep⟩ :=
    exists_first_read (m := (·.builder.binaries?)) binaries?_step_of_some hn h
  obtain ⟨rfl, hr⟩ := eq_readBinaries hbefore hstep
  refine ⟨_, ⟨before, after, rfl, rfl, hbefore, hr⟩, ?_⟩
  obtain ⟨variants?, hrun⟩ := builder_run_of_built hstep after
  refine ⟨variants?, ?_⟩
  rw [run_append, run_cons, hrun, builder_step_readBinaries, hstep]

theorem sameDimensions_of_builder_eq {variants? : Option (List Variant)}
    {binaries? : Option (List β)}
    (h : listing.builder = { building.builder with variants?, binaries? }) :
    listing.configuration.SameDimensions building.configuration := by
  constructor <;> simp only [configuration, Builder.configuration, h]

/-- The build in `building` calls the factories as for the given variants, under the names of its
own configuration, and their answers are the binaries. -/
structure CallsFor (make : Make φ σ β) (building : Workbench φ σ β) (variants : List Variant)
    (binaries : List β) : Prop where
  calls : (building.build make).calls =
    building.configuration.registry.callSequence building.configuration.hostFamily
      (variants.map (·.named building.configuration.names))
  answers : Answers make building.state (building.build make).calls binaries
    (building.build make).state

/-- No other variants are built. -/
theorem CallsFor.name_mem (h : CallsFor make building variants binaries) {call : φ × Variant}
    (hc : call ∈ (building.build make).calls) : call.2.name ∈ variants.map (·.name) := by
  rw [h.calls, Registry.mem_callSequence, List.mem_map] at hc
  obtain ⟨⟨v, hv, heq⟩, -⟩ := hc
  rw [← heq, Variant.name_named]
  exact List.mem_map_of_mem hv

theorem callsFor_of_sameDimensions (hr : (building.build make).result = .ok binaries)
    (h : listing.configuration.SameDimensions building.configuration) :
    CallsFor make building listing.configuration.variants binaries := by
  have hv : building.configuration.Valid := Configuration.valid_of_result_build hr
  obtain ⟨hcalls, hanswers⟩ := (hv.build_follows make building.state).of_ok hr
  rw [← h.map_named_variants] at hcalls
  refine ⟨hcalls, ?_⟩
  rw [← h.map_named_variants, ← hcalls] at hanswers
  exact hanswers

/-- The reads behind the two memos of a builder that kept nothing at first, in whatever order they
came. The binaries are those of the calls for the kept variants, if the dimensions were the same at
both reads; and they were, if the builder was built when its variants were listed. -/
theorem callsFor_memos (hn : w.builder.variants? = none) (hn' : w.builder.binaries? = none)
    (hv : (w.run make actions).builder.variants? = some variants)
    (hb : (w.run make actions).builder.binaries? = some binaries) :
    ∃ listing building, ListedIn make w actions variants listing ∧
      BuiltIn make w actions binaries building ∧
      (listing.builder.isBuilt →
        listing.configuration.SameDimensions building.configuration) ∧
      (listing.configuration.SameDimensions building.configuration →
        CallsFor make building variants binaries ∧
          ∀ call ∈ (building.build make).calls, call.2.name ∈ variants.map (·.name)) := by
  obtain ⟨listing, hlisted⟩ := exists_listedIn hn hv
  have hcalls {building : Workbench φ σ β} (hbuilt : BuiltIn make w actions binaries building)
      (h : listing.configuration.SameDimensions building.configuration) :
      CallsFor make building variants binaries ∧
        ∀ call ∈ (building.build make).calls, call.2.name ∈ variants.map (·.name) := by
    obtain ⟨-, -, -, -, -, -, rfl⟩ := hlisted
    obtain ⟨-, -, -, -, -, hr⟩ := hbuilt
    have hc := callsFor_of_sameDimensions hr h
    exact ⟨hc, fun _ => hc.name_mem⟩
  by_cases hbuilt : listing.builder.isBuilt
  · -- the binaries that were kept then are those that are kept in the end
    obtain ⟨before, after, rfl, rfl, -⟩ := id hlisted
    obtain ⟨made, hm⟩ := Option.isSome_iff_exists.1 hbuilt
    have hkept : (w.run make (before ++ .readVariants :: after)).builder.binaries? = some made := by
      rw [run_append]
      exact binaries?_run_of_some hm _
    rw [hb] at hkept
    cases hkept
    obtain ⟨building, hin, _, heq⟩ := exists_builtIn hn' hm
    have hin := hin.append (.readVariants :: after)
    exact ⟨_, building, hlisted, hin, fun _ => sameDimensions_of_builder_eq heq, hcalls hin⟩
  · obtain ⟨building, hin, -⟩ := exists_builtIn hn' hb
    exact ⟨listing, building, hlisted, hin, fun h => absurd h hbuilt, hcalls hin⟩

/-- A factory that makes the names of the variants. -/
def namer : Make String Unit String := fun _ v state => (.ok v.name, state)

/-- A new builder with an executable for one machine. -/
def fresh : Workbench String Unit String :=
  run namer (new "component" ⟨.string "app", .string "", .string "1.0"⟩ {} ())
    [.declare (.machines [⟨"linux", "x86-64"⟩]),
      .declare (.factory (.string "executable") "exe" genericPriority)]

/-- Build types that come after the build, and too late to be listed. -/
def buildFirst : List (Action String Unit) :=
  [.readBinaries, .declare (.buildTypes []), .readVariants]

/-- Build types that come after the listing, but are built. -/
def listFirst : List (Action String Unit) :=
  [.declare (.buildTypes [⟨"debug", true, false⟩]), .readVariants,
    .declare (.buildTypes [⟨"release", true, true⟩]), .readBinaries]

theorem callsFor_memos_buildFirst :
    fresh.builder.variants? = none ∧ fresh.builder.binaries? = none ∧
      ∃ variants binaries, (fresh.run namer buildFirst).builder.variants? = some variants ∧
        (fresh.run namer buildFirst).builder.binaries? = some binaries ∧
        ∃ listing building, ListedIn namer fresh buildFirst variants listing ∧
          BuiltIn namer fresh buildFirst binaries building ∧
          (listing.builder.isBuilt →
            listing.configuration.SameDimensions building.configuration) ∧
          (listing.configuration.SameDimensions building.configuration →
            CallsFor namer building variants binaries ∧
              ∀ call ∈ (building.build namer).calls, call.2.name ∈ variants.map (·.name)) :=
  ⟨rfl, rfl, _, _, rfl, rfl, callsFor_memos rfl rfl rfl rfl⟩

/-- A binary of none of the listed variants. -/
theorem exists_binary_not_listed :
    ∃ variants binaries, (fresh.run namer listFirst).builder.variants? = some variants ∧
      (fresh.run namer listFirst).builder.binaries? = some binaries ∧
      ∃ name ∈ binaries, name ∉ variants.map (·.name) :=
  ⟨_, _, rfl, rfl, "release", by decide +kernel, by decide +kernel⟩

end Workbench

end NativeVariants
