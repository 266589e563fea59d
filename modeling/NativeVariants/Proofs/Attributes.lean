import NativeVariants.Proofs.AttributeSets
import NativeVariants.Proofs.Identities
import NativeVariants.Proofs.Reordering

/-!
# Attributes of variants

The attributes for a usage tell the usage, the two flags of the build type, the machine and the
linkage, if there is one: `satisfies_attributesFor_iff` says what it takes to satisfy them. Between
variants of one configuration, all or none of which have a linkage, this is to agree in all of that.

Identities are compared without their attributes. Of what these tell only the linkage is not compared
by itself, and the name tells it only where the component has several. So equal identities offer the
same but for the linkage, and also the same linkage if both come from components over the same
values.
-/

namespace NativeVariants

namespace Attribute

@[simp] theorem same_usage_iff {u u' : Usage} : (usage u).same (usage u') ↔ u = u' := by
  cases u <;> cases u' <;> decide +kernel

@[simp] theorem same_linkage_iff {l l' : Linkage} : (linkage l).same (linkage l') ↔ l = l' := by
  cases l <;> cases l' <;> decide +kernel

@[simp] theorem same_bool_iff {b b' : Bool} :
    (plain (.bool b)).same (plain (.bool b')) ↔ b = b' := by
  cases b <;> cases b' <;> decide +kernel

@[simp] theorem same_string_iff {s s' : String} :
    (plain (.string s)).same (plain (.string s')) ↔ s = s' := by
  simp [same, Value.same]

end Attribute

theorem fields_attributesFor (u : Usage) (x : Combination) : (attributesFor u x).fields =
    [("usage", .usage u), ("debuggable", .plain (.bool x.buildType.debuggable)),
      ("optimized", .plain (.bool x.buildType.optimized))] ++
    x.linkage.toList.map (fun l => ("linkage", .linkage l)) ++
    [("operating-system-family", .plain (.string x.machine.family)),
      ("architecture", .plain (.string x.machine.architecture))] := by
  cases h : x.linkage <;> simp [attributesFor, AttributeSet.ofList, Fields.ofList, Fields.put, h]

theorem plain_attributesFor (u : Usage) (x : Combination) : (attributesFor u x).Plain where
  nodup := Fields.nodup_keys_ofList _
  values h := by
    have hall : ∀ f ∈ (attributesFor u x).fields, f.2.Plain := by
      simp [fields_attributesFor, or_imp, forall_and, Attribute.Plain, Attribute.flatten, Value.Plain]
    exact hall _ (Fields.mem_of_get? h)

theorem get?_attributesFor (u : Usage) (x : Combination) :
    (attributesFor u x).get? "usage" = some (.usage u) ∧
    (attributesFor u x).get? "debuggable" = some (.plain (.bool x.buildType.debuggable)) ∧
    (attributesFor u x).get? "optimized" = some (.plain (.bool x.buildType.optimized)) ∧
    (attributesFor u x).get? "linkage" = x.linkage.map .linkage ∧
    (attributesFor u x).get? "operating-system-family" = some (.plain (.string x.machine.family)) ∧
    (attributesFor u x).get? "architecture" = some (.plain (.string x.machine.architecture)) := by
  cases h : x.linkage <;> simp [AttributeSet.get?, fields_attributesFor, h, Fields.get?]

theorem satisfies_attributesFor_iff {u u' : Usage} {x y : Combination} :
    (attributesFor u x).satisfies (attributesFor u' y) ↔
      u = u' ∧ x.buildType.debuggable = y.buildType.debuggable ∧
        x.buildType.optimized = y.buildType.optimized ∧
        (∀ l, y.linkage = some l → x.linkage = some l) ∧ x.machine = y.machine := by
  obtain ⟨husage, hdebuggable, hoptimized, hlinkage, hfamily, harchitecture⟩ :=
    get?_attributesFor u x
  have hany (l : Linkage) :
      (x.linkage.map Attribute.linkage).any (·.same (.linkage l)) ↔ x.linkage = some l := by
    cases x.linkage <;> simp
  have hmachine : x.machine = y.machine ↔
      x.machine.family = y.machine.family ∧ x.machine.architecture = y.machine.architecture :=
    ⟨fun h => h ▸ ⟨rfl, rfl⟩, fun h => Machine.eq_of_parts h.1 h.2⟩
  rw [AttributeSet.satisfies, AttributeSet.offers_published]
  simp [AttributeSet.offers, fields_attributesFor, husage, hdebuggable, hoptimized, hlinkage, hfamily,
    harchitecture, hany, hmachine]

/-- Combinations for one machine and of one linkage, whose build types have the same flags. -/
structure Combination.Interchangeable (x y : Combination) : Prop where
  machine : x.machine = y.machine
  linkage : x.linkage = y.linkage
  debuggable : x.buildType.debuggable = y.buildType.debuggable
  optimized : x.buildType.optimized = y.buildType.optimized

section
variable {u : Usage} {x y : Combination}

theorem satisfies_attributesFor_iff_interchangeable (h : x.linkage.isSome = y.linkage.isSome) :
    (attributesFor u x).satisfies (attributesFor u y) ↔ x.Interchangeable y := by
  rw [satisfies_attributesFor_iff]
  constructor
  · rintro ⟨-, hdebuggable, hoptimized, hlinkage, hmachine⟩
    refine ⟨hmachine, ?_, hdebuggable, hoptimized⟩
    cases hy : y.linkage with
    | some l => exact hlinkage l hy
    | none => simpa [hy] using h
  · intro hxy
    exact ⟨rfl, hxy.debuggable, hxy.optimized, fun l hl => hxy.linkage.trans hl, hxy.machine⟩

theorem not_satisfies_attributesFor {u u' : Usage} (h : u ≠ u') :
    ¬ (attributesFor u x).satisfies (attributesFor u' y) :=
  fun hs => h (satisfies_attributesFor_iff.1 hs).1

end

namespace Configuration

variable {φ : Type} {c : Configuration φ} {u v : Variant}

theorem isSome_linkage_eq (hu : u ∈ c.variants) (hv : v ∈ c.variants) :
    u.combination.linkage.isSome = v.combination.linkage.isSome := by
  by_cases h : c.linkages = []
  · rw [linkage_eq_none hu h, linkage_eq_none hv h]
  · obtain ⟨_, -, hlu⟩ := exists_linkage hu h
    obtain ⟨_, -, hlv⟩ := exists_linkage hv h
    rw [hlu, hlv]
    rfl

theorem attributes_runtime (hv : v ∈ c.variants) :
    v.identity.runtime.attributes = attributesFor .runtime v.combination := by
  rw [(mem_variants.1 hv).2]
  rfl

theorem link_eq (hv : v ∈ c.variants) : v.identity.link =
    v.combination.linkage.map fun _ =>
      ⟨v.name ++ "-link", .link, attributesFor .link v.combination⟩ := by
  rw [(mem_variants.1 hv).2]
  rfl

theorem exists_link (hv : v ∈ c.variants) (h : c.linkages ≠ []) :
    ∃ l, v.identity.link = some l ∧ l.attributes = attributesFor .link v.combination := by
  obtain ⟨_, -, hlinkage⟩ := exists_linkage hv h
  exact ⟨_, by rw [link_eq hv, hlinkage, Option.map_some], rfl⟩

/-- How the attributes of two variants of one configuration match. -/
structure Matching (c : Configuration φ) (u v : Variant) : Prop where
  runtime : u.identity.runtime.attributes.satisfies v.identity.runtime.attributes ↔
    u.combination.Interchangeable v.combination
  link : c.linkages ≠ [] → ∃ k l, u.identity.link = some k ∧ v.identity.link = some l ∧
    (k.attributes.satisfies l.attributes ↔ u.combination.Interchangeable v.combination)
  unlinked : c.linkages = [] → v.identity.link = none
  crossed : ∀ l ∈ v.identity.link,
    ¬ u.identity.runtime.attributes.satisfies l.attributes ∧
      ¬ l.attributes.satisfies u.identity.runtime.attributes

theorem matching_of_mem (hu : u ∈ c.variants) (hv : v ∈ c.variants) : c.Matching u v where
  runtime := by
    rw [attributes_runtime hu, attributes_runtime hv]
    exact satisfies_attributesFor_iff_interchangeable (isSome_linkage_eq hu hv)
  link h := by
    obtain ⟨k, hk, hku⟩ := exists_link hu h
    obtain ⟨l, hl, hlv⟩ := exists_link hv h
    refine ⟨k, l, hk, hl, ?_⟩
    rw [hku, hlv]
    exact satisfies_attributesFor_iff_interchangeable (isSome_linkage_eq hu hv)
  unlinked h := by
    rw [link_eq hv, linkage_eq_none hv h, Option.map_none]
  crossed l hl := by
    rw [link_eq hv] at hl
    obtain ⟨_, -, rfl⟩ := Option.map_eq_some_iff.1 hl
    rw [attributes_runtime hu]
    exact ⟨not_satisfies_attributesFor (by decide), not_satisfies_attributesFor (by decide)⟩

/-- Of the variants of a valid configuration exactly those match whose machines, linkages and flags
are the same, for running and for linking alike. -/
theorem matching_of_validate (h : c.validate = .ok ()) :
    ∃ all, c.identifyVariants.result = .ok all ∧ ∀ u ∈ all, ∀ v ∈ all, c.Matching u v :=
  ⟨c.variants, (validate_eq_ok_iff.1 h).identifyVariants, fun _ hu _ hv => matching_of_mem hu hv⟩

theorem matching_of_validate_shadowing : shadowing.validate = .ok () ∧
    ∃ all, shadowing.identifyVariants.result = .ok all ∧
      ∀ u ∈ all, ∀ v ∈ all, shadowing.Matching u v :=
  have h : shadowing.validate = .ok () := by decide +kernel
  ⟨h, matching_of_validate h⟩

end Configuration

namespace VariantIdentity

/-- Two identities have contexts for the same usages, and what is viewed of the attributes of each
is equal. -/
structure OfferAlike (view : AttributeSet → AttributeSet) (i j : VariantIdentity) : Prop where
  runtime : view i.runtime.attributes == view j.runtime.attributes
  linked : i.link.isSome = j.link.isSome
  link : ∀ k ∈ i.link, ∀ l ∈ j.link, view k.attributes == view l.attributes

end VariantIdentity

section
variable {x y : Combination} {machines machines' : List Machine}
  {linkages linkages' : List (Option Linkage)} {names names' : ComponentNames}

/-- What equal identities tell of their combinations. -/
theorem eq_of_identityOf_beq
    (h : identityOf x machines linkages names == identityOf y machines' linkages' names') :
    variantName x machines linkages = variantName y machines' linkages' ∧
      x.machine = y.machine ∧ x.buildType.debuggable = y.buildType.debuggable ∧
        x.buildType.optimized = y.buildType.optimized ∧ x.linkage.isSome = y.linkage.isSome := by
  obtain ⟨hname, hdebuggable, hoptimized, hmachine, hlink, -⟩ := VariantIdentity.beq_iff.1 h
  refine ⟨hname, hmachine, hdebuggable, hoptimized, ?_⟩
  cases hx : x.linkage <;> cases hy : y.linkage <;> simp [identityOf, hx, hy] at hlink ⊢

theorem Combination.Interchangeable.attributesFor_beq (h : x.Interchangeable y) (u : Usage) :
    attributesFor u x == attributesFor u y := by
  have heq : attributesFor u x = attributesFor u y := by
    simp only [attributesFor, h.machine, h.linkage, h.debuggable, h.optimized]
  rw [heq]
  exact (plain_attributesFor u y).beq_self

theorem without_attributesFor (u : Usage) (x : Combination) :
    (attributesFor u x).without "linkage" = attributesFor u { x with linkage := none } := by
  cases hx : x.linkage <;>
    simp [AttributeSet.without, AttributeSet.ofList, Fields.ofList, Fields.put, Fields.remove,
      attributesFor, hx]

/-- Where a component has several linkages its names tell them apart. -/
theorem eq_of_linkageSuffix_eq {values : List (Option Linkage)} {b b' : String} {l l' : Linkage}
    (hl : some l ∈ values) (hl' : some l' ∈ values)
    (h : b ++ dimensionSuffix Linkage.name (some l) values =
      b' ++ dimensionSuffix Linkage.name (some l') values) : l = l' := by
  by_cases hlen : values.eraseDups.length ≤ 1
  · exact Option.some.inj (length_eraseDups_le_one_iff.1 hlen _ hl _ hl')
  · simp only [dimensionSuffix, hlen, if_false] at h
    exact (Linkage.append_token_inj.1 h).2

theorem linkage_eq_of_variantName_eq (hm : SameValues machines machines')
    (hl : SameValues linkages linkages') (hx : x.linkage ∈ none :: linkages)
    (hy : y.linkage ∈ none :: linkages') (hmachine : x.machine = y.machine)
    (hsome : x.linkage.isSome = y.linkage.isSome)
    (h : variantName x machines linkages = variantName y machines' linkages') :
    x.linkage = y.linkage := by
  -- what the machine adds stands behind what the linkage adds, and is the same in both names
  have hfamily := dimensionSuffix_congr id (some y.machine.family) (hm.map fun m => some m.family)
  have harchitecture := dimensionSuffix_congr id (some y.machine.architecture)
    (hm.map fun m => some m.architecture)
  have hlinkage := dimensionSuffix_congr Linkage.name x.linkage hl
  rw [variantName, variantName, hmachine, hfamily, harchitecture, hlinkage,
    String.append_left_inj, String.append_left_inj] at h
  cases hxl : x.linkage <;> cases hyl : y.linkage <;> simp only [hxl, hyl] at hsome hx hy h
  case none.none => rfl
  case none.some => cases hsome
  case some.none => cases hsome
  case some.some l l' =>
    have hmem : some l ∈ linkages' := (hl _).1 (by simpa using hx)
    have hmem' : some l' ∈ linkages' := by simpa using hy
    rw [eq_of_linkageSuffix_eq hmem hmem' h]

theorem offerAlike_identityOf {view : AttributeSet → AttributeSet}
    (hsome : x.linkage.isSome = y.linkage.isSome)
    (h : ∀ u, view (attributesFor u x) == view (attributesFor u y)) :
    (identityOf x machines linkages names).OfferAlike view
      (identityOf y machines' linkages' names') where
  runtime := h .runtime
  linked := by
    simp only [identityOf, Option.isSome_map, hsome]
  link k hk l hl := by
    obtain ⟨_, -, rfl⟩ := Option.map_eq_some_iff.1 hk
    obtain ⟨_, -, rfl⟩ := Option.map_eq_some_iff.1 hl
    exact h .link

variable {i j : VariantIdentity}

/-- Equal identities offer the same but for the linkage, and the same altogether exactly if they were
made for one linkage. That is so if the machines and the linkages of their components are the same,
as the names then tell what the linkages are. -/
theorem offerAlike_of_beq (hi : (identify x machines linkages names).result = .ok i)
    (hj : (identify y machines' linkages' names').result = .ok j) (h : i == j) :
    i.OfferAlike (·.without "linkage") j ∧ (i.OfferAlike id j ↔ x.linkage = y.linkage) ∧
      (SameValues machines machines' → SameValues linkages linkages' →
        x.linkage ∈ none :: linkages → y.linkage ∈ none :: linkages' → i.OfferAlike id j) := by
  obtain rfl : identityOf x machines linkages names = i := Except.ok.inj hi
  obtain rfl : identityOf y machines' linkages' names' = j := Except.ok.inj hj
  obtain ⟨hname, hmachine, hdebuggable, hoptimized, hsome⟩ := eq_of_identityOf_beq h
  have hwithout (u : Usage) : (attributesFor u x).without "linkage" ==
      (attributesFor u y).without "linkage" := by
    have hunlinked : { x with linkage := none }.Interchangeable { y with linkage := none } :=
      ⟨hmachine, rfl, hdebuggable, hoptimized⟩
    rw [without_attributesFor, without_attributesFor]
    exact hunlinked.attributesFor_beq u
  have hiff : (identityOf x machines linkages names).OfferAlike id
      (identityOf y machines' linkages' names') ↔ x.linkage = y.linkage := by
    constructor
    · intro halike
      -- equal sets satisfy each other, so they tell one linkage
      have hsatisfies := ((AttributeSet.beq_iff_satisfies (plain_attributesFor ..)
        (plain_attributesFor ..)).1 halike.runtime).1
      exact ((satisfies_attributesFor_iff_interchangeable hsome).1 hsatisfies).linkage
    · intro hl
      have hxy : x.Interchangeable y := ⟨hmachine, hl, hdebuggable, hoptimized⟩
      exact offerAlike_identityOf hsome hxy.attributesFor_beq
  refine ⟨offerAlike_identityOf hsome hwithout, hiff, fun hm hl hx hy => hiff.2 ?_⟩
  exact linkage_eq_of_variantName_eq hm hl hx hy hmachine hsome hname

/-- No names that can be read. -/
def unnamed : ComponentNames :=
  ⟨.undefined none, .undefined none, .undefined none⟩

/-- A shared debug library for one machine. -/
def sharedDebug : Combination :=
  ⟨BuildType.debug, ⟨"linux", "x86-64"⟩, some .shared⟩

theorem offerAlike_of_beq_sharedDebug :
    let machines : List Machine := [⟨"linux", "x86-64"⟩, ⟨"macos", "aarch64"⟩]
    let linkages := [some Linkage.shared, some .static]
    let i := identityOf sharedDebug machines linkages unnamed
    let j := identityOf sharedDebug machines.reverse (linkages.reverse ++ linkages) unnamed
    (i == j) = true ∧ i.OfferAlike (·.without "linkage") j ∧ i.OfferAlike id j := by
  intro machines linkages i j
  have hi : (identify sharedDebug machines linkages unnamed).result = .ok i := rfl
  have hj : (identify sharedDebug machines.reverse (linkages.reverse ++ linkages)
    unnamed).result = .ok j := rfl
  have h : (i == j) = true := by decide +kernel
  obtain ⟨hwithout, -, hid⟩ := offerAlike_of_beq hi hj h
  exact ⟨h, hwithout, hid (by decide) (by decide) (by decide) (by decide)⟩

/-- Equal identities may offer different linkages, as a name does not tell the only linkage of a
component. -/
theorem not_offerAlike_of_beq : ¬ ∀ (x y : Combination) (machines machines' : List Machine)
    (linkages linkages' : List (Option Linkage)) (names names' : ComponentNames)
    (i j : VariantIdentity),
      (identify x machines linkages names).result = .ok i →
        (identify y machines' linkages' names').result = .ok j → (i == j) = true →
          i.OfferAlike id j := by
  intro h
  have halike := h sharedDebug { sharedDebug with linkage := some .static } [⟨"linux", "x86-64"⟩]
    [⟨"linux", "x86-64"⟩] [some .shared] [some .static] unnamed unnamed _ _ rfl rfl (by decide +kernel)
  exact absurd halike.runtime (by decide +kernel)

end

end NativeVariants
