import Mathlib.Data.List.Forall2
import NativeVariants.Proofs.Attributes
import NativeVariants.Proofs.Configuring

/-!
# Interfaces of libraries

The linkage of a library binary is told in several places: it chooses the factory, it is among the
attributes of the variant for each usage, and it is published. `PublishedAs` says that all of them
tell the same linkage, and so does every binary of a new library that is configured. What a library
publishes is therefore what its binary offers for running, but for the usage.
-/

namespace NativeVariants

theorem fields_ofBinary (b : Binary) :
    (Publication.ofBinary b).attributes.fields =
      [("usage", .usage .api),
        ("linkage", .linkage (if b.kind = .sharedLibrary then .shared else .static)),
        ("debuggable", .plain (.bool b.isDebuggable)),
        ("optimized", .plain (.bool b.variant.identity.optimized)),
        ("operating-system-family", .plain (.string b.machine.family))] := by
  simp [Publication.ofBinary, AttributeSet.ofList, Fields.ofList, Fields.put]

theorem Linkage.ite_kind (x : Linkage) :
    (if x.kind = .sharedLibrary then Linkage.shared else .static) = x := by
  cases x <;> rfl

/-- A library binary and what is published of it tell one linkage wherever they tell one. -/
structure PublishedAs (l : Language) (x : Linkage) (b : Binary) (p : Publication) : Prop where
  language : b.language = l
  kind : b.kind = x.kind
  linkage : b.variant.combination.linkage = some x
  runtime : b.variant.identity.runtime.attributes.get? "linkage" = some (.linkage x)
  link : ∃ context, b.variant.identity.link = some context ∧
    context.attributes.get? "linkage" = some (.linkage x)
  published : p.attributes.get? "linkage" = some (.linkage x)
  /-- The binary offers at run time all that is published but the usage. -/
  offered : b.variant.identity.runtime.attributes.satisfies (p.attributes.without "usage")

namespace Component

variable {c : Component} {request : ConfigureRequest} {l : Language} {linkages : List Linkage}
  {project : Project} {host : Host}

theorem kind_binaryOf {φ : Type} (config : Configuration φ) {combination : Combination}
    {x : Linkage} (h : combination.linkage = some x) :
    (c.binaryOf l (config.variantOf combination)).kind = x.kind := by
  simp [binaryOf, Configuration.variantOf, Variant.kind, h]

theorem fields_publication {φ : Type} (config : Configuration φ) {combination : Combination}
    {x : Linkage} (h : combination.linkage = some x) :
    (Publication.ofBinary (c.binaryOf l (config.variantOf combination))).attributes.fields =
      [("usage", .usage .api), ("linkage", .linkage x),
        ("debuggable", .plain (.bool combination.buildType.debuggable)),
        ("optimized", .plain (.bool combination.buildType.optimized)),
        ("operating-system-family", .plain (.string combination.machine.family))] := by
  rw [fields_ofBinary, kind_binaryOf config h, Linkage.ite_kind]
  rfl

theorem publishedAs_ofBinary {φ : Type} (config : Configuration φ) {combination : Combination}
    {x : Linkage} (h : combination.linkage = some x) :
    PublishedAs l x (c.binaryOf l (config.variantOf combination))
      (.ofBinary (c.binaryOf l (config.variantOf combination))) := by
  have hlinkage (u : Usage) : (attributesFor u combination).get? "linkage" = some (.linkage x) := by
    obtain ⟨-, -, -, hlinkage, -⟩ := get?_attributesFor u combination
    rw [hlinkage, h, Option.map_some]
  have hlink : (config.variantOf combination).identity.link =
      some ⟨(config.variantOf combination).name ++ "-link", .link,
        attributesFor .link combination⟩ := by
    simp only [Configuration.variantOf, identityOf, h, Option.map_some]
    rfl
  refine ⟨rfl, kind_binaryOf config h, h, hlinkage .runtime, ⟨_, hlink, hlinkage .link⟩, ?_, ?_⟩
  · rw [AttributeSet.get?, fields_publication config h]
    simp only [Fields.get?_cons_self, Fields.get?_cons_of_ne, ne_eq, String.reduceEq,
      not_false_eq_true]
  · obtain ⟨-, hdebuggable, hoptimized, -, hfamily, -⟩ := get?_attributesFor .runtime combination
    show (attributesFor .runtime combination).satisfies _
    rw [AttributeSet.satisfies, AttributeSet.offers_published, AttributeSet.without,
      fields_publication config h, Fields.remove_cons_self]
    simp only [AttributeSet.offers, List.all_cons, List.all_nil, Bool.and_true, Bool.and_eq_true,
      hlinkage, hdebuggable, hoptimized, hfamily, Option.any_some, Attribute.same_linkage_iff,
      Attribute.same_bool_iff, Attribute.same_string_iff, and_self]

/-- Whatever linkages a new library names, and in whatever language it is asked for, each of its
binaries is made by a factory of that language for the linkage of its variant, and published under
this linkage. -/
theorem publishedAs_configure (hc : c.type = .library) (hbinaries : c.binaries = [])
    (hpublications : c.publications = [])
    (h : (c.configure project host request).1.result.isOk) :
    ∃ l linkages, c.Accepted request l linkages ∧
      (c.configure project host request).2.binaries =
        c.made request l linkages project host ∧
      List.Forall₂ (fun b p => ∃ x ∈ linkages, PublishedAs l x b p)
        (c.configure project host request).2.binaries
        (c.configure project host request).2.publications := by
  obtain ⟨l, linkages, haccepted, hafter⟩ := exists_accepted_of_isOk h
  have hmade : (c.configure project host request).2.binaries =
      c.made request l linkages project host := by
    rw [hafter, withBinaries, hbinaries, List.nil_append]
  have hpublished : (c.configure project host request).2.publications =
      (c.made request l linkages project host).map Publication.ofBinary := by
    rw [hafter, withBinaries, if_pos hc, hbinaries, hpublications, List.nil_append, List.nil_append]
  refine ⟨l, linkages, haccepted, hmade, ?_⟩
  rw [hmade, hpublished, List.forall₂_map_right_iff, List.forall₂_same]
  intro b hb
  obtain ⟨v, hv, rfl⟩ := List.mem_map.1 hb
  have hv := (List.mem_filter.1 hv).1
  obtain ⟨-, x, hx, hlinkage⟩ | ⟨happlication, -⟩ := haccepted.linkage_eq hv
  · refine ⟨x, hx, ?_⟩
    rw [(Configuration.mem_variants.1 hv).2]
    exact publishedAs_ofBinary _ hlinkage
  · cases hc.symm.trans happlication

/-- A new library with both linkages, for two families. -/
def prism : Component where
  type := .library
  module := .string "Prism"
  baseName := .string "prism"
  machines := [⟨"linux", "x86-64"⟩, ⟨"windows", "x86"⟩]
  linkages := some [.string "static", .string "shared"]

/-- A request in a language that is not the general one. -/
def swiftly : ConfigureRequest where
  language := "Swift"

theorem publishedAs_configure_prism :
    prism.Accepted swiftly .swift [.static, .shared] ∧
    (prism.configure ⟨.string "prism", .null, .null⟩ {} swiftly).2.binaries =
      prism.made swiftly .swift [.static, .shared] ⟨.string "prism", .null, .null⟩ {} ∧
    List.Forall₂ (fun b p => ∃ x ∈ [Linkage.static, .shared], PublishedAs .swift x b p)
      (prism.configure ⟨.string "prism", .null, .null⟩ {} swiftly).2.binaries
      (prism.configure ⟨.string "prism", .null, .null⟩ {} swiftly).2.publications := by
  have hisOk : (prism.configure ⟨.string "prism", .null, .null⟩ {} swiftly).1.result.isOk := by
    decide +kernel
  obtain ⟨l, linkages, haccepted, hmade, hpublished⟩ := publishedAs_configure rfl rfl rfl hisOk
  have hlanguage : Language.ofText swiftly.language = .ok .swift := by decide +kernel
  have hlinkages : (prism.linkages.getD []).mapM Linkage.ofValue = .ok [.static, .shared] := by
    decide +kernel
  obtain rfl : l = .swift := Except.ok.inj (haccepted.language.symm.trans hlanguage)
  obtain rfl := Except.ok.inj ((haccepted.library rfl).1.symm.trans hlinkages)
  exact ⟨haccepted, hmade, hpublished⟩

example : (prism.configure ⟨.string "prism", .null, .null⟩ {} swiftly).2.publications.map
    (fun p => (p.name, p.artifact)) =
      [("debugStaticLinuxX86_64SwiftApiElements", "Prism.swiftmodule"),
        ("debugSharedLinuxX86_64SwiftApiElements", "Prism.swiftmodule"),
        ("releaseStaticLinuxX86_64SwiftApiElements", "Prism.swiftmodule"),
        ("releaseSharedLinuxX86_64SwiftApiElements", "Prism.swiftmodule")] := by
  decide +kernel

end Component

end NativeVariants
