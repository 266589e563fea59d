import NativeVariants.Identity
import NativeVariants.Proofs.Folding

/-!
# Tokens of dimension values

A token is made of the words of a value. `Spaced` says which words a text consists of without cutting
it, and cutting finds exactly these (`words_eq_iff`), so a token does not depend on how the words are
spaced. Upper case makes neither a separator nor a dash of another character (`eq_of_mem_upperChar`),
so a token holds no separators. Of each word only what stands behind its first character is lowered:
a dash that begins a word stays. `cleanToken_iff` gives what holds of all tokens, and that a token is
clean exactly if no dash of the value stands first or right behind a separator.
-/

namespace NativeVariants

namespace Text

/-! ### Words and the runs between them -/

section
variable (isSeparator : Char → Bool)

/-- The text consists of these words, one after the other, with runs of separators between them.
There may be runs at its ends too. -/
inductive Spaced : List Char → List (List Char) → Prop
  | nil : Spaced [] []
  | gap {s : Char} {cs : List Char} {ws : List (List Char)} (hs : isSeparator s = true)
    (h : Spaced cs ws) : Spaced (s :: cs) ws
  | last {w : List Char} (hne : w ≠ []) (hw : ∀ c ∈ w, isSeparator c = false) : Spaced w [w]
  | word {s : Char} {w cs : List Char} {ws : List (List Char)} (hne : w ≠ [])
    (hw : ∀ c ∈ w, isSeparator c = false) (hs : isSeparator s = true) (h : Spaced cs ws) :
    Spaced (w ++ s :: cs) (w :: ws)

/-- The character stands first in the text or right behind a separator. -/
def Leads (x : Char) (cs : List Char) : Prop :=
  ∃ before after, cs = before ++ x :: after ∧ ∀ c ∈ before.getLast?, isSeparator c = true

end

section
variable {isSeparator : Char → Bool} {s x : Char} {w cs : List Char} {ws : List (List Char)}

theorem words_append_cons (hs : isSeparator s = true) (front rest : List Char) :
    words isSeparator (front ++ s :: rest) = words isSeparator front ++ words isSeparator rest := by
  rw [words, List.splitOnP_append_cons front rest hs, List.filter_append]
  rfl

theorem words_cons (hs : isSeparator s = true) (cs : List Char) :
    words isSeparator (s :: cs) = words isSeparator cs :=
  words_append_cons hs [] cs

theorem words_of_unseparated (hne : w ≠ []) (hw : ∀ c ∈ w, isSeparator c = false) :
    words isSeparator w = [w] := by
  simp [words, List.splitOnP_eq_singleton hw, hne]

theorem Spaced.words_eq (h : Spaced isSeparator cs ws) : words isSeparator cs = ws := by
  induction h with
  | nil => rfl
  | gap hs _ ih => rw [words_cons hs, ih]
  | last hne hw => exact words_of_unseparated hne hw
  | word hne hw hs _ ih =>
    rw [words_append_cons hs, words_of_unseparated hne hw, ih, List.singleton_append]

/-- Every text is spaced, by induction on what stands behind the beginning `w` of a word. -/
theorem spaced_append (hw : ∀ c ∈ w, isSeparator c = false) (cs : List Char) :
    Spaced isSeparator (w ++ cs) (words isSeparator (w ++ cs)) := by
  induction cs generalizing w with
  | nil =>
    rw [List.append_nil]
    rcases eq_or_ne w [] with rfl | hne
    · exact .nil
    · rw [words_of_unseparated hne hw]
      exact .last hne hw
  | cons c cs ih =>
    cases hc : isSeparator c with
    | true =>
      have hrest : Spaced isSeparator cs (words isSeparator cs) :=
        ih fun _ h => absurd h List.not_mem_nil
      rw [words_append_cons hc]
      rcases eq_or_ne w [] with rfl | hne
      · exact .gap hc hrest
      · rw [words_of_unseparated hne hw]
        exact .word hne hw hc hrest
    | false =>
      have hlonger : ∀ d ∈ w ++ [c], isSeparator d = false := by
        simpa [or_imp, forall_and, hc] using hw
      simpa using ih hlonger

/-- Cutting finds the words of which a text consists. -/
theorem words_eq_iff : words isSeparator cs = ws ↔ Spaced isSeparator cs ws :=
  ⟨fun h => h ▸ spaced_append (w := []) (fun _ h => absurd h List.not_mem_nil) cs, Spaced.words_eq⟩

theorem Spaced.unseparated (h : Spaced isSeparator cs ws) :
    ∀ w ∈ ws, ∀ c ∈ w, isSeparator c = false := by
  induction h with
  | nil => simp
  | gap _ _ ih => exact ih
  | last _ hw => simpa using hw
  | word _ hw _ _ ih => exact List.forall_mem_cons.2 ⟨hw, ih⟩

theorem leads_iff_head? (hw : ∀ c ∈ w, isSeparator c = false) :
    Leads isSeparator x w ↔ w.head? = some x := by
  constructor
  · rintro ⟨before, after, rfl, hlast⟩
    cases hb : before.getLast? with
    | none => simp [List.getLast?_eq_none_iff.1 hb]
    | some c =>
      have hc := hw c (List.mem_append_left _ (List.mem_of_getLast? hb))
      simp [hlast c hb] at hc
  · intro h
    obtain ⟨rest, rfl⟩ := List.head?_eq_some_iff.1 h
    exact ⟨[], rest, rfl, by simp⟩

/-- A separator keeps apart what stands before and behind it. -/
theorem leads_append_cons (hx : isSeparator x = false) (hs : isSeparator s = true)
    (front rest : List Char) : Leads isSeparator x (front ++ s :: rest) ↔
      Leads isSeparator x front ∨ Leads isSeparator x rest := by
  have hne : s ≠ x := fun heq => by simp [heq, hx] at hs
  constructor
  · rintro ⟨before, after, heq, hlast⟩
    rcases List.append_eq_append_iff.1 heq with ⟨u, rfl, hu⟩ | ⟨u, rfl, hu⟩
    · cases u with
      | nil => exact absurd (List.cons.inj hu).1 hne
      | cons _ u =>
        obtain ⟨rfl, rfl⟩ := List.cons.inj hu
        refine .inr ⟨u, after, rfl, fun c hc => hlast c ?_⟩
        simp [List.getLast?_append, List.getLast?_cons, Option.mem_def.1 hc]
    · cases u with
      | nil => exact absurd (List.cons.inj hu).1.symm hne
      | cons _ u =>
        obtain ⟨rfl, rfl⟩ := List.cons.inj hu
        exact .inl ⟨before, u, rfl, hlast⟩
  · rintro (⟨before, after, rfl, hlast⟩ | ⟨before, after, rfl, hlast⟩)
    · exact ⟨before, after ++ s :: rest, by simp, hlast⟩
    · refine ⟨front ++ s :: before, after, by simp, fun c hc => ?_⟩
      cases hb : before.getLast? with
      | none =>
        rw [List.getLast?_eq_none_iff.1 hb, List.getLast?_concat, Option.mem_some_iff] at hc
        rwa [← hc]
      | some d =>
        simp [List.getLast?_append, List.getLast?_cons, hb] at hc
        exact hlast c (hc ▸ hb)

/-- What stands first or right behind a separator begins a word. -/
theorem Spaced.leads_iff (hx : isSeparator x = false) (h : Spaced isSeparator cs ws) :
    Leads isSeparator x cs ↔ ∃ w ∈ ws, w.head? = some x := by
  induction h with
  | nil => rw [leads_iff_head? (by simp)]; simp
  | gap hs _ ih =>
    have hnil : ¬ Leads isSeparator x [] := by rw [leads_iff_head? (by simp)]; simp
    rw [← ih, ← List.nil_append (_ :: _), leads_append_cons hx hs]
    simp [hnil]
  | last _ hw => rw [leads_iff_head? hw]; simp
  | word _ hw hs _ ih => rw [leads_append_cons hx hs, leads_iff_head? hw, ih]; simp

end

/-! ### Replaced characters -/

theorem replaceChar_append (old new : Char) (cs ds : List Char) :
    replaceChar old new (cs ++ ds) = replaceChar old new cs ++ replaceChar old new ds :=
  List.map_append

theorem replaceChar_flatMap {α : Type} (old new : Char) (f : α → List Char) (items : List α) :
    replaceChar old new (items.flatMap f) = items.flatMap fun item => replaceChar old new (f item) :=
  List.map_flatMap

theorem not_mem_replaceChar {old new : Char} (h : new ≠ old) (cs : List Char) :
    old ∉ replaceChar old new cs := by
  intro hmem
  obtain ⟨c, -, hc⟩ := List.mem_map.1 hmem
  split at hc
  · exact h hc
  · exact absurd hc ‹_›

theorem replaceChar_of_not_mem {old new : Char} {cs : List Char} (h : old ∉ cs) :
    replaceChar old new cs = cs := by
  have hself : ∀ c ∈ cs, (if c = old then new else c) = id c := by
    intro c hc
    have hne : c ≠ old := fun heq => h (heq ▸ hc)
    rw [if_neg hne, id]
  rw [replaceChar, List.map_congr_left hself, List.map_id]

theorem replaceChar_eq_self_iff {old new : Char} (h : new ≠ old) {cs : List Char} :
    replaceChar old new cs = cs ↔ old ∉ cs :=
  ⟨fun heq => by rw [← heq]; exact not_mem_replaceChar h cs, replaceChar_of_not_mem⟩

end Text

open Text

/-! ### What no token should hold -/

/-- What stands between the words of a dimension value: white space and full stops. -/
def isDivider (c : Char) : Bool :=
  isBlank c || c == '.'

/-- What a token is to be clean of: dividers and dashes. -/
def isMark (c : Char) : Bool :=
  isDivider c || c == '-'

theorem isMark_ofNat {n : Nat} (hl : 65 ≤ n)
    (h : ∀ p ∈ CaseRun.laterBlanks, n < p.1 ∨ p.2 < n) : isMark (Char.ofNat n) = false := by
  by_cases hv : n.isValidChar
  · have hn : (Char.ofNat n).toNat = n := toNat_ofNat hv
    have hblank : isBlank (Char.ofNat n) = false :=
      isBlank_eq_false (by omega) (by rwa [hn])
    have hne : ∀ c : Char, c.toNat < 65 → Char.ofNat n ≠ c := by
      rintro c hc rfl
      omega
    simp [isMark, isDivider, hblank, hne '.' (by decide), hne '-' (by decide)]
  · -- no character has such a code point
    rw [Char.ofNat, dif_neg hv]
    decide

theorem unmarked_upperRuns : ∀ r ∈ upperRuns, 65 ≤ r.firstImage ∧
    ∀ p ∈ CaseRun.laterBlanks, r.lastImage < p.1 ∨ p.2 < r.firstImage := by
  decide +kernel

theorem unmarked_upperSeveral : ∀ p ∈ upperSeveral, ∀ n ∈ p.2, isMark (Char.ofNat n) = false := by
  decide +kernel

/-- Upper case makes no divider and no dash of another character. -/
theorem eq_of_mem_upperChar {c d : Char} (h : d ∈ upperChar c) (hd : isMark d = true) : d = c := by
  rcases mapCase_cases upperSeveral upperRuns c with heq | ⟨p, hp, heq⟩ | ⟨r, hr, hc, heq⟩ <;>
    rw [upperChar, heq] at h
  · exact List.mem_singleton.1 h
  · obtain ⟨n, hn, rfl⟩ := List.mem_map.1 h
    simp [unmarked_upperSeveral p hp n hn] at hd
  · obtain ⟨hl, hlater⟩ := unmarked_upperRuns r hr
    obtain ⟨hfirst, hlast⟩ := CaseRun.image_bounds hc
    have hno : isMark d = false := by
      rw [List.mem_singleton.1 h]
      refine isMark_ofNat (hl.trans hfirst) fun p hp => ?_
      have := hlater p hp
      omega
    simp [hno] at hd

namespace dimensionToken

variable {w : List Char}

theorem notDivider_of_mem_token (hw : ∀ c ∈ w, isDivider c = false) {d : Char} (hd : d ∈ token w) :
    isDivider d = false := by
  cases w with
  | nil => cases hd
  | cons c cs =>
    obtain ⟨hc, hcs⟩ := List.forall_mem_cons.1 hw
    rcases List.mem_append.1 hd with hd | hd
    · rw [Bool.eq_false_iff]
      intro hdiv
      rw [eq_of_mem_upperChar hd (by simp [isMark, hdiv]), hc] at hdiv
      cases hdiv
    · obtain ⟨e, he, rfl⟩ := List.mem_map.1 hd
      split
      · decide
      · exact hcs e he

/-- A dash is left where it is the first character, and nowhere else. -/
theorem count_token (w : List Char) :
    (token w).count '-' = if w.head? = some '-' then 1 else 0 := by
  cases w with
  | nil => rfl
  | cons c cs =>
    have hrest : (replaceChar '-' '_' cs).count '-' = 0 :=
      List.count_eq_zero.2 (not_mem_replaceChar (by decide) cs)
    rw [token, List.count_append, hrest, Nat.add_zero, List.head?_cons]
    by_cases hc : c = '-'
    · subst hc
      decide +kernel
    · have hfirst : (upperChar c).count '-' = 0 :=
        List.count_eq_zero.2 fun h => hc (eq_of_mem_upperChar h (by decide)).symm
      rw [hfirst, if_neg (by simpa using hc)]

/-- With its dashes lowered a token is the word with a capital and with all dashes lowered. -/
theorem replaceChar_token (w : List Char) :
    replaceChar '-' '_' (token w) = replaceChar '-' '_' (capitalizeChars w) := by
  cases w with
  | nil => rfl
  | cons c cs =>
    have hrest : replaceChar '-' '_' (replaceChar '-' '_' cs) = replaceChar '-' '_' cs :=
      replaceChar_of_not_mem (not_mem_replaceChar (by decide) cs)
    rw [token, capitalizeChars, replaceChar_append, replaceChar_append, hrest]

end dimensionToken

/-! ### Tokens of values -/

/-- Values that consist of the same words: they differ in the runs of dividers alone, in how long
these are and what they are made of. -/
def Respaced (a b : String) : Prop :=
  ∃ ws, Spaced isDivider a.toList ws ∧ Spaced isDivider b.toList ws

/-- The token as the rule has it: the words with capitals, joined, and all dashes lowered. -/
def loweredToken (value : String) : String :=
  String.ofList
    (replaceChar '-' '_' ((words isDivider value.toList).flatMap capitalizeChars))

/-- What the token of a value should be: free of white space, full stops and dashes, every dash
lowered, and the same however the words are spaced. -/
structure CleanToken (value : String) : Prop where
  blank : ∀ c ∈ (dimensionToken value).toList, isBlank c = false
  stop : '.' ∉ (dimensionToken value).toList
  dash : '-' ∉ (dimensionToken value).toList
  lowered : dimensionToken value = loweredToken value
  respaced : ∀ other, Respaced value other → dimensionToken other = dimensionToken value

theorem toList_dimensionToken (value : String) : (dimensionToken value).toList =
    (words isDivider value.toList).flatMap dimensionToken.token := by
  rw [dimensionToken, String.toList_ofList]
  rfl

theorem Respaced.dimensionToken_eq {a b : String} (h : Respaced a b) :
    dimensionToken b = dimensionToken a := by
  obtain ⟨ws, ha, hb⟩ := h
  rw [← String.toList_inj, toList_dimensionToken, toList_dimensionToken, ha.words_eq, hb.words_eq]

theorem notDivider_of_mem_dimensionToken {value : String} {c : Char}
    (hc : c ∈ (dimensionToken value).toList) : isDivider c = false := by
  rw [toList_dimensionToken] at hc
  obtain ⟨w, hw, hc⟩ := List.mem_flatMap.1 hc
  have hspaced : Spaced isDivider value.toList (words isDivider value.toList) := words_eq_iff.1 rfl
  exact dimensionToken.notDivider_of_mem_token (hspaced.unseparated w hw) hc

theorem count_dimensionToken (value : String) : (dimensionToken value).toList.count '-' =
    (words isDivider value.toList).countP fun w => w.head? = some '-' := by
  rw [toList_dimensionToken]
  induction words isDivider value.toList with
  | nil => rfl
  | cons w ws ih =>
    rw [List.flatMap_cons, List.count_append, ih, dimensionToken.count_token, List.countP_cons,
      Nat.add_comm]
    simp only [decide_eq_true_eq]

theorem dash_mem_dimensionToken_iff (value : String) :
    '-' ∈ (dimensionToken value).toList ↔ Leads isDivider '-' value.toList := by
  have hspaced : Spaced isDivider value.toList (words isDivider value.toList) := words_eq_iff.1 rfl
  rw [← List.count_pos_iff, count_dimensionToken, List.countP_pos_iff,
    hspaced.leads_iff (by decide)]
  simp only [decide_eq_true_eq]

theorem loweredToken_eq (value : String) :
    loweredToken value = String.ofList (replaceChar '-' '_' (dimensionToken value).toList) := by
  simp only [loweredToken, toList_dimensionToken, replaceChar_flatMap,
    dimensionToken.replaceChar_token]

theorem eq_loweredToken_iff (value : String) :
    dimensionToken value = loweredToken value ↔ '-' ∉ (dimensionToken value).toList := by
  rw [loweredToken_eq, ← String.toList_inj, String.toList_ofList, eq_comm,
    replaceChar_eq_self_iff (by decide)]

/-- A token holds neither white space nor full stops and does not depend on how the words are spaced.
It is what the rule says but for the dashes that it keeps, one for each word that begins with one, so
it is clean exactly if no dash of the value stands first or right behind white space or a full stop. -/
theorem cleanToken_iff (value : String) :
    (∀ c ∈ (dimensionToken value).toList, isBlank c = false ∧ c ≠ '.') ∧
      (∀ other, Respaced value other → dimensionToken other = dimensionToken value) ∧
      loweredToken value = String.ofList (replaceChar '-' '_' (dimensionToken value).toList) ∧
      ((dimensionToken value).toList.count '-' =
        (words isDivider value.toList).countP fun w => w.head? = some '-') ∧
      (CleanToken value ↔ ¬ Leads isDivider '-' value.toList) := by
  have hplain : ∀ c ∈ (dimensionToken value).toList, isBlank c = false ∧ c ≠ '.' := by
    intro c hc
    simpa [isDivider] using notDivider_of_mem_dimensionToken hc
  have hrespaced : ∀ other, Respaced value other → dimensionToken other = dimensionToken value :=
    fun _ h => h.dimensionToken_eq
  refine ⟨hplain, hrespaced, loweredToken_eq value, count_dimensionToken value, ?_⟩
  rw [← dash_mem_dimensionToken_iff]
  refine ⟨fun h => h.dash, fun hdash => ?_⟩
  exact
    { blank := fun c hc => (hplain c hc).1
      stop := fun hc => (hplain _ hc).2 rfl
      dash := hdash
      lowered := (eq_loweredToken_iff value).2 hdash
      respaced := hrespaced }

theorem cleanToken_iff_x86 : CleanToken "x86-64 sse-2" ∧
    Respaced "x86-64 sse-2" ".x86-64\t. sse-2\n" ∧
    dimensionToken ".x86-64\t. sse-2\n" = "X86_64Sse_2" := by
  obtain ⟨-, hrespaced, -, -, hiff⟩ := cleanToken_iff "x86-64 sse-2"
  have hclean : CleanToken "x86-64 sse-2" :=
    hiff.2 (by rw [← dash_mem_dimensionToken_iff]; decide +kernel)
  have hr : Respaced "x86-64 sse-2" ".x86-64\t. sse-2\n" :=
    ⟨["x86-64".toList, "sse-2".toList], words_eq_iff.1 (by decide +kernel),
      words_eq_iff.1 (by decide +kernel)⟩
  have htoken : dimensionToken "x86-64 sse-2" = "X86_64Sse_2" := by decide +kernel
  exact ⟨hclean, hr, (hrespaced _ hr).trans htoken⟩

/-- Not every token is clean: that of `arm -v7` is `Arm-v7`. -/
theorem not_cleanToken_armV7 : ¬ ∀ value : String, CleanToken value := by
  intro h
  exact (h "arm -v7").dash (by decide +kernel)

end NativeVariants
