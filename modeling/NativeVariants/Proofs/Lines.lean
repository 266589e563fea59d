import Mathlib.Data.List.TakeWhile
import NativeVariants.Text.Blank
import NativeVariants.Text.Lines
import NativeVariants.Text.Search

/-!
# Lines and what occurs in them

What is read of a text line by line falls apart at every line feed (`fileLineChars_append`), and what
precedes a text on its line precedes its first line. A word occurs on either side of a character that
it does not have, or not at all (`infix_append_cons_iff`); so trimming takes away no word without
white space.
-/

namespace NativeVariants.Text

/-! ### Occurrences -/

variable {needle xs ys bs cs : List Char} {c : Char}

theorem occursIn_iff {needle cs : List Char} : occursIn needle cs ↔ needle <:+: cs := by
  induction cs with
  | nil => simp [occursIn]
  | cons c cs ih =>
    rw [occursIn, Bool.or_eq_true, ih, List.infix_cons_iff, List.isPrefixOf_iff_prefix]

theorem holds_iff {s needle : String} : holds s needle ↔ needle.toList <:+: s.toList :=
  occursIn_iff

theorem prefix_append_cons_iff (hc : c ∉ needle) :
    needle <+: xs ++ c :: ys ↔ needle <+: xs := by
  constructor
  · intro h
    rcases List.prefix_or_prefix_of_prefix h (List.prefix_append xs (c :: ys)) with h' | ⟨r, rfl⟩
    · exact h'
    · rw [List.prefix_append_right_inj] at h
      cases r with
      | nil => simp
      | cons d r =>
        have hd : d = c := (List.cons_prefix_cons.1 h).1
        exact absurd (by simp [hd]) hc
  · intro h
    exact h.trans (List.prefix_append xs (c :: ys))

theorem infix_append_cons_iff (hn : needle ≠ []) (hc : c ∉ needle) :
    needle <:+: xs ++ c :: ys ↔ needle <:+: xs ∨ needle <:+: ys := by
  induction xs with
  | nil =>
    have hstart : ¬ needle <+: c :: ys := by
      intro h
      have hnil : needle <+: [] := (prefix_append_cons_iff hc).1 h
      exact hn (List.prefix_nil.1 hnil)
    rw [List.nil_append, List.infix_cons_iff, List.infix_nil]
    simp [hstart, hn]
  | cons x xs ih =>
    rw [List.cons_append, List.infix_cons_iff, ih, List.infix_cons_iff, ← List.cons_append,
      prefix_append_cons_iff hc, or_assoc]

theorem infix_append_iff_right (hn : needle ≠ []) (hb : ∀ b ∈ bs, b ∉ needle) :
    needle <:+: bs ++ xs ↔ needle <:+: xs := by
  induction bs with
  | nil => rfl
  | cons b bs ih =>
    have hcons : needle <:+: [] ++ b :: (bs ++ xs) ↔ needle <:+: [] ∨ needle <:+: bs ++ xs :=
      infix_append_cons_iff hn (hb b List.mem_cons_self)
    rw [List.nil_append, List.infix_nil] at hcons
    rw [List.cons_append, hcons, ih fun d hd => hb d (List.mem_cons_of_mem b hd)]
    simp [hn]

theorem infix_append_iff_left (hn : needle ≠ []) (hb : ∀ b ∈ bs, b ∉ needle) :
    needle <:+: xs ++ bs ↔ needle <:+: xs := by
  cases bs with
  | nil => rw [List.append_nil]
  | cons b bs =>
    have hrest : needle <:+: bs ↔ needle <:+: [] := by
      have h : needle <:+: bs ++ [] ↔ needle <:+: [] :=
        infix_append_iff_right hn fun d hd => hb d (List.mem_cons_of_mem b hd)
      rwa [List.append_nil] at h
    rw [infix_append_cons_iff hn (hb b List.mem_cons_self), hrest, List.infix_nil]
    simp [hn]

theorem not_mem_of_mem_takeWhile (hb : ∀ c ∈ needle, isBlank c = false) :
    ∀ b ∈ cs.takeWhile isBlank, b ∉ needle := by
  intro b hmem hin
  have hblank := List.mem_takeWhile_imp hmem
  rw [hb b hin] at hblank
  cases hblank

theorem infix_dropTrailing_iff (hn : needle ≠ []) (hb : ∀ c ∈ needle, isBlank c = false) :
    needle <:+: dropTrailing cs ↔ needle <:+: cs := by
  have hsplit : cs = dropTrailing cs ++ (cs.reverse.takeWhile isBlank).reverse := by
    rw [dropTrailing, ← List.reverse_append, List.takeWhile_append_dropWhile, List.reverse_reverse]
  have hblank : ∀ b ∈ (cs.reverse.takeWhile isBlank).reverse, b ∉ needle :=
    fun b hmem => not_mem_of_mem_takeWhile hb b (List.mem_reverse.1 hmem)
  conv => rhs; rw [hsplit]
  exact (infix_append_iff_left hn hblank).symm

/-- No word without white space is lost when a text is trimmed. -/
theorem infix_trimChars_iff (hn : needle ≠ []) (hb : ∀ c ∈ needle, isBlank c = false) :
    needle <:+: trimChars cs ↔ needle <:+: cs := by
  rw [trimChars, infix_dropTrailing_iff hn hb]
  conv => rhs; rw [← List.takeWhile_append_dropWhile (p := isBlank) (l := cs)]
  exact (infix_append_iff_right hn (not_mem_of_mem_takeWhile hb)).symm

/-! ### Lines -/

/-- The lines of a text as they are read from a file. -/
def linesRead (s : String) : List String :=
  fileLines (readNewlines s)

def lineChars (cs : List Char) : List (List Char) :=
  fileLinesFrom [] (unifyNewlines cs)

theorem linesRead_eq (s : String) : linesRead s = (lineChars s.toList).map String.ofList := by
  simp [linesRead, fileLines, readNewlines, lineChars]

theorem unifyNewlines_cons (h : c ≠ '\r') (cs : List Char) :
    unifyNewlines (c :: cs) = c :: unifyNewlines cs := by
  rw [unifyNewlines]
  · rw [if_neg h]
  · intro cs' hc
    exact absurd hc h

theorem unifyNewlines_cons_of_not_pair (h : ∀ cs', c = '\r' → cs = '\n' :: cs' → False) :
    unifyNewlines (c :: cs) = (if c = '\r' then '\n' else c) :: unifyNewlines cs := by
  rw [unifyNewlines]
  exact h

/-- A carriage return that is not the last character stands alone as before if more follows. -/
theorem unifyNewlines_cons_append (h : ∀ cs', c = '\r' → cs = '\n' :: cs' → False)
    (hlast : ¬ (c = '\r' ∧ cs = [])) (ys : List Char) :
    unifyNewlines (c :: (cs ++ '\n' :: ys)) =
      (if c = '\r' then '\n' else c) :: unifyNewlines (cs ++ '\n' :: ys) := by
  refine unifyNewlines_cons_of_not_pair fun cs' hc heq => ?_
  cases cs with
  | nil => exact hlast ⟨hc, rfl⟩
  | cons d ds => exact h ds hc (by rw [(List.cons.inj heq).1])

theorem unifyNewlines_append (xs ys : List Char) :
    unifyNewlines (xs ++ '\n' :: ys) = unifyNewlines (xs ++ ['\n']) ++ unifyNewlines ys := by
  fun_induction unifyNewlines xs with
  | case1 => simp [unifyNewlines_cons, unifyNewlines]
  | case2 cs ih => simp [unifyNewlines, ih]
  | case3 c cs h ih =>
    -- a carriage return at the end of `xs` makes one line break with the line feed
    by_cases hlast : c = '\r' ∧ cs = []
    · obtain ⟨rfl, rfl⟩ := hlast
      simp [unifyNewlines]
    · rw [List.cons_append, List.cons_append, unifyNewlines_cons_append h hlast,
        unifyNewlines_cons_append h hlast, ih, List.cons_append]

theorem exists_unifyNewlines_eq (xs : List Char) :
    ∃ zs, unifyNewlines (xs ++ ['\n']) = zs ++ ['\n'] := by
  fun_induction unifyNewlines xs with
  | case1 => exact ⟨[], rfl⟩
  | case2 cs ih =>
    obtain ⟨zs, hzs⟩ := ih
    exact ⟨'\n' :: zs, by simp [unifyNewlines, hzs]⟩
  | case3 c cs h ih =>
    obtain ⟨zs, hzs⟩ := ih
    by_cases hlast : c = '\r' ∧ cs = []
    · obtain ⟨rfl, rfl⟩ := hlast
      exact ⟨[], rfl⟩
    · rw [List.cons_append, unifyNewlines_cons_append h hlast, hzs]
      exact ⟨_ :: zs, rfl⟩

theorem fileLinesFrom_append (piece xs ys : List Char) :
    fileLinesFrom piece (xs ++ '\n' :: ys) =
      fileLinesFrom piece (xs ++ ['\n']) ++ fileLinesFrom [] ys := by
  induction xs generalizing piece with
  | nil => simp [fileLinesFrom]
  | cons x xs ih =>
    simp only [List.cons_append, fileLinesFrom]
    split
    · rw [ih, List.cons_append]
    · exact ih _

/-- Every line feed ends a line. -/
theorem lineChars_append (xs ys : List Char) :
    lineChars (xs ++ '\n' :: ys) = lineChars (xs ++ ['\n']) ++ lineChars ys := by
  obtain ⟨zs, hzs⟩ := exists_unifyNewlines_eq xs
  rw [lineChars, lineChars, lineChars, unifyNewlines_append, hzs, List.append_assoc,
    List.singleton_append, fileLinesFrom_append]

theorem unifyNewlines_append_left {hs : List Char} (hr : '\r' ∉ hs) (xs : List Char) :
    unifyNewlines (hs ++ xs) = hs ++ unifyNewlines xs := by
  induction hs with
  | nil => rfl
  | cons h hs ih =>
    rw [List.cons_append, unifyNewlines_cons (fun hc => hr (by simp [hc])),
      ih fun hmem => hr (List.mem_cons_of_mem h hmem), List.cons_append]

theorem fileLinesFrom_append_left {hs : List Char} (hn : '\n' ∉ hs) (piece xs : List Char) :
    fileLinesFrom piece (hs ++ xs) = fileLinesFrom (hs.reverse ++ piece) xs := by
  induction hs generalizing piece with
  | nil => rfl
  | cons h hs ih =>
    have hne : h ≠ '\n' := fun hc => hn (by simp [hc])
    rw [List.cons_append, fileLinesFrom, if_neg hne,
      ih fun hmem => hn (List.mem_cons_of_mem h hmem)]
    simp

theorem exists_fileLinesFrom_eq (zs : List Char) :
    ∃ first rest, ∀ piece, fileLinesFrom piece (zs ++ ['\n']) = (piece.reverse ++ first) :: rest := by
  induction zs with
  | nil => exact ⟨['\n'], [], fun piece => by simp [fileLinesFrom]⟩
  | cons z zs ih =>
    obtain ⟨first, rest, h⟩ := ih
    by_cases hz : z = '\n'
    · refine ⟨['\n'], first :: rest, fun piece => ?_⟩
      have := h []
      simp [fileLinesFrom, hz, this]
    · refine ⟨z :: first, rest, fun piece => ?_⟩
      simp [fileLinesFrom, hz, h]

/-- What precedes a text on its line precedes its first line. -/
theorem lineChars_append_left {hs : List Char} (hr : '\r' ∉ hs) (hn : '\n' ∉ hs)
    (xs : List Char) : ∃ first rest, lineChars (xs ++ ['\n']) = first :: rest ∧
      lineChars (hs ++ (xs ++ ['\n'])) = (hs ++ first) :: rest := by
  obtain ⟨zs, hzs⟩ := exists_unifyNewlines_eq xs
  obtain ⟨first, rest, h⟩ := exists_fileLinesFrom_eq zs
  refine ⟨first, rest, ?_, ?_⟩
  · rw [lineChars, hzs, h]
    rfl
  · rw [lineChars, unifyNewlines_append_left hr, hzs, fileLinesFrom_append_left hn, h]
    simp

end NativeVariants.Text
