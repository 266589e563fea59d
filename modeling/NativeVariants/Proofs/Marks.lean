import NativeVariants.CommandLine.Invocation
import NativeVariants.LogView
import NativeVariants.Proofs.Lines

/-!
# Marks of levels

What precedes a message in the log has the mark of its level and no other, and breaks no line
(`Entry.mark_infix_head_append_iff`), so the lines of an entry tell its level exactly if it is `Plain`
(`Entry.told_iff_plain`). Shown lines keep the marks they have (`LogView.holds_piece_iff`): a view that
gives every line to its level does so by the marks (`LogView.faithful_iff`).
-/

namespace NativeVariants

open Text

namespace LogView

/-- The characters that marks are made of. -/
def isMarkChar (c : Char) : Bool :=
  c = '[' || c = ']' || c.isUpper

/-- A text that breaks no line, holds no mark and ends where no mark goes on. -/
def isMargin (cs : List Char) : Bool :=
  cs.all (fun c => !c.isUpper && c ≠ '\r' && c ≠ '\n') && cs.getLast?.all (!isMarkChar ·)

variable {L : Level} {c : Char} {cs xs : List Char} {line : String}

theorem mark_ne_nil (l : Level) : (mark l).toList ≠ [] := by
  cases l <;> decide +kernel

theorem isMarkChar_of_mem (hL : L ∈ marked) : ∀ c ∈ (mark L).toList, isMarkChar c := by
  have hall : ∀ L ∈ marked, (mark L).toList.all isMarkChar := by decide +kernel
  exact List.all_eq_true.1 (hall L hL)

theorem not_mem_mark (hL : L ∈ marked) (hc : isMarkChar c = false) : c ∉ (mark L).toList := by
  intro h
  have := isMarkChar_of_mem hL c h
  rw [hc] at this
  cases this

theorem isBlank_of_mem_mark (hL : L ∈ marked) : ∀ c ∈ (mark L).toList, isBlank c = false := by
  have hall : ∀ L ∈ marked, (mark L).toList.all (!isBlank ·) := by decide +kernel
  intro c hc
  have := List.all_eq_true.1 (hall L hL) c hc
  simpa using this

theorem mark_infix_mark_iff (hL : L ∈ marked) (l : Level) :
    (mark L).toList <:+: (mark l).toList ↔ L = l := by
  have h : ∀ L ∈ marked, occursIn (mark L).toList (mark l).toList = decide (L = l) := by
    cases l <;> decide +kernel
  rw [← occursIn_iff, h L hL, decide_eq_true_eq]

theorem not_mark_infix (hL : L ∈ marked) (h : ∀ c ∈ cs, c.isUpper = false) :
    ¬ (mark L).toList <:+: cs := by
  have hupper : ∀ L ∈ marked, (mark L).toList.any Char.isUpper := by decide +kernel
  obtain ⟨c, hc, hu⟩ := List.any_eq_true.1 (hupper L hL)
  intro hin
  rw [h c (hin.subset hc)] at hu
  cases hu

theorem mark_infix_append_iff (hL : L ∈ marked) (h : isMargin cs) (xs : List Char) :
    (mark L).toList <:+: cs ++ xs ↔ (mark L).toList <:+: xs := by
  rcases List.eq_nil_or_concat cs with rfl | ⟨ds, d, rfl⟩
  · rfl
  · simp only [isMargin, List.concat_eq_append, List.all_append, List.getLast?_concat,
      Option.all_some, Bool.and_eq_true, Bool.not_eq_true', List.all_eq_true] at h
    obtain ⟨⟨hds, -⟩, hd⟩ := h
    have hnot : ¬ (mark L).toList <:+: ds := not_mark_infix hL fun c hc => (hds c hc).1.1
    rw [List.concat_eq_append, List.append_assoc, List.singleton_append,
      infix_append_cons_iff (mark_ne_nil L) (not_mem_mark hL hd)]
    simp [hnot]

theorem not_mem_of_isMargin (h : isMargin cs) (hc : c = '\r' ∨ c = '\n') : c ∉ cs := by
  intro hmem
  simp only [isMargin, Bool.and_eq_true, List.all_eq_true, decide_eq_true_eq] at h
  obtain ⟨⟨-, hr⟩, hn⟩ := h.1 c hmem
  exact hc.elim hr hn

end LogView

/-! ### What precedes a message -/

namespace Entry

open LogView

variable {time : TimeOfDay} {e : Entry} {L : Level} {c : Char} {cs : List Char}

def stamp (time : TimeOfDay) (e : Entry) : String :=
  if e.level = .step then "" else s!"[{time.clock}] "

def head (time : TimeOfDay) (e : Entry) : String :=
  e.stamp time ++ "[" ++ e.level.label ++ "] " ++ e.lead

theorem logText_eq (time : TimeOfDay) (e : Entry) :
    e.logText time = e.head time ++ e.message := rfl

theorem toList_head : (e.head time).toList =
    (e.stamp time).toList ++ ((mark e.level).toList ++ ' ' :: e.lead.toList) := by
  simp [head, mark]

theorem isDigit_of_mem_padded {width n : Nat} (h : c ∈ (padded width n).toList) : c.isDigit := by
  rw [padded, String.toList_ofList, List.mem_append] at h
  rcases h with h | h
  · rw [(List.mem_replicate.1 h).2]
    rfl
  · exact Nat.isDigit_of_mem_toDigits (by omega) (by omega) h

theorem mem_clock {t : TimeOfDay} (h : c ∈ t.clock.toList) : c.isDigit ∨ c = ':' := by
  simp only [TimeOfDay.clock, String.toList_append, List.mem_append] at h
  rcases h with (((h | h) | h) | h) | h
  · exact .inl (isDigit_of_mem_padded h)
  · exact .inr (by simpa using h)
  · exact .inl (isDigit_of_mem_padded h)
  · exact .inr (by simpa using h)
  · exact .inl (isDigit_of_mem_padded h)

theorem isUpper_of_isDigit (h : c.isDigit) : c.isUpper = false := by
  have hle : c.val.toNat ≤ 57 := by
    simp only [Char.isDigit, Bool.and_eq_true, decide_eq_true_eq, UInt32.le_iff_toNat_le] at h
    exact h.2
  cases hu : c.isUpper with
  | false => rfl
  | true =>
    have hge : 65 ≤ c.val.toNat := (of_decide_eq_true hu).1
    omega

theorem isMargin_stamp : isMargin (e.stamp time).toList := by
  unfold stamp
  split
  · rfl
  · have htext : s!"[{time.clock}] ".toList = ('[' :: (time.clock.toList ++ [']'])) ++ [' '] := by
      simp [toString]
    rw [isMargin, htext, List.getLast?_concat, Bool.and_eq_true, List.all_eq_true]
    refine ⟨fun c hc => ?_, rfl⟩
    have hc : c = '[' ∨ c ∈ time.clock.toList ∨ c = ']' ∨ c = ' ' := by simpa using hc
    rcases hc with rfl | hc | rfl | rfl
    · decide
    · rcases mem_clock hc with hd | rfl
      · have hu := isUpper_of_isDigit hd
        have hr : c ≠ '\r' := by rintro rfl; cases hd
        have hn : c ≠ '\n' := by rintro rfl; cases hd
        simp [hu, hr, hn]
      · decide
    · decide
    · decide

theorem isMargin_lead : isMargin e.lead.toList := by
  unfold lead
  cases hs : e.level.sign with
  | some sign =>
    dsimp only
    revert hs
    cases e.level <;> intro hs <;> cases hs <;> decide +kernel
  | none =>
    dsimp only
    rw [String.toList_ofList, isMargin, Bool.and_eq_true, List.all_eq_true]
    constructor
    · intro c hc
      rw [(List.mem_replicate.1 hc).2]
      decide
    · cases e.indent with
      | zero => rfl
      | succ n => rw [List.replicate_succ', List.getLast?_concat]; rfl

/-- A line that begins with what precedes a message holds the mark of the message's level and no
others but those of its rest. -/
theorem mark_infix_head_append_iff (hL : L ∈ marked) :
    (mark L).toList <:+: (e.head time).toList ++ cs ↔ L = e.level ∨ (mark L).toList <:+: cs := by
  rw [toList_head, List.append_assoc, List.append_assoc, mark_infix_append_iff hL isMargin_stamp,
    List.cons_append, infix_append_cons_iff (mark_ne_nil L) (not_mem_mark hL (by decide)),
    mark_infix_mark_iff hL, mark_infix_append_iff hL isMargin_lead]

theorem not_mem_head (hc : c = '\r' ∨ c = '\n') : c ∉ (e.head time).toList := by
  have hstamp : c ∉ (e.stamp time).toList := not_mem_of_isMargin isMargin_stamp hc
  have hlead : c ∉ e.lead.toList := not_mem_of_isMargin isMargin_lead hc
  have hmark : c ∉ (mark e.level).toList := by
    rcases hc with rfl | rfl <;> cases e.level <;> decide +kernel
  have hblank : c ≠ ' ' := by rcases hc with rfl | rfl <;> decide
  simp [toList_head, hstamp, hmark, hlead, hblank]

def pieces (e : Entry) : List String :=
  linesRead (e.message ++ "\n")

/-- What precedes the message stands before its first line, and nothing before the others. -/
theorem exists_linesRead_eq (time : TimeOfDay) (e : Entry) : ∃ first rest,
    e.pieces = first :: rest ∧
      linesRead (e.logText time ++ "\n") = (e.head time ++ first) :: rest := by
  have hr : '\r' ∉ (e.head time).toList := not_mem_head (.inl rfl)
  have hn : '\n' ∉ (e.head time).toList := not_mem_head (.inr rfl)
  obtain ⟨first, rest, hpieces, hlines⟩ := lineChars_append_left hr hn e.message.toList
  refine ⟨String.ofList first, rest.map String.ofList, ?_, ?_⟩
  · rw [pieces, linesRead_eq]
    simpa using congrArg (List.map String.ofList) hpieces
  · rw [linesRead_eq, logText_eq]
    simpa using congrArg (List.map String.ofList) hlines

/-- The marks on the lines of a message tell its level: no line has the mark of another level, and
each line after the first has that of its own, if its level has one. -/
structure Plain (e : Entry) : Prop where
  other : ∀ piece ∈ e.pieces, ∀ L ∈ marked, L ≠ e.level → Text.holds piece (mark L) = false
  own : e.level ∈ marked → ∀ piece ∈ e.pieces.tail, Text.holds piece (mark e.level)

instance (e : Entry) : Decidable e.Plain :=
  decidable_of_iff
    ((∀ piece ∈ e.pieces, ∀ L ∈ marked, L ≠ e.level → Text.holds piece (mark L) = false) ∧
      (e.level ∈ marked → ∀ piece ∈ e.pieces.tail, Text.holds piece (mark e.level)))
    ⟨fun h => ⟨h.1, h.2⟩, fun h => ⟨h.other, h.own⟩⟩

example : ¬ Entry.Plain ⟨.info, "Created library 'ring' with the mark [ERROR]", 0⟩ := by
  decide +kernel

/-- Each line in the log has the mark of the entry's level and no other. -/
def Told (time : TimeOfDay) (e : Entry) : Prop :=
  ∀ line ∈ linesRead (e.logText time ++ "\n"), ∀ L ∈ marked, Text.holds line (mark L) ↔ L = e.level

theorem forall_marked_iff {holds : Level → Bool} {l : Level} :
    (∀ L ∈ marked, holds L ↔ L = l) ↔
      (∀ L ∈ marked, L ≠ l → holds L = false) ∧ (l ∈ marked → holds l) := by
  constructor
  · intro h
    refine ⟨fun L hL hne => ?_, fun hl => (h l hl).2 rfl⟩
    rw [Bool.eq_false_iff]
    exact fun hholds => hne ((h L hL).1 hholds)
  · rintro ⟨hother, hown⟩ L hL
    refine ⟨fun hholds => ?_, by rintro rfl; exact hown hL⟩
    by_contra hne
    rw [hother L hL hne] at hholds
    cases hholds

theorem told_iff_plain : e.Told time ↔ e.Plain := by
  obtain ⟨first, rest, hpieces, hlines⟩ := e.exists_linesRead_eq time
  have hfirst : ∀ L ∈ marked, Text.holds (e.head time ++ first) (mark L) ↔
      L = e.level ∨ Text.holds first (mark L) := by
    intro L hL
    rw [holds_iff, holds_iff, String.toList_append, mark_infix_head_append_iff hL]
  rw [Told, hlines, List.forall_mem_cons]
  constructor
  · rintro ⟨hhead, hrest⟩
    have hrest := fun piece hp => forall_marked_iff.1 (hrest piece hp)
    constructor
    · rw [hpieces, List.forall_mem_cons]
      refine ⟨fun L hL hne => ?_, fun piece hp => (hrest piece hp).1⟩
      rw [Bool.eq_false_iff]
      exact fun hin => hne ((hhead L hL).1 ((hfirst L hL).2 (.inr hin)))
    · rw [hpieces, List.tail_cons]
      exact fun hl piece hp => (hrest piece hp).2 hl
  · rintro ⟨hother, hown⟩
    rw [hpieces, List.forall_mem_cons] at hother
    rw [hpieces, List.tail_cons] at hown
    refine ⟨fun L hL => ?_, fun piece hp => ?_⟩
    · rw [hfirst L hL, or_iff_left_iff_imp]
      intro hin
      by_contra hne
      rw [hother.1 L hL hne] at hin
      cases hin
    · exact forall_marked_iff.2 ⟨hother.2 piece hp, fun hl => hown hl piece hp⟩

end Entry

/-! ### What is shown of lines -/

namespace LogView

variable {L : Level} {line : String}

/-- The levels that a view may be cut down to, or none. -/
def choices : List (Option Level) :=
  none :: CommandLine.levelNames.map fun named => some named.2

def piece (color : Color) (line : String) : Piece :=
  .say (color.code ++ Text.trim line ++ Color.reset ++ "\n")

/-- The lines of a level, or all, each in the colour of its level. -/
def faithful (choice : Option Level) (lines : List (Level × String)) : List Piece :=
  (lines.filter fun l => choice.all (· = l.1)).map fun l => piece l.1.color l.2

theorem holds_piece_iff (hL : L ∈ marked) (color : Color) :
    Text.holds (color.code ++ Text.trim line ++ Color.reset ++ "\n") (mark L) ↔
      Text.holds line (mark L) := by
  have hcode : isMargin color.code.toList := by cases color <;> decide +kernel
  have hreset : (Color.reset ++ "\n").toList = '\x1b' :: ['[', '0', 'm', '\n'] := by decide +kernel
  have hend : ¬ (mark L).toList <:+: ['[', '0', 'm', '\n'] := by
    have hall : ['[', '0', 'm', '\n'].all (!·.isUpper) := by decide
    exact not_mark_infix hL fun c hc => by simpa using List.all_eq_true.1 hall c hc
  rw [holds_iff, holds_iff, String.append_assoc, String.append_assoc, String.toList_append,
    mark_infix_append_iff hL hcode, String.toList_append, hreset,
    infix_append_cons_iff (mark_ne_nil L) (not_mem_mark hL (by decide)), Text.trim,
    String.toList_ofList, infix_trimChars_iff (mark_ne_nil L) (isBlank_of_mem_mark hL)]
  simp [hend]

theorem lineColor_of_told {l : Level} (h : ∀ L ∈ marked, Text.holds line (mark L) ↔ L = l) :
    lineColor line = l.color := by
  unfold lineColor
  cases hfind : marked.find? fun level => Text.holds line (mark level) with
  | some L =>
    have hL : L ∈ marked := List.mem_of_find?_eq_some hfind
    have hholds : Text.holds line (mark L) := by simpa using List.find?_some hfind
    rw [(h L hL).1 hholds]
  | none =>
    have hstep : l ∉ marked := by
      intro hl
      have := List.find?_eq_none.1 hfind l hl
      exact this ((h l hl).2 rfl)
    cases l with
    | step => rfl
    | _ => exact absurd (by decide) hstep

/-- Two choices from a list that yield as much, one within the other, are the same. -/
theorem imp_of_length_filter_eq {α : Type} {p q : α → Bool} {l : List α}
    (h : ∀ x ∈ l, q x → p x) (hlen : (l.filter p).length = (l.filter q).length) :
    ∀ x ∈ l, p x → q x := by
  have hboth : (l.filter p).filter q = l.filter q := by
    rw [List.filter_filter]
    refine List.filter_congr fun x hx => ?_
    cases hq : q x with
    | false => rfl
    | true => exact h x hx hq
  intro x hx hp
  have hall := List.length_filter_eq_length_iff.1 ((congrArg List.length hboth).trans hlen.symm)
  exact hall x (List.mem_filter.2 ⟨hx, hp⟩)

theorem select_eq (choice : Option Level) (lines : List String) :
    select choice lines = lines.filter fun line => choice.all fun L => Text.holds line (mark L) := by
  cases choice <;> rfl

theorem some_mem_choices : some L ∈ choices ↔ L ∈ marked := by
  cases L <;> decide

variable {lines : List (Level × String)}

/-- What is shown of the lines of a level has the mark of that level, so the lines had it. -/
theorem holds_of_faithful (hL : L ∈ marked)
    (h : ((select (some L) (lines.map (·.2))).map fun line => piece (lineColor line) line) =
      faithful (some L) lines) :
    ∀ l ∈ lines, l.1 = L → Text.holds l.2 (mark L) := by
  rintro l hl rfl
  have hmem : piece l.1.color l.2 ∈ faithful (some l.1) lines :=
    List.mem_map.2 ⟨l, List.mem_filter.2 ⟨hl, by simp⟩, rfl⟩
  rw [← h, select_eq] at hmem
  obtain ⟨line, hline, hshown⟩ := List.mem_map.1 hmem
  have hmark : Text.holds line (mark l.1) := by simpa using (List.mem_filter.1 hline).2
  rw [← holds_piece_iff hL (lineColor line), Piece.say.inj hshown] at hmark
  exact (holds_piece_iff hL l.1.color).1 hmark

theorem eq_of_faithful (hL : L ∈ marked)
    (h : ((select (some L) (lines.map (·.2))).map fun line => piece (lineColor line) line) =
      faithful (some L) lines) :
    ∀ l ∈ lines, Text.holds l.2 (mark L) → l.1 = L := by
  -- the lines of `L` are among those that have its mark, and these are no more
  have hheld := holds_of_faithful hL h
  have hlen := congrArg List.length h
  simp only [select_eq, faithful, List.filter_map, List.length_map, Option.all_some] at hlen
  intro l hl hin
  refine (of_decide_eq_true (imp_of_length_filter_eq ?_ hlen l hl hin)).symm
  exact fun x hx hLx => hheld x hx (of_decide_eq_true hLx).symm

theorem faithful_of_marks (h : ∀ l ∈ lines, ∀ L ∈ marked, Text.holds l.2 (mark L) ↔ L = l.1)
    {choice : Option Level} (hchoice : choice ∈ choices) :
    ((select choice (lines.map (·.2))).map fun line => piece (lineColor line) line) =
      faithful choice lines := by
  have hcolor : ∀ l ∈ lines, lineColor l.2 = l.1.color := fun l hl => lineColor_of_told (h l hl)
  have hselect : ∀ l ∈ lines,
      (choice.all fun L => Text.holds l.2 (mark L)) = choice.all (· = l.1) := by
    intro l hl
    cases choice with
    | none => rfl
    | some L =>
      rw [Option.all_some, Option.all_some, Bool.eq_iff_iff, decide_eq_true_eq]
      exact h l hl L (some_mem_choices.1 hchoice)
  rw [select_eq, faithful, List.filter_map, List.map_map]
  refine (congrArg _ (List.filter_congr hselect)).trans (List.map_congr_left fun l hl => ?_)
  rw [Function.comp_apply, hcolor l (List.mem_filter.1 hl).1]

theorem faithful_iff :
    (∀ choice ∈ choices, ((select choice (lines.map (·.2))).map fun line =>
        piece (lineColor line) line) = faithful choice lines) ↔
      ∀ l ∈ lines, ∀ L ∈ marked, Text.holds l.2 (mark L) ↔ L = l.1 := by
  refine ⟨fun h l hl L hL => ?_, fun h choice => faithful_of_marks h⟩
  have hshown := h (some L) (some_mem_choices.2 hL)
  constructor
  · exact fun hin => (eq_of_faithful hL hshown l hl hin).symm
  · exact fun heq => holds_of_faithful hL hshown l hl heq.symm

end LogView
end NativeVariants
