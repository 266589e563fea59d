import NativeVariants.Session

/-!
# What sessions show

`outcome` is a session's result with the world after it; each primitive has its outcome. `Shows P`
says that a session leaves the host alone and adds to what is shown only pieces that satisfy `P`.
It holds of the primitives and is kept by every way of putting sessions together.
-/

namespace NativeVariants.Session

variable {α β : Type}

/-- The result of a session and the world after it. -/
def outcome (x : Session α) (w : World) : Except Failure α × World :=
  x.run.run w

/-- What a session adds to what is shown. -/
def shownBy (x : Session α) (w : World) : List Piece :=
  (x.outcome w).2.shown.drop w.shown.length

@[simp] theorem outcome_pure (a : α) (w : World) : outcome (pure a) w = (.ok a, w) := rfl

@[simp] theorem outcome_throw (failure : Failure) (w : World) :
    outcome (throw failure : Session α) w = (.error failure, w) := rfl

@[simp] theorem outcome_get (w : World) : outcome get w = (.ok w, w) := rfl

theorem outcome_bind (x : Session α) (f : α → Session β) (w : World) :
    outcome (x >>= f) w =
      match outcome x w with
      | (.ok a, w) => outcome (f a) w
      | (.error failure, w) => (.error failure, w) := by
  simp only [outcome, ExceptT.run_bind, StateT.run_bind]
  rcases x.run.run w with ⟨_ | _, _⟩ <;> rfl

/-- A session that succeeds consists of parts that do. -/
theorem outcome_bind_eq_ok {x : Session α} {f : α → Session β} {w w' : World} {b : β}
    (h : outcome (x >>= f) w = (.ok b, w')) :
    ∃ a between, outcome x w = (.ok a, between) ∧ outcome (f a) between = (.ok b, w') := by
  rw [outcome_bind] at h
  rcases hx : outcome x w with ⟨failure | a, between⟩
  · rw [hx] at h
    cases (Prod.mk.inj h).1
  · rw [hx] at h
    exact ⟨a, between, rfl, h⟩

@[simp] theorem outcome_attempt (x : Session α) (w : World) :
    outcome (attempt x) w = (.ok (outcome x w).1, (outcome x w).2) := rfl

@[simp] theorem outcome_lift (result : Except Failure α) (w : World) :
    outcome (liftM result : Session α) w = (result, w) := by
  cases result <;> rfl

@[simp] theorem outcome_display (piece : Piece) (w : World) :
    outcome (display piece) w = (.ok (), { w with shown := w.shown ++ [piece] }) := rfl

/-- An entry is shown even if it cannot be added to the log file. -/
theorem outcome_write (e : Entry) (w : World) :
    ∃ result files,
      outcome (write e) w = (result, { w with shown := w.shown ++ [.entry e], files }) := by
  simp only [write, outcome_bind, outcome_display, outcome_get, outcome_lift]
  cases w.files.append w.sessionLog (e.logText w.time ++ "\n") with
  | ok files => exact ⟨.ok (), files, rfl⟩
  | error failure => exact ⟨.error failure, w.files, rfl⟩

theorem shownBy_eq {x : Session α} {w : World} {pieces : List Piece}
    (h : (x.outcome w).2.shown = w.shown ++ pieces) : x.shownBy w = pieces := by
  rw [shownBy, h, List.drop_left]

theorem mem_shownBy_of_last {x : Session α} {w : World} {before : List Piece} {p : Piece}
    (hw : w.shown <+: before) (h : (x.outcome w).2.shown = before ++ [p]) : p ∈ x.shownBy w := by
  obtain ⟨pieces, rfl⟩ := hw
  rw [List.append_assoc] at h
  rw [shownBy_eq h]
  exact List.mem_append_right _ List.mem_cons_self

theorem result_of_outcome_ofLogged {x : Logged α} {w w' : World} {a : α}
    (h : outcome (ofLogged x) w = (.ok a, w')) : x.result = .ok a := by
  obtain ⟨_, between, -, h⟩ := outcome_bind_eq_ok h
  rw [outcome_lift] at h
  exact (Prod.mk.inj h).1

/-- A session that leaves the host alone and shows no other pieces than such with `P`. -/
structure Shows (P : Piece → Prop) (x : Session α) : Prop where
  host : ∀ w, (x.outcome w).2.host = w.host
  shown : ∀ w, ∃ pieces, (x.outcome w).2.shown = w.shown ++ pieces ∧ ∀ p ∈ pieces, P p

namespace Shows

variable {P : Piece → Prop} {x : Session α} {f : α → Session β}

theorem prefix_shown (hx : Shows P x) {w w' : World} {result : Except Failure α}
    (h : x.outcome w = (result, w')) : w.shown <+: w'.shown := by
  obtain ⟨pieces, hw, -⟩ := hx.shown w
  rw [h] at hw
  exact ⟨pieces, hw.symm⟩

theorem imp {Q : Piece → Prop} (hx : Shows P x) (h : ∀ p, P p → Q p) : Shows Q x where
  host := hx.host
  shown w := by
    obtain ⟨pieces, hw, hp⟩ := hx.shown w
    exact ⟨pieces, hw, fun p hmem => h p (hp p hmem)⟩

/-- What changes nothing shows nothing. -/
theorem of_outcome_snd (h : ∀ w, (x.outcome w).2 = w) : Shows P x where
  host w := by rw [h]
  shown w := ⟨[], by rw [h, List.append_nil], nofun⟩

theorem pure (a : α) : Shows P (pure a) :=
  of_outcome_snd fun w => by rw [outcome_pure]

theorem throw (failure : Failure) : Shows P (throw failure : Session α) :=
  of_outcome_snd fun w => by rw [outcome_throw]

theorem get : Shows P (get : Session World) :=
  of_outcome_snd fun w => by rw [outcome_get]

theorem lift (result : Except Failure α) : Shows P (liftM result : Session α) :=
  of_outcome_snd fun w => by rw [outcome_lift]

theorem bind (hx : Shows P x) (hf : ∀ a, Shows P (f a)) : Shows P (x >>= f) := by
  constructor
  · intro w
    have hw := hx.host w
    rw [outcome_bind]
    rcases hr : outcome x w with ⟨failure | a, between⟩
    · rwa [hr] at hw
    · rw [hr] at hw
      exact ((hf a).host between).trans hw
  · intro w
    obtain ⟨pieces, hw, hp⟩ := hx.shown w
    rw [outcome_bind]
    rcases hr : outcome x w with ⟨failure | a, between⟩
    · rw [hr] at hw
      exact ⟨pieces, hw, hp⟩
    · rw [hr] at hw
      obtain ⟨more, hmore, hq⟩ := (hf a).shown between
      refine ⟨pieces ++ more, ?_, fun p hmem => (List.mem_append.1 hmem).elim (hp p) (hq p)⟩
      dsimp only at hw ⊢
      rw [hmore, hw, List.append_assoc]

theorem attempt (hx : Shows P x) : Shows P (attempt x) where
  host w := by
    rw [outcome_attempt]
    exact hx.host w
  shown w := by
    rw [outcome_attempt]
    exact hx.shown w

theorem write {e : Entry} (he : P (.entry e)) : Shows P (write e) := by
  constructor
  · intro w
    obtain ⟨_, _, hw⟩ := outcome_write e w
    rw [hw]
  · intro w
    obtain ⟨_, _, hw⟩ := outcome_write e w
    exact ⟨[.entry e], by rw [hw], fun p hp => by rw [List.mem_singleton.1 hp]; exact he⟩

theorem log {level : Level} {message : String} (he : P (.entry ⟨level, message, 0⟩)) :
    Shows P (log level message) :=
  write he

theorem read (path : String) : Shows P (read path) :=
  get.bind fun w => lift (w.files.read path)

theorem forM {write : α → Session PUnit} (hw : ∀ a, Shows P (write a)) (l : List α) :
    Shows P (l.forM write) := by
  induction l with
  | nil => exact pure _
  | cons a l ih => exact (hw a).bind fun _ => ih

/-- With no condition on the entries of a journal, there is none on what is shown. -/
theorem ofLogged (x : Logged α) : Shows (fun _ => True) (ofLogged x) :=
  (forM (fun _ => write trivial) x.journal).bind fun _ => lift x.result

end Shows

end NativeVariants.Session
