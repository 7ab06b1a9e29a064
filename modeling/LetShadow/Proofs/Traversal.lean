/-
**Steps that may fail.**

Steps go one after the other, or over a list from left to right, and the first that fails ends them.

* `bind_eq_ok_iff`, `bind_eq_error_iff` — one step and then another.
* `mapM_eq_ok_iff` — **all go through,** each with its own outcome.
* `mapM_eq_error_iff` — **one fails,** and all in front of it go through.
* `mapM_goes_iff` — whether all go through depends on each for itself.
* `flatMap_filter_of_nil` — what comes to nothing may be left out.
-/

import Mathlib.Data.List.Forall2

namespace LetShadow

/-! ### One step after another -/

section

variable {Value Image Error Report : Type} {outcome : Except Error Value} {error : Error}

theorem bind_eq_ok_iff {next : Value → Except Error Image} {image : Image} :
    (outcome >>= next) = .ok image ↔ ∃ value, outcome = .ok value ∧ next value = .ok image := by
  cases outcome with
  | ok value =>
    constructor
    · exact fun goes => ⟨value, rfl, goes⟩
    · rintro ⟨_, ⟨⟩, goes⟩
      exact goes
  | error other => exact ⟨nofun, nofun⟩

theorem bind_eq_error_iff {next : Value → Except Error Image} :
    (outcome >>= next) = .error error ↔
      outcome = .error error ∨ ∃ value, outcome = .ok value ∧ next value = .error error := by
  cases outcome with
  | ok value =>
    constructor
    · exact fun fails => .inr ⟨value, rfl, fails⟩
    · rintro (⟨⟨⟩⟩ | ⟨_, ⟨⟩, fails⟩)
      exact fails
  | error other =>
    constructor
    · rintro ⟨⟩
      exact .inl rfl
    · rintro (⟨⟨⟩⟩ | ⟨_, ⟨⟩, _⟩)
      rfl

theorem map_eq_ok_iff {image : Value → Image} {found : Image} :
    outcome.map image = .ok found ↔ ∃ value, outcome = .ok value ∧ image value = found := by
  cases outcome <;> simp [Except.map]

theorem map_eq_error_iff {image : Value → Image} :
    outcome.map image = .error error ↔ outcome = .error error := by
  cases outcome <;> simp [Except.map]

theorem mapError_eq_ok_iff {report : Error → Report} {value : Value} :
    outcome.mapError report = .ok value ↔ outcome = .ok value := by
  cases outcome <;> simp [Except.mapError]

theorem mapError_eq_error_iff {report : Error → Report} {reported : Report} :
    outcome.mapError report = .error reported ↔
      ∃ error, outcome = .error error ∧ report error = reported := by
  cases outcome <;> simp [Except.mapError]

end

/-! ### Lists of steps -/

variable {Item Outcome Error : Type} {step : Item → Except Error Outcome}

theorem mapM_eq_ok_iff {items : List Item} {outcomes : List Outcome} :
    items.mapM step = .ok outcomes ↔
      List.Forall₂ (fun item outcome => step item = .ok outcome) items outcomes := by
  induction items generalizing outcomes with
  | nil =>
    rw [List.mapM_nil, List.forall₂_nil_left_iff]
    exact ⟨fun same => (Except.ok.inj same).symm, fun same => congrArg Except.ok same.symm⟩
  | cons item rest ih =>
    rw [List.mapM_cons, List.forall₂_cons_left_iff]
    cases here : step item with
    | error error => exact ⟨nofun, nofun⟩
    | ok first =>
      simp only [← ih]
      show (rest.mapM step >>= fun others => .ok (first :: others)) = _ ↔ _
      cases rest.mapM step with
      | error error => exact ⟨nofun, nofun⟩
      | ok others =>
        constructor
        · rintro ⟨⟩
          exact ⟨first, others, rfl, rfl, rfl⟩
        · rintro ⟨_, _, ⟨⟩, ⟨⟩, rfl⟩
          rfl

/-- The outcomes of steps that go through are those of the items. -/
theorem mem_outcomes_iff {items : List Item} {outcomes : List Outcome}
    (each : List.Forall₂ (fun item outcome => step item = .ok outcome) items outcomes)
    (outcome : Outcome) : outcome ∈ outcomes ↔ ∃ item ∈ items, step item = .ok outcome := by
  induction each with
  | nil => simp
  | cons here _ ih =>
    rw [List.mem_cons, ih]
    simp only [List.exists_mem_cons_iff, here, Except.ok.injEq, eq_comm]

theorem mapM_eq_error_iff {items : List Item} {error : Error} :
    items.mapM step = .error error ↔ ∃ before item after, items = before ++ item :: after ∧
      (∀ earlier ∈ before, ∃ outcome, step earlier = .ok outcome) ∧ step item = .error error := by
  induction items with
  | nil => exact ⟨nofun, fun ⟨_, _, _, split, _⟩ => by simp at split⟩
  | cons item rest ih =>
    rw [List.mapM_cons]
    cases here : step item with
    | error other =>
      -- The first item fails, so that there is none in front of the one that fails.
      constructor
      · rintro ⟨⟩
        exact ⟨[], item, rest, rfl, nofun, here⟩
      · rintro ⟨_ | ⟨first, before⟩, _, _, split, goOn, fails⟩
        · cases split
          exact congrArg Except.error (Except.error.inj (here.symm.trans fails))
        · cases split
          obtain ⟨outcome, goes⟩ := goOn item List.mem_cons_self
          cases here.symm.trans goes
    | ok outcome =>
      have later : (rest.mapM step >>= fun others => .ok (outcome :: others)) = .error error ↔
          rest.mapM step = .error error := by
        cases rest.mapM step with
        | error other => exact ⟨fun same => congrArg Except.error (Except.error.inj same),
            fun same => congrArg Except.error (Except.error.inj same)⟩
        | ok others => exact ⟨nofun, nofun⟩
      refine later.trans (ih.trans ⟨?_, ?_⟩)
      · rintro ⟨before, last, after, rfl, goOn, fails⟩
        exact ⟨item :: before, last, after, rfl,
          List.forall_mem_cons.mpr ⟨⟨outcome, here⟩, goOn⟩, fails⟩
      · rintro ⟨_ | ⟨first, before⟩, last, after, split, goOn, fails⟩
        · cases split
          cases here.symm.trans fails
        · cases split
          exact ⟨before, last, after, rfl, (List.forall_mem_cons.mp goOn).2, fails⟩

/-- **All steps go through exactly if each of them does.** -/
theorem mapM_goes_iff {items : List Item} :
    (∃ outcomes, items.mapM step = .ok outcomes) ↔
      ∀ item ∈ items, ∃ outcome, step item = .ok outcome := by
  constructor
  · rintro ⟨outcomes, goes⟩
    have each := mapM_eq_ok_iff.mp goes
    clear goes
    induction each with
    | nil => exact nofun
    | cons here _ ih => exact List.forall_mem_cons.mpr ⟨⟨_, here⟩, ih⟩
  · intro each
    cases outcome : items.mapM step with
    | ok outcomes => exact ⟨outcomes, rfl⟩
    | error error =>
      obtain ⟨before, item, after, rfl, -, fails⟩ := mapM_eq_error_iff.mp outcome
      obtain ⟨_, goes⟩ := each item (List.mem_append_right _ List.mem_cons_self)
      cases fails.symm.trans goes

/-! ### Items that come to nothing -/

/-- What comes to nothing may be left out. -/
theorem flatMap_filter_of_nil {Item Image : Type} {images : Item → List Image} {keep : Item → Bool}
    (dropped : ∀ item, keep item = false → images item = []) (items : List Item) :
    (items.filter keep).flatMap images = items.flatMap images := by
  induction items with
  | nil => rfl
  | cons item rest ih =>
    rw [List.filter_cons, List.flatMap_cons]
    split
    · rw [List.flatMap_cons, ih]
    · rename_i drop
      rw [dropped item (Bool.eq_false_iff.mpr drop), ih, List.nil_append]

end LetShadow
