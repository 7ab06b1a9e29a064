/-
**Names of `let` declarations.**

A name is either known, when a literal gives it, or indeterminate, when only running the code would
tell.

* `Name.agrees` — when two names are surely the same. **An indeterminate name agrees with none,**
  itself included, so that it can neither cause nor prevent a match.
-/

namespace LetShadow

/-- The name of a declaration, as far as it can be known without running the code. -/
inductive Name where
  | known (value : String)
  | indeterminate
deriving DecidableEq, Repr

namespace Name

/-- Two names are surely the same: both are known and they are spelled alike. -/
def agrees : Name → Name → Bool
  | .known first, .known second => first == second
  | _, _ => false

/-- A known name is shown as a symbol. -/
def shown : Name → String
  | .known value => ":" ++ value
  | .indeterminate => "INDETERMINATE"

@[simp]
theorem agrees_indeterminate_left (name : Name) : indeterminate.agrees name = false := by
  cases name <;> rfl

@[simp]
theorem agrees_indeterminate_right (name : Name) : name.agrees indeterminate = false := by
  cases name <;> rfl

theorem agrees_iff {first second : Name} :
    first.agrees second = true ↔ ∃ value, first = .known value ∧ second = .known value := by
  constructor
  · intro agree
    cases first <;> cases second <;> simp_all [agrees]
  · rintro ⟨value, rfl, rfl⟩
    simp [agrees]

end Name

end LetShadow
