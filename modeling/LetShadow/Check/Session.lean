/-
**Sessions.**

In a session several checkers work on the places of one tree, in any order and again and again. Each
asks one view; a view may belong to one checker, be shared by several, and be asked for declarations
from outside in between.

* `Session.Step` — what can be done next: a new checker, a visit, a question to a view.
* `Session.step` — **one step, with its answer.** A visit that fails leaves the checker with the
  progress that it had made, and the view with what was collected.
* `Session.run` — **the session after several steps.**
-/

import LetShadow.Check.Checker

namespace LetShadow

/-- A place in the tree at `root`. -/
abbrev Place (root : Occurrence) :=
  { here : Occurrence // here ∈ root.walk }

/-- A checker of a session, with the number of the view that it asks. -/
structure Session.Member where
  checker : Checker
  view : Nat

/-- Views and checkers, numbered in the order in which they were made. -/
structure Session where
  views : Array ScopeView := #[]
  members : Array Session.Member := #[]

namespace Session

/-- What can be done in a session on the tree at `root`. -/
inductive Step (root : Occurrence) where
  /-- A new view, which knows nothing yet. -/
  | view
  /-- A new checker for the tree at a place, which asks the view of a number or one of its own. -/
  | checker (tree : Place root) (shared : Option Nat)
  /-- A visit by the checker of that number. -/
  | visit (checker : Nat) (here : Place root)
  /-- The direct declarations of a block, asked of the view of that number. -/
  | declarations (view : Nat) (block : Place root)
  /-- Whether a group around a place within `tree` declares a name, asked with that view. -/
  | declared (view : Nat) (tree here : Place root) (name : Name)

/-- What a step answers. -/
inductive Answer where
  | made (number : Nat)
  | visited (failure : Option Unresolvable) (progress : Progress)
  | declarations (found : List Occurrence)
  | declared (found : Except Unresolvable Bool)
  /-- There is no checker of that number. -/
  | missing

/-- The view of a number; one that was not made knows nothing. -/
def viewAt (session : Session) (number : Nat) : ScopeView :=
  session.views[number]?.getD {}

/-- Puts a question to the view of a number, which keeps what it collects. -/
def ask {α : Type} (session : Session) (number : Nat) (question : StateM ScopeView α) :
    α × Session :=
  let (answer, view) := question.run (session.viewAt number)
  (answer, { session with views := session.views.setIfInBounds number view })

/-- Adds a view that knows nothing. -/
def addView (session : Session) : Session :=
  { session with views := session.views.push {} }

/-- Adds a checker. -/
def addMember (session : Session) (member : Member) : Session :=
  { session with members := session.members.push member }

/-- Puts a checker in the place of the one of that number. -/
def replace (session : Session) (number : Nat) (member : Member) : Session :=
  { session with members := session.members.setIfInBounds number member }

variable {root : Occurrence}

/-- One step, with its answer. -/
def step (session : Session) : Step root → Answer × Session
  | .view => (.made session.views.size, session.addView)
  | .checker tree (some number) =>
    (.made session.members.size, session.addMember ⟨.ofTree tree, number⟩)
  | .checker tree none =>
    (.made session.members.size, session.addView.addMember ⟨.ofTree tree, session.views.size⟩)
  | .visit number here =>
    match session.members[number]? with
    | none => (.missing, session)
    | some member =>
      let ((failure, checker), session) := session.ask member.view (member.checker.visit here)
      (.visited failure checker.progress, session.replace number { member with checker })
  | .declarations number block =>
    let (found, session) := session.ask number (ScopeView.declarations block)
    (.declarations found, session)
  | .declared number tree here name =>
    let (found, session) :=
      session.ask number ((ScopeIndex.ofTree tree).declaredAbove here.1.pos name).run
    (.declared found, session)

/-- The session after several steps. -/
def run (session : Session) (steps : List (Step root)) : Session :=
  steps.foldl (fun session next => (session.step next).2) session

end Session

end LetShadow
