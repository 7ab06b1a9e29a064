/-
**Grammars with ordered choices.**

A phrase describes how tokens may follow each other. Of its alternatives the first that matches is
taken, and a repetition takes all that it can.

* `Phrase` — the phrases, in which rules stand for other phrases by name.
* `Grammar` — a phrase for each rule. What a rule that is kept matches at a place is found once
  only.
* `Grammar.read` — **what a rule matches at the first token.** A fault ends the reading; so does the
  place where the tokens stop, once it is reached.

Some phrases count only in a strict reading, which looks for the reason of a failure.
-/

import LetShadow.Expression.Tree
import Std.Data.HashMap

namespace LetShadow.Expression

/-! ### Phrases -/

/-- How tokens may follow each other. -/
inductive Phrase (Rule : Type) where
  /-- No token. -/
  | empty
  /-- Nothing at all. -/
  | never
  /-- A token, which is part of the tree. -/
  | token (accepts : Token → Bool)
  | rule (name : Rule)
  | seq (first second : Phrase Rule)
  | either (first second : Phrase Rule)
  /-- Any number of times. -/
  | many (phrase : Phrase Rule)
  /-- What follows is of the phrase, but does not belong here. -/
  | ahead (phrase : Phrase Rule)
  /-- What follows is not of the phrase. -/
  | notAhead (phrase : Phrase Rule)
  /-- The phrase, with other trees for what it has matched. -/
  | build (make : List Tree → List Tree) (phrase : Phrase Rule)
  /-- The phrase, unless what it has matched is at fault; the last of its tokens counts as well. -/
  | check (fault? : List Tree → Option Token → Option Fault) (phrase : Phrase Rule)
  /-- The phrase, in a strict reading. -/
  | strict (phrase : Phrase Rule)
  /-- The phrase, as in a reading that is not strict. -/
  | lenient (phrase : Phrase Rule)

namespace Phrase

variable {Rule : Type}

/-- Phrases one after the other. -/
def row : List (Phrase Rule) → Phrase Rule
  | [] => .empty
  | [phrase] => phrase
  | phrase :: rest => .seq phrase (row rest)

/-- The first phrase that matches. -/
def first : List (Phrase Rule) → Phrase Rule
  | [] => .never
  | [phrase] => phrase
  | phrase :: rest => .either phrase (first rest)

/-- A phrase or nothing. -/
def optional (phrase : Phrase Rule) : Phrase Rule :=
  .either phrase .empty

/-- A phrase once or more often. -/
def oneOrMore (phrase : Phrase Rule) : Phrase Rule :=
  .seq phrase (.many phrase)

/-- A phrase that is not part of the tree. -/
def hidden (phrase : Phrase Rule) : Phrase Rule :=
  .build (fun _ => []) phrase

/-- What a phrase matches, as an expression of a kind. -/
def node (kind : Kind) (phrase : Phrase Rule) : Phrase Rule :=
  .build (fun parts => [.node kind parts]) phrase

/-- What a phrase matches, as an expression of a kind if it has several parts. -/
def nodeIfMany (kind : Kind) (phrase : Phrase Rule) : Phrase Rule :=
  .build (fun parts => if parts.length ≤ 1 then parts else [.node kind parts]) phrase

/-- A phrase with a sign between each two of its occurrences. -/
def separated (separator phrase : Phrase Rule) : Phrase Rule :=
  .seq phrase (.many (.seq separator phrase))

/-- A phrase that is at fault in a strict reading. It matches nothing. -/
def suspect (fault? : List Tree → Option Token → Option Fault) (phrase : Phrase Rule) :
    Phrase Rule :=
  .seq (.strict (.check fault? phrase)) .never

/-- A phrase that is always at fault in a strict reading. -/
def wrong (fault : SyntaxFault) (phrase : Phrase Rule) : Phrase Rule :=
  suspect (fun _ _ => some (.order fault)) phrase

/-- A phrase that is always at fault, in any reading. -/
def refused (fault : SyntaxFault) (phrase : Phrase Rule) : Phrase Rule :=
  .seq (.check (fun _ _ => some (.order fault)) phrase) .never

end Phrase

/-! ### Reading -/

/-- The trees of what has been matched, and the place after it; or nothing. -/
abbrev Found :=
  Option (List Tree × Nat)

/-- A phrase for each rule. -/
structure Grammar (Rule : Type) where
  phrase : Rule → Phrase Rule
  /-- Is the rule one whose matches are kept? -/
  isKept : Rule → Bool
  /-- The number of rules. -/
  size : Nat

section

variable {Rule : Type} [BEq Rule] [Hashable Rule]

/-- How far the tokens have been looked at, and what is known of the kept rules. -/
structure Progress (Rule : Type) [BEq Rule] [Hashable Rule] where
  seen : Nat := 0
  known : Std.HashMap (Rule × Nat) Found := {}

/-- A reading, which makes progress and may end with a fault. -/
abbrev Reading (Rule : Type) [BEq Rule] [Hashable Rule] :=
  ExceptT Fault (StateM (Progress Rule))

/-- The token at a place. -/
def fetch (tokens : Tokens) (place : Nat) : Reading Rule (Option Token) := do
  modify fun progress => { progress with seen := max progress.seen (place + 1) }
  match tokens.all[place]?, tokens.stop.fault? with
  | some token, _ => return some token
  | none, some fault => throw fault
  | none, none => return none

/-- What a phrase matches again and again, `limit` times at most. -/
def matchMany (step : Nat → Reading Rule Found) : Nat → List Tree → Nat → Reading Rule Found
  | 0, trees, place => return some (trees, place)
  | limit + 1, trees, place => do
    match ← step place with
    | none => return some (trees, place)
    | some (more, next) => matchMany step limit (trees ++ more) next

/-- What a phrase matches at a place. `call` reads a rule, `limit` bounds repetitions. -/
def Phrase.read (tokens : Tokens) (call : Bool → Rule → Nat → Reading Rule Found) (limit : Nat) :
    Phrase Rule → Bool → Nat → Reading Rule Found
  | .empty, _, place => return some ([], place)
  | .never, _, _ => return none
  | .token accepts, _, place => do
    let token ← fetch tokens place
    return (token.filter accepts).map fun token => ([.leaf token], place + 1)
  | .rule name, strictly, place => call strictly name place
  | .seq first second, strictly, place => do
    match ← first.read tokens call limit strictly place with
    | none => return none
    | some (trees, next) =>
      return (← second.read tokens call limit strictly next).map fun (more, last) =>
        (trees ++ more, last)
  | .either first second, strictly, place => do
    match ← first.read tokens call limit strictly place with
    | none => second.read tokens call limit strictly place
    | found => return found
  | .many phrase, strictly, place =>
    matchMany (phrase.read tokens call limit strictly) limit [] place
  | .ahead phrase, strictly, place => do
    return (← phrase.read tokens call limit strictly place).map fun _ => ([], place)
  | .notAhead phrase, strictly, place => do
    match ← phrase.read tokens call limit strictly place with
    | none => return some ([], place)
    | some _ => return none
  | .build make phrase, strictly, place => do
    return (← phrase.read tokens call limit strictly place).map fun (trees, next) =>
      (make trees, next)
  | .check fault? phrase, strictly, place => do
    let found ← phrase.read tokens call limit strictly place
    match found.bind fun (trees, next) => fault? trees tokens.all[next - 1]? with
    | some fault => throw fault
    | none => return found
  | .strict phrase, strictly, place =>
    if strictly then phrase.read tokens call limit true place else return none
  | .lenient phrase, _, place => phrase.read tokens call limit false place

/-- What a rule matches at a place; `depth` bounds the rules within rules. -/
def Grammar.readRule (grammar : Grammar Rule) (tokens : Tokens) :
    Nat → Bool → Rule → Nat → Reading Rule Found
  | 0, _, _, _ => return none
  | depth + 1, strictly, rule, place => do
    let read := (grammar.phrase rule).read tokens (readRule grammar tokens depth)
      (tokens.all.size + 1) strictly
    if grammar.isKept rule then
      let _ ← fetch tokens place
      match (← get).known[(rule, place)]? with
      | some found => return found
      | none =>
        let found ← read place
        modify fun progress => { progress with known := progress.known.insert (rule, place) found }
        return found
    else read place

/-- What a rule matches at the first token, and how many tokens were looked at. Between two tokens
no rule is within itself, which bounds the rules within rules. -/
def Grammar.read (grammar : Grammar Rule) (tokens : Tokens) (strictly : Bool) (rule : Rule) :
    Except Fault Found × Nat :=
  let depth := (grammar.size + 1) * (tokens.all.size + 2)
  let (found, progress) := (grammar.readRule tokens depth strictly rule 0).run.run {}
  (found, progress.seen)

end

end LetShadow.Expression
