/-
**Bare names as variables or as calls.**

The grammar does not tell the reading of a local variable from a call without receiver and
arguments, and which of the two a bare name becomes is a guess. Neither of them gives a name that is
known, neither opens a group, and neither is a receiver on which a group is opened.

* `WordRule` — any rule that decides, name by name, what a bare name becomes. `boundRule` goes by
  the names bound before, as reading does (`planner_boundRule`).
* `Reworded` — nodes that make no difference to a check, nor as a receiver or as a scope.
* `plan_rewords` — **every plan puts reworded nodes together to reworded ones.**
* `WordRule.said_analyze` — **what is said of a file does not depend on the rule:** the number of
  groups, the offenses in their order, and the failure.
-/

import LetShadow.Proofs.Conversion.Outcome
import LetShadow.Proofs.Ruby.Oversized
import LetShadow.Proofs.Sketch.Account
import LetShadow.Source.Analysis

namespace LetShadow

/-! ### What is said of a file -/

/-- What is said of a file: the number of groups, the offenses by their place and name, and the
failure. -/
structure Said where
  scopes : Nat
  offenses : List (Option Location × String)
  failure : Option String

/-- What a result says of its file. -/
def Result.said (result : Result) : Said where
  scopes := result.scopes
  offenses := result.offenses.map fun offense => (offense.declaration.node.location, offense.name)
  failure := result.error

/-- The report on a node that is rejected as a name. Only rows of statements and nodes that are not
interpreted are. -/
def Node.complaint (node : Node) : Option String :=
  match node with
  | .sequence .. | .other .. => some (Unresolvable.message ⟨⟨0, node⟩⟩)
  | _ => none

/-- What is said of a node: its place, and the report on it. -/
structure Face where
  place : Option Location
  complaint : Option String

/-- Each node shows its face. None of them counts. -/
def faces : Marking Face where
  counts _ := false
  mark _ node := ⟨node.location, node.complaint⟩

/-- A node that is rejected as a name is reported by its complaint. -/
theorem complaint_of_resolveAt {pos : Nat} {node : Node} {error : Unresolvable}
    (fails : node.resolveAt pos = .error error) :
    error.rejected.node.complaint = some error.message := by
  induction pos, node using Node.resolveAt.induct with
  | case1 | case4 | case9 | case10 | case11 => cases fails
  | case2 pos method first rest receiver place isLet ih
  | case5 pos method first rest receiver place body location isLet ih =>
    rw [Node.resolveAt, if_pos isLet] at fails
    exact ih fails
  | case3 pos method first rest receiver place noLet
  | case6 pos method first rest receiver place body location noLet =>
    rw [Node.resolveAt, if_neg noLet] at fails
    cases fails
  | case7 | case12 =>
    cases fails
    rfl
  | case8 pos first rest place ih =>
    rw [Node.resolveAt] at fails
    exact ih fails

/-- What an account says: the faces tell the places of offenses and the report on a failure. -/
def saidOf : Except Face (Nat × List (Face × String)) → Said
  | .ok (scopes, offenses) =>
    ⟨scopes, offenses.map fun offense => (offense.1.place, offense.2), none⟩
  | .error face => ⟨0, [], face.complaint⟩

/-- **What is said of a tree is what is said of its account.** -/
theorem said_resultOf (tree : Node) (file : String) :
    (resultOf file (.ok tree)).map Result.said = .ok (saidOf (account faces tree file)) := by
  rw [resultOf, account]
  cases outcome : analyzeTree tree file with
  | ok result =>
    obtain ⟨-, rfl⟩ := analyzeTree_eq_ok_iff.mp outcome
    show Except.ok (Said.mk _ _ none) = Except.ok (Said.mk _ (List.map _ (List.map _ _)) none)
    rw [List.map_map]
    rfl
  | error error =>
    have rejected : error.rejected.node.complaint = some error.message := by
      rw [analyzeTree_eq] at outcome
      cases failure : (contribution ⟨0, tree⟩ ⟨0, tree⟩).failure with
      | none =>
        rw [failure] at outcome
        cases outcome
      | some other =>
        rw [failure] at outcome
        cases outcome
        rw [contribution_failure_eq] at failure
        obtain ⟨declaration, -, fails⟩ := List.exists_of_findSome?_eq_some failure
        exact complaint_of_resolveAt (Occurrence.unresolvable?_eq_some_iff.mp fails)
    show Except.ok (Said.mk 0 [] (some error.message)) =
      Except.ok (Said.mk 0 [] error.rejected.node.complaint)
    rw [rejected]

namespace Ruby

open Conversion (PlansAlike convert_sameOutcome)

/-! ### Reworded nodes -/

/-- Two nodes that make no difference to a check, nor as a receiver or as a scope. -/
structure Reworded (first second : Node) : Prop extends Similar faces first second where
  groupReceiver : isGroupReceiver (some first) = isGroupReceiver (some second)
  topLevel : first.isTopLevel = second.isTopLevel

namespace Reworded

variable {firsts seconds : List Node}

theorem refl (node : Node) : Reworded node node :=
  ⟨.refl node, rfl, rfl⟩

theorem symm {first second : Node} (here : Reworded first second) : Reworded second first where
  weight := here.weight.symm
  sketch around before := (here.sketch around before).symm
  made before := (here.made before).symm
  named before := (here.named before).symm
  groupReceiver := here.groupReceiver.symm
  topLevel := here.topLevel.symm

theorem similar (both : List.Forall₂ Reworded firsts seconds) :
    List.Forall₂ (Similar faces) firsts seconds :=
  both.imp fun _ _ here => here.toSimilar

/-- **A bare name is a variable or a call.** -/
theorem word (name : String) (place : Option Location) :
    Reworded (.localVariable name place) (.call { method := name, location := place }) where
  toSimilar := similar_plain ⟨rfl, fun _ => rfl⟩ (isPlain_bareCall name place) ⟨rfl, fun _ => rfl⟩
    .nil fun _ => rfl
  groupReceiver := rfl
  topLevel := rfl

theorem row (both : List.Forall₂ Reworded firsts seconds) (place : Option Location) :
    Reworded (.sequence firsts place) (.sequence seconds place) :=
  ⟨similar_row ⟨rfl, fun _ => rfl⟩ (similar both), rfl, rfl⟩

theorem standsAtTop_eq (both : List.Forall₂ Reworded firsts seconds) :
    standsAtTop firsts = standsAtTop seconds := by
  cases both with
  | nil => rfl
  | cons here rest =>
    cases rest with
    | nil => exact here.topLevel
    | cons => rfl

theorem other (both : List.Forall₂ Reworded firsts seconds) (kind : String) (text : Option String)
    (place : Option Location) :
    Reworded (.other kind firsts text place) (.other kind seconds text place) where
  toSimilar := similar_other ⟨rfl, fun _ => rfl⟩ (.of_similar (similar both))
  groupReceiver := by rw [isGroupReceiver_other, isGroupReceiver_other, standsAtTop_eq both]
  topLevel := rfl

/-- Calls of one method with reworded operands are similar. -/
theorem calls (method : String) (place : Option Location) {receiver receiver' : Option Node}
    (receivers : List.Forall₂ Reworded receiver.toList receiver'.toList)
    (arguments : List.Forall₂ Reworded firsts seconds) :
    SimilarCalls faces ⟨method, firsts, receiver, place⟩ ⟨method, seconds, receiver', place⟩ where
  face := ⟨rfl, fun _ => rfl⟩
  method := rfl
  receiver := similar receivers
  groupReceiver := by
    cases receiver with
    | none =>
      cases receiver' with
      | none => rfl
      | some _ => cases receivers
    | some _ =>
      cases receiver' with
      | none => cases receivers
      | some _ => exact (List.forall₂_cons.mp receivers).1.groupReceiver
  arguments := similar arguments

/-- Reworded statements make reworded bodies: none, or a row. -/
theorem body (place : Option Location) : List.Forall₂ Reworded firsts seconds →
    List.Forall₂ (SimilarStatements faces)
      (match firsts with | [] => none | statements => some (.sequence statements place) :
        Option Node).toList
      (match seconds with | [] => none | statements => some (.sequence statements place) :
        Option Node).toList := by
  intro both
  cases both with
  | nil => exact .nil
  | cons here rest => exact .cons (row (.cons here rest) place).toSimilarStatements .nil

end Reworded

/-! ### Plans -/

/-- A bare name as a variable or as a call. -/
def wordNode (source : Concrete) (isLocal : Bool) : Node :=
  if isLocal then .localVariable source.text (some source.location)
  else .call { method := source.text, location := some source.location }

theorem wordNode_reworded (source : Concrete) (isLocal isLocal' : Bool) :
    Reworded (wordNode source isLocal) (wordNode source isLocal') := by
  have word := Reworded.word source.text (some source.location)
  cases isLocal with
  | true =>
    cases isLocal' with
    | true => exact .refl _
    | false => exact word
  | false =>
    cases isLocal' with
    | true => exact word.symm
    | false => exact .refl _

/-- A plan puts reworded nodes together to reworded ones. -/
def Rewords {source : Concrete} (planned : RubyPlan source) : Prop :=
  ∀ nodes nodes', List.Forall₂ Reworded nodes nodes' →
    SameOutcome Reworded (planned.assemble nodes) (planned.assemble nodes')

theorem leafPlan_rewords (source : Concrete) (node : Node) : Rewords (leafPlan source node) :=
  fun _ _ _ => .ok (.refl node)

theorem forall₂_head? {firsts seconds : List Node} (both : List.Forall₂ Reworded firsts seconds) :
    List.Forall₂ Reworded firsts.head?.toList seconds.head?.toList := by
  cases both with
  | nil => exact .nil
  | cons here _ => exact .cons here .nil

/-- **Calls are put together from reworded pieces to reworded nodes.** -/
theorem assembleCall_reworded (source : Concrete) (method : String) {pieces pieces' : List Node}
    (both : List.Forall₂ Reworded pieces pieces') :
    Reworded (assembleCall source method pieces) (assembleCall source method pieces') := by
  have receiver := forall₂_head?
    (List.forall₂_take (source.childAt? "receiver").toList.length both)
  have operands := List.forall₂_drop (source.childAt? "receiver").toList.length both
  have arguments := List.forall₂_take (callArguments source).length operands
  have statements := List.forall₂_drop (callArguments source).length operands
  have calls := Reworded.calls method (some source.location) receiver arguments
  unfold assembleCall
  cases attachedBlock? source with
  | none => exact ⟨calls.similar, rfl, rfl⟩
  | some block =>
    exact ⟨calls.similar_block ⟨rfl, fun _ => rfl⟩ (Reworded.body _ statements), rfl, rfl⟩

theorem callPlan_rewords (source : Concrete) : Rewords (callPlan source) := by
  unfold callPlan
  split
  · exact fun _ _ both => .ok (.other both _ _ _)
  · exact fun _ _ both => .ok (assembleCall_reworded source _ both)

theorem scopedConstantPlan_rewords (source : Concrete) : Rewords (scopedConstantPlan source) := by
  unfold scopedConstantPlan
  split
  · exact leafPlan_rewords source _
  · exact fun _ _ both => .ok (.other both _ _ _)

theorem quotedPlan_rewords {source : Concrete} {planned : RubyPlan source}
    (outcome : quotedPlan source = .ok planned) : Rewords planned := by
  rw [quotedPlan_eq] at outcome
  split at outcome
  · obtain ⟨value, -, rfl⟩ := map_eq_ok_iff.mp outcome
    exact leafPlan_rewords source _
  · cases outcome
    exact fun _ _ both => .ok (.other both _ _ _)

/-- **Every plan puts reworded nodes together to reworded ones.** -/
theorem plan_rewords {source : Concrete} {bound : Names} {planned : RubyPlan source}
    (outcome : plan source bound = .ok planned) : Rewords planned := by
  unfold plan at outcome
  split_ifs at outcome with isCall isRow isWord isSymbol isQuoted isConstant isScoped
  · cases outcome
    exact callPlan_rewords source
  · cases outcome
    exact fun _ _ both => .ok (.row both _)
  · cases outcome
    exact leafPlan_rewords source _
  · cases outcome
    exact leafPlan_rewords source _
  · exact quotedPlan_rewords outcome
  · cases outcome
    exact leafPlan_rewords source _
  · cases outcome
    exact scopedConstantPlan_rewords source
  · cases outcome
    exact fun _ _ both => .ok (.other both _ _ _)

/-! ### Rules -/

/-- A rule for bare names. It may keep any state, to which each node that a conversion comes to is
shown, so that it can decide every name for itself. -/
structure WordRule (State : Type) where
  next : Concrete → State → State
  isLocal : Concrete → State → Bool

namespace WordRule

variable {State State' : Type} (rule : WordRule State) (rule' : WordRule State')

/-- The plan of a node by the rule. -/
def plan (source : Concrete) (state : State) : Except OversizedCodePoint (RubyPlan source) :=
  if source.type = "identifier" then
    .ok (leafPlan source (wordNode source (rule.isLocal source state)))
  else Ruby.plan source []

/-- Plans nodes by the rule. -/
def planner : Conversion.Planner Concrete.size Node OversizedCodePoint State :=
  fun source state => do
    let state := rule.next source state
    return (← rule.plan source state, state)

/-- The syntax tree of a concrete tree by the rule. -/
def tree (start : State) (source : Concrete) : Except OversizedCodePoint Node :=
  (Conversion.build rule.planner source start).map Prod.fst

/-- The result for a concrete tree by the rule. -/
def analyze (start : State) (file : String) (source : Concrete) : Except Abort Result :=
  resultOf file ((rule.tree start source).mapError fun _ => .aborted .codePointTooLarge)

/-- **The plans of two rules are alike.** -/
theorem plansAlike (source source' : Concrete) (state : State) (state' : State')
    (same : source = source') :
    SameOutcome (fun plan plan' => PlansAlike Eq Reworded plan.1 plan'.1)
      (rule.planner source state) (rule'.planner source' state') := by
  subst same
  show SameOutcome _ (rule.plan source _ >>= _) (rule'.plan source _ >>= _)
  unfold WordRule.plan
  by_cases isWord : source.type = "identifier"
  · rw [if_pos isWord, if_pos isWord]
    exact .ok ⟨.nil, fun _ _ _ => .ok (wordNode_reworded source _ _)⟩
  · rw [if_neg isWord, if_neg isWord]
    cases outcome : Ruby.plan source [] with
    | error error => exact .error error
    | ok planned =>
      exact .ok ⟨List.forall₂_same.mpr fun _ _ => rfl, plan_rewords outcome⟩

/-- **The trees of two rules are reworded ones,** if there are any. -/
theorem tree_reworded (start : State) (start' : State') (source : Concrete) :
    SameOutcome Reworded (rule.tree start source) (rule'.tree start' source) := by
  rw [tree, tree, Conversion.build_eq_convert, Conversion.build_eq_convert]
  exact (convert_sameOutcome (rule.plansAlike rule') rfl start start').map

end WordRule

/-- The rule that goes by the names bound before. -/
def boundRule : WordRule Names where
  next source bound := boundBy source ++ bound
  isLocal source bound := bound.contains source.text

theorem plan_of_word {source : Concrete} (isWord : source.type = "identifier") (bound : Names) :
    plan source bound = .ok (leafPlan source (nameNode source bound)) := by
  simp [plan, isWord, callTypes, sequenceTypes]

/-- What becomes of a node other than a bare name does not depend on the names bound before. -/
theorem plan_of_noWord {source : Concrete} (noWord : source.type ≠ "identifier") (bound : Names) :
    plan source bound = plan source [] := by
  unfold plan
  rw [if_neg noWord, if_neg noWord]

/-- **By the names bound before a concrete tree is planned as it is for a check.** -/
theorem planner_boundRule : boundRule.planner = planner := by
  funext source bound
  show (boundRule.plan source _ >>= _) = (plan source _ >>= _)
  refine congrArg (· >>= _) ?_
  unfold WordRule.plan
  by_cases isWord : source.type = "identifier"
  · rw [if_pos isWord, plan_of_word isWord]
    rfl
  · rw [if_neg isWord, plan_of_noWord isWord (boundBy source ++ bound)]

theorem tree_boundRule (source : Concrete) : boundRule.tree [] source = tree source := by
  rw [WordRule.tree, planner_boundRule, tree]

/-! ### What is said of a file, by any rule -/

/-- **The same is said of reworded trees.** -/
theorem said_of_reworded {first second : Except OversizedCodePoint Node}
    (trees : SameOutcome Reworded first second) (file : String) :
    (resultOf file (first.mapError fun _ => .aborted .codePointTooLarge)).map Result.said =
      (resultOf file (second.mapError fun _ => .aborted .codePointTooLarge)).map Result.said := by
  cases trees with
  | ok here =>
    refine (said_resultOf _ file).trans (Eq.trans ?_ (said_resultOf _ file).symm)
    rw [account_eq_settle, account_eq_settle, here.sketch]
  | error error => rfl

/-- **What is said of a Ruby file does not depend on the rule for bare names.** -/
theorem WordRule.said_analyze {State : Type} (rule : WordRule State) (start : State) (file : String)
    (source : Concrete) :
    (rule.analyze start file source).map Result.said =
      (analyzeRuby file (some source)).map Result.said := by
  have trees := rule.tree_reworded boundRule start [] source
  rw [tree_boundRule] at trees
  exact said_of_reworded trees file

end Ruby

end LetShadow
