/-
**The statements of a body.**

A body lists its statements as its children, but for what is passed over, and wrappers may stand around
any of them. How they are wrapped says nothing: only the statements count, in their order.

* `Spot.InBody` — what stands in a body with nothing but wrappers around it.
* `Spot.mem_statements_iff` — **the statements are what is read for itself among it.**
* `Concrete.wrapping` — a body as a work list, which gathers the same statements (`gather_eq`).
* `Rewraps` — an edit of the wrappers and of what is passed over, and `eqvGen_rewraps_iff`: **such edits
  are all that bodies with the same statements differ by.**
* `statements_exact` — all of this together.
-/

import LetShadow.Proofs.Ruby.Placement
import LetShadow.Proofs.Source.Reading
import LetShadow.Proofs.Worklist

namespace LetShadow.Ruby

open Relation (EqvGen)

theorem Concrete.not_isSkipped_of_isWrapper {node : Concrete} (wraps : node.isWrapper = true) :
    node.isSkipped = false := by
  have type : node.type = "block_body" ∨ node.type = "body_statement" := by
    simpa [isWrapper, wrapperTypes] using wraps
  rcases type with type | type <;> simp [isSkipped, skippedTypes, type]

/-! ### Places in a body -/

namespace Spot

/-- What stands in a body: a child of it, or what stands in a wrapper that is a child of it. -/
inductive InBody : Spot → Spot → Prop
  | child {here place : Spot} (mem : place ∈ here.children) : InBody here place
  | through {here wrapper place : Spot} (mem : wrapper ∈ here.children)
      (wraps : wrapper.node.isWrapper = true) (inner : InBody wrapper place) : InBody here place

/-- **The statements of a body are what is read for itself in it.** -/
theorem mem_statements_iff {here place : Spot} :
    place ∈ here.statements ↔ here.InBody place ∧ place.node.IsRead := by
  induction here using spots_induction with
  | step here ih =>
    rw [statements, List.mem_flatMap]
    constructor
    · rintro ⟨child, mem, counts⟩
      rw [counted_eq] at counts
      split_ifs at counts with skipped wraps
      · cases counts
      · obtain ⟨inner, read⟩ := (ih child mem).mp counts
        exact ⟨.through mem wraps inner, read⟩
      · obtain rfl := List.mem_singleton.mp counts
        exact ⟨.child mem, Bool.eq_false_iff.mpr skipped, Bool.eq_false_iff.mpr wraps⟩
    · rintro ⟨mem | ⟨mem, wraps, inner⟩, read⟩
      · refine ⟨place, mem, ?_⟩
        rw [counted_eq, read.kept, read.single]
        exact List.mem_singleton_self place
      · refine ⟨_, mem, ?_⟩
        rw [counted_eq, Concrete.not_isSkipped_of_isWrapper wraps, if_pos wraps]
        exact (ih _ mem).mpr ⟨inner, read⟩

/-- The statements stand in pre-order, each of them once. -/
theorem body_sublist_walk (here : Spot) : here.statements.Sublist here.walk := by
  have each (child : Spot) : child.counted.Sublist child.walk := by
    have alone : (child.counted.flatMap fun place => [place]).Sublist child.walk :=
      counted_flatMap_sublist child fun place _ => List.singleton_sublist.mpr (self_mem_walk place)
    rwa [List.flatMap_singleton'] at alone
  exact (flatMap_sublist (List.Sublist.refl _) fun child _ => each child).trans
    (flatMap_children_sublist_walk here)

end Spot

/-! ### Bodies as work lists -/

namespace Concrete

/-- The statements that nodes side by side count for. -/
def counted (nodes : List Concrete) : List Concrete :=
  nodes.flatMap fun node => statementOnto node []

theorem counted_append (first second : List Concrete) :
    counted (first ++ second) = counted first ++ counted second :=
  List.flatMap_append

theorem counted_cons (node : Concrete) (rest : List Concrete) :
    counted (node :: rest) = statementOnto node [] ++ counted rest :=
  List.flatMap_cons

theorem counted_skipped {node : Concrete} (skips : node.isSkipped = true) :
    statementOnto node [] = [] := by
  rw [statementOnto_eq, if_pos skips]

theorem counted_wrapper {node : Concrete} (wraps : node.isWrapper = true) :
    statementOnto node [] = counted node.children := by
  rw [statementOnto_eq, not_isSkipped_of_isWrapper wraps, if_pos wraps]
  exact statements_eq node

theorem counted_read {node : Concrete} (read : node.IsRead) : statementOnto node [] = [node] := by
  rw [statementOnto_eq, read.kept, read.single]
  rfl

/-- Nodes as a nesting that goes into wrappers only. -/
def wrapping : Nesting Concrete where
  inside node := if node.isWrapper then node.children else []
  size := size
  smaller node := by
    rw [size_eq]
    split
    · rw [← forestSize_eq]
      exact Nat.lt_add_of_pos_left Nat.zero_lt_one
    · exact Nat.lt_add_right _ Nat.zero_lt_one

/-- Puts a node behind what has been gathered, if it is read for itself. -/
def gather (node : Concrete) : StateM (List Concrete) Unit :=
  if node.isSkipped || node.isWrapper then pure () else modify (· ++ [node])

/-- What passes from the nodes that a work list goes on to holds of all work lists. -/
theorem body_induction {motive : List Concrete → Prop} (done : motive [])
    (skipped : ∀ node rest, node.isSkipped = true → motive rest → motive (node :: rest))
    (wrapper : ∀ node rest, node.isWrapper = true → motive (node.children ++ rest) →
      motive (node :: rest))
    (read : ∀ node rest, node.IsRead → motive rest → motive (node :: rest)) (nodes : List Concrete) :
    motive nodes := by
  induction nodes using wrapping.pending_induction with
  | done => exact done
  | step node rest ih =>
    by_cases wraps : node.isWrapper = true
    · exact wrapper node rest wraps (by simpa [wrapping, wraps] using ih)
    · have onward : motive rest := by simpa [wrapping, wraps] using ih
      by_cases skips : node.isSkipped = true
      · exact skipped node rest skips onward
      · exact read node rest ⟨Bool.eq_false_iff.mpr skips, Bool.eq_false_iff.mpr wraps⟩ onward

/-- **A work list gathers the statements.** -/
theorem gather_eq (pending gathered : List Concrete) :
    (wrapping.drain gather pending).run gathered = ((), gathered ++ counted pending) := by
  induction pending using body_induction generalizing gathered with
  | done =>
    rw [Nesting.drain_nil, counted, List.flatMap_nil, List.append_nil]
    rfl
  | skipped node rest skips ih =>
    have single : node.isWrapper = false := by
      by_contra wraps
      cases skips.symm.trans (not_isSkipped_of_isWrapper (Bool.not_eq_false _ ▸ wraps))
    have nothing : gather node = pure () := by rw [gather, skips, Bool.true_or, if_pos rfl]
    rw [Nesting.drain_cons, nothing, pure_bind, counted_cons, counted_skipped skips, List.nil_append,
      ← ih]
    simp [wrapping, single]
  | wrapper node rest wraps ih =>
    have nothing : gather node = pure () := by rw [gather, wraps, Bool.or_true, if_pos rfl]
    rw [Nesting.drain_cons, nothing, pure_bind, counted_cons, counted_wrapper wraps, ← counted_append,
      ← ih]
    simp [wrapping, wraps]
  | read node rest read ih =>
    have taken : gather node = modify (· ++ [node]) := by rw [gather, read.kept, read.single]; rfl
    rw [Nesting.drain_cons, taken, counted_cons, counted_read read, ← List.append_assoc, ← ih]
    simp [wrapping, read.single]

end Concrete

/-! ### Bodies that are wrapped in another way -/

open Concrete (counted counted_append counted_cons)

/-- An edit of nodes side by side that leaves their statements alike: something that is passed over is
added, nodes are put into a wrapper, a wrapper is split in two, the same is done inside of a wrapper, or a
statement gives way to one like it. -/
inductive Rewraps (alike : Setoid Concrete) : List Concrete → List Concrete → Prop
  | adding (before after : List Concrete) {node : Concrete} (skips : node.isSkipped = true) :
      Rewraps alike (before ++ after) (before ++ node :: after)
  | nesting (before after : List Concrete) {wrapper : Concrete} (wraps : wrapper.isWrapper = true) :
      Rewraps alike (before ++ wrapper.children ++ after) (before ++ wrapper :: after)
  | splitting (before after : List Concrete) {whole first second : Concrete}
      (wraps : whole.isWrapper = true) (wrapsFirst : first.isWrapper = true)
      (wrapsSecond : second.isWrapper = true) (parts : whole.children = first.children ++ second.children) :
      Rewraps alike (before ++ whole :: after) (before ++ first :: second :: after)
  | inside (before after : List Concrete) {wrapper edited : Concrete} (wraps : wrapper.isWrapper = true)
      (wrapsEdited : edited.isWrapper = true) (edit : Rewraps alike wrapper.children edited.children) :
      Rewraps alike (before ++ wrapper :: after) (before ++ edited :: after)
  | replacing (before after : List Concrete) {node other : Concrete} (read : node.IsRead)
      (readOther : other.IsRead) (like : alike.r node other) :
      Rewraps alike (before ++ node :: after) (before ++ other :: after)

variable {alike : Setoid Concrete} {first second : List Concrete}

/-- Lists of nodes that are alike one by one. -/
def AllAlike (alike : Setoid Concrete) : List Concrete → List Concrete → Prop :=
  List.Forall₂ alike.r

theorem allAlike_equivalence (alike : Setoid Concrete) : Equivalence (AllAlike alike) where
  refl nodes := List.forall₂_same.mpr fun node _ => alike.refl node
  symm := by
    intro first second like
    induction like with
    | nil => exact .nil
    | cons here _ ih => exact .cons (alike.symm here) ih
  trans := by
    intro first second third like likeToo
    induction like generalizing third with
    | nil => exact likeToo
    | cons here _ ih =>
      cases likeToo with
      | cons hereToo later => exact .cons (alike.trans here hereToo) (ih later)

/-- **An edit leaves the statements alike.** -/
theorem Rewraps.allAlike (edit : Rewraps alike first second) :
    AllAlike alike (counted first) (counted second) := by
  have same (nodes : List Concrete) : AllAlike alike nodes nodes :=
    (allAlike_equivalence alike).refl nodes
  induction edit with
  | adding before after skips =>
    rw [counted_append, counted_append, counted_cons, Concrete.counted_skipped skips, List.nil_append]
    exact same _
  | nesting before after wraps =>
    rw [counted_append, counted_append, counted_append, counted_cons, Concrete.counted_wrapper wraps,
      List.append_assoc]
    exact same _
  | splitting before after wraps wrapsFirst wrapsSecond parts =>
    rw [counted_append, counted_append, counted_cons, counted_cons, counted_cons,
      Concrete.counted_wrapper wraps, Concrete.counted_wrapper wrapsFirst,
      Concrete.counted_wrapper wrapsSecond, parts, counted_append, List.append_assoc]
    exact same _
  | inside before after wraps wrapsEdited _ ih =>
    rw [counted_append, counted_append, counted_cons, counted_cons, Concrete.counted_wrapper wraps,
      Concrete.counted_wrapper wrapsEdited]
    exact List.rel_append (same _) (List.rel_append ih (same _))
  | replacing before after read readOther like =>
    rw [counted_append, counted_append, counted_cons, counted_cons, Concrete.counted_read read,
      Concrete.counted_read readOther]
    exact List.rel_append (same _) (.cons like (same _))

/-- Edits among some nodes are edits behind one more. -/
theorem Rewraps.cons (edit : Rewraps alike first second) (node : Concrete) :
    Rewraps alike (node :: first) (node :: second) := by
  cases edit with
  | adding before after skips => exact .adding (node :: before) after skips
  | nesting before after wraps => exact .nesting (node :: before) after wraps
  | splitting before after wraps wrapsFirst wrapsSecond parts =>
    exact .splitting (node :: before) after wraps wrapsFirst wrapsSecond parts
  | inside before after wraps wrapsEdited edit =>
    exact .inside (node :: before) after wraps wrapsEdited edit
  | replacing before after read readOther like =>
    exact .replacing (node :: before) after read readOther like

theorem eqvGen_cons (edits : EqvGen (Rewraps alike) first second) (node : Concrete) :
    EqvGen (Rewraps alike) (node :: first) (node :: second) := by
  induction edits with
  | rel _ _ edit => exact .rel _ _ (edit.cons node)
  | refl => exact .refl _
  | symm _ _ _ ih => exact ih.symm
  | trans _ _ _ _ _ ih ihToo => exact ih.trans _ _ _ ihToo

/-- Nodes can be edited into the statements that they count for. -/
theorem eqvGen_counted (alike : Setoid Concrete) (nodes : List Concrete) :
    EqvGen (Rewraps alike) nodes (counted nodes) := by
  induction nodes using Concrete.body_induction with
  | done => exact .refl _
  | skipped node rest skips ih =>
    rw [counted_cons, Concrete.counted_skipped skips, List.nil_append]
    exact (EqvGen.rel _ _ (.adding [] rest skips)).symm.trans _ _ _ ih
  | wrapper node rest wraps ih =>
    rw [counted_cons, Concrete.counted_wrapper wraps, ← counted_append]
    exact (EqvGen.rel _ _ (.nesting [] rest wraps)).symm.trans _ _ _ ih
  | read node rest read ih =>
    rw [counted_cons, Concrete.counted_read read]
    exact eqvGen_cons ih node

theorem isRead_of_mem_counted {nodes : List Concrete} {node : Concrete} (mem : node ∈ counted nodes) :
    node.IsRead := by
  induction nodes using Concrete.body_induction with
  | done => cases mem
  | skipped other rest skips ih =>
    rw [counted_cons, Concrete.counted_skipped skips, List.nil_append] at mem
    exact ih mem
  | wrapper other rest wraps ih =>
    rw [counted_cons, Concrete.counted_wrapper wraps, ← counted_append] at mem
    exact ih mem
  | read other rest read ih =>
    rw [counted_cons, Concrete.counted_read read] at mem
    rcases List.mem_cons.mp mem with rfl | later
    · exact read
    · exact ih later

/-- Statements that are alike one by one can be edited into each other. -/
theorem eqvGen_of_allAlike (like : AllAlike alike first second) (read : ∀ node ∈ first, node.IsRead)
    (readToo : ∀ node ∈ second, node.IsRead) : EqvGen (Rewraps alike) first second := by
  induction like with
  | nil => exact .refl _
  | cons here _ ih =>
    obtain ⟨readHere, readLater⟩ := List.forall_mem_cons.mp read
    obtain ⟨readHereToo, readLaterToo⟩ := List.forall_mem_cons.mp readToo
    exact (EqvGen.rel _ _ (.replacing [] _ readHere readHereToo here)).trans _ _ _
      (eqvGen_cons (ih readLater readLaterToo) _)

/-- **Such edits are all that bodies with the same statements differ by.** -/
theorem eqvGen_rewraps_iff :
    EqvGen (Rewraps alike) first second ↔ AllAlike alike (counted first) (counted second) := by
  constructor
  · intro edits
    have equivalence := (allAlike_equivalence alike).comap counted
    exact equivalence.eqvGen_iff.mp (Relation.EqvGen.mono (fun _ _ edit => edit.allAlike) _ _ edits)
  · intro like
    have between := eqvGen_of_allAlike like (fun _ => isRead_of_mem_counted)
      fun _ => isRead_of_mem_counted
    exact (eqvGen_counted alike first).trans _ _ _
      (between.trans _ _ _ (eqvGen_counted alike second).symm)

/-! ### The statements of a body -/

/-- **The statements of a body are exactly what is read for itself in it.** Each stands once among them and
in pre-order; a work list that goes into wrappers and leaves out what is passed over ends with the same
list; and two bodies have statements that are alike, one by one, exactly if each can be made of the other
by adding and leaving out what is passed over, by wrapping, unwrapping and splitting, and by statements
that give way to their like. With equality for likeness, no such edit changes the statements. -/
theorem statements_exact (node : Concrete) :
    (∃ places : List Spot, places.map Spot.node = node.statements ∧
      places.Sublist (⟨0, node⟩ : Spot).walk ∧
      (places.Pairwise fun first second => first.pos < second.pos) ∧
      ∀ place, place ∈ places ↔ (⟨0, node⟩ : Spot).InBody place ∧ place.node.IsRead) ∧
    (Concrete.wrapping.drain Concrete.gather node.children).run [] = ((), node.statements) ∧
    ∀ (alike : Setoid Concrete) (other : Concrete),
      EqvGen (Rewraps alike) node.children other.children ↔
        List.Forall₂ alike.r node.statements other.statements := by
  refine ⟨⟨(⟨0, node⟩ : Spot).statements, Spot.map_node_statements _, Spot.body_sublist_walk _,
    (Spot.walk_sorted _).sublist (Spot.body_sublist_walk _), fun _ => Spot.mem_statements_iff⟩, ?_, ?_⟩
  · rw [Concrete.gather_eq, List.nil_append, Concrete.statements_eq]
    rfl
  · intro alike other
    rw [Concrete.statements_eq, Concrete.statements_eq]
    exact eqvGen_rewraps_iff

end LetShadow.Ruby
