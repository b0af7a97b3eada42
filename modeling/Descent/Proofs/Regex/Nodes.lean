import Descent.Regex.Program
import Descent.Regex.Simplify

/-!
# The nodes of expressions

Compiling an expression adds nodes behind those there are and lets none of them
lead out of the program (`compile_grown`). An expression in its simplest form
has the nodes of its parts (`compile_inOrder`), so an anchor in front of an
expression is one more node in front of the same nodes (`compile_anchored`).
-/

namespace Descent.Regex

def Node.targets : Node → List Nat
  | .oneOf _ next | .lookAt _ next | .store _ next => [next]
  | .split first second => [first, second]
  | .accept => []

/-- Where a node leads without reading. -/
def Node.passes : Node → List Nat
  | .lookAt _ next | .store _ next => [next]
  | .split first second => [first, second]
  | .oneOf _ _ | .accept => []

/-- No node leads out of the program. -/
def Closed (nodes : Nodes) : Prop := ∀ node ∈ nodes, ∀ target ∈ node.targets, target < nodes.size

structure Grown (least : Nat) (program : Nat × Nodes) : Prop where
  closed : Closed program.2
  entry_lt : program.1 < program.2.size
  le_size : least ≤ program.2.size

variable {nodes : Nodes} {node : Node} {least next : Nat} {program : Nat × Nodes}

theorem Grown.lt_size (h : Grown least program) (hnext : next < least) : next < program.2.size :=
  Nat.lt_of_lt_of_le hnext h.le_size

theorem Grown.trans {later : Nat × Nodes} (h : Grown least program)
    (hlater : Grown program.2.size later) : Grown least later :=
  ⟨hlater.closed, hlater.entry_lt, Nat.le_trans h.le_size hlater.le_size⟩

theorem Closed.push (h : Closed nodes) (hnode : ∀ target ∈ node.targets, target < nodes.size) :
    Closed (nodes.push node) := by
  intro other hother target htarget
  rw [Array.size_push]
  obtain hother | rfl := Array.mem_push.mp hother
  · exact Nat.lt_succ_of_lt (h other hother target htarget)
  · exact Nat.lt_succ_of_lt (hnode target htarget)

theorem Closed.addNode (h : Closed nodes) (hnode : ∀ target ∈ node.targets, target < nodes.size) :
    Grown nodes.size (addNode nodes node) :=
  ⟨h.push hnode, by simp [Regex.addNode], by simp [Regex.addNode]⟩

theorem Closed.setIfInBounds (h : Closed nodes) (place : Nat)
    (hnode : ∀ target ∈ node.targets, target < nodes.size) :
    Closed (nodes.setIfInBounds place node) := by
  intro other hother target htarget
  rw [Array.size_setIfInBounds]
  obtain hother | rfl := Array.mem_or_eq_of_mem_setIfInBounds hother
  · exact h other hother target htarget
  · exact hnode target htarget

theorem Grown.setIfInBounds (h : Grown least program) (place : Nat)
    (hnode : ∀ target ∈ node.targets, target < program.2.size) :
    Grown least (program.1, program.2.setIfInBounds place node) := by
  refine ⟨h.closed.setIfInBounds place hnode, ?_, ?_⟩
  · rw [Array.size_setIfInBounds]
    exact h.entry_lt
  · rw [Array.size_setIfInBounds]
    exact h.le_size

theorem Node.turn_targets_lt (greedy : Bool) {round exit bound : Nat} (hround : round < bound)
    (hexit : exit < bound) : ∀ target ∈ (Node.turn greedy round exit).targets, target < bound := by
  cases greedy <;> simp [Node.turn, targets, hround, hexit]

theorem Grown.repeat {step : Nat × Nodes → Nat × Nodes}
    (hstep : ∀ program, Grown least program → Grown least (step program)) (rounds : Nat)
    (h : Grown least program) : Grown least (Nat.repeat step rounds program) := by
  induction rounds with
  | zero => exact h
  | succ rounds ih => exact hstep _ ih

/-- Wherever it is compiled to, an expression keeps a program within its nodes. -/
def Grows (compile : Nat → Nodes → Nat × Nodes) : Prop :=
  ∀ ⦃next nodes⦄, Closed nodes → next < nodes.size → Grown nodes.size (compile next nodes)

theorem Grows.step {compile : Nat → Nodes → Nat × Nodes} (h : Grows compile)
    (hprogram : Grown least program) : Grown least (compile program.1 program.2) :=
  hprogram.trans (h hprogram.closed hprogram.entry_lt)

mutual
theorem compile_grows : (regex : Regex) → Grows (compile regex)
  | .empty => by
    intro next nodes hclosed hnext
    rw [compile]
    exact ⟨hclosed, hnext, Nat.le_refl _⟩
  | .literal text => by
    intro next nodes hclosed hnext
    rw [compile]
    induction text with
    | nil => exact ⟨hclosed, hnext, Nat.le_refl _⟩
    | cons symbol text ih =>
      rw [List.foldr_cons]
      exact ih.trans (ih.closed.addNode (List.forall_mem_singleton.mpr ih.entry_lt))
  | .oneOf set => by
    intro next nodes hclosed hnext
    rw [compile]
    exact hclosed.addNode (List.forall_mem_singleton.mpr hnext)
  | .lookAt look => by
    intro next nodes hclosed hnext
    rw [compile]
    exact hclosed.addNode (List.forall_mem_singleton.mpr hnext)
  | .concat parts => by
    intro next nodes hclosed hnext
    rw [compile]
    exact compileInOrder_grows parts hclosed hnext
  | .alternation branches => by
    intro next nodes hclosed hnext
    rw [compile]
    exact compileInChoice_grows branches hclosed hnext
  | .repetition body least (some most) greedy => by
    intro next nodes hclosed hnext
    have hbase : Grown nodes.size (next, nodes) := ⟨hclosed, hnext, Nat.le_refl _⟩
    rw [compile]
    refine Grown.repeat (fun program => (compile_grows body).step) least ?_
    refine Grown.repeat (fun program hprogram => ?_) (most - least) hbase
    have hbody := (compile_grows body).step hprogram
    exact hbody.trans (hbody.closed.addNode
      (Node.turn_targets_lt greedy hbody.entry_lt (hbody.lt_size hnext)))
  | .repetition body least none greedy => by
    intro next nodes hclosed hnext
    have hturn : Grown nodes.size (addNode nodes .accept) := hclosed.addNode (by simp [Node.targets])
    have hloop := compile_grows body hturn.closed hturn.entry_lt
    have hbody := hturn.trans hloop
    have htargets := Node.turn_targets_lt greedy hbody.entry_lt (hbody.lt_size hnext)
    have hset := hbody.setIfInBounds nodes.size htargets
    simp only [compile]
    split
    · exact Grown.repeat (fun program => (compile_grows body).step) (least - 1) hset
    · split
      · refine ⟨hset.closed, ?_, hset.le_size⟩
        rw [Array.size_setIfInBounds]
        exact hloop.lt_size hturn.entry_lt
      · refine hset.trans (hset.closed.addNode ?_)
        rw [Array.size_setIfInBounds]
        exact htargets
  | .group number body => by
    intro next nodes hclosed hnext
    have hexit : Grown nodes.size (addNode nodes (.store (2 * number + 1) next)) :=
      hclosed.addNode (List.forall_mem_singleton.mpr hnext)
    have hbody := (compile_grows body).step hexit
    rw [compile]
    exact hbody.trans (hbody.closed.addNode (List.forall_mem_singleton.mpr hbody.entry_lt))

theorem compileInOrder_grows : (parts : List Regex) → Grows (compileInOrder parts)
  | [] => by
    intro next nodes hclosed hnext
    rw [compileInOrder]
    exact ⟨hclosed, hnext, Nat.le_refl _⟩
  | part :: rest => by
    intro next nodes hclosed hnext
    rw [compileInOrder]
    exact (compile_grows part).step (compileInOrder_grows rest hclosed hnext)

theorem compileInChoice_grows : (branches : List Regex) → Grows (compileInChoice branches)
  | [] => by
    intro next nodes hclosed hnext
    rw [compileInChoice]
    exact hclosed.addNode (List.forall_mem_singleton.mpr (Nat.zero_lt_of_lt hnext))
  | [branch] => by
    intro next nodes hclosed hnext
    rw [compileInChoice]
    exact compile_grows branch hclosed hnext
  | branch :: second :: rest => by
    intro next nodes hclosed hnext
    have hrest := compileInChoice_grows (second :: rest) hclosed hnext
    have hloop := compile_grows branch hrest.closed (hrest.lt_size hnext)
    have hbranch := hrest.trans hloop
    rw [compileInChoice]
    · refine hbranch.trans (hbranch.closed.addNode (List.forall_mem_cons.mpr ?_))
      exact ⟨hbranch.entry_lt, List.forall_mem_singleton.mpr (hloop.lt_size hrest.entry_lt)⟩
    · exact List.cons_ne_nil _ _
end

-- ---------------------------------------------------------------------------
-- Simplest forms
-- ---------------------------------------------------------------------------

theorem compile_append (text more : Text) (next : Nat) (nodes : Nodes) :
    compile (.literal (text ++ more)) next nodes =
      let (middle, nodes) := compile (.literal more) next nodes
      compile (.literal text) middle nodes := by
  simp only [compile, List.foldr_append]

theorem compileInOrder_cons (part : Regex) (rest : List Regex) (next : Nat) (nodes : Nodes) :
    compileInOrder (part :: rest) next nodes =
      compile part (compileInOrder rest next nodes).1 (compileInOrder rest next nodes).2 := by
  rw [compileInOrder]

theorem compileInOrder_joinLiterals (regexes : List Regex) (next : Nat) (nodes : Nodes) :
    compileInOrder (joinLiterals regexes) next nodes = compileInOrder regexes next nodes := by
  induction regexes with
  | nil => rfl
  | cons part rest ih =>
    unfold joinLiterals
    split
    case h_1 text more rest' hrest =>
      rw [compileInOrder_cons, compileInOrder_cons, compile_append, ← ih, hrest, compileInOrder_cons]
    · rw [compileInOrder_cons, compileInOrder_cons, ih]

theorem compileInOrder_parts (regex : Regex) (next : Nat) (nodes : Nodes) :
    compileInOrder regex.parts next nodes = compile regex next nodes := by
  cases regex with
  | empty => simp only [parts, compileInOrder, compile]
  | concat parts => simp only [Regex.parts, compile]
  | _ => simp only [parts, compileInOrder]

theorem compile_inOrder (regexes : List Regex) (next : Nat) (nodes : Nodes) :
    compile (inOrder regexes) next nodes = compileInOrder (regexes.flatMap parts) next nodes := by
  rw [← compileInOrder_joinLiterals, inOrder]
  split
  case h_1 h => rw [h, compileInOrder, compile]
  case h_2 h => rw [h, compileInOrder_cons, compileInOrder]
  case h_3 h => rw [compile]

theorem flatMap_parts_lookAt (look : Look) (regex : Regex) :
    [.lookAt look, regex].flatMap parts = .lookAt look :: regex.parts := by
  simp [parts]

theorem compile_anchored (look : Look) (regex : Regex) (next : Nat) (nodes : Nodes) :
    compile (inOrder [.lookAt look, regex]) next nodes =
      addNode (compile regex next nodes).2 (.lookAt look (compile regex next nodes).1) := by
  rw [compile_inOrder, flatMap_parts_lookAt, compileInOrder_cons, compileInOrder_parts, compile]

theorem groupCountOfAll_joinLiterals (regexes : List Regex) :
    groupCountOfAll (joinLiterals regexes) = groupCountOfAll regexes := by
  induction regexes with
  | nil => rfl
  | cons part rest ih =>
    unfold joinLiterals
    split
    case h_1 text more rest' hrest =>
      rw [hrest] at ih
      simp only [groupCountOfAll, groupCount, Nat.zero_max] at ih ⊢
      exact ih
    · simp only [groupCountOfAll, ih]

theorem groupCountOfAll_parts (regex : Regex) : groupCountOfAll regex.parts = regex.groupCount := by
  cases regex with
  | empty => rfl
  | concat parts => simp only [Regex.parts, groupCount]
  | _ => simp only [parts, groupCountOfAll, Nat.max_zero]

theorem inOrder_lookAt (look : Look) (regex : Regex) :
    inOrder [.lookAt look, regex] =
      if joinLiterals regex.parts = [] then .lookAt look
      else .concat (.lookAt look :: joinLiterals regex.parts) := by
  have hjoin : joinLiterals (.lookAt look :: regex.parts) =
      .lookAt look :: joinLiterals regex.parts := by
    simp [joinLiterals]
  rw [inOrder, flatMap_parts_lookAt, hjoin]
  cases joinLiterals regex.parts <;> rfl

theorem groupCount_anchored (look : Look) (regex : Regex) :
    (inOrder [.lookAt look, regex]).groupCount = regex.groupCount := by
  rw [← groupCountOfAll_parts regex, ← groupCountOfAll_joinLiterals, inOrder_lookAt]
  split
  case isTrue h => simp only [h, groupCount, groupCountOfAll]
  case isFalse => simp only [groupCount, groupCountOfAll, Nat.zero_max]

theorem beginsWith_anchored (look : Look) (regex : Regex) :
    (inOrder [.lookAt look, regex]).beginsWith look = true := by
  rw [inOrder_lookAt]
  split <;> simp [beginsWith, partsBeginWith]

end Descent.Regex
