import Mathlib.Logic.Function.Basic
import Descent.Proofs.Regex.Preference

/-!
# Rounds that read

Where every round of a repetition without bound surely reads something
(`roundsRead`), the nodes of a program can be numbered so that the numbers fall
along all edges that read nothing (`exists_falls`). A round is numbered first,
for whatever it may lead to, and the choice of another round gets a number above
it: what reads something has numbers that do not hang on where it leads.
-/

namespace Descent.Regex

mutual
/-- Every round of a repetition without bound can be seen to read something. -/
def roundsRead : Regex → Bool
  | .empty | .oneOf _ | .lookAt _ => true
  | .literal text => !text.isEmpty
  | .concat parts | .alternation parts => allRoundsRead parts
  | .repetition body _ most _ => (most.isSome || body.readsSomething) && body.roundsRead
  | .group _ body => body.roundsRead

def allRoundsRead : List Regex → Bool
  | [] => true
  | part :: rest => part.roundsRead && allRoundsRead rest
end

variable {regex : Regex} {nodes : Nodes} {rank : Nat → Nat} {node : Node}

theorem Falls.exists_push (h : Falls rank nodes) (hclosed : Closed nodes) (node : Node)
    (height : Nat) (hnode : ∀ target ∈ node.passes, target < nodes.size ∧ rank target < height) :
    ∃ rank', Falls rank' (nodes.push node) ∧ (∀ place < nodes.size, rank' place = rank place) ∧
      rank' nodes.size = height := by
  have hbelow : ∀ place < nodes.size, Function.update rank nodes.size height place = rank place :=
    fun place hplace => Function.update_of_ne hplace.ne ..
  refine ⟨Function.update rank nodes.size height, ?_, hbelow, Function.update_self ..⟩
  refine (h.congr hclosed hbelow).push fun target htarget => ?_
  rw [hbelow target (hnode target htarget).1, Function.update_self]
  exact (hnode target htarget).2

theorem Falls.setIfInBounds (h : Falls rank nodes) {place : Nat}
    (hnode : ∀ target ∈ node.passes, rank target < rank place) :
    Falls rank (nodes.setIfInBounds place node) := by
  intro other found hfound target htarget
  rw [Array.getElem?_setIfInBounds] at hfound
  split at hfound
  case isTrue hplace =>
    split at hfound
    · cases hfound
      exact hplace ▸ hnode target htarget
    · cases hfound
  case isFalse => exact h other found hfound target htarget

/-- However the nodes of a program are numbered, so can those be that were added. Where they read
something, the number of the first one does not hang on that of the node they lead to. -/
structure Climbs (reads : Bool) (program later : Nat × Nodes) : Prop where
  grown : Grown program.2.size later
  ranks : ∃ rise, ∀ rank, Falls rank program.2 → ∃ rank', Falls rank' later.2 ∧
    (∀ place < program.2.size, rank' place = rank place) ∧
    rank' later.1 ≤ (if reads then 0 else rank program.1) + rise

variable {program middle later : Nat × Nodes} {reads : Bool}

theorem Climbs.refl (hclosed : Closed program.2) (hentry : program.1 < program.2.size) :
    Climbs false program program :=
  ⟨⟨hclosed, hentry, Nat.le_refl _⟩, 0,
    fun rank hfalls => ⟨rank, hfalls, fun _ _ => rfl, Nat.le_refl _⟩⟩

theorem Climbs.trans {more : Bool} (h : Climbs reads program middle)
    (hmore : Climbs more middle later) : Climbs (reads || more) program later := by
  obtain ⟨rise, hranks⟩ := h.ranks
  obtain ⟨rise', hranks'⟩ := hmore.ranks
  refine ⟨h.grown.trans hmore.grown, rise + rise', fun rank hfalls => ?_⟩
  obtain ⟨rank', hfalls', hbelow, hentry⟩ := hranks rank hfalls
  obtain ⟨rank'', hfalls'', hbelow', hentry'⟩ := hranks' rank' hfalls'
  refine ⟨rank'', hfalls'', fun place hplace => ?_, ?_⟩
  · rw [hbelow' place (Nat.lt_of_lt_of_le hplace h.grown.le_size), hbelow place hplace]
  · grind

theorem Climbs.weaken (h : Climbs reads program later) : Climbs false program later := by
  obtain ⟨rise, hranks⟩ := h.ranks
  refine ⟨h.grown, rise, fun rank hfalls => ?_⟩
  obtain ⟨rank', hfalls', hbelow, hentry⟩ := hranks rank hfalls
  exact ⟨rank', hfalls', hbelow, by grind⟩

theorem climbs_oneOf (hclosed : Closed program.2) (set : CharClass)
    (htarget : target < program.2.size) :
    Climbs true program (addNode program.2 (.oneOf set target)) := by
  refine ⟨hclosed.addNode (List.forall_mem_singleton.mpr htarget), 0, fun rank hfalls => ?_⟩
  obtain ⟨rank', hfalls', hbelow, hentry⟩ :=
    hfalls.exists_push hclosed (.oneOf set target) 0 fun _ h => (nomatch h)
  exact ⟨rank', hfalls', hbelow, hentry.le⟩

/-- A node that leads on to two others without reading is numbered above both of them. -/
theorem Climbs.choose {second first : Nat × Nodes} {reads' : Bool}
    (hsecond : Climbs reads' program second) (hfirst : Climbs reads (program.1, second.2) first)
    (hentry : program.1 < program.2.size)
    (htargets : ∀ target ∈ node.targets, target = first.1 ∨ target = second.1) :
    Climbs (reads && reads') program (addNode first.2 node) := by
  obtain ⟨rise, hranks⟩ := hsecond.ranks
  obtain ⟨rise', hranks'⟩ := hfirst.ranks
  have hlt : ∀ target ∈ node.targets, target < first.2.size := by
    intro target htarget
    rcases htargets target htarget with rfl | rfl
    · exact hfirst.grown.entry_lt
    · exact hfirst.grown.lt_size hsecond.grown.entry_lt
  refine ⟨(hsecond.grown.trans hfirst.grown).trans (hfirst.grown.closed.addNode hlt),
    rise + rise' + 1, fun rank hfalls => ?_⟩
  obtain ⟨rank', hfalls', hbelow, hright⟩ := hranks rank hfalls
  obtain ⟨rank'', hfalls'', hbelow', hleft⟩ := hranks' rank' hfalls'
  have hsame := hbelow' second.1 hsecond.grown.entry_lt
  have hpasses : ∀ target ∈ node.passes, target < first.2.size ∧
      rank'' target < max (rank'' first.1) (rank'' second.1) + 1 := by
    intro target htarget
    have htarget := Node.mem_targets_of_passes htarget
    refine ⟨hlt target htarget, ?_⟩
    rcases htargets target htarget with rfl | rfl <;> omega
  obtain ⟨rank₃, hfalls₃, hbelow₃, hnode⟩ :=
    hfalls''.exists_push hfirst.grown.closed node _ hpasses
  refine ⟨rank₃, hfalls₃, fun place hplace => ?_, hnode.le.trans ?_⟩
  · have hplace' := hsecond.grown.lt_size hplace
    rw [hbelow₃ place (hfirst.grown.lt_size hplace'), hbelow' place hplace', hbelow place hplace]
  · have hprogram := hbelow program.1 hentry
    grind

theorem climbs_pass (hclosed : Closed program.2) (hentry : program.1 < program.2.size)
    (node : Node) (hnode : node.targets = [program.1]) :
    Climbs false program (addNode program.2 node) := by
  have hbase : Climbs false program program := .refl hclosed hentry
  refine hbase.choose hbase hentry fun target htarget => ?_
  rw [hnode] at htarget
  exact .inl (List.mem_singleton.mp htarget)

theorem Node.turn_targets (greedy : Bool) (round exit : Nat) :
    ∀ target ∈ (Node.turn greedy round exit).targets, target = round ∨ target = exit := by
  cases greedy <;> simp [Node.turn, targets, or_comm]

theorem Climbs.repeat {step : Nat × Nodes → Nat × Nodes}
    (hstep : ∀ later, Climbs reads program later → Climbs reads program (step later)) (rounds : Nat)
    (h : Climbs reads program later) : Climbs reads program (Nat.repeat step rounds later) := by
  induction rounds with
  | zero => exact h
  | succ rounds ih => exact hstep _ ih

/-- Wherever it is compiled to, nodes of an expression can be numbered. -/
def Climbing (reads : Bool) (compile : Nat → Nodes → Nat × Nodes) : Prop :=
  ∀ ⦃next nodes⦄, Closed nodes → next < nodes.size → Climbs reads (next, nodes) (compile next nodes)

theorem literal_climbs (text : Text) : Climbing (!text.isEmpty) (compile (.literal text)) := by
  intro next nodes hclosed hnext
  rw [compile]
  induction text with
  | nil => exact .refl hclosed hnext
  | cons symbol text ih =>
    have htext := ih.trans (climbs_oneOf ih.grown.closed (.single symbol) ih.grown.entry_lt)
    rw [Bool.or_true] at htext
    exact htext

theorem Climbing.step {compile : Nat → Nodes → Nat × Nodes} {more : Bool}
    (hmore : Climbing more compile) (h : Climbs reads program later) :
    Climbs (reads || more) program (compile later.1 later.2) :=
  h.trans (hmore h.grown.closed h.grown.entry_lt)

theorem Climbing.repeat {compile : Nat → Nodes → Nat × Nodes} {more : Bool}
    (hmore : Climbing more compile) (h : Climbs reads program later) (rounds : Nat) :
    Climbs (reads || (0 < rounds && more)) program
      (Nat.repeat (fun later => compile later.1 later.2) rounds later) := by
  induction rounds with
  | zero =>
    rw [decide_eq_false (Nat.lt_irrefl 0), Bool.false_and, Bool.or_false]
    exact h
  | succ rounds ih =>
    have habsorb : (reads || (0 < rounds && more) || more) = (reads || more) := by
      cases more <;> simp
    rw [decide_eq_true (Nat.succ_pos rounds), Bool.true_and, ← habsorb]
    exact hmore.step ih

/-- The choice of another round is numbered above what a round begins with. -/
theorem climbs_loop {compile : Nat → Nodes → Nat × Nodes} (hbody : Climbing true compile)
    (hclosed : Closed nodes) (hnext : next < nodes.size)
    (hnode : ∀ target ∈ node.targets,
      target = (compile nodes.size (nodes.push .accept)).1 ∨ target = next) :
    let round := compile nodes.size (nodes.push .accept)
    let loop := round.2.setIfInBounds nodes.size node
    Climbs false (next, nodes) (nodes.size, loop) ∧ Climbs true (next, nodes) (round.1, loop) := by
  intro round loop
  have hturn : Grown nodes.size (addNode nodes .accept) := hclosed.addNode (by simp [Node.targets])
  have hround := hbody hturn.closed hturn.entry_lt
  obtain ⟨rise, hranks⟩ := hround.ranks
  have hloop : ∀ rank, Falls rank nodes → ∃ rank', Falls rank' loop ∧
      (∀ place < nodes.size, rank' place = rank place) ∧ rank' round.1 ≤ rise ∧
      rank' nodes.size = max rise (rank next) + 1 := by
    intro rank hfalls
    obtain ⟨rank', hfalls', hbelow, hheight⟩ :=
      hfalls.exists_push hclosed .accept (max rise (rank next) + 1) fun _ h => (nomatch h)
    obtain ⟨rank'', hfalls'', hbelow', hentry⟩ := hranks rank' hfalls'
    have hentry : rank'' round.1 ≤ rise := hentry.trans (Nat.zero_add rise).le
    have hturned := hbelow' nodes.size hturn.entry_lt
    have hexit := (hbelow' next (hturn.lt_size hnext)).trans (hbelow next hnext)
    refine ⟨rank'', hfalls''.setIfInBounds fun target htarget => ?_, fun place hplace => ?_, hentry,
      hturned.trans hheight⟩
    · rcases hnode target (Node.mem_targets_of_passes htarget) with rfl | rfl
      · exact Nat.lt_of_le_of_lt hentry (by omega)
      · omega
    · rw [hbelow' place (hturn.lt_size hplace), hbelow place hplace]
  have hset : Grown nodes.size (round.1, loop) := by
    refine (hturn.trans hround.grown).setIfInBounds nodes.size fun target htarget => ?_
    rcases hnode target htarget with rfl | rfl
    · exact hround.grown.entry_lt
    · exact hround.grown.lt_size (hturn.lt_size hnext)
  have hplace : nodes.size < loop.size := by
    rw [Array.size_setIfInBounds]
    exact hround.grown.lt_size hturn.entry_lt
  refine ⟨⟨⟨hset.closed, hplace, hset.le_size⟩, rise + 1, fun rank hfalls => ?_⟩,
    hset, rise, fun rank hfalls => ?_⟩
  · obtain ⟨rank', hfalls', hbelow, -, hheight⟩ := hloop rank hfalls
    refine ⟨rank', hfalls', hbelow, ?_⟩
    simp only [hheight, Bool.false_eq_true, if_false]
    omega
  · obtain ⟨rank', hfalls', hbelow, hentry, -⟩ := hloop rank hfalls
    refine ⟨rank', hfalls', hbelow, ?_⟩
    simpa using hentry

mutual
theorem compile_climbs : (regex : Regex) → regex.roundsRead = true →
    Climbing regex.readsSomething (compile regex)
  | .empty, _ => by
    intro next nodes hclosed hnext
    rw [compile]
    exact .refl hclosed hnext
  | .literal text, hrounds => by
    rw [roundsRead, Bool.not_eq_true'] at hrounds
    have hliteral := literal_climbs text
    rw [hrounds] at hliteral
    exact hliteral
  | .oneOf set, _ => by
    intro next nodes hclosed hnext
    rw [compile]
    exact climbs_oneOf hclosed set hnext
  | .lookAt look, _ => by
    intro next nodes hclosed hnext
    rw [compile]
    exact climbs_pass hclosed hnext _ rfl
  | .concat parts, hrounds => by
    intro next nodes hclosed hnext
    rw [compile]
    exact compileInOrder_climbs parts hrounds hclosed hnext
  | .alternation branches, hrounds => by
    intro next nodes hclosed hnext
    rw [compile]
    exact compileInChoice_climbs branches hrounds hclosed hnext
  | .repetition body least (some most) greedy, hrounds => by
    intro next nodes hclosed hnext
    have hbase : Climbs false (next, nodes) (next, nodes) := .refl hclosed hnext
    have hbody := compile_climbs body hrounds
    rw [compile, readsSomething]
    have hoptional : ∀ later, Climbs false (next, nodes) later →
        Climbs false (next, nodes) (addNode (compile body later.1 later.2).2
          (Node.turn greedy (compile body later.1 later.2).1 next)) := by
      intro later h
      exact (hbase.choose (hbody.step h) hnext (Node.turn_targets greedy _ next)).weaken
    exact hbody.repeat (Climbs.repeat hoptional (most - least) hbase) least
  | .repetition body least none greedy, hrounds => by
    intro next nodes hclosed hnext
    rw [roundsRead, Bool.and_eq_true] at hrounds
    have hreads : body.readsSomething = true := hrounds.1
    have hbody := compile_climbs body hrounds.2
    rw [hreads] at hbody
    obtain ⟨hturn, hround⟩ := climbs_loop hbody hclosed hnext (Node.turn_targets greedy _ next)
    rw [readsSomething, hreads, Bool.and_true]
    simp only [compile]
    split
    case isTrue hleast =>
      rw [decide_eq_true hleast]
      exact hbody.repeat hround (least - 1)
    case isFalse hleast =>
      rw [decide_eq_false hleast]
      split
      · exact hturn
      · have hbase : Climbs false (next, nodes) (next, nodes) := .refl hclosed hnext
        exact hbase.choose hround hnext (Node.turn_targets greedy _ next)
  | .group number body, hrounds => by
    intro next nodes hclosed hnext
    have hexit : Climbs false (next, nodes) (addNode nodes (.store (2 * number + 1) next)) :=
      climbs_pass hclosed hnext _ rfl
    have hbody := (compile_climbs body hrounds).step hexit
    have hstore := climbs_pass hbody.grown.closed hbody.grown.entry_lt (.store (2 * number) _) rfl
    have hgroup := hbody.trans hstore
    rw [Bool.false_or, Bool.or_false] at hgroup
    rw [compile]
    exact hgroup

theorem compileInOrder_climbs : (parts : List Regex) → allRoundsRead parts = true →
    Climbing (anyReadsSomething parts) (compileInOrder parts)
  | [], _ => by
    intro next nodes hclosed hnext
    rw [compileInOrder]
    exact .refl hclosed hnext
  | part :: rest, hrounds => by
    intro next nodes hclosed hnext
    rw [allRoundsRead, Bool.and_eq_true] at hrounds
    rw [compileInOrder, anyReadsSomething, Bool.or_comm]
    exact (compile_climbs part hrounds.1).step (compileInOrder_climbs rest hrounds.2 hclosed hnext)

theorem compileInChoice_climbs : (branches : List Regex) → allRoundsRead branches = true →
    Climbing (allReadSomething branches) (compileInChoice branches)
  | [], _ => by
    intro next nodes hclosed hnext
    rw [compileInChoice]
    exact climbs_oneOf hclosed [] (Nat.zero_lt_of_lt hnext)
  | [branch], hrounds => by
    intro next nodes hclosed hnext
    rw [allRoundsRead, Bool.and_eq_true] at hrounds
    rw [compileInChoice, allReadSomething, allReadSomething, Bool.and_true]
    exact compile_climbs branch hrounds.1 hclosed hnext
  | branch :: second :: rest, hrounds => by
    intro next nodes hclosed hnext
    rw [allRoundsRead, Bool.and_eq_true] at hrounds
    have hrest := compileInChoice_climbs (second :: rest) hrounds.2 hclosed hnext
    have hbranch := compile_climbs branch hrounds.1 hrest.grown.closed (hrest.grown.lt_size hnext)
    rw [compileInChoice, allReadSomething]
    · refine hrest.choose hbranch hnext ?_
      simp [Node.targets]
    · exact List.cons_ne_nil _ _
end

theorem exists_falls (hrounds : regex.roundsRead = true) :
    ∃ rank, Falls rank regex.program.nodes := by
  have hclosed : Closed #[.accept] := by simp [Closed, Node.targets]
  have hbase : Falls (fun _ => 0) #[.accept] := by
    intro place node hnode target htarget
    obtain rfl := List.mem_singleton.mp (Array.mem_toList_iff.mpr (Array.mem_of_getElem? hnode))
    cases htarget
  obtain ⟨rise, hranks⟩ := (compile_climbs regex hrounds hclosed (Nat.one_pos : 0 < 1)).ranks
  obtain ⟨rank, hfalls, -⟩ := hranks _ hbase
  exact ⟨rank, hfalls⟩

theorem allRoundsRead_joinLiterals (h : allRoundsRead regexes = true) :
    allRoundsRead (joinLiterals regexes) = true := by
  induction regexes with
  | nil => rfl
  | cons part rest ih =>
    rw [allRoundsRead, Bool.and_eq_true] at h
    have hrest := ih h.2
    unfold joinLiterals
    split
    case h_1 text more rest' hjoined =>
      rw [hjoined, allRoundsRead, Bool.and_eq_true] at hrest
      rw [allRoundsRead, Bool.and_eq_true]
      have htext : text ≠ [] := by simpa [roundsRead] using h.1
      exact ⟨by simp [roundsRead, htext], hrest.2⟩
    · rw [allRoundsRead, h.1, hrest, Bool.and_self]

theorem allRoundsRead_parts (h : regex.roundsRead = true) : allRoundsRead regex.parts = true := by
  cases regex with
  | empty => rfl
  | concat parts => exact h
  | _ => simp only [parts, allRoundsRead, h, Bool.and_self]

theorem roundsRead_anchored (look : Look) (h : regex.roundsRead = true) :
    (inOrder [.lookAt look, regex]).roundsRead = true := by
  rw [inOrder_lookAt]
  split
  · rfl
  · exact allRoundsRead_joinLiterals (allRoundsRead_parts h)

end Descent.Regex
