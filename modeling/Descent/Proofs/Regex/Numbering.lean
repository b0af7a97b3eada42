import Descent.Proofs.Regex.Grouping
import Descent.Proofs.Regex.Nodes

/-!
# Numbers of groups

The groups of a notation are numbered from 1 on (`ofText?_numbered`), whatever
becomes of the expression around them. Number 0 is left to the whole match, so
no node inside it stores where the match begins (`compile_keepsStart`).
-/

namespace Descent.Regex

inductive Numbered : Regex → Prop
  | empty : Numbered .empty
  | literal {text : Text} : Numbered (.literal text)
  | oneOf {set : CharClass} : Numbered (.oneOf set)
  | lookAt {look : Look} : Numbered (.lookAt look)
  | concat {parts : List Regex} (h : ∀ part ∈ parts, Numbered part) : Numbered (.concat parts)
  | alternation {branches : List Regex} (h : ∀ branch ∈ branches, Numbered branch) :
    Numbered (.alternation branches)
  | repetition (h : Numbered body) : Numbered (.repetition body least most greedy)
  | group (hnumber : 0 < number) (h : Numbered body) : Numbered (.group number body)

-- ---------------------------------------------------------------------------
-- Nodes
-- ---------------------------------------------------------------------------

/-- No node stores where the whole match begins. -/
def LeavesStart (nodes : Nodes) : Prop := ∀ node ∈ nodes, ∀ next, node ≠ .store 0 next

variable {nodes : Nodes} {node : Node} {regex : Regex} {regexes : List Regex}

theorem LeavesStart.push (h : LeavesStart nodes) (hnode : ∀ next, node ≠ .store 0 next) :
    LeavesStart (nodes.push node) := by
  intro other hother
  obtain hother | rfl := Array.mem_push.mp hother
  · exact h other hother
  · exact hnode

theorem LeavesStart.setIfInBounds (h : LeavesStart nodes) (place : Nat) (hnode : ∀ next, node ≠ .store 0 next) :
    LeavesStart (nodes.setIfInBounds place node) := by
  intro other hother
  obtain hother | rfl := Array.mem_or_eq_of_mem_setIfInBounds hother
  · exact h other hother
  · exact hnode

theorem Node.turn_ne_store (greedy : Bool) (round exit slot next : Nat) :
    Node.turn greedy round exit ≠ .store slot next := by
  cases greedy <;> exact Node.noConfusion

theorem LeavesStart.repeat {step : Nat × Nodes → Nat × Nodes} {program : Nat × Nodes}
    (hstep : ∀ program, LeavesStart program.2 → LeavesStart (step program).2) (rounds : Nat)
    (h : LeavesStart program.2) : LeavesStart (Nat.repeat step rounds program).2 := by
  induction rounds with
  | zero => exact h
  | succ rounds ih => exact hstep _ ih

/-- Compiling an expression adds no node that stores where the whole match begins. -/
def KeepsStart (compile : Nat → Nodes → Nat × Nodes) : Prop :=
  ∀ next nodes, LeavesStart nodes → LeavesStart (compile next nodes).2

theorem compileInOrder_keepsStart (h : ∀ part ∈ regexes, KeepsStart (compile part)) :
    KeepsStart (compileInOrder regexes) := by
  induction regexes with
  | nil =>
    intro next nodes hnodes
    rw [compileInOrder]
    exact hnodes
  | cons part rest ih =>
    obtain ⟨hpart, hrest⟩ := List.forall_mem_cons.mp h
    intro next nodes hnodes
    rw [compileInOrder_cons]
    exact hpart _ _ (ih hrest next nodes hnodes)

theorem compileInChoice_keepsStart (h : ∀ branch ∈ regexes, KeepsStart (compile branch)) :
    KeepsStart (compileInChoice regexes) := by
  induction regexes with
  | nil =>
    intro next nodes hnodes
    rw [compileInChoice]
    exact hnodes.push fun _ => Node.noConfusion
  | cons branch rest ih =>
    obtain ⟨hbranch, hrest⟩ := List.forall_mem_cons.mp h
    intro next nodes hnodes
    cases rest with
    | nil =>
      rw [compileInChoice]
      exact hbranch next nodes hnodes
    | cons second rest =>
      rw [compileInChoice]
      · exact (hbranch next _ (ih hrest next nodes hnodes)).push fun _ => Node.noConfusion
      · exact List.cons_ne_nil _ _

theorem compile_keepsStart (h : Numbered regex) : KeepsStart (compile regex) := by
  induction h with
  | empty =>
    intro next nodes hnodes
    rw [compile]
    exact hnodes
  | @literal text =>
    intro next nodes hnodes
    rw [compile]
    induction text with
    | nil => exact hnodes
    | cons symbol text ih => exact ih.push fun _ => Node.noConfusion
  | oneOf | lookAt =>
    intro next nodes hnodes
    rw [compile]
    exact hnodes.push fun _ => Node.noConfusion
  | concat _ ih =>
    intro next nodes hnodes
    rw [compile]
    exact compileInOrder_keepsStart ih next nodes hnodes
  | alternation _ ih =>
    intro next nodes hnodes
    rw [compile]
    exact compileInChoice_keepsStart ih next nodes hnodes
  | @repetition body least most greedy _ ih =>
    intro next nodes hnodes
    cases most with
    | some most =>
      rw [compile]
      refine LeavesStart.repeat (fun program => ih program.1 program.2) least ?_
      refine LeavesStart.repeat (fun program hprogram => ?_) (most - least) hnodes
      exact (ih program.1 program.2 hprogram).push (Node.turn_ne_store greedy _ next 0)
    | none =>
      -- The choice of another round is put in when the round is there for it to lead to.
      have hturn : LeavesStart (nodes.push .accept) := hnodes.push fun _ => Node.noConfusion
      have hloop := ih nodes.size _ hturn
      have hturned := Node.turn_ne_store greedy (compile body nodes.size (nodes.push .accept)).1 next 0
      have hset := hloop.setIfInBounds nodes.size hturned
      simp only [compile]
      split
      · exact LeavesStart.repeat (fun program => ih program.1 program.2) (least - 1) hset
      · split
        · exact hset
        · exact hset.push hturned
  | @group number body hnumber _ ih =>
    intro next nodes hnodes
    rw [compile]
    refine (ih _ _ (hnodes.push fun next => ?_)).push fun next => ?_
    · simp
    · intro h
      have hslot : 2 * number = 0 := (Node.store.inj h).1
      omega

-- ---------------------------------------------------------------------------
-- Simplest forms
-- ---------------------------------------------------------------------------

theorem ofSet_numbered (set : CharClass) : Numbered (ofSet set) := by
  unfold ofSet
  split
  · split
    · exact .literal
    · exact .oneOf
  · exact .oneOf

theorem Numbered.parts (h : Numbered regex) : ∀ part ∈ regex.parts, Numbered part := by
  cases h with
  | empty => exact fun _ hpart => nomatch hpart
  | concat hparts => exact hparts
  | literal => exact List.forall_mem_singleton.mpr .literal
  | oneOf => exact List.forall_mem_singleton.mpr .oneOf
  | lookAt => exact List.forall_mem_singleton.mpr .lookAt
  | alternation h => exact List.forall_mem_singleton.mpr (.alternation h)
  | repetition h => exact List.forall_mem_singleton.mpr (.repetition h)
  | group hnumber h => exact List.forall_mem_singleton.mpr (.group hnumber h)

theorem Numbered.branches (h : Numbered regex) : ∀ branch ∈ regex.branches, Numbered branch := by
  unfold Regex.branches
  split
  · cases h with
    | alternation hbranches => exact hbranches
  · exact List.forall_mem_singleton.mpr h

theorem joinLiterals_numbered (h : ∀ part ∈ regexes, Numbered part) :
    ∀ part ∈ joinLiterals regexes, Numbered part := by
  induction regexes with
  | nil => exact h
  | cons part rest ih =>
    obtain ⟨hpart, hrest⟩ := List.forall_mem_cons.mp h
    unfold joinLiterals
    split
    case h_1 heq =>
      have hjoined := heq ▸ ih hrest
      exact List.forall_mem_cons.mpr ⟨.literal, (List.forall_mem_cons.mp hjoined).2⟩
    · exact List.forall_mem_cons.mpr ⟨hpart, ih hrest⟩

theorem inOrder_numbered (h : ∀ part ∈ regexes, Numbered part) : Numbered (inOrder regexes) := by
  have hparts : ∀ part ∈ joinLiterals (regexes.flatMap parts), Numbered part := by
    refine joinLiterals_numbered fun part hpart => ?_
    obtain ⟨whole, hwhole, hpart⟩ := List.mem_flatMap.mp hpart
    exact (h whole hwhole).parts part hpart
  unfold inOrder
  split
  case h_1 => exact .empty
  case h_2 heq => exact hparts _ (heq ▸ List.mem_singleton_self _)
  case h_3 => exact .concat hparts

theorem asSet?_numbered (h : asSet? regexes = some regex) : Numbered regex := by
  unfold asSet? at h
  split at h
  · cases h
    exact ofSet_numbered _
  · obtain ⟨sets, -, rfl⟩ := Option.map_eq_some_iff.mp h
    exact ofSet_numbered _

theorem concat?_numbered {parts : List Regex} (hregex : Numbered regex)
    (h : concat? regex = some parts) : ∀ part ∈ parts, Numbered part := by
  unfold concat? at h
  split at h
  · cases h
    cases hregex with
    | concat hparts => exact hparts
  · cases h

theorem exists_of_mem_mapM {f : α → Option β} {items : List α} {found : List β} {value : β}
    (h : items.mapM f = some found) (hvalue : value ∈ found) : ∃ item ∈ items, f item = some value := by
  induction items generalizing found with
  | nil =>
    cases h
    cases hvalue
  | cons item items ih =>
    simp only [List.mapM_cons, Option.bind_eq_bind, Option.bind_eq_some_iff, Option.pure_def,
      Option.some.injEq] at h
    obtain ⟨first, hfirst, rest, hrest, rfl⟩ := h
    obtain rfl | hvalue := List.mem_cons.mp hvalue
    · exact ⟨item, List.mem_cons_self, hfirst⟩
    · obtain ⟨other, hother, hf⟩ := ih hrest hvalue
      exact ⟨other, List.mem_cons_of_mem _ hother, hf⟩

theorem commonBeginning?_numbered {common endings : List Regex}
    (hregexes : ∀ branch ∈ regexes, Numbered branch)
    (h : commonBeginning? regexes = some (common, endings)) :
    (∀ part ∈ common, Numbered part) ∧ ∀ ending ∈ endings, Numbered ending := by
  simp only [commonBeginning?, Option.bind_eq_bind, Option.bind_eq_some_iff] at h
  obtain ⟨concats, hconcats, h⟩ := h
  have hparts : ∀ parts ∈ concats, ∀ part ∈ parts, Numbered part := by
    intro parts hparts
    obtain ⟨branch, hbranch, hconcat⟩ := exists_of_mem_mapM hconcats hparts
    exact concat?_numbered (hregexes branch hbranch) hconcat
  split at h
  case h_1 first rest =>
    split at h
    · cases h
    · cases h
      refine ⟨fun part hpart => ?_, fun ending hending => ?_⟩
      · exact hparts first List.mem_cons_self part (List.mem_of_mem_take hpart)
      · obtain ⟨parts, hmem, rfl⟩ := List.mem_map.mp hending
        exact inOrder_numbered fun part hpart => hparts parts hmem part (List.mem_of_mem_drop hpart)
  case h_2 => cases h

theorem flatMap_branches_numbered (h : ∀ branch ∈ regexes, Numbered branch) :
    ∀ branch ∈ regexes.flatMap branches, Numbered branch := by
  intro branch hbranch
  obtain ⟨whole, hwhole, hbranch⟩ := List.mem_flatMap.mp hbranch
  exact (h whole hwhole).branches branch hbranch

theorem inChoice_numbered (h : ∀ branch ∈ regexes, Numbered branch) :
    Numbered (inChoice regexes) := by
  have hbranches := flatMap_branches_numbered h
  unfold inChoice
  split
  case h_1 => exact .oneOf
  case h_2 heq => exact hbranches _ (heq ▸ List.mem_singleton_self _)
  case h_3 =>
    split
    case h_1 hset => exact asSet?_numbered hset
    case h_2 =>
      split
      case h_1 => exact .alternation hbranches
      case h_2 common endings hcommon =>
        obtain ⟨hcommon, hendings⟩ := commonBeginning?_numbered hbranches hcommon
        refine inOrder_numbered (List.forall_mem_append.mpr ⟨hcommon, ?_⟩)
        refine List.forall_mem_singleton.mpr ?_
        cases hset : asSet? (endings.flatMap branches) with
        | none => exact .alternation (flatMap_branches_numbered hendings)
        | some regex => exact asSet?_numbered hset

theorem repeated_numbered (h : Numbered regex) (least : Nat) (most : Option Nat) (greedy : Bool) :
    Numbered (repeated regex least most greedy) := by
  simp only [repeated]
  generalize (if regex.readsNothing then _ else _ : Nat × Option Nat) = bounds
  split
  · exact .empty
  · split
    · exact h
    · exact .repetition h

-- ---------------------------------------------------------------------------
-- Notations
-- ---------------------------------------------------------------------------

theorem Flags.symbol_numbered (flags : Flags) (symbol : Char) : Numbered (flags.symbol symbol) := by
  unfold Flags.symbol
  split
  · exact .literal
  · exact ofSet_numbered _

theorem Groups.next_pos_of_open? {groups opened : Groups} (h : groups.open? name? = some opened) :
    0 < opened.next := by
  unfold Groups.open? at h
  split at h
  · cases h
    exact Nat.succ_pos _
  · split at h
    · cases h
    · cases h
      exact Nat.succ_pos _

theorem readGroupOpening_numbered (hgroups : 0 < groups.next)
    (h : readGroupOpening flags groups text = some (.group number? flags' opened, rest)) :
    (∀ number, number? = some number → 0 < number) ∧ 0 < opened.next := by
  simp only [readGroupOpening, Option.bind_eq_bind, Option.pure_def] at h
  have hnext : ∀ number, some groups.next = some number → 0 < number := by
    rintro _ ⟨⟩
    exact hgroups
  split at h
  case h_5 | h_6 =>
    obtain ⟨⟨name, rest⟩, -, h⟩ := Option.bind_eq_some_iff.mp h
    obtain ⟨opened, hopened, h⟩ := Option.bind_eq_some_iff.mp h
    cases h
    exact ⟨hnext, Groups.next_pos_of_open? hopened⟩
  case h_8 =>
    obtain ⟨⟨flags, rest⟩, -, h⟩ := Option.bind_eq_some_iff.mp h
    split at h
    · cases h
    · cases h
      exact ⟨by rintro _ ⟨⟩, hgroups⟩
  case h_9 =>
    obtain ⟨opened, hopened, h⟩ := Option.bind_eq_some_iff.mp h
    cases h
    exact ⟨hnext, Groups.next_pos_of_open? hopened⟩
  all_goals cases h

structure Body.AllNumbered (body : Body) : Prop where
  branches : ∀ term ∈ body.branches, Numbered term.regex
  terms : ∀ term ∈ body.terms, Numbered term.regex

theorem Term.join_numbered {combine : List Regex → Regex} {terms : List Term}
    (hcombine : ∀ regexes, (∀ regex ∈ regexes, Numbered regex) → Numbered (combine regexes))
    (h : ∀ term ∈ terms, Numbered term.regex) : Numbered (Term.join combine terms).regex := by
  unfold Term.join
  split
  · exact hcombine [] fun _ hmem => nomatch hmem
  · exact h _ List.mem_cons_self
  · exact hcombine _ (List.forall_mem_map.mpr h)

namespace Body.AllNumbered

variable {body : Body}

theorem start : AllNumbered {} := ⟨fun _ h => (nomatch h), fun _ h => (nomatch h)⟩

theorem branch (h : AllNumbered body) : Numbered body.branch.regex :=
  Term.join_numbered (fun _ => inOrder_numbered) fun term hterm =>
    h.terms term (List.mem_reverse.mp hterm)

theorem joined (h : AllNumbered body) : Numbered body.joined.regex := by
  have hall : ∀ term ∈ body.branch :: body.branches, Numbered term.regex :=
    List.forall_mem_cons.mpr ⟨h.branch, h.branches⟩
  exact Term.join_numbered (fun _ => inChoice_numbered) fun term hterm =>
    hall term (List.mem_reverse.mp hterm)

theorem push (h : AllNumbered body) {term : Term} (hterm : Numbered term.regex) :
    AllNumbered (body.push term) :=
  ⟨h.branches, List.forall_mem_cons.mpr ⟨hterm, h.terms⟩⟩

theorem pushDirective (h : AllNumbered body) : AllNumbered body.pushDirective :=
  ⟨h.branches, List.forall_mem_cons.mpr ⟨.empty, h.terms⟩⟩

theorem pushBar (h : AllNumbered body) : AllNumbered body.pushBar :=
  ⟨List.forall_mem_cons.mpr ⟨h.branch, h.branches⟩, fun _ h => nomatch h⟩

theorem repeat? {body' : Body} (h : AllNumbered body)
    (hrepeat : body.repeat? least most greedy = some body') : AllNumbered body' := by
  unfold Body.repeat? at hrepeat
  split at hrepeat
  case h_1 last terms _ hterms =>
    cases hrepeat
    obtain ⟨hlast, hrest⟩ := List.forall_mem_cons.mp (hterms ▸ h.terms)
    exact ⟨h.branches, List.forall_mem_cons.mpr ⟨repeated_numbered hlast _ _ _, hrest⟩⟩
  case h_2 => cases hrepeat

end Body.AllNumbered

theorem readBody_numbered {found : Term × Groups × Text} (hgroups : 0 < groups.next)
    (hbody : body.AllNumbered) (h : readBody depth inGroup flags groups body text = some found) :
    Numbered found.1.regex ∧ 0 < found.2.1.next := by
  induction depth generalizing inGroup flags groups body text found with
  | zero => cases h
  | succ depth ih =>
    simp only [readBody, Option.bind_eq_bind] at h
    have hquantified : ∀ {least most rest},
        ((body.repeat? least most ((readLazy rest).1 == flags.swapGreed)).bind fun body =>
          readBody depth inGroup flags groups body (readLazy rest).2) = some found →
        Numbered found.1.regex ∧ 0 < found.2.1.next := by
      intro least most rest hfound
      obtain ⟨repeated, hrepeated, hfound⟩ := Option.bind_eq_some_iff.mp hfound
      exact ih hgroups (hbody.repeat? hrepeated) hfound
    split at h
    · split at h
      · cases h
      · cases h
        exact ⟨hbody.joined, hgroups⟩
    · split at h
      · cases h
        exact ⟨hbody.joined, hgroups⟩
      · cases h
    · exact ih hgroups hbody.pushBar h
    · exact hquantified h
    · exact hquantified h
    · exact hquantified h
    case h_7 rest =>
      obtain ⟨⟨bounds, more⟩, -, h⟩ := Option.bind_eq_some_iff.mp h
      exact hquantified h
    case h_8 rest =>
      obtain ⟨⟨opening, more⟩, hopening, h⟩ := Option.bind_eq_some_iff.mp h
      cases opening with
      | directive flags => exact ih hgroups hbody.pushDirective h
      | group number? inner opened =>
        obtain ⟨hnumber, hopened⟩ := readGroupOpening_numbered hgroups hopening
        obtain ⟨content, hcontent, h⟩ := Option.bind_eq_some_iff.mp h
        obtain ⟨hcontent, hclosed⟩ := ih hopened .start hcontent
        refine ih hclosed (hbody.push ?_) h
        cases number? with
        | none => exact hcontent
        | some number => exact .group (hnumber number rfl) hcontent
    case h_9 rest =>
      obtain ⟨bracket, -, h⟩ := Option.bind_eq_some_iff.mp h
      exact ih hgroups (hbody.push (ofSet_numbered _)) h
    case h_10 rest =>
      obtain ⟨⟨escape, more⟩, -, h⟩ := Option.bind_eq_some_iff.mp h
      cases escape with
      | char symbol => exact ih hgroups (hbody.push (flags.symbol_numbered symbol)) h
      | oneOf set => exact ih hgroups (hbody.push (ofSet_numbered set)) h
      | lookAt look => exact ih hgroups (hbody.push .lookAt) h
    · obtain ⟨set, -, h⟩ := Option.bind_eq_some_iff.mp h
      exact ih hgroups (hbody.push (ofSet_numbered set)) h
    · exact ih hgroups (hbody.push .lookAt) h
    · exact ih hgroups (hbody.push .lookAt) h
    case h_14 symbol rest =>
      exact ih hgroups (hbody.push (flags.symbol_numbered _)) h

theorem ofText?_eq_group {text : Text} {regex : Regex} {names : List (Text × Nat)}
    (h : ofText? text = some (regex, names)) : ∃ content, regex = .group 0 content := by
  simp only [ofText?, Option.bind_eq_bind, Option.bind_eq_some_iff, Option.pure_def,
    Option.ite_none_right_eq_some, Option.some.injEq, Prod.mk.injEq] at h
  obtain ⟨⟨content, groups, rest⟩, -, -, rfl, -⟩ := h
  exact ⟨content.regex, rfl⟩

theorem ofText?_numbered {text : Text} {content : Regex} {names : List (Text × Nat)}
    (h : ofText? text = some (.group 0 content, names)) : Numbered content := by
  simp only [ofText?, Option.bind_eq_bind, Option.bind_eq_some_iff, Option.pure_def,
    Option.ite_none_right_eq_some, Option.some.injEq, Prod.mk.injEq, group.injEq] at h
  obtain ⟨found, hread, -, ⟨-, rfl⟩, -⟩ := h
  exact (readBody_numbered Nat.one_pos .start hread).1

end Descent.Regex
