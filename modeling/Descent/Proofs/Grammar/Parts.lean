import Mathlib.Algebra.Order.BigOperators.Group.List
import Mathlib.Algebra.Order.Ring.Nat
import Mathlib.Logic.Relation
import Descent.Grammar.Run

/-!
# The parts of a grammar

`assemble` is one level of `run`: a grammar as a parser, given parsers for the
grammars it runs itself. `calls` lists those, `Within` are all that a run can
come to, through parts and rules, and `nodes` lists the grammars inside one, as
many as its size says. Together with the nodes of all rules they hold whatever
a run can come to.
-/

namespace Descent.Grammar

/-- A grammar as a parser, given parsers for its parts and the most rounds a repetition may have. -/
def assemble (rules : Rules) (limit : Nat) (part : Grammar → Parser Value) : Grammar → Parser Value
  | .character expected => .char <$> Parser.character expected
  | .literal expected => .text <$> Parser.literal expected
  | .pattern searched => .captures <$> Parser.pattern searched
  | .leaf function => function.parser
  | .tuple parts => .tuple <$> Parser.sequence (parts.map part)
  | .list parts => .list <$> Parser.sequence (parts.map part)
  | .choose alternatives => Parser.choose (alternatives.map part)
  | .optional body => (·.elim .none .some) <$> (part body).optional
  | .many body least => .list <$> (part body).many limit least
  | .interpose item separator => .list <$> (part item).interpose limit (part separator)
  | .between opening closing inner => (part opening).between (part closing) (part inner)
  | .chainl operand operator fold => (part operand).chainl limit (fold <$> part operator)
  | .map body mapping => mapping <$> part body
  | .mapState body revision => (part body).mapState revision
  | .filter body test message => (part body).filter test message
  | .indexed body => (fun (value, span) => .spanned value span) <$> (part body).indexed
  | .rule name =>
    match rules.lookup name with
    | some body => part body
    | none => Parser.unfinished

theorem run_succ (rules : Rules) (depth : Nat) (grammar : Grammar) :
    run rules (depth + 1) grammar = assemble rules depth (run rules depth) grammar := by
  funext cursor
  cases grammar <;> rfl

@[simp] def parts : Grammar → List Grammar
  | .character _ | .literal _ | .pattern _ | .leaf _ | .rule _ => []
  | .tuple parts | .list parts | .choose parts => parts
  | .optional body | .many body _ | .map body _ | .mapState body _ | .filter body _ _
  | .indexed body => [body]
  | .interpose item separator => [item, separator]
  | .between opening closing inner => [opening, closing, inner]
  | .chainl operand operator _ => [operand, operator]

@[simp] def calls (rules : Rules) : Grammar → List Grammar
  | .rule name => (rules.lookup name).toList
  | grammar => grammar.parts

/-- The grammars that a run of a grammar can come to, itself among them. -/
def Within (rules : Rules) : Grammar → Grammar → Prop :=
  Relation.ReflTransGen fun grammar part => part ∈ grammar.calls rules

/-- Whatever a run of the grammar can come to has a property. -/
def Every (rules : Rules) (property : Grammar → Prop) (grammar : Grammar) : Prop :=
  ∀ part, Within rules grammar part → property part

section
variable {rules : Rules} {property : Grammar → Prop} {grammar : Grammar}

theorem Every.self (h : grammar.Every rules property) : property grammar := h _ .refl

theorem Every.within (h : grammar.Every rules property) (hpart : Within rules grammar part) :
    part.Every rules property := fun _ hinner => h _ (hpart.trans hinner)

theorem Every.call (h : grammar.Every rules property) (hpart : part ∈ grammar.calls rules) :
    part.Every rules property := h.within (.single hpart)

theorem every_of_calls (h : property grammar)
    (hcalls : ∀ part ∈ grammar.calls rules, part.Every rules property) :
    grammar.Every rules property := by
  intro inner hinner
  obtain rfl | ⟨part, hpart, hinner⟩ := Relation.ReflTransGen.cases_head hinner
  · exact h
  · exact hcalls part hpart inner hinner

theorem Every.imp {other : Grammar → Prop} (h : grammar.Every rules property)
    (himp : ∀ part, property part → other part) : grammar.Every rules other :=
  fun part hpart => himp part (h part hpart)

end

/-- The functions of the grammar see values only, no cursors. -/
def Plain : Grammar → Prop
  | .leaf _ | .mapState _ _ => False
  | _ => True

-- ---------------------------------------------------------------------------
-- Sizes
-- ---------------------------------------------------------------------------

theorem sizeOfAll_eq (grammars : List Grammar) : sizeOfAll grammars = (grammars.map size).sum := by
  induction grammars with
  | nil => rfl
  | cons grammar rest ih => simp [sizeOfAll, ih]

theorem size_eq (grammar : Grammar) : grammar.size = (grammar.parts.map size).sum + 1 := by
  cases grammar <;> simp [size, parts, sizeOfAll_eq, Nat.add_assoc]

theorem size_lt_of_mem_parts {part grammar : Grammar} (h : part ∈ grammar.parts) :
    part.size < grammar.size := by
  have := List.le_sum_of_mem (List.mem_map_of_mem (f := size) h)
  rw [size_eq grammar]
  omega

theorem parts_induction {motive : Grammar → Prop}
    (h : ∀ grammar, (∀ part ∈ grammar.parts, motive part) → motive grammar) (grammar : Grammar) :
    motive grammar := by
  induction hsize : grammar.size using Nat.strongRecOn generalizing grammar with
  | ind size ih =>
    subst hsize
    exact h grammar fun part hpart => ih part.size (size_lt_of_mem_parts hpart) part rfl

def nodes (grammar : Grammar) : List Grammar :=
  grammar :: grammar.parts.attach.flatMap fun part => nodes part.1
termination_by grammar.size
decreasing_by exact size_lt_of_mem_parts part.2

theorem nodes_eq (grammar : Grammar) :
    grammar.nodes = grammar :: grammar.parts.flatMap nodes := by
  rw [nodes, List.flatMap_subtype (f := fun part => nodes part.1) (g := nodes) fun _ _ => rfl,
    List.unattach_attach]

theorem length_nodes (grammar : Grammar) : grammar.nodes.length = grammar.size := by
  induction grammar using parts_induction with
  | h grammar ih =>
    rw [nodes_eq, size_eq, List.length_cons, List.length_flatMap, List.map_congr_left ih]

theorem mem_nodes_self (grammar : Grammar) : grammar ∈ grammar.nodes := by
  rw [nodes_eq]
  exact List.mem_cons_self

theorem mem_nodes_of_mem_parts {part inner grammar : Grammar} (hinner : inner ∈ grammar.nodes)
    (hpart : part ∈ inner.parts) : part ∈ grammar.nodes := by
  induction grammar using parts_induction with
  | h grammar ih =>
    rw [nodes_eq, List.mem_cons, List.mem_flatMap] at hinner ⊢
    obtain rfl | ⟨outer, houter, hinner⟩ := hinner
    · exact .inr ⟨part, hpart, part.mem_nodes_self⟩
    · exact .inr ⟨outer, houter, ih outer houter hinner⟩

def allNodes (rules : Rules) (grammar : Grammar) : List Grammar :=
  grammar.nodes ++ rules.flatMap fun rule => rule.2.nodes

theorem length_allNodes (rules : Rules) (grammar : Grammar) :
    (grammar.allNodes rules).length = rules.size + grammar.size := by
  simp only [allNodes, List.length_append, List.length_flatMap, length_nodes, Rules.size,
    sizeOfAll_eq, List.map_map, Function.comp_def]
  omega

theorem mem_allNodes_of_mem_calls {rules : Rules} {part inner grammar : Grammar}
    (hinner : inner ∈ grammar.allNodes rules) (hpart : part ∈ inner.calls rules) :
    part ∈ grammar.allNodes rules := by
  by_cases hrule : ∃ name, inner = .rule name
  · obtain ⟨name, rfl⟩ := hrule
    obtain ⟨before, after, hrules, -⟩ :=
      List.lookup_eq_some_iff.mp (Option.mem_toList.mp hpart)
    refine List.mem_append_right _ (List.mem_flatMap.mpr ⟨(name, part), ?_, part.mem_nodes_self⟩)
    simp [hrules]
  · have hparts : part ∈ inner.parts := by
      cases inner with
      | rule name => exact absurd ⟨name, rfl⟩ hrule
      | _ => exact hpart
    obtain h | h := List.mem_append.mp hinner
    · exact List.mem_append_left _ (mem_nodes_of_mem_parts h hparts)
    · obtain ⟨rule, hmem, h⟩ := List.mem_flatMap.mp h
      exact List.mem_append_right _
        (List.mem_flatMap.mpr ⟨rule, hmem, mem_nodes_of_mem_parts h hparts⟩)

theorem Within.mem_allNodes {rules : Rules} {part grammar : Grammar}
    (h : Within rules grammar part) : part ∈ grammar.allNodes rules := by
  induction h with
  | refl => exact List.mem_append_left _ grammar.mem_nodes_self
  | tail _ hpart ih => exact mem_allNodes_of_mem_calls ih hpart

end Descent.Grammar
