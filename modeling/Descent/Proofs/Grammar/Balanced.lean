import Descent.Proofs.Grammar.Adequacy
import Descent.Proofs.Grammar.Anchoring
import Descent.Proofs.Position

/-!
# Balanced lists

Lists between parentheses that hold nothing but such lists, read by a rule that
calls itself. What a list is printed as is derived back to it, whatever follows
(`derives_print`), and of every text some beginning is such a print or failure
is derived (`print_or_failed`); with both, the grammar matches exactly the
prints (`nested_balanced`).
-/

namespace Descent

inductive Nested where
  | list (inner : List Nested)

namespace Nested

mutual
def print : Nested → Text
  | .list inner => '(' :: printAll inner ++ [')']

def printAll : List Nested → Text
  | [] => []
  | tree :: rest => tree.print ++ printAll rest
end

mutual
def toValue : Nested → Value
  | .list inner => .list (valuesOf inner)

def valuesOf : List Nested → List Value
  | [] => []
  | tree :: rest => tree.toValue :: valuesOf rest
end

mutual
theorem toValue_inj {tree tree' : Nested} (h : tree.toValue = tree'.toValue) : tree = tree' := by
  match tree, tree' with
  | .list inner, .list inner' =>
    simp only [toValue, Value.list.injEq] at h
    rw [valuesOf_inj h]

theorem valuesOf_inj {trees trees' : List Nested} (h : valuesOf trees = valuesOf trees') :
    trees = trees' := by
  match trees, trees' with
  | [], [] => rfl
  | [], _ :: _ | _ :: _, [] => simp [valuesOf] at h
  | tree :: rest, tree' :: rest' =>
    simp only [valuesOf, List.cons.injEq] at h
    rw [toValue_inj h.1, valuesOf_inj h.2]
end

theorem print_ne_nil (tree : Nested) : tree.print ≠ [] := by
  cases tree
  simp [print]

end Nested

namespace Grammar

def nested : Grammar :=
  .between (.character '(') (.character ')') (.many (.rule "list".toList) 0)

def nestedRules : Rules := [("list".toList, nested)]

theorem nested_symbolic : nested.Every nestedRules Symbolic := by
  have hnodes : ∀ part ∈ allNodes nestedRules nested, Symbolic part := by
    simp [allNodes, nodes_eq, parts, nestedRules, nested, Symbolic]
  exact fun part hpart => hnodes part hpart.mem_allNodes

theorem Derives.nested_rule (h : Derives nestedRules nested text result) :
    Derives nestedRules (.rule "list".toList) text result := .rule rfl h

mutual
theorem derives_print (tree : Nested) (left : Text) :
    Derives nestedRules nested (tree.print ++ left) (.matched tree.toValue left) := by
  match tree with
  | .list inner =>
    have hinner := derives_printAll inner left
    simp only [Nested.print, Nested.toValue, List.cons_append, List.append_assoc, List.nil_append]
    exact .between (.list_cons .character (.list_cons hinner (.list_cons .character .list_nil)))

theorem derives_printAll (trees : List Nested) (left : Text) :
    Derives nestedRules (.many (.rule "list".toList) 0) (Nested.printAll trees ++ ')' :: left)
      (.matched (.list (Nested.valuesOf trees)) (')' :: left)) := by
  match trees with
  | [] =>
    refine .many_nil (Derives.nested_rule (.between_failed (.list_first_failed ?_)))
    exact .character_failed (by simp [Nested.printAll])
  | tree :: rest =>
    have hrest := derives_printAll rest left
    simp only [Nested.printAll, Nested.valuesOf, List.append_assoc]
    exact .many_cons (Derives.nested_rule (derives_print tree _)) hrest
end

theorem derives_many {length : Nat}
    (h : ∀ text : Text, text.length < length →
      (∃ (tree : Nested) (left : Text), text = tree.print ++ left) ∨
        Derives nestedRules nested text .failed)
    (text : Text) (hlength : text.length < length) :
    ∃ trees left, text = Nested.printAll trees ++ left ∧
      Derives nestedRules (.many (.rule "list".toList) 0) text
        (.matched (.list (Nested.valuesOf trees)) left) := by
  induction hsize : text.length using Nat.strongRecOn generalizing text with
  | ind size ih =>
    subst hsize
    obtain ⟨tree, left, rfl⟩ | hfailed := h text hlength
    · have hless : left.length < (tree.print ++ left).length := by
        have := List.length_pos_iff.mpr tree.print_ne_nil
        rw [List.length_append]
        omega
      obtain ⟨trees, left', hleft, hlater⟩ := ih left.length hless left (by omega) rfl
      refine ⟨tree :: trees, left', ?_, .many_cons (.nested_rule (derives_print tree left)) hlater⟩
      rw [Nested.printAll, List.append_assoc, ← hleft]
    · exact ⟨[], text, rfl, .many_nil hfailed.nested_rule⟩

theorem print_or_failed (text : Text) :
    (∃ (tree : Nested) (left : Text), text = tree.print ++ left) ∨
      Derives nestedRules nested text .failed := by
  induction hlength : text.length using Nat.strongRecOn generalizing text with
  | ind length ih =>
    subst hlength
    match text with
    | [] => exact .inr (.between_failed (.list_first_failed (.character_failed (by simp))))
    | symbol :: behind =>
      by_cases hopening : symbol = '('
      · subst hopening
        obtain ⟨trees, left, hbehind, hmany⟩ :=
          derives_many (fun text hless => ih text.length hless text rfl) behind (by simp)
        by_cases hclosing : left.head? = some ')'
        · obtain ⟨left, rfl⟩ := List.head?_eq_some_iff.mp hclosing
          exact .inl ⟨.list trees, left, by simp [Nested.print, hbehind]⟩
        · refine .inr (.between_failed (.list_later_failed .character ?_))
          exact .list_later_failed hmany (.list_first_failed (.character_failed hclosing))
      · refine .inr (.between_failed (.list_first_failed (.character_failed ?_)))
        simpa using hopening

theorem parse_print (tree : Nested) (left : Text) :
    (nested.parse nestedRules (tree.print ++ left)).outcome =
      .matched tree.toValue ⟨tree.print ++ left, tree.print.byteSize⟩ :=
  (derives_print tree left).parse_matched nested_symbolic

theorem nested_matched_iff {source : Text} {tree : Nested} {rest : Cursor} :
    (nested.parse nestedRules source).outcome = .matched tree.toValue rest ↔
      ∃ left, source = tree.print ++ left ∧ rest = ⟨source, tree.print.byteSize⟩ := by
  constructor
  · intro h
    obtain ⟨other, left, rfl⟩ | hfailed := print_or_failed source
    · rw [parse_print, Outcome.matched.injEq] at h
      obtain ⟨hvalue, rfl⟩ := h
      exact ⟨left, by rw [Nested.toValue_inj hvalue], by rw [Nested.toValue_inj hvalue]⟩
    · obtain ⟨failure, hfailed⟩ := hfailed.parse_failed nested_symbolic
      rw [hfailed] at h
      cases h
  · rintro ⟨left, rfl, rfl⟩
    exact parse_print tree left

theorem nested_failed {source : Text} {failure : Failure}
    (h : (nested.parse nestedRules source).outcome = .failed failure) :
    failure.cursor = .start source ∧ failure.kind = .composite := by
  have hlevel := parser_level nested_symbolic ⟨rfl, Cursor.onSymbol_start source⟩
  exact Parser.between_anchorsFailures _ _ _ (hlevel.symm.trans h)

/-- The grammar of nested lists always ends. It matches exactly the printed lists, each with the
list that it is the print of and whatever text is left, and fails, at the start, exactly where no
printed list stands. -/
theorem nested_balanced (source : Text) :
    ((∃ failure, (nested.parse nestedRules source).outcome = .failed failure) ∨
      ∃ (tree : Nested) (rest : Cursor),
        (nested.parse nestedRules source).outcome = .matched tree.toValue rest) ∧
    (∀ (tree : Nested) (rest : Cursor),
      (nested.parse nestedRules source).outcome = .matched tree.toValue rest ↔
        rest.source = source ∧ source.takeBytes? rest.index = some tree.print) ∧
    (∀ (tree : Nested) (left : Text),
      (nested.parse nestedRules (tree.print ++ left)).outcome =
        .matched tree.toValue ⟨tree.print ++ left, tree.print.byteSize⟩) ∧
    ((∃ failure, (nested.parse nestedRules source).outcome = .failed failure ∧
        failure.index = 0 ∧ failure.kind = .composite) ↔
      ∀ tree : Nested, ¬tree.print <+: source) := by
  refine ⟨?_, fun tree rest => ?_, parse_print, ?_, fun hnone => ?_⟩
  · obtain ⟨tree, left, rfl⟩ | hfailed := print_or_failed source
    · exact .inr ⟨tree, _, parse_print tree left⟩
    · exact .inl (hfailed.parse_failed nested_symbolic)
  · rw [nested_matched_iff, Text.takeBytes?_eq_some_iff]
    constructor
    · rintro ⟨left, hsource, rfl⟩
      exact ⟨rfl, left, hsource, rfl⟩
    · rintro ⟨rfl, left, hsource, hindex⟩
      exact ⟨left, hsource, by rw [← hindex]⟩
  · rintro ⟨failure, hfailed, -⟩ tree ⟨left, hsource⟩
    rw [nested_matched_iff.mpr ⟨left, hsource.symm, rfl⟩] at hfailed
    cases hfailed
  · obtain ⟨tree, left, rfl⟩ | hfailed := print_or_failed source
    · exact absurd (List.prefix_append _ _) (hnone tree)
    · obtain ⟨failure, hfailed⟩ := hfailed.parse_failed nested_symbolic
      obtain ⟨hcursor, hkind⟩ := nested_failed hfailed
      exact ⟨failure, hfailed, congrArg Cursor.index hcursor, hkind⟩

end Grammar

end Descent
