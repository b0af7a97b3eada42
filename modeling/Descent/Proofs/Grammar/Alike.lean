import Descent.Proofs.Grammar.Depth

/-!
# Parsers that come to the same on a text

`Parser.Alike source`: from every cursor on the text the two parsers have the
same outcome, which keeps to the text. Combinators of like parts are alike, so
the parser of a grammar may be opened level by level (`parser_alike`) and stands
there as combinators of the parsers of whatever grammars it is written of, with
no depth and one limit for all repetitions.
-/

namespace Descent

theorem Run.Refines.trans_same {run run' run'' : Run α} {kind : Cursor.Kind}
    (h : run.Refines (.same kind) Eq run') (h' : run'.Refines (.same kind) Eq run'') :
    run.Refines (.same kind) Eq run'' := by
  by_cases hends : run.outcome = .unfinished
  · exact .of_unfinished hends
  · rw [h.eq_of_same hends]
    exact h'

namespace Parser

/-- The parsers refine each other on the symbols of a text. -/
structure Alike (source : Text) (parser parser' : Parser α) : Prop where
  refines : parser.Refines (.same (.on source)) Eq parser'
  refined : parser'.Refines (.same (.on source)) Eq parser

namespace Alike

variable {source : Text} {parser parser' parser'' : Parser α}

theorem of_keeps (h : parser.Keeps (.on source)) : Alike source parser parser :=
  ⟨h.refines, h.refines⟩

theorem outcome_eq (h : Alike source parser parser') (hcursor : Cursor.On source cursor) :
    (parser cursor).outcome = (parser' cursor).outcome :=
  (h.refines ⟨rfl, hcursor⟩).outcome_eq (h.refined ⟨rfl, hcursor⟩)

theorem trans (h : Alike source parser parser') (h' : Alike source parser' parser'') :
    Alike source parser parser'' := by
  constructor
  · rintro cursor _ ⟨rfl, hcursor⟩
    exact (h.refines ⟨rfl, hcursor⟩).trans_same (h'.refines ⟨rfl, hcursor⟩)
  · rintro cursor _ ⟨rfl, hcursor⟩
    exact (h'.refined ⟨rfl, hcursor⟩).trans_same (h.refined ⟨rfl, hcursor⟩)

theorem map (h : Alike source parser parser') (f : α → β) :
    Alike source (f <$> parser) (f <$> parser') := by
  constructor
  · exact h.refines.map fun _ _ => congrArg f
  · exact h.refined.map fun _ _ => congrArg f

theorem many (h : Alike source parser parser') (limit least : Nat) :
    Alike source (parser.many limit least) (parser'.many limit least) := by
  have hrefines := Refines.many (h.refines.star (Nat.le_refl limit)) least
  have hrefined := Refines.many (h.refined.star (Nat.le_refl limit)) least
  rw [List.forall₂_eq_eq_eq] at hrefines hrefined
  exact ⟨hrefines, hrefined⟩

section
variable {parsers parsers' : List (Parser α)} (h : List.Forall₂ (Alike source) parsers parsers')
include h

theorem forall_refines :
    List.Forall₂ (Refines (.same (.on source)) Eq) parsers parsers' ∧
      List.Forall₂ (Refines (.same (.on source)) Eq) parsers' parsers :=
  ⟨h.imp fun _ _ => refines, h.flip.imp fun _ _ => refined⟩

theorem sequence : Alike source (Parser.sequence parsers) (Parser.sequence parsers') := by
  have hrefines := Refines.sequence (forall_refines h).1
  have hrefined := Refines.sequence (forall_refines h).2
  rw [List.forall₂_eq_eq_eq] at hrefines hrefined
  exact ⟨hrefines, hrefined⟩

theorem choose : Alike source (Parser.choose parsers) (Parser.choose parsers') :=
  ⟨.choose (forall_refines h).1, .choose (forall_refines h).2⟩

end

end Alike

end Parser

namespace Grammar

variable {rules : Rules} {source : Text} {grammar : Grammar} {limit : Nat}

theorem parser_alike (hstays : grammar.Every rules Stays) (hlimit : source.length < limit) :
    Parser.Alike source (grammar.parser rules) (assemble rules limit (parser rules) grammar) :=
  ⟨parser_refines_assemble hstays hlimit, refines_parser_of_assemble hstays⟩

theorem parser_keeps (hstays : grammar.Every rules Stays) :
    (grammar.parser rules).Keeps (.on source) :=
  fun _ _ _ hcursor hmatched => run_keeps hstays hcursor hmatched

theorem parser_alike_self (hstays : grammar.Every rules Stays) :
    Parser.Alike source (grammar.parser rules) (grammar.parser rules) :=
  .of_keeps (parser_keeps hstays)

theorem parsers_alike_self {grammars : List Grammar}
    (hstays : ∀ grammar ∈ grammars, grammar.Every rules Stays) :
    List.Forall₂ (Parser.Alike source) (grammars.map (parser rules))
      (grammars.map (parser rules)) := by
  rw [List.forall₂_map_left_iff, List.forall₂_map_right_iff, List.forall₂_same]
  exact fun grammar hgrammar => parser_alike_self (hstays grammar hgrammar)

theorem stays_of_parts (h : grammar.Plain)
    (hparts : ∀ part ∈ grammar.calls rules, part.Every rules Stays) : grammar.Every rules Stays :=
  every_of_calls h.stays hparts

theorem character_stays (rules : Rules) (expected : Char) :
    (character expected).Every rules Stays := stays_of_parts trivial (by simp)

theorem literal_stays (rules : Rules) (expected : Text) :
    (literal expected).Every rules Stays := stays_of_parts trivial (by simp)

end Grammar

end Descent
