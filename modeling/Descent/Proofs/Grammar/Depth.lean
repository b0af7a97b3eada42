import Mathlib.Data.Finset.Card
import Mathlib.Data.List.ProdSigma
import Mathlib.Order.Monotone.Basic
import Descent.Proofs.Cursor
import Descent.Proofs.Grammar.Refinement
import Descent.Proofs.Parser.Outcome

/-!
# The depth of a run does not matter

`depthFor` is deep enough: if any depth lets a run end, `Grammar.parser` ends,
with the same run (`parser_eq_run`). It is enough because a run that needs depth
`n + 1` calls one that needs exactly `n`, so all depths that are needed are
needed somewhere, and there are only so many grammars and places; repetitions
are bounded in the same way. Hence the parser of a grammar is made of the
parsers of its parts, with no depth in sight (`parser_outcome`).

The functions of the grammar must keep to the symbols of the text (`Stays`):
only then are there finitely many places.
-/

namespace Descent

-- ---------------------------------------------------------------------------
-- Runs that are the same
-- ---------------------------------------------------------------------------

namespace Run.Refines

variable {like : Likeness} {value : α → β → Prop} {run : Run α} {run' : Run β}

theorem of_unfinished (h : run.outcome = .unfinished) : run.Refines like value run' := by
  obtain ⟨trace, outcome⟩ := run
  subst h
  exact .unfinished

theorem ends (h : run.Refines like value run') (hends : run.outcome ≠ .unfinished) :
    run'.outcome ≠ .unfinished := by
  cases h with
  | unfinished => exact absurd rfl hends
  | _ => simp

theorem matched_cursor (h : run.Refines like value run') (hmatched : run.outcome = .matched v rest) :
    ∃ rest', like.cursor rest rest' := by
  cases h with
  | matched _ _ hcursor =>
    obtain ⟨-, rfl⟩ := Outcome.matched.inj hmatched
    exact ⟨_, hcursor⟩
  | _ => simp at hmatched

variable {kind : Cursor.Kind}

theorem eq_of_same {run' : Run α} (h : run.Refines (.same kind) Eq run')
    (hends : run.outcome ≠ .unfinished) : run = run' := by
  cases h with
  | unfinished => exact absurd rfl hends
  | matched hevents hvalue hcursor =>
    obtain rfl : _ = _ := List.forall₂_eq_eq_eq ▸ hevents
    rw [hvalue, hcursor.1]
  | failed hevents hfailure =>
    obtain rfl : _ = _ := List.forall₂_eq_eq_eq ▸ hevents
    rw [hfailure]

theorem same_of_kind (h : ∀ v rest, run.outcome = .matched v rest → kind.holds rest) :
    run.Refines (.same kind) Eq run := by
  have hevents : List.Forall₂ Eq run.events run.events := List.forall₂_refl _
  obtain ⟨trace, outcome⟩ := run
  cases outcome with
  | matched v rest => exact .matched hevents rfl ⟨rfl, h v rest rfl⟩
  | failed failure => exact .failed hevents rfl
  | unfinished => exact .unfinished

theorem outcome_eq {run' : Run α} (h : run.Refines (.same kind) Eq run')
    (h' : run'.Refines (.same kind) Eq run) : run.outcome = run'.outcome := by
  by_cases hends : run.outcome = .unfinished
  · by_cases hends' : run'.outcome = .unfinished
    · rw [hends, hends']
    · rw [h'.eq_of_same hends']
  · rw [h.eq_of_same hends]

end Run.Refines

-- ---------------------------------------------------------------------------
-- Counting
-- ---------------------------------------------------------------------------

theorem card_stable {set : Nat → Finset α} (hmono : Monotone set)
    (hbound : ∀ number, (set number).card ≤ bound)
    (hstall : ∀ number, set number = set (number + 1) → set (number + 1) = set (number + 2))
    (hnumber : bound ≤ number) : set number = set bound := by
  have hcard : ∀ {number number'}, number ≤ number' → (set number).card = (set number').card →
      set number = set number' :=
    fun h hcard => Finset.eq_of_subset_of_card_le (hmono h) hcard.ge
  have hstable : (set number).card = (set bound).card := by
    refine Nat.stabilises_of_monotone (fun _ _ h => Finset.card_le_card (hmono h)) hbound ?_ hnumber
    intro number h
    rw [hstall number (hcard (Nat.le_succ number) h)]
  exact (hcard hnumber hstable.symm).symm

/-- If things come to an end as a number grows, and once it grows by one in vain it always does,
then whatever ends has ended when the number has grown by as many as there are things. -/
theorem ends_of_stall {items : List α} {ends : Nat → α → Prop} {base : Nat}
    (hmono : ∀ number item, ends number item → ends (number + 1) item)
    (hstall : ∀ number, base ≤ number →
      (∀ item ∈ items, ends (number + 1) item → ends number item) →
      ∀ item ∈ items, ends (number + 2) item → ends (number + 1) item)
    (hitem : item ∈ items) (hends : ends number item) : ends (base + items.length) item := by
  classical
  let ended (number : Nat) : Finset α := {item ∈ items.toFinset | ends (base + number) item}
  have hmem : ∀ {number item}, item ∈ ended number ↔ item ∈ items ∧ ends (base + number) item := by
    simp [ended]
  have hsubset : Monotone ended := monotone_nat_of_le_succ fun number item h =>
    hmem.mpr ((hmem.mp h).imp_right (hmono _ _))
  have hbound : ∀ number, (ended number).card ≤ items.length := fun number =>
    (Finset.card_filter_le _ _).trans (List.toFinset_card_le items)
  have hvain : ∀ number, ended number = ended (number + 1) →
      ended (number + 1) = ended (number + 2) := by
    intro number h
    refine (hsubset (Nat.le_succ _)).antisymm fun item hitem => ?_
    obtain ⟨hitem, hends⟩ := hmem.mp hitem
    refine hmem.mpr ⟨hitem, hstall (base + number) (Nat.le_add_right _ _) ?_ item hitem hends⟩
    intro item hitem hends
    exact (hmem.mp (h ▸ hmem.mpr ⟨hitem, hends⟩)).2
  have hlater : ∀ more, ends (number + more) item := fun more => by
    induction more with
    | zero => exact hends
    | succ more ih => exact hmono _ _ ih
  have hended : item ∈ ended (items.length + number) := by
    refine hmem.mpr ⟨hitem, ?_⟩
    have := hlater (base + items.length)
    rwa [Nat.add_comm number, Nat.add_assoc] at this
  rw [card_stable hsubset hbound hvain (Nat.le_add_right _ _)] at hended
  exact (hmem.mp hended).2

-- ---------------------------------------------------------------------------
-- Repetitions
-- ---------------------------------------------------------------------------

namespace Parser

def Keeps (kind : Cursor.Kind) (parser : Parser α) : Prop :=
  ∀ ⦃cursor value rest⦄, kind.holds cursor → (parser cursor).outcome = .matched value rest →
    kind.holds rest

variable {kind : Cursor.Kind}

theorem Keeps.refines {parser : Parser α} (h : parser.Keeps kind) :
    parser.Refines (.same kind) Eq parser := by
  rintro cursor _ ⟨rfl, hcursor⟩
  exact .same_of_kind fun _ _ => h hcursor

theorem Refines.keeps {value : α → β → Prop} {parser : Parser α} {parser' : Parser β}
    (h : parser.Refines (.same kind) value parser') : parser.Keeps kind := by
  intro cursor v rest hcursor hmatched
  obtain ⟨_, -, hrest⟩ := (h ⟨rfl, hcursor⟩).matched_cursor hmatched
  exact hrest

theorem star_eq_of_le {parser : Parser α} (hlimit : limit ≤ limit')
    (hends : (star limit parser cursor).outcome ≠ .unfinished) :
    star limit parser cursor = star limit' parser cursor := by
  have hself : parser.Refines (.same .all) Eq parser := Keeps.refines fun _ _ _ _ _ => trivial
  have hstar := hself.star hlimit
  rw [List.forall₂_eq_eq_eq] at hstar
  exact (hstar ⟨rfl, trivial⟩).eq_of_same hends

/-- A repetition that ends has had at most one round at every place of the text. -/
theorem star_ends {parser : Parser α} (hkeeps : parser.Keeps (.on source))
    (hlimit : source.length < limit') (hcursor : Cursor.On source cursor)
    (hends : (star limit parser cursor).outcome ≠ .unfinished) :
    (star limit' parser cursor).outcome ≠ .unfinished := by
  have hmono : ∀ limit cursor, (star limit parser cursor).outcome ≠ .unfinished →
      (star (limit + 1) parser cursor).outcome ≠ .unfinished := fun limit cursor h => by
    rwa [← star_eq_of_le (Nat.le_succ limit) h]
  have hstall : ∀ limit, 0 ≤ limit →
      (∀ cursor ∈ Cursor.places source, (star (limit + 1) parser cursor).outcome ≠ .unfinished →
        (star limit parser cursor).outcome ≠ .unfinished) →
      ∀ cursor ∈ Cursor.places source, (star (limit + 2) parser cursor).outcome ≠ .unfinished →
        (star (limit + 1) parser cursor).outcome ≠ .unfinished := by
    intro limit _ hvain cursor hplace hends hunfinished
    refine hends (star_succ_unfinished.mpr ?_)
    rcases star_succ_unfinished.mp hunfinished with h | ⟨value, middle, h, hlater⟩
    · exact .inl h
    · have hmiddle := (hkeeps (Cursor.on_of_mem_places hplace) h).mem_places
      exact .inr ⟨value, middle, h, by_contra fun hmore => hvain middle hmiddle hmore hlater⟩
  have hbound := ends_of_stall hmono hstall hcursor.mem_places hends
  rw [Cursor.length_places, Nat.zero_add] at hbound
  rwa [← star_eq_of_le hlimit hbound]

end Parser

-- ---------------------------------------------------------------------------
-- Grammars
-- ---------------------------------------------------------------------------

namespace Grammar

/-- The functions of a grammar that choose where to go do not leave a kind of cursors. -/
def Keeps (kind : Cursor.Kind) : Grammar → Prop
  | .leaf function => ∀ cursor value target, kind.holds cursor →
      function cursor = .ok (value, target) → kind.holds target
  | .mapState _ revision => ∀ entry value rest revised target, kind.holds entry →
      kind.holds rest → revision entry value rest = .ok (revised, target) → kind.holds target
  | _ => True

def Stays (grammar : Grammar) : Prop := ∀ source, grammar.Keeps (.on source)

variable {rules : Rules} {grammar : Grammar} {cursor : Cursor} {source : Text}

theorem Plain.stays (h : grammar.Plain) : grammar.Stays := by
  intro source
  cases grammar with
  | leaf function => exact h.elim
  | mapState body revision => exact h.elim
  | _ => trivial

theorem keeps_all : grammar.Keeps .all := by
  cases grammar <;> simp [Keeps, Cursor.Kind.all]

namespace Likeness

theorem admits_same {kind : Cursor.Kind} (h : grammar.Keeps kind) :
    (same kind).Admits grammar := by
  cases grammar with
  | leaf function =>
    rintro cursor _ ⟨rfl, hcursor⟩
    cases hresult : function cursor with
    | ok found => exact .ok rfl ⟨rfl, h _ _ _ hcursor hresult⟩
    | error failure => exact .error rfl
  | mapState body revision =>
    rintro entry _ value _ rest _ ⟨rfl, hentry⟩ rfl ⟨rfl, hrest⟩
    cases hresult : revision entry value rest with
    | ok found => exact .ok rfl ⟨rfl, h _ _ _ _ _ hentry hrest hresult⟩
    | error failure => exact .error rfl
  | map body mapping =>
    rintro value _ rfl
    rfl
  | filter body test message =>
    rintro value _ rfl
    rfl
  | chainl operand operator fold =>
    rintro operator _ left _ right _ rfl rfl rfl
    rfl
  | _ => trivial

def exact : Likeness := same .all

def on (source : Text) : Likeness := same (.on source)

theorem on_admits (h : grammar.Every rules Stays) : grammar.Every rules (on source).Admits :=
  h.imp fun _ hstays => admits_same (hstays source)

theorem on_limits (h : source.length < limit') : (on source).Limits limit limit' := by
  intro α β value parser parser' hparser cursor _ hcursor
  obtain ⟨rfl, hon⟩ := hcursor
  by_cases hends : (Parser.star limit parser cursor).outcome = .unfinished
  · exact .of_unfinished hends
  · have hstar := Parser.star_ends hparser.keeps h hon hends
    rw [Parser.star_eq_of_le (Nat.le_max_left limit limit') hends,
      ← Parser.star_eq_of_le (Nat.le_max_right limit limit') hstar]
    exact hparser.star (Nat.le_refl limit') ⟨rfl, hon⟩

end Likeness

theorem run_eq_of_le (hdepth : depth ≤ depth')
    (hends : (run rules depth grammar cursor).outcome ≠ .unfinished) :
    run rules depth grammar cursor = run rules depth' grammar cursor := by
  have hadmits : grammar.Every rules Likeness.exact.Admits :=
    fun _ _ => Likeness.admits_same keeps_all
  exact (run_refines hadmits hdepth ⟨rfl, trivial⟩).eq_of_same hends

theorem run_eq_run (hends : (run rules depth grammar cursor).outcome ≠ .unfinished)
    (hends' : (run rules depth' grammar cursor).outcome ≠ .unfinished) :
    run rules depth grammar cursor = run rules depth' grammar cursor := by
  rcases Nat.le_total depth depth' with h | h
  · exact run_eq_of_le h hends
  · exact (run_eq_of_le h hends').symm

theorem run_keeps (hstays : grammar.Every rules Stays) :
    Parser.Keeps (.on source) (run rules depth grammar) :=
  (run_refines (Likeness.on_admits hstays) (Nat.le_refl depth)).keeps

theorem run_ends_next (hstays : grammar.Every rules Stays) (hdepth : source.length < depth)
    (hvain : ∀ part ∈ grammar.calls rules, ∀ place, Cursor.On source place →
      (run rules (depth + 1) part place).outcome ≠ .unfinished →
      (run rules depth part place).outcome ≠ .unfinished)
    (hcursor : Cursor.On source cursor)
    (hends : (run rules (depth + 2) grammar cursor).outcome ≠ .unfinished) :
    (run rules (depth + 1) grammar cursor).outcome ≠ .unfinished := by
  have hparts : ∀ part ∈ grammar.calls rules,
      (Likeness.on source).Refines (run rules (depth + 1) part) (run rules depth part) := by
    rintro part hpart place _ ⟨rfl, hplace⟩
    by_cases hunfinished : (run rules (depth + 1) part place).outcome = .unfinished
    · exact .of_unfinished hunfinished
    · rw [← run_eq_of_le (Nat.le_succ depth) (hvain part hpart place hplace hunfinished)]
      exact .same_of_kind fun _ _ => run_keeps (hstays.call hpart) hplace
  have hlevel : (Likeness.on source).Refines
      (assemble rules (depth + 1) (run rules (depth + 1)) grammar)
      (assemble rules depth (run rules depth) grammar) :=
    assemble_refines (Likeness.on_limits hdepth) (Likeness.on_admits hstays).self hparts
  rw [run_succ] at hends ⊢
  exact (hlevel ⟨rfl, hcursor⟩).ends hends

/-- A run that ends has come to every node at most once at every place, and its repetitions have
had at most one round at every place. -/
theorem run_ends (hstays : grammar.Every rules Stays) (hcursor : Cursor.On source cursor)
    (hends : (run rules depth grammar cursor).outcome ≠ .unfinished) :
    (run rules (grammar.depthFor rules source) grammar cursor).outcome ≠ .unfinished := by
  let ends (depth : Nat) (entered : Grammar × Cursor) : Prop :=
    Within rules grammar entered.1 → (run rules depth entered.1 entered.2).outcome ≠ .unfinished
  let entries := grammar.allNodes rules ×ˢ Cursor.places source
  have hmono : ∀ depth entered, ends depth entered → ends (depth + 1) entered := by
    intro depth entered h hwithin
    rw [← run_eq_of_le (Nat.le_succ depth) (h hwithin)]
    exact h hwithin
  have hstall : ∀ depth, source.length + 1 ≤ depth →
      (∀ entered ∈ entries, ends (depth + 1) entered → ends depth entered) →
      ∀ entered ∈ entries, ends (depth + 2) entered → ends (depth + 1) entered := by
    rintro depth hdepth hvain ⟨node, entry⟩ hentered hends hwithin
    refine run_ends_next (hstays.within hwithin) hdepth (fun part hpart place hplace hlater => ?_)
      (Cursor.on_of_mem_places (List.mem_product.mp hentered).2) (hends hwithin)
    have hpart : Within rules grammar part := hwithin.tail hpart
    exact hvain _ (List.mem_product.mpr ⟨hpart.mem_allNodes, hplace.mem_places⟩)
      (fun _ => hlater) hpart
  have hmem : (grammar, cursor) ∈ entries :=
    List.mem_product.mpr ⟨Within.mem_allNodes .refl, hcursor.mem_places⟩
  have hbound : (run rules (source.length + 1 + entries.length) grammar cursor).outcome ≠
      .unfinished := ends_of_stall hmono hstall hmem (fun _ => hends) .refl
  have hdepth : source.length + 1 + entries.length ≤ grammar.depthFor rules source := by
    simp only [entries, List.length_product, length_allNodes, Cursor.length_places, depthFor]
    rw [Nat.add_comm, ← Nat.succ_mul]
    exact Nat.mul_le_mul_left _ (Nat.le_succ _)
  rwa [run_eq_of_le hdepth hbound] at hbound

/-- A grammar's parser comes to whatever a run of any depth comes to. -/
theorem parser_eq_run (hstays : grammar.Every rules Stays) (hcursor : cursor.OnSymbol)
    (hends : (run rules depth grammar cursor).outcome ≠ .unfinished) :
    grammar.parser rules cursor = run rules depth grammar cursor :=
  run_eq_run (run_ends hstays (.rfl hcursor) hends) hends

/-- A leaf that leaves the text for a longer one has its grammar run out of depth. -/
example :
    let elsewhere : Grammar := .leaf fun _ => .ok (.none, .start (List.replicate 12 'a'))
    let away : Grammar := .tuple [elsewhere, .many (.character 'a') 0]
    (away.parser [] (.start [])).outcome = .unfinished ∧
      (run [] 20 away (.start [])).outcome =
        .matched (.tuple [.none, .list (List.replicate 12 (.char 'a'))])
          ⟨List.replicate 12 'a', 12⟩ := by
  constructor <;> cbv

theorem parser_refines {like : Likeness} (hadmits : grammar.Every rules like.Admits)
    (hstays : grammar.Every rules Stays) (hcursor : cursor'.OnSymbol)
    (halike : like.cursor cursor cursor') :
    (grammar.parser rules cursor).Refines like.toLikeness like.value
      (grammar.parser rules cursor') := by
  by_cases hunfinished : (grammar.parser rules cursor).outcome = .unfinished
  · exact .of_unfinished hunfinished
  · have hrun := run_refines hadmits (Nat.le_refl (grammar.depthFor rules cursor.source)) halike
    rwa [← parser_eq_run hstays hcursor (hrun.ends hunfinished)] at hrun

theorem parser_unfinished_iff (hstays : grammar.Every rules Stays) (hcursor : cursor.OnSymbol) :
    (grammar.parser rules cursor).outcome = .unfinished ↔
      ∀ depth, (run rules depth grammar cursor).outcome = .unfinished := by
  refine ⟨fun h depth => by_contra fun hends => ?_, fun h => h _⟩
  exact hends (parser_eq_run hstays hcursor hends ▸ h)

-- ---------------------------------------------------------------------------
-- Parsers made of the parsers of their parts
-- ---------------------------------------------------------------------------

theorem parser_refines_assemble (hstays : grammar.Every rules Stays) (hlimit : source.length < limit) :
    (Likeness.on source).Refines (grammar.parser rules)
      (assemble rules limit (parser rules) grammar) := by
  rintro cursor _ ⟨rfl, hcursor⟩
  obtain ⟨depth, hdepth⟩ : ∃ depth, grammar.depthFor rules cursor.source = depth + 1 :=
    Nat.exists_eq_add_one_of_ne_zero (by simp [depthFor])
  have hparts : ∀ part ∈ grammar.calls rules,
      (Likeness.on source).Refines (run rules depth part) (part.parser rules) := by
    rintro part hpart place _ ⟨rfl, hplace⟩
    by_cases hunfinished : (run rules depth part place).outcome = .unfinished
    · exact .of_unfinished hunfinished
    · rw [parser_eq_run (hstays.call hpart) hplace.onSymbol hunfinished]
      exact .same_of_kind fun _ _ => run_keeps (hstays.call hpart) hplace
  rw [parser, hdepth, run_succ]
  exact assemble_refines (Likeness.on_limits hlimit) (Likeness.on_admits hstays).self hparts
    ⟨rfl, hcursor⟩

theorem refines_parser_of_assemble (hstays : grammar.Every rules Stays) :
    (Likeness.on source).Refines (assemble rules limit (parser rules) grammar)
      (grammar.parser rules) := by
  rintro cursor _ ⟨rfl, hcursor⟩
  let depth := source.length + 1 + ((grammar.calls rules).map (depthFor rules · source)).sum
  have hparts : ∀ part ∈ grammar.calls rules,
      (Likeness.on source).Refines (part.parser rules) (run rules depth part) := by
    rintro part hpart place _ ⟨rfl, hplace⟩
    have hdepth : part.depthFor rules place.source ≤ depth := by
      have := List.le_sum_of_mem (List.mem_map_of_mem (f := (depthFor rules · source)) hpart)
      rw [hplace.source]
      omega
    exact run_refines (Likeness.on_admits (hstays.call hpart)) hdepth ⟨rfl, hplace⟩
  have hlimit : source.length < depth := by omega
  have hlimits : (Likeness.on source).Limits limit depth := Likeness.on_limits hlimit
  have hlevel := assemble_refines hlimits (Likeness.on_admits hstays).self hparts ⟨rfl, hcursor⟩
  rw [← run_succ] at hlevel
  by_cases hunfinished : (assemble rules limit (parser rules) grammar cursor).outcome = .unfinished
  · exact .of_unfinished hunfinished
  · rwa [← parser_eq_run hstays hcursor.onSymbol (hlevel.ends hunfinished)] at hlevel

theorem parser_outcome (hstays : grammar.Every rules Stays) (hcursor : cursor.OnSymbol)
    (hlimit : cursor.source.length < limit) :
    (grammar.parser rules cursor).outcome =
      (assemble rules limit (parser rules) grammar cursor).outcome :=
  (parser_refines_assemble hstays hlimit ⟨rfl, .rfl hcursor⟩).outcome_eq
    (refines_parser_of_assemble hstays ⟨rfl, .rfl hcursor⟩)

end Grammar

end Descent
