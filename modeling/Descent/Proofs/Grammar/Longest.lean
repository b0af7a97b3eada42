import Mathlib
import Descent.Proofs.Grammar.Regrouping

/-!
# When a choice of literals is the longest match

A choice takes the first literal that stands at the cursor (`leading?`). That is
the longest one if no literal is a proper beginning of a later one
(`leading?_eq_some_iff`), and which one is longest does not depend on the order.
Where a literal is a proper beginning of a later one and all are distinct, the
later one is never reached on itself (`leading?_shorter`).
-/

namespace Descent

namespace Text

/-- No text of the list is a proper beginning of a later one. -/
def LongestFirst (texts : List Text) : Prop :=
  texts.Pairwise fun earlier later => earlier <+: later → earlier = later

instance (texts : List Text) : Decidable (LongestFirst texts) :=
  inferInstanceAs (Decidable (texts.Pairwise _))

structure Longest (texts : List Text) (text longest : Text) : Prop where
  mem : longest ∈ texts
  starts : longest <+: text
  length_le : ∀ other ∈ texts, other <+: text → other.length ≤ longest.length

def leading? (texts : List Text) (text : Text) : Option Text := texts.find? (·.isPrefixOf text)

variable {texts texts' : List Text} {text first found found' : Text}

theorem Longest.unique (h : Longest texts text found) (h' : Longest texts text found') :
    found = found' := by
  have hle := h'.length_le found h.mem h.starts
  have hge := h.length_le found' h'.mem h'.starts
  exact (List.prefix_of_prefix_length_le h.starts h'.starts hle).eq_of_length_le hge

theorem Longest.congr (hsame : ∀ other, other ∈ texts ↔ other ∈ texts') :
    Longest texts text found ↔ Longest texts' text found := by
  constructor
  · rintro ⟨hmem, hstarts, hle⟩
    exact ⟨(hsame found).mp hmem, hstarts, fun other hother => hle other ((hsame other).mpr hother)⟩
  · rintro ⟨hmem, hstarts, hle⟩
    exact ⟨(hsame found).mpr hmem, hstarts, fun other hother => hle other ((hsame other).mp hother)⟩

theorem longest_cons_of_not_starts (hfirst : ¬first <+: text) :
    Longest (first :: texts) text found ↔ Longest texts text found := by
  constructor
  · rintro ⟨hmem, hstarts, hle⟩
    rcases List.mem_cons.mp hmem with rfl | hmem
    · exact absurd hstarts hfirst
    · exact ⟨hmem, hstarts, fun other hother => hle other (List.mem_cons_of_mem _ hother)⟩
  · rintro ⟨hmem, hstarts, hle⟩
    refine ⟨List.mem_cons_of_mem _ hmem, hstarts, fun other hother hother' => ?_⟩
    rcases List.mem_cons.mp hother with rfl | hother
    · exact absurd hother' hfirst
    · exact hle other hother hother'

-- ---------------------------------------------------------------------------
-- The first text
-- ---------------------------------------------------------------------------

theorem leading?_cons_of_starts (h : first <+: text) :
    leading? (first :: texts) text = some first :=
  List.find?_cons_of_pos (List.isPrefixOf_iff_prefix.mpr h)

theorem leading?_cons_of_not_starts (h : ¬first <+: text) :
    leading? (first :: texts) text = leading? texts text :=
  List.find?_cons_of_neg (mt List.isPrefixOf_iff_prefix.mp h)

theorem leading?_eq_none_iff : leading? texts text = none ↔ ∀ other ∈ texts, ¬other <+: text := by
  simp [leading?]

theorem leading?_ne_none_iff : leading? texts text ≠ none ↔ ∃ other ∈ texts, other <+: text := by
  simp [leading?_eq_none_iff]

theorem leading?_eq_some_iff (h : LongestFirst texts) :
    leading? texts text = some found ↔ Longest texts text found := by
  induction texts with
  | nil =>
    refine ⟨nofun, fun hlongest => ?_⟩
    cases hlongest.mem
  | cons first texts ih =>
    obtain ⟨hfirst, hlater⟩ := List.pairwise_cons.mp h
    by_cases hstarts : first <+: text
    · have hlongest : Longest (first :: texts) text first := by
        refine ⟨List.mem_cons_self, hstarts, fun other hother hother' => ?_⟩
        rcases List.mem_cons.mp hother with rfl | hother
        · exact Nat.le_refl _
        · -- a longer one would begin with the first, and is it then
          rcases Nat.le_total other.length first.length with hle | hle
          · exact hle
          · rw [hfirst other hother (List.prefix_of_prefix_length_le hstarts hother' hle)]
      rw [leading?_cons_of_starts hstarts, Option.some_inj]
      exact ⟨fun heq => heq ▸ hlongest, fun hfound => hlongest.unique hfound⟩
    · rw [leading?_cons_of_not_starts hstarts, longest_cons_of_not_starts hstarts]
      exact ih hlater

theorem leading?_congr (h : LongestFirst texts) (h' : LongestFirst texts')
    (hsame : ∀ other, other ∈ texts ↔ other ∈ texts') (text : Text) :
    leading? texts text = leading? texts' text := by
  ext found
  rw [leading?_eq_some_iff h, leading?_eq_some_iff h', Longest.congr hsame]

theorem leading?_shorter (hnodup : texts.Nodup) (h : ¬LongestFirst texts) :
    ∃ long ∈ texts, ∃ found, leading? texts long = some found ∧ found.length < long.length := by
  induction texts with
  | nil => exact absurd .nil h
  | cons first texts ih =>
    obtain ⟨hfirst, hnodup⟩ := List.nodup_cons.mp hnodup
    have hshorter : ∀ long ∈ texts, first <+: long → first.length < long.length := by
      intro long hlong hstarts
      refine Nat.lt_of_le_of_ne hstarts.length_le fun heq => hfirst ?_
      rwa [hstarts.eq_of_length heq]
    by_cases hlater : LongestFirst texts
    · obtain ⟨long, hlong, hstarts⟩ : ∃ long ∈ texts, first <+: long := by
        by_contra hnone
        refine h (List.pairwise_cons.mpr ⟨fun long hlong hstarts => ?_, hlater⟩)
        exact absurd ⟨long, hlong, hstarts⟩ hnone
      exact ⟨long, List.mem_cons_of_mem _ hlong, first, leading?_cons_of_starts hstarts,
        hshorter long hlong hstarts⟩
    · obtain ⟨long, hlong, found, hfound, hlt⟩ := ih hnodup hlater
      refine ⟨long, List.mem_cons_of_mem _ hlong, ?_⟩
      by_cases hstarts : first <+: long
      · exact ⟨first, leading?_cons_of_starts hstarts, hshorter long hlong hstarts⟩
      · exact ⟨found, by rw [leading?_cons_of_not_starts hstarts, hfound], hlt⟩

def PrefixFree (texts : List Text) : Prop :=
  ∀ text ∈ texts, ∀ other ∈ texts, text <+: other → text = other

theorem PrefixFree.longestFirst (h : PrefixFree texts)
    (hsame : ∀ other, other ∈ texts' ↔ other ∈ texts) : LongestFirst texts' := by
  refine List.pairwise_of_forall_mem_list fun text htext other hother => ?_
  exact h text ((hsame text).mp htext) other ((hsame other).mp hother)

end Text

theorem Parser.choose_literals_outcome (literals : List Text) (cursor : Cursor) :
    (choose (literals.map literal) cursor).outcome =
      match Text.leading? literals cursor.remainder with
      | some found => .matched found (cursor.skipBytes found.byteSize)
      | none => .failed (.composite cursor (.noAlternative cursor.index)) := by
  induction literals with
  | nil => rfl
  | cons first literals ih =>
    rw [List.map_cons, choose_cons_outcome, ih]
    by_cases hstarts : first <+: cursor.remainder
    · rw [literal_matched.mpr ⟨hstarts, rfl, rfl⟩, Text.leading?_cons_of_starts hstarts]
      rfl
    · rw [literal_failed.mpr ⟨hstarts, rfl⟩, Text.leading?_cons_of_not_starts hstarts]
      rfl

namespace Grammar

variable {rules : Rules} {literals : List Text} {cursor : Cursor}

theorem choose_literals_outcome (rules : Rules) (hcursor : cursor.OnSymbol) (literals : List Text) :
    ((choose (literals.map literal)).parser rules cursor).outcome =
      match Text.leading? literals cursor.remainder with
      | some found => .matched (.text found) (cursor.skipBytes found.byteSize)
      | none => .failed (.composite cursor (.noAlternative cursor.index)) := by
  have hlimit := Nat.lt_succ_self cursor.source.length
  have hchoose : (choose (literals.map literal)).Every rules Stays :=
    stays_of_parts trivial (by simp [literal_stays])
  have hrow : List.Forall₂ (Parser.Alike cursor.source)
      ((literals.map literal).map (parser rules))
      ((literals.map Parser.literal).map (Value.text <$> ·)) := by
    rw [List.map_map, List.map_map, List.forall₂_map_left_iff, List.forall₂_map_right_iff,
      List.forall₂_same]
    exact fun expected _ => parser_alike (literal_stays rules expected) hlimit
  have hopened := (parser_alike hchoose hlimit).trans (.choose hrow)
  rw [hopened.outcome_eq (.rfl hcursor), Parser.choose_map, Parser.choose_literals_outcome]
  cases Text.leading? literals cursor.remainder <;> rfl

/-- What a choice of literals comes to that takes the longest one at the cursor. -/
structure ReadsLongest (literals : List Text) (cursor : Cursor) (outcome : Outcome Value) :
    Prop where
  matches_iff : (∃ value rest, outcome = .matched value rest) ↔
    ∃ found ∈ literals, found <+: cursor.remainder
  fails_iff : (∃ failure, outcome = .failed failure) ↔
    ∀ found ∈ literals, ¬found <+: cursor.remainder
  longest : ∀ value rest, outcome = .matched value rest → ∃ found, value = .text found ∧
    Text.Longest literals cursor.remainder found ∧ rest.source = cursor.source ∧
    rest.index = cursor.index + Text.byteSize found

theorem choose_literals_readsLongest (h : Text.LongestFirst literals) (hcursor : cursor.OnSymbol) :
    ReadsLongest literals cursor ((choose (literals.map literal)).parser rules cursor).outcome := by
  rw [choose_literals_outcome rules hcursor]
  constructor
  · rw [← Text.leading?_ne_none_iff]
    cases Text.leading? literals cursor.remainder <;> simp
  · rw [← Text.leading?_eq_none_iff]
    cases Text.leading? literals cursor.remainder <;> simp
  · intro value rest hmatched
    cases hfound : Text.leading? literals cursor.remainder with
    | none => simp [hfound] at hmatched
    | some found =>
      simp only [hfound, Outcome.matched.injEq] at hmatched
      obtain ⟨rfl, rfl⟩ := hmatched
      have hlongest := (Text.leading?_eq_some_iff h).mp hfound
      obtain ⟨after, hafter⟩ := hlongest.starts
      have hreads := Cursor.reads_skipBytes hcursor hafter.symm
      exact ⟨found, rfl, hlongest, hreads.source, hreads.index⟩

/-- A choice of literals none of which is a proper beginning of a later one takes the longest that
stands at the cursor, so all such orders of the same literals come to the same. Any other order of
distinct literals takes a shorter one on some text. -/
theorem literals_longest (rules : Rules) :
    (∀ (literals : List Text) (cursor : Cursor), Text.LongestFirst literals → cursor.OnSymbol →
      ReadsLongest literals cursor
        ((choose (literals.map literal)).parser rules cursor).outcome) ∧
    (∀ (literals literals' : List Text) (cursor : Cursor), Text.LongestFirst literals →
      Text.LongestFirst literals' → (∀ text, text ∈ literals ↔ text ∈ literals') →
      cursor.OnSymbol →
      ((choose (literals.map literal)).parser rules cursor).outcome =
        ((choose (literals'.map literal)).parser rules cursor).outcome) ∧
    (∀ literals literals' : List Text, Text.PrefixFree literals →
      (∀ text, text ∈ literals' ↔ text ∈ literals) → Text.LongestFirst literals') ∧
    ∀ literals : List Text, literals.Nodup → ¬Text.LongestFirst literals →
      ∃ source longest found rest, Text.Longest literals source longest ∧
        ((choose (literals.map literal)).parser rules (.start source)).outcome =
          .matched (.text found) rest ∧
        found.length < longest.length := by
  refine ⟨fun literals cursor h hcursor => choose_literals_readsLongest h hcursor, ?_,
    fun literals literals' h hsame => h.longestFirst hsame, ?_⟩
  · intro literals literals' cursor h h' hsame hcursor
    rw [choose_literals_outcome rules hcursor, choose_literals_outcome rules hcursor,
      Text.leading?_congr h h' hsame]
  · intro literals hnodup h
    obtain ⟨long, hlong, found, hfound, hlt⟩ := Text.leading?_shorter hnodup h
    have hlongest : Text.Longest literals long long :=
      ⟨hlong, List.prefix_rfl, fun other _ hother => hother.length_le⟩
    have hmatched := choose_literals_outcome rules (Cursor.onSymbol_start long) literals
    rw [Cursor.remainder_start, hfound] at hmatched
    exact ⟨long, long, found, _, hlongest, hmatched, hlt⟩

theorem literals_longest_accents :
    ReadsLongest [['é', 'n'], ['é'], ['n'], ['é'], []] ⟨['n', 'é', 'é', 'n'], 3⟩
      ((choose ([['é', 'n'], ['é'], ['n'], ['é'], []].map literal)).parser []
        ⟨['n', 'é', 'é', 'n'], 3⟩).outcome ∧
    ((choose ([['é', 'n'], ['é'], ['n'], ['é'], []].map literal)).parser []
        ⟨['n', 'é', 'é', 'n'], 3⟩).outcome =
      ((choose ([['n'], ['é', 'n'], ['é'], []].map literal)).parser []
        ⟨['n', 'é', 'é', 'n'], 3⟩).outcome ∧
    ∃ source longest found rest, Text.Longest [['é'], ['n'], ['é', 'n']] source longest ∧
      ((choose ([['é'], ['n'], ['é', 'n']].map literal)).parser [] (.start source)).outcome =
        .matched (.text found) rest ∧
      found.length < longest.length := by
  have hcursor : Cursor.OnSymbol ⟨['n', 'é', 'é', 'n'], 3⟩ := ⟨['n', 'é'], ['é', 'n'], rfl, rfl⟩
  obtain ⟨hlongest, horders, -, hshorter⟩ := literals_longest []
  refine ⟨hlongest _ _ (by decide) hcursor, horders _ _ _ (by decide) (by decide) ?_ hcursor,
    hshorter _ (by decide) (by decide)⟩
  intro text
  simp only [List.mem_cons, List.not_mem_nil, or_false]
  tauto

end Grammar

end Descent
