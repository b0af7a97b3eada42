import Descent.Proofs.Parser.Outcome
import Descent.Proofs.Regex.Rounds
import Descent.Proofs.Regex.Sweep

/-!
# Two parsers for one notation

A pattern that is anchored before it is compiled and one that is compiled as it
stands make the same parser (`pattern_accords`), as far as a search finds the
leftmost match and the preferred one among those that begin there. The second
searches on to the right, and what it finds there does not count.

That searches are of this kind is an assumption, made for the text at hand only.
It holds for all texts wherever no test of the notation asks for the next symbol
(`leftmostFirst_of_looks`), and wherever every round of a repetition without
bound surely reads something, whatever tests there are (`leftmostFirst_of_rounds`).
Elsewhere a sweep tells where a match stops, and around `(?:\b|a)+` its order of
preference is another.
-/

namespace Descent

/-- The notation is searched for in depth, from left to right. -/
def Regex.LeftmostFirst (source text : Text) : Prop :=
  ∀ regex names, ofText? source = some (regex, names) →
    regex.program.search text =
      regex.program.searchFrom (wholeText text) (regex.program.starts text)

/-- Without a test that asks for the next symbol the search is left to the search in depth. -/
theorem Regex.leftmostFirst_of_looks (hread : ofText? source = some (regex, names))
    (hlooks : (regex.program.nodes.toList.filterMap Node.look?).any Look.asksNext = false)
    (text : Text) : LeftmostFirst source text := by
  intro regex' names' hread'
  cases hread.symm.trans hread'
  have hsweep : regex.program.sweep text = .undecided := by simp [Program.sweep, hlooks]
  simp only [Program.search, hsweep, Program.starts, wholeText, List.size_toArray]

/-- Where all rounds read something, a sweep prefers what the search in depth does. -/
theorem Regex.leftmostFirst_of_rounds (hread : ofText? source = some (regex, names))
    (hrounds : regex.roundsRead = true) (text : Text) : LeftmostFirst source text := by
  intro regex' names' hread'
  cases hread.symm.trans hread'
  obtain ⟨content, rfl⟩ := ofText?_eq_group hread
  obtain ⟨rank, hfalls⟩ := exists_falls hrounds
  exact search_eq (ofText?_numbered hread) hfalls text

theorem Regex.leftmostFirst_anchored (hread : ofText? source = some (regex, names))
    (hrounds : regex.roundsRead = true) (text : Text) :
    LeftmostFirst ("\\A(?:".toList ++ source ++ ")".toList) text := by
  intro regex' names' hread'
  obtain ⟨content, rfl, rfl, -⟩ := ofText?_anchored hread hread'
  exact leftmostFirst_of_rounds hread' (roundsRead_anchored .textStart hrounds) text _ _ hread'

example (text : Text) : Regex.LeftmostFirst "\\b(?:a|bc)+$".toList text := by
  let turns : Regex := .repetition (.alternation [.literal ['a'], .literal ['b', 'c']]) 1 none true
  have hread : Regex.ofText? "\\b(?:a|bc)+$".toList =
      some (.group 0 (.concat [.lookAt (.word .boundary true), turns, .lookAt .textEnd]), []) := by
    cbv
  exact Regex.leftmostFirst_of_rounds hread rfl text

namespace Pattern

variable {text source shown rest : Text} {pattern anchored plain : Pattern}

theorem exists_of_compile? (h : compile? shown source = some pattern) :
    ∃ regex names, Regex.ofText? source = some (regex, names) ∧
      pattern = ⟨shown, names, regex.program.search⟩ := by
  simp only [compile?, Option.bind_eq_bind, Option.bind_eq_some_iff, Option.pure_def,
    Option.ite_none_right_eq_some, Option.some.injEq] at h
  obtain ⟨⟨regex, names⟩, hread, -, rfl⟩ := h
  exact ⟨regex, names, hread, rfl⟩

/-- Both patterns are shown alike and name their groups alike, and the anchored one finds what the
other one does at the start of the text. -/
theorem search_restricts (hanchored : anchored? text = some anchored)
    (hplain : ofText? text = some plain)
    (hfirst : Regex.LeftmostFirst ("\\A(?:".toList ++ text ++ ")".toList) rest)
    (hfirst' : Regex.LeftmostFirst text rest) :
    anchored.shown = text ∧ plain.shown = text ∧ anchored.names = plain.names ∧
      Regex.Restricts (anchored.search rest) (plain.search rest) := by
  obtain ⟨regex, names, hread, rfl⟩ := exists_of_compile? hanchored
  obtain ⟨regex', names', hread', rfl⟩ := exists_of_compile? hplain
  obtain ⟨content, rfl, rfl, rfl⟩ := Regex.ofText?_anchored hread' hread
  refine ⟨rfl, rfl, rfl, ?_⟩
  show Regex.Restricts ((Regex.program _).search rest) ((Regex.program _).search rest)
  rw [hfirst _ _ hread, hfirst' _ _ hread']
  exact Regex.search_restricts (Regex.ofText?_numbered hread') rest

theorem matchStart?_eq_none
    (h : ∀ start stop groups, pattern.search rest = some (some (start, stop) :: groups) → 0 < start) :
    pattern.matchStart? rest = none := by
  unfold matchStart?
  split
  case h_1 stop groups hfound => exact absurd (h 0 stop groups hfound) (Nat.lt_irrefl 0)
  case h_2 => rfl

theorem matchStart?_eq (hnames : anchored.names = plain.names)
    (h : Regex.Restricts (anchored.search rest) (plain.search rest)) :
    anchored.matchStart? rest = plain.matchStart? rest := by
  cases hanchored : anchored.search rest with
  | some spans =>
    unfold matchStart?
    rw [hanchored, (h.found spans hanchored).1, hnames]
  | none =>
    have hmissed : plain.matchStart? rest = none :=
      matchStart?_eq_none fun start stop groups hplain =>
        h.missed hanchored _ hplain start stop rfl
    rw [hmissed, matchStart?, hanchored]

/-- Both patterns make the same parser for a notation, seen from one cursor. -/
structure Accords (text : Text) (anchored plain : Pattern) (cursor : Cursor) : Prop where
  run_eq : Parser.pattern anchored cursor = Parser.pattern plain cursor
  restricts : Regex.Restricts (anchored.search cursor.remainder) (plain.search cursor.remainder)
  matched : ∀ stop groups, plain.search cursor.remainder = some (some (0, stop) :: groups) →
    (Parser.pattern plain cursor).outcome = .matched
      ⟨(some (0, stop) :: groups).map
        (Option.map fun (start, stop) => Capture.of cursor.remainder start stop), plain.names⟩
      (cursor.skipBytes (Text.byteSize (cursor.remainder.take stop)))
  /-- What begins later does not count. -/
  failed : (∀ start stop groups,
      plain.search cursor.remainder = some (some (start, stop) :: groups) → 0 < start) →
    ∃ failure, (Parser.pattern plain cursor).outcome = .failed failure ∧ failure.cursor = cursor ∧
      failure.message = "regex '".toList ++ text ++ "' failed to parse at ".toList ++
        Text.ofNat cursor.index

theorem pattern_accords (hanchored : anchored? text = some anchored)
    (hplain : ofText? text = some plain) (cursor : Cursor)
    (hfirst : Regex.LeftmostFirst ("\\A(?:".toList ++ text ++ ")".toList) cursor.remainder)
    (hfirst' : Regex.LeftmostFirst text cursor.remainder) : Accords text anchored plain cursor := by
  obtain ⟨hshown, hshown', hnames, hrestricts⟩ :=
    search_restricts hanchored hplain hfirst hfirst'
  have hmatch := matchStart?_eq hnames hrestricts
  refine ⟨?_, hrestricts, fun stop groups hfound => ?_, fun hlater => ?_⟩
  · simp only [Parser.pattern, Parser.here_bind, hmatch, hshown, hshown']
  · apply Parser.pattern_matched.mpr
    refine ⟨stop, ?_, rfl⟩
    rw [matchStart?, hfound]
    rfl
  · refine ⟨_, Parser.pattern_failed.mpr ⟨matchStart?_eq_none hlater, rfl⟩, rfl, ?_⟩
    rw [hshown']
    rfl

theorem pattern_accords_lazy_branch :
    ∃ anchored plain, anchored? "a|(ab)??(b)".toList = some anchored ∧
      ofText? "a|(ab)??(b)".toList = some plain ∧
      Regex.LeftmostFirst ("\\A(?:".toList ++ "a|(ab)??(b)".toList ++ ")".toList) "b".toList ∧
      Regex.LeftmostFirst "a|(ab)??(b)".toList "b".toList ∧
      Accords "a|(ab)??(b)".toList anchored plain ⟨"xb".toList, 1⟩ := by
  let branches : Regex := .alternation [.literal ['a'],
    .concat [.repetition (.group 1 (.literal ['a', 'b'])) 0 (some 1) false, .group 2 (.literal ['b'])]]
  have hread : Regex.ofText? "a|(ab)??(b)".toList = some (.group 0 branches, []) := by cbv
  have hread' : Regex.ofText? ("\\A(?:".toList ++ "a|(ab)??(b)".toList ++ ")".toList) =
      some (.group 0 (.concat [.lookAt .textStart, branches]), []) := by cbv
  have hplain := compile?_eq_some hread (by cbv) "a|(ab)??(b)".toList
  have hanchored := compile?_eq_some hread' (by cbv) "a|(ab)??(b)".toList
  have hfirst := Regex.leftmostFirst_of_looks hread' rfl "b".toList
  have hfirst' := Regex.leftmostFirst_of_looks hread rfl "b".toList
  exact ⟨_, _, hanchored, hplain, hfirst, hfirst',
    pattern_accords hanchored hplain ⟨"xb".toList, 1⟩ hfirst hfirst'⟩

/-- Where a sweep prefers otherwise, the two parsers differ. -/
example : ∃ anchored plain, anchored? "(?:(?-u:\\b)|a)+".toList = some anchored ∧
    ofText? "(?:(?-u:\\b)|a)+".toList = some plain ∧
    anchored.search "aa".toList = some [some (0, 0)] ∧
    plain.search "aa".toList = some [some (0, 2)] := by
  let turns : Regex :=
    .repetition (.alternation [.lookAt (.word .boundary false), .literal ['a']]) 1 none true
  have hread : Regex.ofText? "(?:(?-u:\\b)|a)+".toList = some (.group 0 turns, []) := by cbv
  have hread' : Regex.ofText? ("\\A(?:".toList ++ "(?:(?-u:\\b)|a)+".toList ++ ")".toList) =
      some (.group 0 (.concat [.lookAt .textStart, turns]), []) := by cbv
  refine ⟨_, _, compile?_eq_some hread' (by cbv) _, compile?_eq_some hread (by cbv) _, ?_, ?_⟩
  · cbv
  · cbv

end Pattern

end Descent
