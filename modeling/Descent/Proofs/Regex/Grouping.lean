import Descent.Proofs.Regex.Brackets
import Descent.Regex.Reader

/-!
# A notation in a group

`readBody_closed`: a notation that can be read alone, and with a parenthesis
behind it as the body of a group, is read as the same in both ways, and the
parenthesis closes the group. So a notation in a group behind an anchor denotes
the anchor and, behind it, what the notation denotes (`ofText?_anchored`).
-/

namespace Descent.Regex

variable {flags : Flags} {text closed rest : Text} {symbol : Char}

-- ---------------------------------------------------------------------------
-- Openings of groups
-- ---------------------------------------------------------------------------

theorem readGroupName_append (text : Text) :
    readGroupName (text ++ [')']) =
      (readGroupName text).map fun found => (found.1, found.2 ++ [')']) := by
  simp only [readGroupName, Option.pure_def]
  obtain ⟨hdrop, hdrop'⟩ | ⟨symbol, rest, hdrop, htake, hdrop'⟩ :=
    takeWhile_append_cases (by decide : '>' ≠ ')') text
  · simp only [hdrop, hdrop', Option.map_none]
  · rw [htake, hdrop, hdrop']
    by_cases hmark : symbol = '>'
    · subst hmark
      simp only
      split <;> rfl
    · simp [hmark]

theorem readFlags_append {read : Flags} (h : readFlags seen flags text = some (read, rest)) :
    ∃ symbol more, rest = symbol :: more ∧
      readFlags seen flags (text ++ [')']) = some (read, symbol :: (more ++ [')'])) := by
  induction text generalizing seen flags with
  | nil => cases h
  | cons symbol text ih =>
    rw [readFlags] at h
    rw [List.cons_append, readFlags]
    split at h
    case isTrue hend =>
      rw [if_pos hend]
      split at h
      · cases h
      case isFalse hhyphen =>
        cases h
        rw [if_neg hhyphen]
        exact ⟨symbol, text, rfl, rfl⟩
    case isFalse hend =>
      rw [if_neg hend]
      split at h
      · cases h
      case isFalse hseen =>
        rw [if_neg hseen]
        split at h
        case isTrue hhyphen =>
          rw [if_pos hhyphen]
          exact ih h
        case isFalse hhyphen =>
          rw [if_neg hhyphen]
          obtain ⟨set, hset, h⟩ := Option.bind_eq_some_iff.mp h
          obtain ⟨symbol, more, hrest, hread⟩ := ih h
          exact ⟨symbol, more, hrest, Option.bind_eq_some_iff.mpr ⟨set, hset, hread⟩⟩

theorem readNamedGroup_alike (flags : Flags) (groups : Groups) :
    let read := fun text => (readGroupName text).bind fun named =>
      (groups.open? (some named.1)).bind fun opened =>
        some (Opening.group (some groups.next) flags opened, named.2)
    Alike read read := by
  intro read text closed found found' hcloses h h'
  obtain rfl | rfl := hcloses
  · cases h'
  · obtain ⟨named, hnamed, h⟩ := Option.bind_eq_some_iff.mp h
    obtain ⟨named', hnamed', h'⟩ := Option.bind_eq_some_iff.mp h'
    rw [readGroupName_append, hnamed, Option.map_some] at hnamed'
    cases hnamed'
    obtain ⟨opened, hopened, h⟩ := Option.bind_eq_some_iff.mp h
    obtain ⟨opened', hopened', h'⟩ := Option.bind_eq_some_iff.mp h'
    cases hopened.symm.trans hopened'
    cases h
    cases h'
    exact .inr rfl

theorem readGroupOpening_alike (flags : Flags) (groups : Groups) :
    Alike (readGroupOpening flags groups) (readGroupOpening flags groups) := by
  intro text closed found found' hcloses h h'
  have hskip := flags.skip_closes hcloses
  simp only [readGroupOpening, Option.bind_eq_bind, Option.pure_def] at h h'
  generalize flags.skip text = text at h hskip
  generalize flags.skip closed = closed at h' hskip
  obtain rfl | rfl := hskip
  · obtain ⟨opened, -, hfound'⟩ := Option.bind_eq_some_iff.mp h'
    cases hfound'
    exact .inl rfl
  · split at h
    · cases h
    · cases h
    · cases h
    · cases h
    · exact readNamedGroup_alike flags groups (.inr rfl) h h'
    case h_6 rest hahead hbehind =>
      split at h'
      case h_5 heq => simp at heq
      case h_6 heq =>
        cases heq
        exact readNamedGroup_alike flags groups (.inr rfl) h h'
      case h_8 hname _ heq => exact absurd (List.cons.inj heq).2.symm (hname _)
      case h_9 hquestion => exact absurd rfl (hquestion _)
      all_goals cases h'
    · cases h
    case h_8 rest hahead hbehind hlook hlook' hpython hname hclosing =>
      obtain ⟨⟨read, left⟩, hread, h⟩ := Option.bind_eq_some_iff.mp h
      obtain ⟨symbol, more, rfl, hread'⟩ := readFlags_append hread
      split at h'
      case h_5 heq =>
        exact absurd (List.cons.inj heq).2 (append_ne_cons_cons hpython (by decide) _)
      case h_6 heq => exact absurd (List.cons.inj heq).2 (append_ne_cons hname (by decide) _)
      case h_8 heq =>
        have hrest : rest ++ [')'] = _ := (List.cons.inj heq).2
        rw [← hrest, hread', Option.bind_some] at h'
        by_cases hdirective : symbol = ')'
        · subst hdirective
          cases h
          cases h'
          exact .inr rfl
        · simp [hdirective] at h h'
          rw [← h, ← h']
          exact .inr rfl
      case h_9 hquestion => exact absurd rfl (hquestion _)
      all_goals cases h'
    case h_9 hquestion =>
      split at h'
      case h_5 heq => exact absurd heq (append_ne_cons hquestion (by decide) _)
      case h_6 heq => exact absurd heq (append_ne_cons hquestion (by decide) _)
      case h_8 heq => exact absurd heq (append_ne_cons hquestion (by decide) _)
      case h_9 =>
        obtain ⟨opened, hopened, hfound⟩ := Option.bind_eq_some_iff.mp h
        rw [hopened] at h'
        cases hfound
        cases h'
        exact .inr rfl
      all_goals cases h'

-- ---------------------------------------------------------------------------
-- Bounds
-- ---------------------------------------------------------------------------

theorem readCount_alike (flags : Flags) : Alike (readCount flags) (readCount flags) := by
  intro text closed found found' hcloses h h'
  have hblanks : Closes (text.dropWhile Unicode.isBlank) (closed.dropWhile Unicode.isBlank) := by
    obtain rfl | rfl := hcloses
    · exact .inl rfl
    · exact .inr (Flags.dropWhile_isBlank_append text)
  simp only [readCount, Option.ite_none_left_eq_some, Option.some.injEq] at h h'
  obtain ⟨-, rfl⟩ := h
  obtain ⟨-, rfl⟩ := h'
  have hdigit : CharClass.digit.holds ')' = false := by decide
  obtain hdigits | hdigits := flags.takeRun_length_kept _ (.inl hdigit) hblanks
  · rw [hdigits, Flags.takeRun_nil]
    exact .inl rfl
  · rw [hdigits]
    have hblank : Unicode.isBlank ')' = false := by decide
    generalize flags.takeRun _ _ (text.dropWhile Unicode.isBlank) = run
    obtain hrest | hrest := flags.takeRun_length_kept _ (.inl hblank) (.inr (rfl : run.2 ++ [')'] = _))
    · exact .inl hrest
    · exact .inr (by rw [hrest])

theorem readBounds_alike (flags : Flags) : Alike (readBounds flags) (readBounds flags) := by
  intro text closed found found' hcloses h h'
  simp only [readBounds, Option.bind_eq_bind, Option.pure_def] at h h'
  obtain ⟨⟨least, rest⟩, hleast, h⟩ := Option.bind_eq_some_iff.mp h
  obtain ⟨⟨least', rest'⟩, hleast', h'⟩ := Option.bind_eq_some_iff.mp h'
  obtain rfl | heq := readCount_alike flags (flags.skip_closes hcloses) hleast hleast'
  · cases h'
  · cases heq
    simp only at h h'
    split at h
    · cases h
      cases h'
      exact .inr rfl
    case h_2 rest =>
      have hskip := flags.skip_closes (.inr (rfl : rest ++ [')'] = _))
      simp only [List.cons_append] at h'
      generalize flags.skip (rest ++ [')']) = closed at h' hskip
      generalize flags.skip rest = text at h hskip
      split at h
      · cases h
        obtain rfl | rfl := hskip.cons
        · cases h'
        · cases h'
          exact .inr rfl
      case h_2 hbrace =>
        split at h'
        · exact absurd rfl (hskip.not_cons hbrace (by decide) _)
        · obtain ⟨⟨most, stop⟩, hmost, h⟩ := Option.bind_eq_some_iff.mp h
          obtain ⟨⟨most', stop'⟩, hmost', h'⟩ := Option.bind_eq_some_iff.mp h'
          obtain rfl | heq := readCount_alike flags hskip hmost hmost'
          · cases h'
          · cases heq
            cases stop with
            | nil => cases h
            | cons symbol stop =>
              by_cases hstop : symbol = '}'
              · subst hstop
                simp only [Option.ite_none_right_eq_some, Option.some.injEq, List.cons_append]
                  at h h'
                rw [← h.2, ← h'.2]
                exact .inr rfl
              · simp [hstop] at h
    · cases h

-- ---------------------------------------------------------------------------
-- Bodies
-- ---------------------------------------------------------------------------

theorem readLazy_kept (h : Closes text closed) : Kept (readLazy text) (readLazy closed) := by
  obtain rfl | rfl := h
  · exact .inl rfl
  · cases text with
    | nil => exact .inr rfl
    | cons symbol rest =>
      by_cases hmark : symbol = '?'
      · subst hmark
        exact .inr rfl
      · simp [readLazy, Kept, hmark]

theorem readBody_nil (depth : Nat) (flags : Flags) (groups : Groups) (body : Body) :
    readBody depth true flags groups body [] = none := by
  cases depth with
  | zero => rfl
  | succ depth => simp [readBody, Flags.skip_nil]

theorem Kept.eq_of_readBody {found found' : α × Text} (h : Kept found found')
    (hread : readBody depth true flags groups body found'.2 = some result) :
    found' = (found.1, found.2 ++ [')']) := by
  obtain hnil | heq := h
  · rw [hnil, readBody_nil] at hread
    cases hread
  · exact heq

/-- Bodies are read alike alone and with a parenthesis behind, which is left behind what they leave
if they have one of their own, and else is the one that ends them. -/
def Finishes (depth depth' : Nat) (inGroup : Bool) : Prop :=
  ∀ ⦃flags groups body text closed found found'⦄, Closes text closed →
    readBody depth inGroup flags groups body text = some found →
    readBody depth' true flags groups body closed = some found' →
    found' = (found.1, found.2.1, if inGroup then found.2.2 ++ [')'] else [])

variable {groups : Groups} {body : Body} {found found' : Term × Groups × Text} {inGroup : Bool}

theorem Finishes.quantified (hrest : Finishes depth depth' inGroup) (hcloses : Closes text closed)
    (h : ((body.repeat? least most ((readLazy text).1 == flags.swapGreed)).bind fun body =>
      readBody depth inGroup flags groups body (readLazy text).2) = some found)
    (h' : ((body.repeat? least most ((readLazy closed).1 == flags.swapGreed)).bind fun body =>
      readBody depth' true flags groups body (readLazy closed).2) = some found') :
    found' = (found.1, found.2.1, if inGroup then found.2.2 ++ [')'] else []) := by
  obtain ⟨repeated, hrepeated, h⟩ := Option.bind_eq_some_iff.mp h
  obtain ⟨repeated', hrepeated', h'⟩ := Option.bind_eq_some_iff.mp h'
  have hlazy := (readLazy_kept hcloses).eq_of_readBody h'
  rw [hlazy] at hrepeated' h'
  cases hrepeated.symm.trans hrepeated'
  exact hrest (.inr rfl) h h'

theorem readBody_closed (depth depth' : Nat) (inGroup : Bool) :
    Finishes depth depth' inGroup := by
  induction depth generalizing depth' inGroup with
  | zero =>
    intro flags groups body text closed found found' hcloses h
    cases h
  | succ depth ih =>
    intro flags groups body text closed found found' hcloses h h'
    cases depth' with
    | zero => cases h'
    | succ depth' =>
      have hrest := ih depth' inGroup
      have hskip := flags.skip_closes hcloses
      simp only [readBody, Option.bind_eq_bind] at h h'
      generalize flags.skip text = text at h hskip
      generalize flags.skip closed = closed at h' hskip
      obtain rfl | rfl := hskip
      · cases h'
      · split at h
        · cases inGroup with
          | true => cases h
          | false =>
            cases h
            cases h'
            rfl
        · cases inGroup with
          | true =>
            cases h
            cases h'
            rfl
          | false => cases h
        · exact hrest (.inr rfl) h h'
        · exact hrest.quantified (.inr rfl) h h'
        · exact hrest.quantified (.inr rfl) h h'
        · exact hrest.quantified (.inr rfl) h h'
        case h_7 rest =>
          obtain ⟨⟨bounds, more⟩, hbounds, h⟩ := Option.bind_eq_some_iff.mp h
          obtain ⟨⟨bounds', more'⟩, hbounds', h'⟩ := Option.bind_eq_some_iff.mp h'
          obtain rfl | heq := readBounds_alike flags (.inr rfl) hbounds hbounds'
          · obtain ⟨repeated, -, hread⟩ := Option.bind_eq_some_iff.mp h'
            rw [Flags.skip_nil] at hread
            cases (readBody_nil _ _ _ _).symm.trans hread
          · cases heq
            exact hrest.quantified (flags.skip_closes (.inr rfl)) h h'
        case h_8 rest =>
          obtain ⟨⟨opening, more⟩, hopening, h⟩ := Option.bind_eq_some_iff.mp h
          obtain ⟨⟨opening', more'⟩, hopening', h'⟩ := Option.bind_eq_some_iff.mp h'
          have hkept := readGroupOpening_alike flags groups (.inr rfl) hopening hopening'
          obtain rfl | heq := hkept
          · cases opening' with
            | directive flags => cases (readBody_nil _ _ _ _).symm.trans h'
            | group number? inner opened =>
              obtain ⟨content, hcontent, -⟩ := Option.bind_eq_some_iff.mp h'
              cases (readBody_nil _ _ _ _).symm.trans hcontent
          · cases heq
            cases opening with
            | directive flags => exact hrest (.inr rfl) h h'
            | group number? inner opened =>
              obtain ⟨content, hcontent, h⟩ := Option.bind_eq_some_iff.mp h
              obtain ⟨content', hcontent', h'⟩ := Option.bind_eq_some_iff.mp h'
              rw [ih depth' true (.inr rfl) hcontent hcontent'] at h'
              exact hrest (.inr rfl) h h'
        case h_9 rest =>
          obtain ⟨bracket, hbracket, h⟩ := Option.bind_eq_some_iff.mp h
          obtain ⟨bracket', hbracket', h'⟩ := Option.bind_eq_some_iff.mp h'
          have hkept := Bracket.read_alike flags (.inr rfl) hbracket hbracket'
          rw [hkept.eq_of_readBody h'] at h'
          exact hrest (.inr rfl) h h'
        case h_10 rest =>
          obtain ⟨⟨escape, more⟩, hescape, h⟩ := Option.bind_eq_some_iff.mp h
          obtain ⟨⟨escape', more'⟩, hescape', h'⟩ := Option.bind_eq_some_iff.mp h'
          have hkept := readEscape_alike flags (.inr rfl) hescape hescape'
          obtain rfl | heq := hkept
          · cases escape' <;> cases (readBody_nil _ _ _ _).symm.trans h'
          · cases heq
            cases escape with
            | char symbol => exact hrest (.inr rfl) h h'
            | oneOf set => exact hrest (.inr rfl) h h'
            | lookAt look => exact hrest (.inr rfl) h h'
        · obtain ⟨set, hset, h⟩ := Option.bind_eq_some_iff.mp h
          obtain ⟨set', hset', h'⟩ := Option.bind_eq_some_iff.mp h'
          cases hset.symm.trans hset'
          exact hrest (.inr rfl) h h'
        · exact hrest (.inr rfl) h h'
        · exact hrest (.inr rfl) h h'
        case h_14 =>
          split at h'
          case h_14 heq =>
            obtain ⟨hsymbol, hrest⟩ := List.cons.inj heq
            rw [← hsymbol, ← hrest] at h'
            exact ih depth' inGroup (.inr rfl) h h'
          case h_1 => cases h'
          all_goals
            rename_i heq
            exact absurd (List.cons.inj heq).1 (by assumption)

-- ---------------------------------------------------------------------------
-- Whole notations
-- ---------------------------------------------------------------------------

theorem readBody_anchor (depth : Nat) (text : Text) :
    readBody (depth + 1) false {} {} {} ('\\' :: 'A' :: text) =
      readBody depth false {} {} (Body.push {} { regex := .lookAt .textStart }) text := rfl

theorem readBody_group (depth : Nat) (body : Body) (text : Text) :
    readBody (depth + 1) false {} {} body ('(' :: '?' :: ':' :: text) =
      (readBody depth true {} {} {} text).bind fun (content, closed, rest) =>
        readBody depth false {} closed
          (body.push { regex := content.regex, nesting := content.nesting + 1 }) rest := rfl

theorem readBody_end {found : Term × Groups × Text}
    (h : readBody depth false flags groups body [] = some found) :
    found = (body.joined, groups, []) := by
  cases depth with
  | zero => cases h
  | succ depth =>
    simp [readBody, Flags.skip_nil] at h
    exact h.symm

/-- What an anchored notation denotes. -/
theorem ofText?_anchored {regex regex' : Regex} {names names' : List (Text × Nat)}
    (h : ofText? text = some (regex, names))
    (h' : ofText? ("\\A(?:".toList ++ text ++ ")".toList) = some (regex', names')) :
    ∃ content, regex = .group 0 content ∧
      regex' = .group 0 (inOrder [.lookAt .textStart, content]) ∧ names' = names := by
  have hsource : "\\A(?:".toList ++ text ++ ")".toList =
      '\\' :: 'A' :: '(' :: '?' :: ':' :: (text ++ [')']) := rfl
  rw [hsource] at h'
  simp only [ofText?, Option.bind_eq_bind, Option.bind_eq_some_iff, Option.pure_def,
    Option.ite_none_right_eq_some, Option.some.injEq, Prod.mk.injEq, List.length_cons] at h h'
  obtain ⟨⟨content, groups, rest⟩, hread, -, rfl, rfl⟩ := h
  obtain ⟨found, hread', -, rfl, rfl⟩ := h'
  rw [readBody_anchor, readBody_group] at hread'
  obtain ⟨content', hcontent, hread'⟩ := Option.bind_eq_some_iff.mp hread'
  have hclosed := readBody_closed _ _ _ (.inr rfl) hread hcontent
  rw [hclosed] at hread'
  have hend := readBody_end hread'
  rw [hend]
  exact ⟨content.regex, rfl, rfl, rfl⟩

end Descent.Regex
