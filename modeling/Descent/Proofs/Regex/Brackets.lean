import Descent.Proofs.Regex.Closing
import Descent.Regex.Bracket

/-!
# Brackets with a parenthesis behind them

A bracket ends at its closing bracket, so what stands behind the notation is
never looked at, but where a reader looks ahead: for a named class, which is
found or not found all the same (`readNamed?_append`), and for the end of a
range, which a parenthesis is no sign of (`rangeEnd?_append`). Nested brackets
are read by the same reader, one level below (`readRest_alike`).
-/

namespace Descent.Regex.Bracket

variable {flags : Flags} {text closed rest : Text} {symbol : Char}

theorem readCaret_kept (flags : Flags) (h : Closes text closed) :
    Kept (readCaret flags text) (readCaret flags closed) := by
  have hskip := flags.skip_closes h
  unfold readCaret
  generalize flags.skip text = text at hskip
  generalize flags.skip closed = closed at hskip
  obtain rfl | rfl := hskip
  · exact .inl rfl
  · cases text with
    | nil => exact .inr rfl
    | cons symbol rest =>
      by_cases hcaret : symbol = '^'
      · subst hcaret
        exact .of_closes (flags.skip_closes (.inr rfl))
      · simp [Kept, hcaret]

theorem opened_nil (flags : Flags) (negated : Bool) (hyphens : Text) :
    (opened flags negated hyphens []).2 = [] := by
  cases hyphens <;> rfl

theorem opened_kept (flags : Flags) (negated : Bool) (hyphens text : Text) :
    Kept (opened flags negated hyphens text) (opened flags negated hyphens (text ++ [')'])) := by
  cases hyphens with
  | cons hyphen hyphens => exact .inr rfl
  | nil =>
    cases text with
    | nil => exact .inr rfl
    | cons symbol rest =>
      by_cases hbracket : symbol = ']'
      · subst hbracket
        exact .of_closes (flags.skip_closes (.inr rfl))
      · simp [opened, Kept, hbracket]

theorem readOpening_kept (flags : Flags) (h : Closes text closed) :
    Kept (readOpening flags text) (readOpening flags closed) := by
  simp only [readOpening]
  obtain hcaret | hcaret := readCaret_kept flags h
  · rw [hcaret, Flags.takeRun_nil]
    exact .inl (opened_nil flags _ _)
  · rw [hcaret]
    have hcloses : Closes (readCaret flags text).2 ((readCaret flags text).2 ++ [')']) := .inr rfl
    obtain hrun | hrun := flags.takeRun_length_kept (· == '-') (.inl rfl) hcloses
    · rw [hrun]
      exact .inl (opened_nil flags _ _)
    · rw [hrun]
      exact opened_kept flags _ _ _

theorem readClass?_append (text : Text) :
    readClass? (text ++ [')']) =
      (readClass? text).map fun found => (found.1, found.2 ++ [')']) := by
  simp only [readClass?, Option.bind_eq_bind, Option.pure_def]
  obtain ⟨hdrop, hdrop'⟩ | ⟨symbol, rest, hdrop, htake, hdrop'⟩ :=
    takeWhile_append_cases (by decide : ':' ≠ ')') text
  · simp only [hdrop, hdrop', Option.map_none]
  · rw [htake, hdrop, hdrop']
    cases rest with
    | nil => simp
    | cons second rest =>
      by_cases hcolon : symbol = ':'
      · by_cases hbracket : second = ']'
        · subst hcolon hbracket
          simp only [List.cons_append, Option.map_bind]
          rfl
        · simp [hbracket]
      · simp [hcolon]

theorem readNamed?_append (text : Text) :
    readNamed? (text ++ [')']) =
      (readNamed? text).map fun found => (found.1, found.2 ++ [')']) := by
  cases text with
  | nil => rfl
  | cons symbol rest =>
    by_cases hcolon : symbol = ':'
    · subst hcolon
      cases rest with
      | nil => rfl
      | cons symbol rest =>
        by_cases hcaret : symbol = '^'
        · subst hcaret
          simp only [List.cons_append, readNamed?, readClass?_append, Option.map_map]
          rfl
        · have hclass := readClass?_append (symbol :: rest)
          simp only [List.cons_append] at hclass
          have hplain : ∀ rest, readNamed? (':' :: symbol :: rest) =
              (readClass? (symbol :: rest)).map fun found => ((false, found.1), found.2) := by
            simp [readNamed?, hcaret]
          simp only [List.cons_append, hplain, hclass, Option.map_map]
          rfl
    · simp [readNamed?, hcolon]

theorem readItem_cons (flags : Flags) (hsymbol : symbol ≠ '\\') (rest : Text) :
    readItem flags (symbol :: rest) = some (.char symbol, rest) := by
  unfold readItem
  split
  · contradiction
  case h_2 heq => exact absurd (List.cons.inj heq).1 hsymbol
  case h_3 heq =>
    obtain ⟨rfl, rfl⟩ := List.cons.inj heq
    rfl

theorem readItem_alike (flags : Flags) : Alike (readItem flags) (readItem flags) := by
  intro text closed found found' hcloses h h'
  cases text with
  | nil => cases h
  | cons symbol rest =>
    obtain rfl | rfl := hcloses.cons
    · cases h'
    · by_cases hsymbol : symbol = '\\'
      · subst hsymbol
        exact readEscape_alike flags (.inr rfl) h h'
      · rw [readItem_cons flags hsymbol] at h h'
        cases h
        cases h'
        exact .inr rfl

theorem head?_dropWhile_isBlank (hblank : Unicode.isBlank symbol = false)
    (h : text.head? = some symbol) : (text.dropWhile Unicode.isBlank).head? = some symbol := by
  cases text with
  | nil => cases h
  | cons first rest =>
    cases h
    simp [hblank]

theorem peek_append (flags : Flags) (text : Text) (hblank : Unicode.isBlank symbol = false)
    (hsign : symbol ≠ '#') (hsymbol : symbol ≠ ')') :
    flags.peek (text ++ [')']) = some symbol ↔ flags.peek text = some symbol := by
  have hhead : text.head? = some symbol → (text.dropWhile Unicode.isBlank).head? = some symbol :=
    head?_dropWhile_isBlank hblank
  unfold Flags.peek
  split
  · cases text with
    | nil => simp [hsymbol.symm]
    | cons first rest => rfl
  · rw [Flags.dropWhile_isBlank_append]
    cases hdropped : text.dropWhile Unicode.isBlank with
    | nil =>
      have hhead : text.head? ≠ some symbol := fun h => by simp [hdropped] at hhead; exact hhead h
      simp [hsymbol.symm, hhead]
    | cons first rest =>
      by_cases hfirst : first = '#'
      · subst hfirst
        have hhead : text.head? ≠ some symbol := fun h => by
          simp [hdropped, hsign.symm] at hhead; exact hhead h
        cases hlater : rest.dropWhile Unicode.isBlank with
        | nil => simp [Flags.dropWhile_isBlank_append, hlater, hsymbol.symm, hhead]
        | cons second later => simp [Flags.dropWhile_isBlank_append, hlater]
      · simp [hfirst]

theorem rangeEnd?_append (flags : Flags) (text : Text) :
    rangeEnd? flags text = none ∧ rangeEnd? flags (text ++ [')']) = none ∨
      ∃ behind behind', rangeEnd? flags text = some behind ∧
        rangeEnd? flags (text ++ [')']) = some behind' ∧ Closes behind behind' := by
  by_cases hhyphen : ∃ behind, text = '-' :: behind
  · obtain ⟨behind, rfl⟩ := hhyphen
    have hpeek : ∀ symbol ∈ [']', '-'],
        (flags.peek (behind ++ [')']) = some symbol ↔ flags.peek behind = some symbol) := by
      intro symbol hsymbol
      obtain rfl | rfl : symbol = ']' ∨ symbol = '-' := by simpa using hsymbol
      · exact peek_append flags behind rfl (by decide) (by decide)
      · exact peek_append flags behind rfl (by decide) (by decide)
    simp only [List.cons_append, rangeEnd?, hpeek ']' (by simp), hpeek '-' (by simp)]
    split
    · exact .inl ⟨rfl, rfl⟩
    · exact .inr ⟨_, _, rfl, rfl, flags.skip_closes (.inr rfl)⟩
  · have hnone : ∀ {text : Text}, (∀ behind, text ≠ '-' :: behind) → rangeEnd? flags text = none := by
      intro text htext
      unfold rangeEnd?
      split
      · exact absurd rfl (htext _)
      · rfl
    have hhyphen : ∀ behind, text ≠ '-' :: behind := fun behind heq => hhyphen ⟨behind, heq⟩
    have hclosed : Closes text (text ++ [')']) := .inr rfl
    exact .inl ⟨hnone hhyphen, hnone (hclosed.not_cons hhyphen (by decide))⟩

theorem readRange_alike (flags : Flags) : Alike (readRange flags) (readRange flags) := by
  intro text closed found found' hcloses h h'
  simp only [readRange, Option.bind_eq_bind, Option.pure_def, Option.bind_eq_some_iff] at h h'
  obtain ⟨⟨item, rest⟩, hitem, h⟩ := h
  obtain ⟨⟨item', rest'⟩, hitem', h'⟩ := h'
  have hkept : Kept (item, flags.skip rest) (item', flags.skip rest') := by
    obtain rfl | heq := readItem_alike flags hcloses hitem hitem'
    · exact .inl flags.skip_nil
    · obtain ⟨rfl, rfl⟩ := Prod.mk.inj heq
      exact .of_closes (flags.skip_closes (.inr rfl))
  simp only at h h'
  generalize flags.skip rest = rest at h hkept
  generalize flags.skip rest' = rest' at h' hkept
  obtain rfl | heq := hkept
  · have hnone : rangeEnd? flags [] = none := rfl
    rw [hnone] at h'
    cases item' with
    | char symbol =>
      obtain ⟨set, -, hfound⟩ := Option.bind_eq_some_iff.mp h'
      cases hfound
      exact .inl rfl
    | oneOf set =>
      cases h'
      exact .inl rfl
    | lookAt look => cases h'
  · obtain ⟨rfl, rfl⟩ := Prod.mk.inj heq
    obtain ⟨hnone, hnone'⟩ | ⟨behind, behind', hsome, hsome', hbehind⟩ := rangeEnd?_append flags rest
    · rw [hnone] at h
      rw [hnone'] at h'
      cases item' with
      | char symbol => exact .of_bind (.inr rfl) h h'
      | oneOf set =>
        cases h
        cases h'
        exact .inr rfl
      | lookAt look => cases h
    · rw [hsome] at h
      rw [hsome'] at h'
      cases item' with
      | char first =>
        obtain ⟨⟨last, stop⟩, hlast, h⟩ := Option.bind_eq_some_iff.mp h
        obtain ⟨⟨last', stop'⟩, hlast', h'⟩ := Option.bind_eq_some_iff.mp h'
        cases last with
        | char last =>
          cases last' with
          | char last' =>
            obtain rfl | heq := readItem_alike flags hbehind hlast hlast'
            · obtain ⟨set, -, hfound⟩ := Option.bind_eq_some_iff.mp h'
              cases hfound
              exact .inl rfl
            · cases heq
              exact .of_bind (.inr rfl) h h'
          | oneOf set => cases h'
          | lookAt look => cases h'
        | oneOf set => cases h
        | lookAt look => cases h
      | oneOf set => cases h
      | lookAt look => cases h

theorem readRest_nil (flags : Flags) (depth : Nat) (bracket : Bracket) :
    readRest flags depth bracket [] = none := by
  cases depth with
  | zero => rfl
  | succ depth => simp only [readRest, Flags.skip_nil]

theorem readRest_alike (flags : Flags) (depth depth' : Nat) (bracket : Bracket) :
    Alike (readRest flags depth bracket) (readRest flags depth' bracket) := by
  induction depth generalizing depth' bracket with
  | zero =>
    intro text closed found found' hcloses h
    cases h
  | succ depth ih =>
    intro text closed found found' hcloses h h'
    cases depth' with
    | zero => cases h'
    | succ depth' =>
      have hskip := flags.skip_closes hcloses
      simp only [readRest, Option.bind_eq_bind] at h h'
      generalize flags.skip text = text at h hskip
      generalize flags.skip closed = closed at h' hskip
      obtain rfl | rfl := hskip
      · cases h'
      · split at h
        · cases h
        · exact Alike.ofOption (bracket.close? flags) id (.inr rfl) h h'
        · exact ih _ _ (.inr rfl) h h'
        · exact ih _ _ (.inr rfl) h h'
        · exact ih _ _ (.inr rfl) h h'
        case h_6 rest =>
          simp only [List.cons_append, readNamed?_append] at h'
          split at h
          case h_1 hnamed =>
            rw [hnamed] at h'
            obtain ⟨set, hset, h⟩ := Option.bind_eq_some_iff.mp h
            obtain ⟨set', hset', h'⟩ := Option.bind_eq_some_iff.mp h'
            cases hset.symm.trans hset'
            exact ih _ _ (.inr rfl) h h'
          case h_2 hnamed =>
            rw [hnamed] at h'
            obtain ⟨⟨nested, more⟩, hnested, h⟩ := Option.bind_eq_some_iff.mp h
            obtain ⟨⟨nested', more'⟩, hnested', h'⟩ := Option.bind_eq_some_iff.mp h'
            obtain hnil | heq := readOpening_kept flags (.inr (rfl : rest ++ [')'] = _))
            · rw [hnil, readRest_nil] at hnested'
              cases hnested'
            · rw [heq] at hnested'
              obtain rfl | heq := ih depth' _ (.inr rfl) hnested hnested'
              · rw [readRest_nil] at h'
                cases h'
              · cases heq
                exact ih _ _ (.inr rfl) h h'
        case h_7 hclosing hinter hdiff hsymm hopening =>
          split at h'
          · cases h'
          case h_2 heq => exact absurd heq (append_ne_cons hclosing (by decide) _)
          case h_3 heq => exact absurd heq (append_ne_cons_cons hinter (by decide) _)
          case h_4 heq => exact absurd heq (append_ne_cons_cons hdiff (by decide) _)
          case h_5 heq => exact absurd heq (append_ne_cons_cons hsymm (by decide) _)
          case h_6 heq => exact absurd heq (append_ne_cons hopening (by decide) _)
          case h_7 =>
            obtain ⟨⟨set, rest⟩, hrange, h⟩ := Option.bind_eq_some_iff.mp h
            obtain ⟨⟨set', rest'⟩, hrange', h'⟩ := Option.bind_eq_some_iff.mp h'
            obtain rfl | heq := readRange_alike flags (.inr rfl) hrange hrange'
            · rw [readRest_nil] at h'
              cases h'
            · cases heq
              exact ih _ _ (.inr rfl) h h'

theorem read_alike (flags : Flags) : Alike (read flags) (read flags) := by
  intro text closed found found' hcloses h h'
  simp only [read] at h h'
  obtain hnil | heq := readOpening_kept flags hcloses
  · rw [hnil, readRest_nil] at h'
    cases h'
  · rw [heq] at h'
    exact readRest_alike flags _ _ _ (.inr rfl) h h'

end Descent.Regex.Bracket
