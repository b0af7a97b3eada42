import Mathlib
import Descent.Regex.Escape

/-!
# Notation with a parenthesis behind it

A notation that is put in a group is read with the parenthesis that closes the
group behind it (`Closes`). A reader takes no notice of it, wherever the reader
comes to a result with and without it (`Alike`): it finds the same, and leaves
the parenthesis behind what it leaves. Only the comments of extended notation
swallow it, and then nothing at all is left.
-/

namespace Descent.Regex

/-- A notation and what is left of it with a parenthesis behind: that one, or nothing if it stands
in a comment. -/
def Closes (text closed : Text) : Prop := closed = [] ∨ closed = text ++ [')']

/-- What was found in a notation, with what was left, and the same with a parenthesis behind. -/
def Kept (found found' : α × Text) : Prop := found'.2 = [] ∨ found' = (found.1, found.2 ++ [')'])

/-- Readers that find the same in a notation and in one with a parenthesis behind it. -/
def Alike (read read' : Text → Option (α × Text)) : Prop :=
  ∀ ⦃text closed found found'⦄, Closes text closed → read text = some found →
    read' closed = some found' → Kept found found'

variable {flags : Flags} {text closed rest : Text} {symbol : Char} {test : Char → Bool}
  {count : Nat}

theorem Closes.cons (h : Closes (symbol :: rest) closed) :
    closed = [] ∨ closed = symbol :: (rest ++ [')']) := h

theorem append_ne_cons (htext : ∀ rest, text ≠ symbol :: rest) (hsymbol : symbol ≠ ')')
    (rest : Text) : text ++ [')'] ≠ symbol :: rest := by
  intro h
  cases text with
  | nil => exact hsymbol (List.cons.inj h).1.symm
  | cons first later => exact htext later (by rw [(List.cons.inj h).1])

theorem append_ne_cons_cons {second : Char} (htext : ∀ rest, text ≠ symbol :: second :: rest)
    (hsecond : second ≠ ')') (rest : Text) : text ++ [')'] ≠ symbol :: second :: rest := by
  intro h
  cases text with
  | nil => cases h
  | cons first later =>
    obtain ⟨rfl, hrest⟩ := List.cons.inj h
    have hlater : ∀ rest, later ≠ second :: rest := fun rest heq => htext rest (by rw [heq])
    exact append_ne_cons hlater hsecond rest hrest

theorem Closes.not_cons (h : Closes text closed) (htext : ∀ rest, text ≠ symbol :: rest)
    (hsymbol : symbol ≠ ')') (rest : Text) : closed ≠ symbol :: rest := by
  obtain rfl | rfl := h
  · exact (List.cons_ne_nil _ _).symm
  · exact append_ne_cons htext hsymbol rest

theorem Kept.of_closes {value : α} (h : Closes text closed) : Kept (value, text) (value, closed) :=
  h.imp_right fun h => by rw [h]

theorem Kept.map {found found' : α × Text} (f : α → β) (h : Kept found found') :
    Kept (f found.1, found.2) (f found'.1, found'.2) :=
  h.imp_right fun h => by rw [h]

theorem Kept.of_bind {value? : Option α} {found found' : α × Text} (h : Closes text closed)
    (hfound : (value?.bind fun value => some (value, text)) = some found)
    (hfound' : (value?.bind fun value => some (value, closed)) = some found') :
    Kept found found' := by
  cases value? with
  | none => cases hfound
  | some value =>
    cases hfound
    cases hfound'
    exact .of_closes h

theorem Alike.map {read read' : Text → Option (α × Text)} (h : Alike read read') (f : α → β) :
    Alike (fun text => (read text).map fun found => (f found.1, found.2))
      (fun text => (read' text).map fun found => (f found.1, found.2)) := by
  intro text closed found found' hcloses hfound hfound'
  obtain ⟨inner, hinner, rfl⟩ := Option.map_eq_some_iff.mp hfound
  obtain ⟨inner', hinner', rfl⟩ := Option.map_eq_some_iff.mp hfound'
  exact (h hcloses hinner hinner').map f

theorem Alike.ofOption (value? : Option α) (f : α → β) :
    Alike (fun text => value?.map fun value => (f value, text))
      (fun text => value?.map fun value => (f value, text)) := by
  intro text closed found found' hcloses hfound hfound'
  obtain ⟨value, hvalue, rfl⟩ := Option.map_eq_some_iff.mp hfound
  obtain ⟨value', hvalue', rfl⟩ := Option.map_eq_some_iff.mp hfound'
  cases hvalue.symm.trans hvalue'
  exact .of_closes hcloses

-- ---------------------------------------------------------------------------
-- Blanks and comments
-- ---------------------------------------------------------------------------

namespace Flags

theorem skipTrivia_closes (inComment : Bool) (text : Text) :
    Closes (skipTrivia inComment text) (skipTrivia inComment (text ++ [')'])) := by
  induction text generalizing inComment with
  | nil =>
    cases inComment with
    | true => exact .inl rfl
    | false => exact .inr rfl
  | cons symbol rest ih =>
    simp only [List.cons_append, skipTrivia]
    split
    · exact ih _
    · split
      · exact ih _
      · split
        · exact ih _
        · exact .inr rfl

theorem skip_nil (flags : Flags) : flags.skip [] = [] := by
  unfold skip
  split <;> rfl

theorem skip_closes (flags : Flags) (h : Closes text closed) :
    Closes (flags.skip text) (flags.skip closed) := by
  unfold skip
  split
  · obtain rfl | rfl := h
    · exact .inl rfl
    · exact skipTrivia_closes false text
  · exact h

theorem length_skipTrivia (inComment : Bool) (text : Text) :
    (skipTrivia inComment text).length ≤ text.length := by
  induction text generalizing inComment with
  | nil => exact Nat.le_refl _
  | cons symbol rest ih =>
    have hrest (inComment : Bool) : (skipTrivia inComment rest).length ≤ rest.length + 1 :=
      Nat.le_succ_of_le (ih inComment)
    unfold skipTrivia
    split
    · exact hrest _
    · split
      · exact hrest _
      · split
        · exact hrest _
        · exact Nat.le_refl _

theorem length_skip (text : Text) : (flags.skip text).length ≤ text.length := by
  unfold skip
  split
  · exact length_skipTrivia false text
  · exact Nat.le_refl _

theorem dropWhile_isBlank_append (text : Text) :
    (text ++ [')']).dropWhile Unicode.isBlank = text.dropWhile Unicode.isBlank ++ [')'] := by
  induction text with
  | nil => rfl
  | cons symbol rest ih =>
    cases hblank : Unicode.isBlank symbol with
    | true => simp [hblank, ih]
    | false => simp [hblank]

-- ---------------------------------------------------------------------------
-- Runs
-- ---------------------------------------------------------------------------

@[simp] theorem takeRun_nil : flags.takeRun test count [] = ([], []) := by cases count <;> rfl

theorem takeRun_kept (flags : Flags) (test : Char → Bool)
    (htest : test ')' = false ∨ (flags.takeRun test count text).2 ≠ []) (h : Closes text closed) :
    Kept (flags.takeRun test count text) (flags.takeRun test count closed) := by
  induction count generalizing text closed with
  | zero => exact .of_closes h
  | succ count ih =>
    obtain rfl | rfl := h
    · exact .inl rfl
    · cases text with
      | nil =>
        have htest : test ')' = false := htest.resolve_right fun hne => hne (by rw [takeRun_nil])
        rw [takeRun_nil, List.nil_append, takeRun, if_neg (by simp [htest])]
        exact .inr rfl
      | cons symbol rest =>
        simp only [List.cons_append, takeRun] at htest ⊢
        by_cases hsymbol : test symbol = true
        · simp only [hsymbol, if_true] at htest ⊢
          have hrun := ih htest (flags.skip_closes (.inr rfl))
          exact hrun.imp_right fun hrun => by rw [hrun]
        · simp only [hsymbol]
          exact .inr rfl

theorem takeRun_congr (h : text.length ≤ count) (h' : text.length ≤ count') :
    flags.takeRun test count text = flags.takeRun test count' text := by
  induction count generalizing text count' with
  | zero => simp [List.length_eq_zero_iff.mp (Nat.le_zero.mp h)]
  | succ count ih =>
    cases text with
    | nil => simp
    | cons symbol rest =>
      obtain ⟨count', rfl⟩ := Nat.exists_eq_add_one_of_ne_zero (Nat.ne_zero_of_lt h')
      have hrest : (flags.skip rest).length ≤ rest.length := length_skip rest
      have hcongr := ih (Nat.le_trans hrest (Nat.le_of_succ_le_succ h))
        (Nat.le_trans hrest (Nat.le_of_succ_le_succ h'))
      simp only [takeRun, hcongr]

theorem takeRun_length_kept (flags : Flags) (test : Char → Bool)
    (htest : test ')' = false ∨ (flags.takeRun test text.length text).2 ≠ [])
    (h : Closes text closed) :
    Kept (flags.takeRun test text.length text) (flags.takeRun test closed.length closed) := by
  obtain rfl | rfl := h
  · exact .inl rfl
  · have hcount : flags.takeRun test text.length text =
        flags.takeRun test (text ++ [')']).length text := takeRun_congr (Nat.le_refl _) (by simp)
    rw [hcount] at htest ⊢
    exact flags.takeRun_kept test htest (.inr rfl)

theorem takeRun_stop (h : flags.takeRun test text.length text = (run, symbol :: rest))
    (hcloses : Closes text closed) :
    (∃ run', flags.takeRun test closed.length closed = (run', [])) ∨
      flags.takeRun test closed.length closed = (run, symbol :: (rest ++ [')'])) := by
  have hrest : (flags.takeRun test text.length text).2 ≠ [] := by simp [h]
  have hkept := flags.takeRun_length_kept test (.inr hrest) hcloses
  rw [h] at hkept
  exact hkept.imp_left fun hnil => ⟨_, Prod.ext rfl hnil⟩

end Flags

-- ---------------------------------------------------------------------------
-- Up to a mark
-- ---------------------------------------------------------------------------

theorem takeWhile_append_cases (hmark : mark ≠ ')') (text : Text) :
    text.drop (text.takeWhile (· != mark)).length = [] ∧
        (text ++ [')']).drop ((text ++ [')']).takeWhile (· != mark)).length = [] ∨
      ∃ symbol rest, text.drop (text.takeWhile (· != mark)).length = symbol :: rest ∧
        (text ++ [')']).takeWhile (· != mark) = text.takeWhile (· != mark) ∧
        (text ++ [')']).drop (text.takeWhile (· != mark)).length = symbol :: (rest ++ [')']) := by
  induction text with
  | nil => simp [hmark.symm]
  | cons first text ih =>
    by_cases hfirst : first = mark
    · simp [hfirst]
    · simpa [hfirst] using ih

-- ---------------------------------------------------------------------------
-- Escapes
-- ---------------------------------------------------------------------------

theorem readHex_alike (flags : Flags) (count : Nat) :
    Alike (readHex flags count) (readHex flags count) := by
  intro text closed found found' hcloses h h'
  have hskip := flags.skip_closes hcloses
  simp only [readHex, Option.bind_eq_bind, Option.pure_def] at h h'
  generalize flags.skip text = text at h hskip
  generalize flags.skip closed = closed at h' hskip
  split at h
  case h_1 rest =>
    obtain rfl | rfl := hskip.cons
    · simp only [Flags.takeRun_nil, Option.bind_eq_some_iff, Option.ite_none_left_eq_some,
        Option.some.injEq] at h'
      obtain ⟨_, -, -, rfl⟩ := h'
      exact .inl rfl
    · split at h
      case h_1 hrun =>
        obtain ⟨digits, hrun'⟩ | hrun' := Flags.takeRun_stop hrun (flags.skip_closes (.inr rfl))
        · simp only [hrun', reduceCtorEq] at h'
        · simp only [hrun', Option.bind_eq_some_iff, Option.ite_none_left_eq_some,
            Option.some.injEq] at h h'
          obtain ⟨-, symbol, hsymbol, rfl⟩ := h
          obtain ⟨-, symbol', hsymbol', rfl⟩ := h'
          cases hsymbol.symm.trans hsymbol'
          exact .of_closes (flags.skip_closes (.inr rfl))
      · cases h
  case h_2 hbrace =>
    split at h'
    · exact absurd rfl (hskip.not_cons hbrace (by decide) _)
    · have htest : CharClass.hexDigit.holds ')' = false := by cbv
      simp only [Option.bind_eq_some_iff, Option.ite_none_left_eq_some, Option.some.injEq] at h h'
      obtain ⟨symbol, hsymbol, -, rfl⟩ := h
      obtain ⟨symbol', hsymbol', -, rfl⟩ := h'
      obtain hrun | hrun := flags.takeRun_kept _ (.inl htest) hskip
      · exact .inl hrun
      · rw [hrun] at hsymbol' ⊢
        exact .inr (by rw [Option.some.inj (hsymbol.symm.trans hsymbol')])

theorem readBoundary_alike (flags : Flags) :
    Alike (readBoundary flags) (readBoundary flags) := by
  intro text closed found found' hcloses h h'
  simp only [readBoundary, Option.bind_eq_bind, Option.pure_def] at h h'
  split at h
  case h_1 inner =>
    obtain rfl | rfl := hcloses.cons
    · cases h'
      exact .inl rfl
    · have hskip := flags.skip_closes (.inr (rfl : inner ++ [')'] = inner ++ [')']))
      simp only at h'
      generalize flags.skip inner = skipped at h hskip
      generalize flags.skip (inner ++ [')']) = skipped' at h' hskip
      split at h
      · cases h
      case h_2 first more =>
        obtain rfl | rfl := hskip.cons
        · cases h'
        · simp only at h'
          split at h
          case isTrue hname =>
            rw [if_pos hname] at h'
            split at h
            case h_1 hrun =>
              obtain ⟨name, hrun'⟩ | hrun' := Flags.takeRun_stop hrun hskip
              · simp only [List.length_cons] at hrun'
                simp only [hrun', reduceCtorEq] at h'
              · simp only [List.length_cons] at hrun'
                simp only [hrun'] at h'
                exact .of_bind (.inr rfl) h h'
            · cases h
          case isFalse hname =>
            rw [if_neg hname] at h'
            cases h
            cases h'
            exact .inr rfl
  case h_2 hbrace =>
    split at h'
    · exact absurd rfl (hcloses.not_cons hbrace (by decide) _)
    · cases h
      cases h'
      exact .of_closes hcloses

theorem readProperty_alike (flags : Flags) (negated : Bool) :
    Alike (readProperty flags negated) (readProperty flags negated) := by
  intro text closed found found' hcloses h h'
  have hskip := flags.skip_closes hcloses
  simp only [readProperty, Option.bind_eq_bind, Option.pure_def] at h h'
  generalize flags.skip text = text at h hskip
  generalize flags.skip closed = closed at h' hskip
  split at h
  case h_1 inner =>
    obtain rfl | rfl := hskip.cons
    · cases h'
    · split at h
      case h_1 hrun =>
        obtain ⟨_, hrun'⟩ | hrun' := Flags.takeRun_stop hrun (flags.skip_closes (.inr rfl))
        · simp [hrun'] at h'
        · simp only [hrun', Option.bind_some, Option.bind_eq_some_iff,
            Option.ite_none_right_eq_some, Option.some.injEq] at h h'
          obtain ⟨described, hdescribed, -, rfl⟩ := h
          obtain ⟨described', hdescribed', -, rfl⟩ := h'
          cases hdescribed.symm.trans hdescribed'
          exact .inr rfl
      · cases h
  · cases h
  · cases h
  case h_4 letter rest hbrace hbackslash =>
    obtain rfl | rfl := hskip.cons
    · cases h'
    · split at h'
      case h_1 heq => exact absurd (List.cons.inj heq).1 hbrace
      case h_4 heq =>
        obtain ⟨rfl, rfl⟩ := List.cons.inj heq
        simp only [Option.bind_some, Option.bind_eq_some_iff, Option.ite_none_right_eq_some,
          Option.some.injEq] at h h'
        obtain ⟨described, hdescribed, -, rfl⟩ := h
        obtain ⟨described', hdescribed', -, rfl⟩ := h'
        cases hdescribed.symm.trans hdescribed'
        exact .of_closes (flags.skip_closes (.inr rfl))
      all_goals cases h'

theorem readEscape_alike (flags : Flags) : Alike (readEscape flags) (readEscape flags) := by
  intro text closed found found' hcloses h h'
  cases text with
  | nil => cases h
  | cons symbol rest =>
    obtain rfl | rfl := hcloses.cons
    · cases h'
    · simp only [readEscape] at h h'
      split at h
      case h_1 | h_2 | h_3 => exact readHex_alike flags _ (.inr rfl) h h'
      case h_4 | h_5 | h_6 | h_7 | h_8 | h_9 =>
        exact Alike.ofOption _ Escape.oneOf (.inr rfl) h h'
      case h_10 | h_11 => exact (readProperty_alike flags _).map _ (.inr rfl) h h'
      case h_20 =>
        exact (readBoundary_alike flags).map (fun word => Escape.lookAt (.word word flags.unicode))
          (.inr rfl) h h'
      case h_24 =>
        split at h'
        case h_24 =>
          simp only [Option.ite_none_right_eq_some, Option.some.injEq] at h h'
          rw [← h.2, ← h'.2]
          exact .inr rfl
        all_goals contradiction
      all_goals
        cases h
        cases h'
        exact .inr rfl

end Descent.Regex
