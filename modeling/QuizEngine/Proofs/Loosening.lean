import QuizEngine.Verdict
import Mathlib.Logic.Basic

/-!
# Loosened rules for texts

A rule for texts is loosened when capitals no longer count, or when something may stand around
its text. A rule that no longer asks for the whole text accepts all that it accepted before. One
that no longer looks at capitals does so unless a capital sigma is in the way: texts are lowered
as a whole, and a sigma that ends the text of the rule may stand inside a word of the text handed
in, or the other way round (`Text.ShiftsSigma`).

The lower case of a text between two others is its lower case alone exactly when no sigma shifts
(`Text.lowerBetween_eq_lower_iff`). `TextRule.accepts_loosened` follows, and
`TextRule.verbatim_refused` is a word that contains the text of a rule and is refused.
-/

namespace QuizEngine

namespace Text

/-! ## Lower case in its place -/

/-- Whether a capital sigma ends a word between two texts, the first of them in reverse. -/
def endsWord (before after : List Char) : Bool := startsCased before && !startsCased after

/-- The lower case of a text between two others, the first of them in reverse. -/
def lowerBetween (before s after : List Char) : List Char :=
  match s with
  | [] => []
  | c :: rest =>
    (if c = 'Σ' then [if endsWord before (rest ++ after) then 'ς' else 'σ'] else lowerChar c) ++
      lowerBetween (c :: before) rest after

theorem lowerFrom_append (before s after : List Char) :
    lowerFrom before (s ++ after) =
      lowerBetween before s after ++ lowerFrom (s.reverse ++ before) after := by
  induction s generalizing before with
  | nil => rfl
  | cons c rest ih =>
    rw [List.cons_append, lowerFrom, ih, lowerBetween, List.append_assoc, List.reverse_cons,
      List.append_assoc, List.singleton_append, endsWord]

/-- The lower case of a text has that of each of its parts in place. -/
theorem lowerBetween_infix (before s after : List Char) :
    lowerBetween before.reverse s after <:+: lower (before ++ s ++ after) := by
  refine ⟨lowerBetween [] before (s ++ after), lowerFrom (s.reverse ++ before.reverse) after, ?_⟩
  rw [lower, List.append_assoc before, lowerFrom_append [] before, List.append_nil,
    lowerFrom_append, List.append_assoc]

/-- A capital sigma of a text ends a word between two other texts and not in the text alone, or
the other way round. -/
def ShiftsSigma (before s after : List Char) : Prop :=
  ∃ a b, s = a ++ 'Σ' :: b ∧
    endsWord (a.reverse ++ before.reverse) (b ++ after) ≠ endsWord a.reverse b

/-- What holds of every sigma of a text holds of the first character if that is one, and of every
sigma of the rest. -/
theorem forall_sigma_cons_iff {c : Char} {rest : List Char} {p : List Char → List Char → Prop} :
    (∀ a b, c :: rest = a ++ 'Σ' :: b → p a b) ↔
      (c = 'Σ' → p [] rest) ∧ ∀ a b, rest = a ++ 'Σ' :: b → p (c :: a) b := by
  constructor
  · intro h
    exact ⟨fun hc => h [] rest (by rw [hc, List.nil_append]), fun a b hr => h (c :: a) b (by rw [hr]; rfl)⟩
  · rintro ⟨hfirst, hrest⟩ a b h
    cases a with
    | nil =>
      obtain ⟨hc, rfl⟩ := List.cons.inj h
      exact hfirst hc
    | cons d a =>
      obtain ⟨rfl, hr⟩ := List.cons.inj h
      exact hrest a b hr

/-- The induction behind `lowerBetween_eq_lower_iff`: `alone` is what has been read of the text
itself. -/
theorem lowerBetween_eq_lowerFrom_iff (before alone s after : List Char) :
    lowerBetween (alone ++ before) s after = lowerFrom alone s ↔
      ∀ a b, s = a ++ 'Σ' :: b →
        endsWord (a.reverse ++ (alone ++ before)) (b ++ after) = endsWord (a.reverse ++ alone) b := by
  induction s generalizing alone with
  | nil => simp [lowerBetween, lowerFrom]
  | cons c rest ih =>
    have ih := ih (c :: alone)
    rw [forall_sigma_cons_iff, lowerBetween, lowerFrom]
    simp only [List.reverse_cons, List.append_assoc, List.singleton_append, List.reverse_nil,
      List.nil_append]
    rw [List.cons_append] at ih
    by_cases hc : c = 'Σ'
    · rw [if_pos hc, if_pos hc, List.cons_append, List.nil_append, List.cons_append, List.nil_append,
        List.cons.injEq, ih]
      refine and_congr ?_ (by rfl)
      rw [← endsWord]
      cases endsWord (alone ++ before) (rest ++ after) <;> cases endsWord alone rest <;> simp [hc]
    · rw [if_neg hc, if_neg hc, List.append_cancel_left_eq, ih]
      simp [hc]

/-- A text keeps its lower case between two others exactly when no capital sigma shifts. -/
theorem lowerBetween_eq_lower_iff (before s after : List Char) :
    lowerBetween before.reverse s after = lower s ↔ ¬ShiftsSigma before s after := by
  have h := lowerBetween_eq_lowerFrom_iff before.reverse [] s after
  simp only [List.nil_append, List.append_nil] at h
  rw [lower, h]
  simp only [ShiftsSigma, not_exists, not_and, not_not]

/-- A text in which no sigma shifts stands in lower case where it stood in capitals. -/
theorem lower_infix_of_not_shiftsSigma {before s after : List Char} (h : ¬ShiftsSigma before s after) :
    lower s <:+: lower (before ++ s ++ after) := by
  rw [← (lowerBetween_eq_lower_iff before s after).2 h]
  exact lowerBetween_infix before s after

end Text

/-! ## Rules -/

namespace TextRule

variable {rule : TextRule} {s : String}

theorem accepts_eq_true_iff :
    rule.accepts s = true ↔ ∃ expected, rule.answerText = some expected ∧
      Text.trim expected.toList ≠ [] ∧ Text.trim s.toList ≠ [] ∧
      if rule.exactMatch then rule.compared s = rule.compared expected
      else rule.compared expected <:+: rule.compared s := by
  unfold accepts
  cases rule.answerText with
  | none => simp
  | some expected =>
    simp only [Option.some.injEq, exists_eq_left']
    cases htrim : (Text.trim expected.toList).isEmpty || (Text.trim s.toList).isEmpty with
    | true =>
      rw [if_pos rfl]
      simp only [Bool.or_eq_true, List.isEmpty_iff] at htrim
      rcases htrim with h | h <;> simp [h]
    | false =>
      simp only [Bool.or_eq_false_iff, List.isEmpty_eq_false_iff] at htrim
      cases rule.exactMatch <;> simp [htrim, Text.contains_iff]

theorem compared_of_caseSensitive (h : rule.caseSensitive = true) (t : String) :
    rule.compared t = Text.trim t.toList := by
  simp [compared, h]

/-- What a rule accepts it still accepts when something may stand around its text. When capitals
no longer count it accepts it as well, unless the rule looks for its text inside another and a
capital sigma shifts wherever the text stands. -/
theorem accepts_loosened (h : rule.accepts s = true) :
    { rule with exactMatch := false }.accepts s = true ∧
      ({ rule with caseSensitive := false }.accepts s = true ∨
        rule.exactMatch = false ∧ rule.caseSensitive = true ∧
          ∃ expected, rule.answerText = some expected ∧ ∀ before after,
            Text.trim s.toList = before ++ Text.trim expected.toList ++ after →
            Text.ShiftsSigma before (Text.trim expected.toList) after) := by
  obtain ⟨expected, htext, hexpected, hs, hmatch⟩ := accepts_eq_true_iff.1 h
  have hinfix : rule.compared expected <:+: rule.compared s := by
    split at hmatch
    · exact hmatch ▸ List.infix_refl _
    · exact hmatch
  refine ⟨accepts_eq_true_iff.2 ⟨expected, htext, hexpected, hs, hinfix⟩, ?_⟩
  cases hcase : rule.caseSensitive with
  | false =>
    left
    rwa [← hcase]
  | true =>
    simp only [compared_of_caseSensitive hcase] at hmatch hinfix
    rw [or_iff_not_imp_right]
    intro hkept
    refine accepts_eq_true_iff.2 ⟨expected, htext, hexpected, hs, ?_⟩
    cases hexact : rule.exactMatch with
    | true =>
      rw [hexact, if_pos rfl] at hmatch
      simp [compared, hmatch]
    | false =>
      simp only [hexact, true_and, htext, Option.some.injEq, exists_eq_left', not_forall] at hkept
      obtain ⟨before, after, hoccurs, hkept⟩ := hkept
      simp only [compared, Bool.false_eq_true, if_false, hoccurs]
      exact Text.lower_infix_of_not_shiftsSigma hkept

end TextRule

/-! ## A sigma that stays, and one that shifts -/

namespace Sample

/-- A rule that looks for the word for light inside a text, with capitals. -/
def light : TextRule := ⟨1, 1, some "ΦΩΣ", none, none, true, false⟩

end Sample

open Sample

namespace TextRule

/-- At the end of another text the word ends as it does alone. -/
theorem accepts_loosened_light :
    light.accepts "ΤΟ ΦΩΣ" = true ∧ { light with exactMatch := false }.accepts "ΤΟ ΦΩΣ" = true ∧
      { light with caseSensitive := false }.accepts "ΤΟ ΦΩΣ" = true := by
  have haccepts : light.accepts "ΤΟ ΦΩΣ" = true := by decide +kernel
  obtain ⟨hinside, hcase⟩ := accepts_loosened haccepts
  refine ⟨haccepts, hinside, hcase.resolve_right ?_⟩
  rintro ⟨-, -, expected, htext, hshifts⟩
  obtain rfl := Option.some.inj htext
  refine (Text.lowerBetween_eq_lower_iff "ΤΟ ".toList _ []).1 ?_ (hshifts "ΤΟ ".toList [] ?_)
  · decide +kernel
  · decide +kernel

/-- The morning star holds the word verbatim. The rule accepts it as long as capitals count, and
refuses it when they do not. -/
theorem verbatim_refused :
    light.accepts "ΦΩΣΦΟΡΟΣ" = true ∧
      { light with caseSensitive := false }.accepts "ΦΩΣΦΟΡΟΣ" = false := by
  decide +kernel

end TextRule

end QuizEngine
