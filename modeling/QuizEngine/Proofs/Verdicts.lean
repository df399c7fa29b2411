import QuizEngine.Proofs.Guards
import Mathlib.Data.List.Nodup
import Mathlib.Data.List.Sort

/-!
# Right answers

A question takes a payload when what it chooses or fills in is there to be chosen and filled in,
and nothing twice (`Question.Takes`, `Question.check_eq_ok_iff`). Such a payload is right or
wrong by sets alone (`Question.IsRight`): the options that are chosen are the correct ones, every
blank with options has a correct one of its own, and the blanks with texts are those that the
rules name, each with a text that some rule for it accepts.

The verdict of a rule says just that (`Question.verdict_spec`), for questions whose options have
identifiers of their own. So neither the order of options and rules nor the order in which a
student hands in choices and blanks makes a difference.
-/

namespace QuizEngine

/-- Of rows with keys of their own the first one of a key is the one of that key. -/
theorem find?_key_eq_some_iff {α : Type} {key : α → Int} {rows : List α} (h : (rows.map key).Nodup)
    {k : Int} {a : α} : rows.find? (key · == k) = some a ↔ a ∈ rows ∧ key a = k := by
  constructor
  · intro hfind
    exact ⟨List.mem_of_find?_eq_some hfind, by simpa using List.find?_some hfind⟩
  · rintro ⟨ha, rfl⟩
    cases hfind : rows.find? (key · == key a) with
    | none => exact absurd (beq_self_eq_true (key a)) (List.find?_eq_none.1 hfind a ha)
    | some b =>
      have hkey : key b = key a := by simpa using List.find?_some hfind
      rw [List.inj_on_of_nodup_map h (List.mem_of_find?_eq_some hfind) ha hkey]

/-- What is asked of the row of a key is asked of one row. -/
theorem any_find?_key_iff {α : Type} {key : α → Int} {rows : List α} (h : (rows.map key).Nodup)
    (k : Int) (p : α → Bool) :
    (rows.find? (key · == k)).any p = true ↔ ∃ a ∈ rows, key a = k ∧ p a = true := by
  simp only [Option.any_eq_true, find?_key_eq_some_iff h, and_assoc]

/-- Ascending lists without repeats tell sets of numbers apart. -/
theorem ascending_eq_iff {ms ns : List Int} :
    ascending ms = ascending ns ↔ ∀ k, k ∈ ms ↔ k ∈ ns := by
  constructor
  · intro h k
    rw [← mem_ascending, h, mem_ascending]
  · intro h
    refine List.Pairwise.eq_of_mem_iff (pairwise_ascending ms) (pairwise_ascending ns) fun k => ?_
    rw [mem_ascending, mem_ascending, h]

theorem TextRule.isFor_eq_true_iff {rule : TextRule} {blankId : Int} :
    rule.isFor blankId = true ↔ rule.blankId = none ∨ rule.blankId = some blankId := by
  unfold isFor
  cases rule.blankId <;> simp

namespace Question

variable {question : Question}

/-! ## Keys -/

/-- One of the options is for the blank. -/
def OffersBlank (question : Question) (blankId : Int) : Prop :=
  ∃ o ∈ question.options, o.blankId = some blankId

/-- One of the rules is for the blank and no other. -/
def NamesBlank (question : Question) (blankId : Int) : Prop :=
  ∃ rule ∈ question.rules, rule.blankId = some blankId

theorem mem_optionBlankIds {k : Int} : k ∈ question.optionBlankIds ↔ question.OffersBlank k := by
  simp [optionBlankIds, OffersBlank]

theorem mem_ruleBlankIds {k : Int} : k ∈ question.ruleBlankIds ↔ question.NamesBlank k := by
  simp [ruleBlankIds, NamesBlank]

/-- Every option has an identifier of its own. -/
def HasDistinctOptions (question : Question) : Prop := (question.options.map (·.id)).Nodup

instance (question : Question) : Decidable question.HasDistinctOptions :=
  inferInstanceAs (Decidable (List.Nodup _))

theorem option?_eq_some_iff (h : question.HasDistinctOptions) {k : Int} {o : AnswerOption} :
    question.option? k = some o ↔ o ∈ question.options ∧ o.id = k :=
  find?_key_eq_some_iff h

theorem option?_isNone_eq_false_iff {k : Int} :
    (question.option? k).isNone = false ↔ ∃ o ∈ question.options, o.id = k := by
  simp [option?]

/-! ## Payloads that a question takes -/

/-- What the payload chooses and fills in is there, and it does so once. -/
def Takes (question : Question) : Payload → Prop
  | .singleChoice selected => ∃ o ∈ question.options, o.id = selected
  | .multipleChoice selected =>
    selected.Nodup ∧ ∀ k ∈ selected, ∃ o ∈ question.options, o.id = k
  | .shortAnswer _ => True
  | .essay _ => True
  | .fileUpload path _ => Text.isBlankText path = false
  | .fillBlankText blanks => (blanks.map (·.blankId)).Nodup
  | .fillBlankDropdown blanks =>
    (blanks.map (·.blankId)).Nodup ∧ ∀ b ∈ blanks, ∃ o ∈ question.options,
      o.id = b.selectedOptionId ∧ o.blankId = some b.blankId

theorem checkOptions_eq_ok_iff {seen ns : List Int} :
    Payload.checkOptions question seen ns = .ok () ↔
      (ns.Nodup ∧ ∀ k ∈ ns, k ∉ seen) ∧ ∀ k ∈ ns, ∃ o ∈ question.options, o.id = k := by
  induction ns generalizing seen with
  | nil => simp [Payload.checkOptions]
  | cons n rest ih =>
    unfold Payload.checkOptions
    split
    · rename_i hseen
      simp [hseen]
    · rename_i hnew
      split
      · rename_i hnone
        simp only [reduceCtorEq, false_iff, not_and]
        intro _ hall
        have := option?_isNone_eq_false_iff.2 (hall n List.mem_cons_self)
        simp [hnone] at this
      · rename_i hsome
        have hsome := option?_isNone_eq_false_iff.1 (Bool.eq_false_iff.2 hsome)
        rw [ih]
        simp only [List.nodup_cons, List.mem_cons, forall_eq_or_imp, not_or]
        constructor
        · rintro ⟨⟨hrest, hseen⟩, hall⟩
          exact ⟨⟨⟨fun hm => (hseen n hm).1 rfl, hrest⟩, hnew, fun k hk => (hseen k hk).2⟩,
            hsome, hall⟩
        · rintro ⟨⟨⟨hn, hrest⟩, -, hseen⟩, -, hall⟩
          exact ⟨⟨hrest, fun k hk => ⟨fun he => hn (he ▸ hk), hseen k hk⟩⟩, hall⟩

theorem checkBlanks_eq_ok_iff {blankIds : List Int} :
    Payload.checkBlanks blankIds = .ok () ↔ blankIds.Nodup := by
  have h := @Payload.firstRepeated_eq_none_iff [] blankIds
  unfold Payload.checkBlanks
  split <;> simp_all

theorem checkDropdown_eq_ok_iff (h : question.HasDistinctOptions) {b : DropdownBlank} :
    Payload.checkDropdown question b = .ok () ↔ ∃ o ∈ question.options,
      o.id = b.selectedOptionId ∧ o.blankId = some b.blankId := by
  unfold Payload.checkDropdown
  split
  · rename_i o hfind
    obtain ⟨ho, hid⟩ := (option?_eq_some_iff h).1 hfind
    split
    · rename_i hblank
      exact iff_of_true rfl ⟨o, ho, hid, hblank⟩
    · rename_i hblank
      refine iff_of_false nofun ?_
      rintro ⟨o', ho', hid', hblank'⟩
      obtain rfl := List.inj_on_of_nodup_map h ho ho' (hid.trans hid'.symm)
      exact hblank hblank'
  · rename_i hnone
    refine iff_of_false nofun ?_
    rintro ⟨o, ho, hid, -⟩
    rw [(option?_eq_some_iff h).2 ⟨ho, hid⟩] at hnone
    cases hnone

theorem forM_checkDropdown_eq_ok_iff (h : question.HasDistinctOptions) {blanks : List DropdownBlank} :
    blanks.forM (Payload.checkDropdown question) = .ok () ↔ ∀ b ∈ blanks, ∃ o ∈ question.options,
      o.id = b.selectedOptionId ∧ o.blankId = some b.blankId := by
  induction blanks with
  | nil => exact iff_of_true rfl (by simp)
  | cons b rest ih =>
    have hcons : (b :: rest).forM (Payload.checkDropdown question) =
        Payload.checkDropdown question b >>= fun _ => rest.forM (Payload.checkDropdown question) := rfl
    rw [hcons, bind_eq_ok_iff, List.forall_mem_cons, ← checkDropdown_eq_ok_iff h, ← ih]
    exact ⟨fun ⟨_, hb, hrest⟩ => ⟨hb, hrest⟩, fun ⟨hb, hrest⟩ => ⟨(), hb, hrest⟩⟩

/-- The check of a payload says whether it is of the question's type and the question takes it. -/
theorem check_eq_ok_iff (h : question.HasDistinctOptions) {payload : Payload} :
    payload.check question = .ok () ↔ payload.type = question.type ∧ question.Takes payload := by
  unfold Payload.check
  split
  · rename_i hne
    exact iff_of_false nofun fun hand => hne hand.1
  · rename_i heq
    rw [and_iff_right (Decidable.not_not.1 heq)]
    cases payload with
    | singleChoice selected =>
      rw [ite_error_eq_ok_iff, Bool.not_eq_true, option?_isNone_eq_false_iff, and_iff_left rfl, Takes]
    | multipleChoice selected => simp [Takes, checkOptions_eq_ok_iff]
    | shortAnswer text => exact iff_of_true rfl trivial
    | essay text => exact iff_of_true rfl trivial
    | fileUpload path name =>
      rw [ite_error_eq_ok_iff, Bool.not_eq_true, and_iff_left rfl, Takes]
    | fillBlankText blanks => exact checkBlanks_eq_ok_iff
    | fillBlankDropdown blanks =>
      rw [bind_eq_ok_iff, Takes, ← checkBlanks_eq_ok_iff, ← forM_checkDropdown_eq_ok_iff h]
      exact ⟨fun ⟨_, hb, hrest⟩ => ⟨hb, hrest⟩, fun ⟨hb, hrest⟩ => ⟨(), hb, hrest⟩⟩

/-! ## Payloads that are right -/

/-- A rule for the blank, or one for every blank, accepts the text in it. -/
def AcceptsBlank (question : Question) (b : TextBlank) : Prop :=
  ∃ rule ∈ question.rules, (rule.blankId = none ∨ rule.blankId = some b.blankId) ∧
    rule.accepts b.answer = true

/-- What makes a payload right, by the type of question that it answers. A payload that a person
judges is not right by itself. -/
def IsRight (question : Question) : Payload → Prop
  | .singleChoice selected => ∃ o ∈ question.options, o.id = selected ∧ o.isCorrect = true
  | .multipleChoice selected => ∀ o ∈ question.options, o.id ∈ selected ↔ o.isCorrect = true
  | .fillBlankDropdown blanks =>
    (∃ blankId, question.OffersBlank blankId) ∧
      ∀ blankId, question.OffersBlank blankId → ∃ b ∈ blanks, b.blankId = blankId ∧
        ∃ o ∈ question.options, o.id = b.selectedOptionId ∧ o.blankId = some blankId ∧
          o.isCorrect = true
  | .fillBlankText blanks =>
    (∃ rule, rule ∈ question.rules) ∧ (∃ b, b ∈ blanks) ∧
      ((∃ blankId, question.NamesBlank blankId) →
        ∀ blankId, (∃ b ∈ blanks, b.blankId = blankId) ↔ question.NamesBlank blankId) ∧
      ∀ b ∈ blanks, question.AcceptsBlank b
  | .shortAnswer _ => False
  | .essay _ => False
  | .fileUpload _ _ => False

theorem singleChoiceVerdict_eq_true_iff (h : question.HasDistinctOptions) {selected : Int} :
    question.singleChoiceVerdict selected = true ↔ question.IsRight (.singleChoice selected) := by
  rw [singleChoiceVerdict, Option.getD_eq_iff, IsRight]
  simp [option?_eq_some_iff h, and_assoc]

theorem multipleChoiceVerdict_eq_true_iff (h : question.HasDistinctOptions) {selected : List Int}
    (htakes : question.Takes (.multipleChoice selected)) :
    question.multipleChoiceVerdict selected = true ↔ question.IsRight (.multipleChoice selected) := by
  obtain ⟨hnodup, hoptions⟩ := htakes
  rw [multipleChoiceVerdict, decide_eq_true hnodup, Bool.true_and, beq_iff_eq, correctOptionIds,
    ascending_eq_iff, IsRight]
  simp only [List.mem_map, List.mem_filter]
  constructor
  · intro heq o ho
    rw [heq]
    constructor
    · rintro ⟨o', ⟨ho', hcorrect⟩, hid⟩
      rwa [List.inj_on_of_nodup_map h ho ho' hid.symm]
    · exact fun hcorrect => ⟨o, ⟨ho, hcorrect⟩, rfl⟩
  · intro hright k
    constructor
    · intro hk
      obtain ⟨o, ho, rfl⟩ := hoptions k hk
      exact ⟨o, ⟨ho, (hright o ho).1 hk⟩, rfl⟩
    · rintro ⟨o, ⟨ho, hcorrect⟩, rfl⟩
      exact (hright o ho).2 hcorrect

theorem isRightFor_eq_true_iff (h : question.HasDistinctOptions) {blankId optionId : Int} :
    question.isRightFor blankId optionId = true ↔ ∃ o ∈ question.options,
      o.id = optionId ∧ o.blankId = some blankId ∧ o.isCorrect = true := by
  have hany : question.isRightFor blankId optionId =
      (question.option? optionId).any fun o => o.isCorrect && o.blankId == some blankId := by
    unfold isRightFor
    cases question.option? optionId <;> rfl
  rw [hany, option?, any_find?_key_iff h]
  simp only [Bool.and_eq_true, beq_iff_eq, and_comm]

theorem dropdownVerdict_eq_true_iff (h : question.HasDistinctOptions) {blanks : List DropdownBlank}
    (htakes : question.Takes (.fillBlankDropdown blanks)) :
    question.dropdownVerdict blanks = true ↔ question.IsRight (.fillBlankDropdown blanks) := by
  obtain ⟨hnodup, hoptions⟩ := htakes
  -- An option that was chosen is one of its blank, so no blank is filled in that has no options.
  have hoffered : ((blanks.map (·.blankId)).all (question.optionBlankIds.contains ·)) = true := by
    simp only [List.all_eq_true, List.mem_map, List.contains_iff_mem, mem_optionBlankIds]
    rintro _ ⟨b, hb, rfl⟩
    obtain ⟨o, ho, -, hblank⟩ := hoptions b hb
    exact ⟨o, ho, hblank⟩
  have hsome : question.optionBlankIds.isEmpty = false ↔ ∃ blankId, question.OffersBlank blankId := by
    simp only [← mem_optionBlankIds, List.isEmpty_eq_false_iff_exists_mem]
  simp only [dropdownVerdict, IsRight, decide_eq_true hnodup, hoffered, Bool.and_true, Bool.and_eq_true,
    Bool.not_eq_true', hsome, List.all_eq_true, mem_optionBlankIds, ← isRightFor_eq_true_iff h]
  refine and_congr_right fun _ => forall₂_congr fun blankId _ => ?_
  refine Iff.trans ?_ (any_find?_key_iff hnodup blankId fun b =>
    question.isRightFor blankId b.selectedOptionId)
  cases blanks.find? (·.blankId == blankId) <;> rfl

/-- The blanks that have to be filled in: those that the rules name, or else those that are. -/
def requiredBlanks (question : Question) (blanks : List TextBlank) : List Int :=
  if question.ruleBlankIds.isEmpty then blanks.map (·.blankId) else question.ruleBlankIds

theorem blankTextVerdict_iff_of_nodup {blanks : List TextBlank}
    (hnodup : (blanks.map (·.blankId)).Nodup) :
    question.blankTextVerdict blanks = true ↔ (∃ rule, rule ∈ question.rules) ∧
      (∀ b ∈ blanks, b.blankId ∈ question.requiredBlanks blanks) ∧
      (∃ k, k ∈ question.requiredBlanks blanks) ∧
      ∀ k ∈ question.requiredBlanks blanks, ∃ b ∈ blanks, b.blankId = k ∧ question.AcceptsBlank b := by
  rw [blankTextVerdict, ← requiredBlanks]
  simp only [decide_eq_true hnodup, Bool.true_and, Bool.and_eq_true, Bool.not_eq_true',
    List.isEmpty_eq_false_iff_exists_mem, List.all_eq_true, List.contains_iff_mem, List.forall_mem_map,
    and_assoc]
  refine and_congr_right fun _ => and_congr_right fun _ => and_congr_right fun _ =>
    forall₂_congr fun k _ => ?_
  have haccepts : ∀ b : TextBlank, b.blankId = k → (question.AcceptsBlank b ↔
      (question.rules.any fun rule => rule.isFor k && rule.accepts b.answer) = true) := by
    rintro b rfl
    simp [AcceptsBlank, TextRule.isFor_eq_true_iff]
  refine Iff.trans ?_ ((any_find?_key_iff hnodup k fun b =>
    question.rules.any fun rule => rule.isFor k && rule.accepts b.answer).trans ?_)
  · cases blanks.find? (·.blankId == k) <;> rfl
  · exact exists_congr fun b => and_congr_right fun _ => and_congr_right fun hk => (haccepts b hk).symm

theorem blankTextVerdict_eq_true_iff {blanks : List TextBlank}
    (htakes : question.Takes (.fillBlankText blanks)) :
    question.blankTextVerdict blanks = true ↔ question.IsRight (.fillBlankText blanks) := by
  have hnodup : (blanks.map (·.blankId)).Nodup := htakes
  rw [blankTextVerdict_iff_of_nodup hnodup, IsRight, requiredBlanks]
  refine and_congr_right fun _ => ?_
  cases hnamed : question.ruleBlankIds.isEmpty with
  | true =>
    have hnone : ¬∃ k, question.NamesBlank k := by
      rintro ⟨k, hk⟩
      rw [← mem_ruleBlankIds, List.isEmpty_iff.1 hnamed] at hk
      cases hk
    rw [if_pos rfl]
    constructor
    · rintro ⟨-, ⟨k, hk⟩, hall⟩
      obtain ⟨b, hb, -⟩ := List.mem_map.1 hk
      refine ⟨⟨b, hb⟩, fun hsome => absurd hsome hnone, fun b hb => ?_⟩
      obtain ⟨b', hb', hid, haccepts⟩ := hall _ (List.mem_map_of_mem hb)
      rwa [List.inj_on_of_nodup_map hnodup hb hb' hid.symm]
    · rintro ⟨⟨b, hb⟩, -, hall⟩
      exact ⟨fun b hb => List.mem_map_of_mem hb, ⟨_, List.mem_map_of_mem hb⟩,
        List.forall_mem_map.2 fun b hb => ⟨b, hb, rfl, hall b hb⟩⟩
  | false =>
    have hsome : ∃ k, question.NamesBlank k := by
      simp only [← mem_ruleBlankIds, ← List.isEmpty_eq_false_iff_exists_mem, hnamed]
    simp only [Bool.false_eq_true, if_false, mem_ruleBlankIds]
    constructor
    · rintro ⟨hsub, ⟨k, hk⟩, hall⟩
      obtain ⟨b, hb, -⟩ := hall k hk
      refine ⟨⟨b, hb⟩, fun _ k => ⟨?_, fun hk => ?_⟩, fun b hb => ?_⟩
      · rintro ⟨b, hb, rfl⟩
        exact hsub b hb
      · obtain ⟨b, hb, hid, -⟩ := hall k hk
        exact ⟨b, hb, hid⟩
      · obtain ⟨b', hb', hid, haccepts⟩ := hall _ (hsub b hb)
        rwa [List.inj_on_of_nodup_map hnodup hb hb' hid.symm]
    · rintro ⟨-, hsame, hall⟩
      refine ⟨fun b hb => (hsame hsome _).1 ⟨b, hb, rfl⟩, hsome, fun k hk => ?_⟩
      obtain ⟨b, hb, rfl⟩ := (hsame hsome k).2 hk
      exact ⟨b, hb, rfl, hall b hb⟩

/-- A payload of the question's type that the question takes is judged right exactly when it is. -/
theorem verdict?_eq_true_iff (h : question.HasDistinctOptions) {payload : Payload}
    (htype : payload.type = question.type) (htakes : question.Takes payload) :
    question.verdict? payload = some true ↔ question.IsRight payload := by
  unfold verdict?
  rw [if_neg (not_not_intro htype)]
  cases payload with
  | singleChoice selected => rw [Option.some.injEq, singleChoiceVerdict_eq_true_iff h]
  | multipleChoice selected => rw [Option.some.injEq, multipleChoiceVerdict_eq_true_iff h htakes]
  | fillBlankText blanks => rw [Option.some.injEq, blankTextVerdict_eq_true_iff htakes]
  | fillBlankDropdown blanks => rw [Option.some.injEq, dropdownVerdict_eq_true_iff h htakes]
  | shortAnswer text => exact iff_of_false nofun nofun
  | essay text => exact iff_of_false nofun nofun
  | fileUpload path name => exact iff_of_false nofun nofun

theorem verdict?_eq_none_iff {payload : Payload} (htype : payload.type = question.type) :
    question.verdict? payload = none ↔
      question.type = .shortAnswer ∨ question.type = .essay ∨ question.type = .fileUpload := by
  rw [← Option.not_isSome_iff_eq_none, isSome_verdict?_iff htype]
  cases question.type <;> decide

/-! ## The order in which things stand -/

/-- The question has the type of the other one, and its options and its rules in some order. -/
structure IsReorderingOf (question other : Question) : Prop where
  type : question.type = other.type
  options : question.options.Perm other.options
  rules : question.rules.Perm other.rules

end Question

/-- Choices and blanks in another order. -/
inductive Payload.IsReorderingOf : Payload → Payload → Prop where
  | same (payload : Payload) : IsReorderingOf payload payload
  | choices {selected selected' : List Int} (h : selected.Perm selected') :
      IsReorderingOf (.multipleChoice selected) (.multipleChoice selected')
  | texts {blanks blanks' : List TextBlank} (h : blanks.Perm blanks') :
      IsReorderingOf (.fillBlankText blanks) (.fillBlankText blanks')
  | dropdowns {blanks blanks' : List DropdownBlank} (h : blanks.Perm blanks') :
      IsReorderingOf (.fillBlankDropdown blanks) (.fillBlankDropdown blanks')

theorem Payload.IsReorderingOf.type_eq {payload payload' : Payload}
    (h : payload.IsReorderingOf payload') : payload.type = payload'.type := by
  cases h <;> rfl

namespace Question

variable {question other : Question} {payload payload' : Payload}

theorem IsReorderingOf.takes_iff (h : question.IsReorderingOf other)
    (hp : payload.IsReorderingOf payload') : question.Takes payload ↔ other.Takes payload' := by
  cases hp with
  | same => cases payload <;> simp only [Takes, h.options.mem_iff]
  | choices hp => simp only [Takes, h.options.mem_iff, hp.mem_iff, hp.nodup_iff]
  | texts hp => exact (hp.map _).nodup_iff
  | dropdowns hp => simp only [Takes, h.options.mem_iff, hp.mem_iff, (hp.map _).nodup_iff]

theorem IsReorderingOf.isRight_iff (h : question.IsReorderingOf other)
    (hp : payload.IsReorderingOf payload') : question.IsRight payload ↔ other.IsRight payload' := by
  have hoffers : ∀ k, question.OffersBlank k ↔ other.OffersBlank k := fun k => by
    simp only [OffersBlank, h.options.mem_iff]
  have hnames : ∀ k, question.NamesBlank k ↔ other.NamesBlank k := fun k => by
    simp only [NamesBlank, h.rules.mem_iff]
  have haccepts : ∀ b, question.AcceptsBlank b ↔ other.AcceptsBlank b := fun b => by
    simp only [AcceptsBlank, h.rules.mem_iff]
  cases hp with
  | same => cases payload <;> simp only [IsRight, h.options.mem_iff, h.rules.mem_iff, hoffers, hnames, haccepts]
  | choices hp => simp only [IsRight, h.options.mem_iff, hp.mem_iff]
  | texts hp => simp only [IsRight, h.rules.mem_iff, hp.mem_iff, hnames, haccepts]
  | dropdowns hp => simp only [IsRight, h.options.mem_iff, hp.mem_iff, hoffers]

theorem IsReorderingOf.hasDistinctOptions_iff (h : question.IsReorderingOf other) :
    question.HasDistinctOptions ↔ other.HasDistinctOptions :=
  (h.options.map _).nodup_iff

/-- Of a payload that the question takes the verdict says whether it is right, and there is none
where a person judges. Another order of options, rules, choices and blanks does not change it. -/
theorem verdict_spec (h : question.HasDistinctOptions) (hcheck : payload.check question = .ok ()) :
    (question.verdict? payload = none ↔
      question.type = .shortAnswer ∨ question.type = .essay ∨ question.type = .fileUpload) ∧
    (question.verdict? payload = some true ↔ question.IsRight payload) ∧
    ∀ other payload', question.IsReorderingOf other → payload.IsReorderingOf payload' →
      payload'.check other = .ok () ∧ other.verdict? payload' = question.verdict? payload := by
  obtain ⟨htype, htakes⟩ := (check_eq_ok_iff h).1 hcheck
  refine ⟨verdict?_eq_none_iff htype, verdict?_eq_true_iff h htype htakes, fun other payload' hq hp => ?_⟩
  have h' : other.HasDistinctOptions := hq.hasDistinctOptions_iff.1 h
  have htype' : payload'.type = other.type := by rw [← hp.type_eq, htype, hq.type]
  have htakes' : other.Takes payload' := (hq.takes_iff hp).1 htakes
  refine ⟨(check_eq_ok_iff h').2 ⟨htype', htakes'⟩, ?_⟩
  have hnone : other.verdict? payload' = none ↔ question.verdict? payload = none := by
    rw [verdict?_eq_none_iff htype', verdict?_eq_none_iff htype, hq.type]
  have htrue : other.verdict? payload' = some true ↔ question.verdict? payload = some true := by
    rw [verdict?_eq_true_iff h' htype' htakes', verdict?_eq_true_iff h htype htakes,
      hq.isRight_iff hp]
  rcases hother : other.verdict? payload' with _ | _ | _ <;>
    rcases hthis : question.verdict? payload with _ | _ | _ <;> simp_all

end Question

/-! ## Two capitals -/

namespace Sample

/-- A question with two blanks and two options for each of them. -/
def capitals : Question where
  id := 3
  quizId := 1
  type := .fillBlankDropdown
  text := "[1] is in France, [2] in Italy."
  points := .zero
  orderIndex := 3
  options := [⟨1, 3, "Paris", true, 1, some 1⟩, ⟨2, 3, "Lyon", false, 2, some 1⟩,
    ⟨3, 3, "Milan", false, 3, some 2⟩, ⟨4, 3, "Rome", true, 4, some 2⟩]
  rules := []

end Sample

/-- Both blanks have their capital, in either order. -/
theorem Question.verdict_spec_capitals :
    Sample.capitals.HasDistinctOptions ∧
      Payload.check Sample.capitals (.fillBlankDropdown [⟨1, 1⟩, ⟨2, 4⟩]) = .ok () ∧
      Sample.capitals.IsRight (.fillBlankDropdown [⟨1, 1⟩, ⟨2, 4⟩]) ∧
      Sample.capitals.verdict? (.fillBlankDropdown [⟨2, 4⟩, ⟨1, 1⟩]) = some true := by
  have hoptions : Sample.capitals.HasDistinctOptions := by decide
  have hcheck : Payload.check Sample.capitals (.fillBlankDropdown [⟨1, 1⟩, ⟨2, 4⟩]) = .ok () := by
    decide
  have hverdict : Sample.capitals.verdict? (.fillBlankDropdown [⟨1, 1⟩, ⟨2, 4⟩]) = some true := by
    decide
  obtain ⟨-, hright, horder⟩ := verdict_spec hoptions hcheck
  refine ⟨hoptions, hcheck, hright.1 hverdict, ?_⟩
  rw [← hverdict]
  exact (horder _ _ ⟨rfl, .refl _, .refl _⟩ (.dropdowns (.swap _ _ _))).2

end QuizEngine
