import QuizEngine.Proofs.Guards

/-!
# Reading back what was written

A payload is written with the name of its type and read with or without it. Every payload
whose numbers have their width (`Payload.InRange`) is read back from what is written of it,
and whatever is read is such a payload, of the type of the question (`Payload.isCodec_parse`).

A record reader reads its own fields and passes over the others, so what it makes of an object
depends on the values under its own names alone (`RecordReader.ReadsOnly`); and what it reads
has every property that the readers of its single fields bring with them
(`RecordReader.Yields`), also where a record inside a list is written as a list.
-/

namespace QuizEngine

namespace Wire

variable {α β : Type}

/-! ## Single values and lists -/

/-- Whether a number has the width of its kind. -/
def IntegerKind.Has (kind : IntegerKind) (n : Int) : Prop := kind.least ≤ n ∧ n ≤ kind.greatest

theorem integerOf_eq_ok_iff {kind : IntegerKind} {v : Json} {n : Int} :
    integerOf kind v = .ok n ↔ v = .integer n ∧ kind.Has n := by
  unfold integerOf IntegerKind.Has
  split
  · rw [ite_eq_iff, Json.integer.injEq]
    simp only [Except.ok.injEq, reduceCtorEq, and_false, or_false]
    exact ⟨fun ⟨hm, heq⟩ => ⟨heq, heq ▸ hm⟩, fun ⟨heq, hn⟩ => ⟨heq ▸ hn, heq⟩⟩
  · simp_all

theorem list_eq_ok_iff {read : Reader α} {v : Json} {xs : List α} :
    list read v = .ok xs ↔
      ∃ items, v = .array items ∧ List.Forall₂ (fun item x => read item = .ok x) items xs := by
  unfold list
  split
  · simp [mapM_eq_ok_iff]
  · simp_all

/-- What holds of every element that can be read holds of a list of them. -/
theorem forall_of_list_eq_ok {read : Reader α} {P : α → Prop}
    (hread : ∀ v a, read v = .ok a → P a) {v : Json} {xs : List α} (h : list read v = .ok xs) :
    ∀ x ∈ xs, P x := by
  obtain ⟨items, -, hitems⟩ := list_eq_ok_iff.1 h
  clear h
  induction hitems with
  | nil => simp
  | cons hx _ ih => exact List.forall_mem_cons.2 ⟨hread _ _ hx, ih⟩

/-- A list is read back when each of its elements is. -/
theorem list_map_eq_ok_iff {read : Reader α} {write : α → Json} {xs : List α} :
    list read (.array (xs.map write)) = .ok xs ↔ ∀ x ∈ xs, read (write x) = .ok x := by
  rw [list, mapM_eq_ok_iff, List.forall₂_map_left_iff, List.forall₂_same]

namespace RecordReader

variable {r : RecordReader α} {f : RecordReader (α → β)} {P : α → Prop} {Q : β → Prop}
  {names others : List String}

theorem ofFields_map (g : α → β) (r : RecordReader α) (fields : List (String × Json)) :
    (g <$> r).ofFields fields = (r.ofFields fields).map g := by
  change (seq (pure g) r).ofFields fields = _
  simp only [seq, pure]
  cases r.ofFields fields <;> rfl

theorem ofFields_seq_of_ok {fields : List (String × Json)} {g : α → β} {a : α}
    (hf : f.ofFields fields = .ok g) (hr : r.ofFields fields = .ok a) :
    (f <*> r).ofFields fields = .ok (g a) := by
  change (seq f r).ofFields fields = _
  simp only [seq, hf, hr]

theorem ofFields_fieldOr_of_lookup {absent cut : Option α} {name : String} {read : Reader α}
    {fields : List (String × Json)} {v : Json} {a : α} (hv : Json.lookup fields name = some v)
    (ha : read v = .ok a) : (fieldOr absent cut name read).ofFields fields = .ok a := by
  simp only [fieldOr, hv, ha]
  rfl

theorem ofFields_map_of_lookup {absent cut : Option α} {name : String} {read : Reader α}
    {fields : List (String × Json)} {v : Json} {a : α} (g : α → β)
    (hv : Json.lookup fields name = some v) (ha : read v = .ok a) :
    (g <$> fieldOr absent cut name read).ofFields fields = .ok (g a) := by
  rw [ofFields_map, ofFields_fieldOr_of_lookup hv ha]
  rfl

theorem readFields_eq_ok_iff {fields : List (String × Json)} {a : α} :
    r.readFields fields = .ok a ↔ r.ofFields fields = .ok a := mapError_eq_ok_iff

/-! ## What a record reader reads -/

/-- A property of everything that can be read, from an object or from a list. -/
structure Yields (r : RecordReader α) (P : α → Prop) : Prop where
  ofFields : ∀ {fields a}, r.ofFields fields = .ok a → P a
  ofItems : ∀ {index items a rest}, r.ofItems index items = .ok (a, rest) → P a

theorem yields_pure {a : α} (h : P a) : (pure a : RecordReader α).Yields P where
  ofFields := fun heq => Except.ok.inj heq ▸ h
  ofItems := fun heq => (Prod.mk.inj (Except.ok.inj heq)).1 ▸ h

theorem yields_fieldOr {absent cut : Option α} {name : String} {read : Reader α}
    (habsent : ∀ a ∈ absent, P a) (hcut : ∀ a ∈ cut, P a)
    (hread : ∀ v a, read v = .ok a → P a) : (fieldOr absent cut name read).Yields P where
  ofFields := by
    intro fields a h
    simp only [fieldOr] at h
    split at h
    · exact hread _ _ (mapError_eq_ok_iff.1 h)
    · split at h
      · exact habsent a (by simpa using h)
      · cases h
  ofItems := by
    intro index items a rest h
    simp only [fieldOr] at h
    split at h
    · rename_i v _
      cases hv : read v <;> simp [hv, Except.mapError, Except.map] at h
      exact hread v a (h.1 ▸ hv)
    · split at h
      · exact hcut a (by simpa using (Prod.mk.inj (Except.ok.inj h)).1)
      · cases h

theorem yields_field {name : String} {read : Reader α} (hread : ∀ v a, read v = .ok a → P a) :
    (field name read).Yields P :=
  yields_fieldOr (by simp) (by simp) hread

theorem yields_true (r : RecordReader α) : r.Yields fun _ => True where
  ofFields := fun _ => trivial
  ofItems := fun _ => trivial

namespace Yields

theorem seq (hf : f.Yields fun g => ∀ a, P a → Q (g a)) (hr : r.Yields P) : (f <*> r).Yields Q where
  ofFields := by
    intro fields b h
    change (RecordReader.seq f r).ofFields fields = _ at h
    simp only [RecordReader.seq] at h
    split at h <;> simp at h
    rename_i hg ha
    exact h ▸ hf.ofFields hg _ (hr.ofFields ha)
  ofItems := by
    intro index items b rest h
    change (RecordReader.seq f r).ofItems index items = _ at h
    simp only [RecordReader.seq, bind_eq_ok_iff, pure, Except.pure, Except.ok.injEq,
      Prod.mk.injEq] at h
    obtain ⟨⟨g, others⟩, hg, ⟨a, last⟩, ha, rfl, -⟩ := h
    exact hf.ofItems hg a (hr.ofItems ha)

theorem map (hr : r.Yields P) {g : α → β} (hg : ∀ a, P a → Q (g a)) : (g <$> r).Yields Q :=
  seq (yields_pure hg) hr

theorem readFields (hr : r.Yields P) {fields : List (String × Json)} {a : α}
    (h : r.readFields fields = .ok a) : P a :=
  hr.ofFields (readFields_eq_ok_iff.1 h)

theorem readItems (hr : r.Yields P) {name tooLong : String} {items : List Json} {a : α}
    (h : r.readItems name tooLong items = .ok a) : P a := by
  unfold RecordReader.readItems at h
  split at h <;> simp at h
  rename_i ha
  exact hr.ofItems (h ▸ ha)

theorem innerRecord (hr : r.Yields P) {name : String} {v : Json} {a : α}
    (h : r.innerRecord name v = .ok a) : P a := by
  unfold RecordReader.innerRecord at h
  split at h
  · exact hr.readFields h
  · exact hr.readItems h
  · cases h

end Yields

/-! ## What a record reader passes over -/

/-- What is read from an object depends on the values under the names alone. -/
def ReadsOnly (names : List String) (r : RecordReader α) : Prop :=
  ∀ ⦃fields fields' : List (String × Json)⦄,
    (∀ name ∈ names, Json.lookup fields name = Json.lookup fields' name) →
      r.ofFields fields = r.ofFields fields'

theorem readsOnly_fieldOr (absent cut : Option α) (name : String) (read : Reader α) :
    (fieldOr absent cut name read).ReadsOnly [name] := by
  intro fields fields' h
  simp only [fieldOr, h name (List.mem_singleton_self name)]

theorem ReadsOnly.map (hr : r.ReadsOnly names) (g : α → β) : (g <$> r).ReadsOnly names := by
  intro fields fields' h
  rw [ofFields_map, ofFields_map, hr h]

theorem ReadsOnly.seq (hf : f.ReadsOnly names) (hr : r.ReadsOnly others) :
    (f <*> r).ReadsOnly (names ++ others) := by
  intro fields fields' h
  rw [List.forall_mem_append] at h
  change (RecordReader.seq f r).ofFields fields = (RecordReader.seq f r).ofFields fields'
  simp only [RecordReader.seq, hf h.1, hr h.2]

theorem ReadsOnly.readFields_eq (hr : r.ReadsOnly names) {fields fields' : List (String × Json)}
    (h : ∀ name ∈ names, Json.lookup fields name = Json.lookup fields' name) :
    r.readFields fields = r.readFields fields' := by
  rw [readFields, readFields, hr h]

end RecordReader

end Wire

open Wire RecordReader

/-! ## Blanks -/

/-- A blank with a number of its width. -/
def TextBlank.InRange (b : TextBlank) : Prop := IntegerKind.short.Has b.blankId

/-- A blank and an option with numbers of their widths. -/
def DropdownBlank.InRange (b : DropdownBlank) : Prop :=
  IntegerKind.short.Has b.blankId ∧ IntegerKind.long.Has b.selectedOptionId

theorem TextBlank.inRange_of_ofJson {v : Json} {b : TextBlank} (h : ofJson v = .ok b) : b.InRange :=
  (((yields_field fun _ _ h => (integerOf_eq_ok_iff.1 h).2).map
    fun _ hn _ _ => hn).seq (yields_true _)).innerRecord h

theorem DropdownBlank.inRange_of_ofJson {v : Json} {b : DropdownBlank} (h : ofJson v = .ok b) :
    b.InRange :=
  (((yields_field fun _ _ h => (integerOf_eq_ok_iff.1 h).2).map fun _ hn _ hm => ⟨hn, hm⟩).seq
    (yields_field fun _ _ h => (integerOf_eq_ok_iff.1 h).2)).innerRecord h

theorem TextBlank.ofJson_toJson {b : TextBlank} (h : b.InRange) : ofJson b.toJson = .ok b := by
  refine readFields_eq_ok_iff.2 (ofFields_seq_of_ok (g := TextBlank.mk b.blankId) ?_ ?_)
  · exact ofFields_map_of_lookup TextBlank.mk rfl (integerOf_eq_ok_iff.2 ⟨rfl, h⟩)
  · exact ofFields_fieldOr_of_lookup rfl rfl

theorem DropdownBlank.ofJson_toJson {b : DropdownBlank} (h : b.InRange) :
    ofJson b.toJson = .ok b := by
  refine readFields_eq_ok_iff.2 (ofFields_seq_of_ok (g := DropdownBlank.mk b.blankId) ?_ ?_)
  · exact ofFields_map_of_lookup DropdownBlank.mk rfl (integerOf_eq_ok_iff.2 ⟨rfl, h.1⟩)
  · exact ofFields_fieldOr_of_lookup rfl (integerOf_eq_ok_iff.2 ⟨rfl, h.2⟩)

/-! ## Bodies -/

/-- The fields that a payload of that type has. -/
def QuestionType.fieldNames : QuestionType → List String
  | .singleChoice => ["selected_option_id"]
  | .multipleChoice => ["selected_option_ids"]
  | .shortAnswer => ["answer_text"]
  | .essay => ["answer_text"]
  | .fileUpload => ["file_path", "file_name"]
  | .fillBlankText => ["blanks"]
  | .fillBlankDropdown => ["blanks"]

theorem QuestionType.type_notMem_fieldNames (t : QuestionType) : "type" ∉ t.fieldNames := by
  cases t <;> decide

namespace Payload

variable {t : QuestionType} {p : Payload} {raw v : Json} {fields fields' : List (String × Json)}

/-- A payload with numbers of their widths. -/
def InRange : Payload → Prop
  | .singleChoice n => IntegerKind.long.Has n
  | .multipleChoice ns => ∀ n ∈ ns, IntegerKind.long.Has n
  | .shortAnswer _ => True
  | .essay _ => True
  | .fileUpload _ _ => True
  | .fillBlankText blanks => ∀ b ∈ blanks, b.InRange
  | .fillBlankDropdown blanks => ∀ b ∈ blanks, b.InRange

/-- The fields that are written are those that are read. -/
theorem map_fst_bodyFields (p : Payload) : p.bodyFields.map Prod.fst = p.type.fieldNames := by
  cases p <;> rfl

/-- A reader of fields of a type reads payloads of that type, with numbers of their widths. -/
theorem yields_bodyReader (t : QuestionType) :
    (bodyReader t).Yields fun p => p.type = t ∧ p.InRange := by
  have hlong : ∀ v n, long v = .ok n → IntegerKind.long.Has n :=
    fun _ _ h => (integerOf_eq_ok_iff.1 h).2
  cases t with
  | singleChoice => exact (yields_field hlong).map fun _ h => ⟨rfl, h⟩
  | multipleChoice =>
    exact (yields_field fun _ _ => forall_of_list_eq_ok hlong).map fun _ h => ⟨rfl, h⟩
  | shortAnswer => exact (yields_true _).map fun _ _ => ⟨rfl, trivial⟩
  | essay => exact (yields_true _).map fun _ _ => ⟨rfl, trivial⟩
  | fileUpload => exact ((yields_true _).map fun _ _ _ _ => ⟨rfl, trivial⟩).seq (yields_true _)
  | fillBlankText =>
    exact (yields_field fun _ _ =>
      forall_of_list_eq_ok fun _ _ => TextBlank.inRange_of_ofJson).map fun _ h => ⟨rfl, h⟩
  | fillBlankDropdown =>
    exact (yields_field fun _ _ =>
      forall_of_list_eq_ok fun _ _ => DropdownBlank.inRange_of_ofJson).map fun _ h => ⟨rfl, h⟩

/-- It reads no other fields than those of the type. -/
theorem readsOnly_bodyReader (t : QuestionType) : (bodyReader t).ReadsOnly t.fieldNames := by
  have hfield {α : Type} (name : String) (read : Reader α) : (field name read).ReadsOnly [name] :=
    readsOnly_fieldOr none none name read
  cases t with
  | fileUpload => exact ((hfield _ _).map _).seq (readsOnly_fieldOr _ _ _ _)
  | _ => exact (hfield _ _).map _

/-- Its own fields are read back. -/
theorem readFields_bodyFields (h : p.InRange) :
    (bodyReader p.type).readFields p.bodyFields = .ok p := by
  have hone {α : Type} {g : α → Payload} {name : String} {read : Reader α} {v : Json} {a : α}
      (ha : read v = .ok a) : (g <$> field name read).ofFields [(name, v)] = .ok (g a) :=
    ofFields_map_of_lookup _ (by simp [Json.lookup]) ha
  rw [readFields_eq_ok_iff]
  cases p with
  | singleChoice n => exact hone (integerOf_eq_ok_iff.2 ⟨rfl, h⟩)
  | multipleChoice ns =>
    exact hone (list_map_eq_ok_iff.2 fun n hn => integerOf_eq_ok_iff.2 ⟨rfl, h n hn⟩)
  | shortAnswer s => exact hone rfl
  | essay s => exact hone rfl
  | fileUpload path name =>
    refine ofFields_seq_of_ok (ofFields_map_of_lookup Payload.fileUpload rfl rfl) ?_
    cases name <;> exact ofFields_fieldOr_of_lookup rfl rfl
  | fillBlankText blanks =>
    exact hone (list_map_eq_ok_iff.2 fun b hb => TextBlank.ofJson_toJson (h b hb))
  | fillBlankDropdown blanks =>
    exact hone (list_map_eq_ok_iff.2 fun b hb => DropdownBlank.ofJson_toJson (h b hb))

/-! ## What students send -/

/-- Two objects with the same fields of a type. That the type is not named is as if the right
one was named, and other fields do not matter. -/
structure SameContent (t : QuestionType) (fields fields' : List (String × Json)) : Prop where
  tag : (Json.lookup fields "type").getD t.toJson = (Json.lookup fields' "type").getD t.toJson
  known : ∀ name ∈ t.fieldNames, Json.lookup fields name = Json.lookup fields' name

/-- The right type may be added. -/
theorem sameContent_insertField_type (h : (Json.lookup fields "type").getD t.toJson = t.toJson) :
    SameContent t (Json.insertField "type" t.toJson fields) fields where
  tag := by rw [Json.lookup_insertField, Option.getD_some, h]
  known := fun _ hknown =>
    Json.lookup_insertField_of_ne (ne_of_mem_of_not_mem hknown t.type_notMem_fieldNames) _ fields

theorem isTag_iff : t.isTag v = true ↔ v = t.toJson := by
  unfold QuestionType.isTag QuestionType.toJson
  split <;> simp_all

/-- An object is read by its fields when it names the right type or none, and refused
otherwise. -/
theorem parse_object (t : QuestionType) (fields : List (String × Json)) :
    parse t (.object fields) =
      if t.isTag ((Json.lookup fields "type").getD t.toJson) then
        ((bodyReader t).readFields fields).mapError (.unreadable t)
      else .error (.otherTag ((Json.lookup fields "type").getD t.toJson) t) := by
  have hown : t.isTag t.toJson = true := isTag_iff.2 rfl
  simp only [parse]
  cases Json.lookup fields "type" <;> simp [hown]

theorem SameContent.parse_eq (h : SameContent t fields fields') :
    parse t (.object fields) = parse t (.object fields') := by
  rw [parse_object, parse_object, h.tag, (readsOnly_bodyReader t).readFields_eq h.known]

theorem parse_eq_ok_iff : parse t raw = .ok p ↔ ∃ fields, raw = .object fields ∧
    (Json.lookup fields "type").getD t.toJson = t.toJson ∧
    (bodyReader t).readFields fields = .ok p := by
  cases raw with
  | object fields =>
    rw [parse_object]
    simp only [Json.object.injEq, exists_eq_left', ← isTag_iff]
    split
    · rename_i htag
      simp only [htag, true_and, mapError_eq_ok_iff]
    · rename_i htag
      simp [htag]
  | _ => simp [parse]

/-- A payload is read back from what is written of it when its numbers have their widths. -/
theorem parse_toJson (h : p.InRange) : parse p.type p.toJson = .ok p := by
  have hbody : (bodyReader p.type).readFields (("type", p.type.toJson) :: p.bodyFields) =
      (bodyReader p.type).readFields p.bodyFields :=
    (readsOnly_bodyReader p.type).readFields_eq fun name hname => by
      have hne : name ≠ "type" := ne_of_mem_of_not_mem hname p.type.type_notMem_fieldNames
      rw [Json.lookup, List.find?_cons_of_neg (by simpa using hne.symm), Json.lookup]
  exact parse_eq_ok_iff.2 ⟨_, rfl, by simp [Json.lookup], hbody.trans (readFields_bodyFields h)⟩

/-- What is read is of the type, and its numbers have their widths. -/
theorem type_and_inRange_of_parse (h : parse t raw = .ok p) : p.type = t ∧ p.InRange := by
  obtain ⟨fields, -, -, hread⟩ := parse_eq_ok_iff.1 h
  exact (yields_bodyReader t).readFields hread

/-! ## Payloads that name their type -/

theorem tag_toJson (t : QuestionType) : tag t.toJson = .ok t := by
  cases t <;> rfl

/-- What students send is read as a payload that names the right type. -/
theorem parse_eq_ofJson (h : (Json.lookup fields "type").getD t.toJson = t.toJson) :
    parse t (.object fields) =
      (ofJson (.object (Json.insertField "type" t.toJson fields))).mapError (.unreadable t) := by
  rw [← (sameContent_insertField_type h).parse_eq, parse_object]
  simp [ofJson, isTag_iff, tag_toJson, bind, Except.bind]

/-- A stored payload is read back. -/
theorem ofJson_toJson (h : p.InRange) : ofJson p.toJson = .ok p := by
  have hparse := parse_toJson h
  rw [toJson, parse_eq_ofJson (by simp [Json.lookup]), mapError_eq_ok_iff] at hparse
  simpa [toJson, Json.insertField] using hparse

/-! ## Reading and writing -/

/-- How what students send is read for a question of that type. -/
structure IsCodec (t : QuestionType) : Prop where
  /-- A payload of the type is read back from what is written of it, unless a number in it does
  not have its width. -/
  readsBack : ∀ p : Payload, p.type = t → (parse t p.toJson = .ok p ↔ p.InRange)
  /-- Whatever is read is a payload of the type, and read back from what is written of it. -/
  ofType : ∀ raw p, parse t raw = .ok p →
    p.type = t ∧ p.InRange ∧ parse t p.toJson = .ok p
  /-- It makes no difference whether the right type is named, nor which fields there are that the
  type does not know, and not even for what is reported. -/
  passesOver : ∀ fields fields', SameContent t fields fields' →
    parse t (.object fields) = parse t (.object fields')
  /-- What is no object is refused. -/
  notObject : ∀ raw, (∀ fields, raw ≠ .object fields) → parse t raw = .error .notObject
  /-- What names anything else as its type is refused. -/
  otherTag : ∀ fields v, Json.lookup fields "type" = some v → v ≠ .text t.name →
    parse t (.object fields) = .error (.otherTag v t)
  /-- Whatever is refused is refused to the student as a malformed answer. -/
  malformed : ∀ question : Question, question.type = t → ∀ raw cause,
    parse t raw = .error cause → question.accept raw = .error (.malformedAnswer cause.message)

theorem isCodec_parse (t : QuestionType) : IsCodec t where
  readsBack := by
    rintro p rfl
    exact ⟨fun h => (type_and_inRange_of_parse h).2, parse_toJson⟩
  ofType := by
    intro raw p h
    obtain ⟨rfl, hrange⟩ := type_and_inRange_of_parse h
    exact ⟨rfl, hrange, parse_toJson hrange⟩
  passesOver := fun _ _ => SameContent.parse_eq
  notObject := by
    intro raw hraw
    unfold parse
    split
    · rename_i fields
      exact absurd rfl (hraw fields)
    · rfl
  otherTag := by
    intro fields v hv hne
    rw [parse_object, hv, Option.getD_some, if_neg]
    exact fun htag => hne (isTag_iff.1 htag)
  malformed := by
    rintro question rfl raw cause h
    rw [Question.accept, h]

end Payload

end QuizEngine
