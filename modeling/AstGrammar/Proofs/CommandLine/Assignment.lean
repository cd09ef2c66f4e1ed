import AstGrammar.CommandLine.Assignment

/-!
# Writing and reading assignments

An assignment is read from its own text when its parts can be told apart in it: no point in
the name of the entry, no equals sign in either name, and no colon in front of the one that
ends a kind.  No other assignment is read from any text, and each text that is read is the
text of what it is read as.
-/

namespace AstGrammar.Assignment

/-- An argument with a text that says what it is: a label without a colon, or a label in a kind
without a colon that is named the canonical way. -/
inductive HasText : Argument → Prop
  | label {name : String} (nonempty : name ≠ "") (plain : ':' ∉ name.toList) :
      HasText (.label name)
  | nested {kind : TypeKind} {name : String} (canonical : kind.IsCanonical)
      (kind_nonempty : kind.name ≠ "") (kind_plain : ':' ∉ kind.name.toList)
      (nonempty : name ≠ "") : HasText (.nested (.mk kind (.label name)))

/-- An assignment whose parts can be told apart in its text. -/
structure IsWritable (assignment : Assignment) : Prop where
  entry_nonempty : assignment.entry ≠ ""
  entry_plain : '.' ∉ assignment.entry.toList ∧ '=' ∉ assignment.entry.toList
  field_nonempty : assignment.field ≠ ""
  field_plain : '=' ∉ assignment.field.toList
  argument : HasText assignment.argument

theorem toList_text (assignment : Assignment) :
    assignment.text.toList =
      assignment.entry.toList ++ '.' :: assignment.field.toList ++
        '=' :: (valueText assignment.argument).toList := by
  simp [text, toString]

theorem toList_valueText_nested (kind : TypeKind) (name : String) :
    (valueText (.nested (.mk kind (.label name)))).toList =
      kind.name.toList ++ ':' :: name.toList := by
  simp [valueText, toString]

section Values

variable {text : String} {value : List Char} {argument : Argument}

/-- A value without a colon is a label, and any other one is split at its first colon. -/
theorem parseValue_eq_ok_iff_parts :
    parseValue text value = .ok argument ↔
      (':' ∉ value ∧ value ≠ [] ∧ argument = .label (String.ofList value)) ∨
      ∃ kind label, value = kind ++ ':' :: label ∧ ':' ∉ kind ∧ kind ≠ [] ∧ label ≠ [] ∧
        argument = .nested (.labelled (.ofName (String.ofList kind)) (String.ofList label)) := by
  rw [parseValue]
  cases split : Text.splitOnce ':' value with
  | none =>
      have plain := Text.splitOnce_eq_none_iff.1 split
      rw [or_iff_left]
      · cases value with
        | nil => simp
        | cons first rest => simp [plain, eq_comm]
      · rintro ⟨kind, label, rfl, -⟩
        exact plain (by simp)
  | some parts =>
      obtain ⟨kind, label⟩ := parts
      obtain ⟨rfl, plain⟩ := Text.splitOnce_eq_some_iff.1 split
      rw [or_iff_right fun ⟨absent, _⟩ => absent (by simp)]
      constructor
      · intro parsed
        dsimp only at parsed
        split at parsed
        · cases parsed
        · next present =>
            simp only [Bool.or_eq_true, List.isEmpty_iff, not_or] at present
            exact ⟨kind, label, rfl, plain, present.1, present.2, (Except.ok.inj parsed).symm⟩
      · rintro ⟨other, others, cut, otherPlain, kindNonempty, nonempty, rfl⟩
        have same := Text.splitOnce_eq_some_iff.2 ⟨cut, otherPlain⟩
        rw [split] at same
        cases same
        simp [kindNonempty, nonempty]

/-- Values are read from the texts of the arguments that have one. -/
theorem parseValue_eq_ok_iff :
    parseValue text value = .ok argument ↔
      HasText argument ∧ (valueText argument).toList = value := by
  rw [parseValue_eq_ok_iff_parts]
  constructor
  · rintro (⟨plain, nonempty, rfl⟩ | ⟨kind, label, rfl, plain, kindNonempty, nonempty, rfl⟩)
    · refine ⟨.label ?_ ?_, String.toList_ofList⟩
      · rwa [Ne, String.ofList_eq_empty_iff]
      · rwa [String.toList_ofList]
    · have named := TypeKind.name_ofName (String.ofList kind)
      refine ⟨.nested (TypeKind.ofName_canonical _) ?_ ?_ ?_, ?_⟩
      · rwa [named, Ne, String.ofList_eq_empty_iff]
      · rwa [named, String.toList_ofList]
      · rwa [Ne, String.ofList_eq_empty_iff]
      · rw [TypeExpression.labelled, toList_valueText_nested, named, String.toList_ofList,
          String.toList_ofList]
  · rintro ⟨hasText, rfl⟩
    cases hasText with
    | label nonempty plain =>
        refine .inl ⟨plain, ?_, by rw [valueText, String.ofList_toList]⟩
        rwa [Ne, String.toList_eq_nil_iff]
    | @nested kind name canonical kindNonempty plain nonempty =>
        refine .inr ⟨kind.name.toList, name.toList, toList_valueText_nested kind name, plain,
          ?_, ?_, ?_⟩
        · rwa [Ne, String.toList_eq_nil_iff]
        · rwa [Ne, String.toList_eq_nil_iff]
        · rw [String.ofList_toList, String.ofList_toList, TypeKind.ofName_name canonical]
          rfl

end Values

/-- A text is split at its first equals sign, and what is in front at its first point. -/
theorem parse_eq_ok_iff_parts {text : String} {assignment : Assignment} :
    parse text = .ok assignment ↔
      ∃ entry field value, text.toList = entry ++ '.' :: field ++ '=' :: value ∧
        '=' ∉ entry ++ '.' :: field ∧ '.' ∉ entry ∧ entry ≠ [] ∧ field ≠ [] ∧
        parseValue text value = .ok assignment.argument ∧
        assignment.entry = String.ofList entry ∧ assignment.field = String.ofList field := by
  rw [parse]
  constructor
  · intro parsed
    split at parsed
    · cases parsed
    · next target value targetSplit =>
      split at parsed
      · cases parsed
      · next entry field entrySplit =>
        obtain ⟨textEq, noEquals⟩ := Text.splitOnce_eq_some_iff.1 targetSplit
        obtain ⟨rfl, noPoint⟩ := Text.splitOnce_eq_some_iff.1 entrySplit
        split at parsed
        · cases parsed
        · next named =>
          simp only [Bool.or_eq_true, List.isEmpty_iff, not_or] at named
          split at parsed
          · cases parsed
          · next argument valueParsed =>
            rw [← Except.ok.inj parsed]
            exact ⟨entry, field, value, textEq, noEquals, noPoint, named.1, named.2, valueParsed,
              rfl, rfl⟩
  · rintro ⟨entry, field, value, textEq, noEquals, noPoint, entryNonempty, fieldNonempty, parsed,
      entryEq, fieldEq⟩
    rw [Text.splitOnce_eq_some_iff.2 ⟨textEq, noEquals⟩]
    dsimp only
    rw [Text.splitOnce_eq_some_iff.2 ⟨rfl, noPoint⟩]
    simp [entryNonempty, fieldNonempty, parsed, ← entryEq, ← fieldEq]

/-- Reading and writing are inverse to each other between the texts that are read and the
assignments that can be written. -/
theorem parse_eq_ok_iff_isWritable (text : String) (assignment : Assignment) :
    parse text = .ok assignment ↔ assignment.IsWritable ∧ assignment.text = text := by
  simp only [parse_eq_ok_iff_parts, parseValue_eq_ok_iff]
  constructor
  · rintro ⟨entry, field, value, textEq, noEquals, noPoint, entryNonempty, fieldNonempty,
      ⟨hasText, rfl⟩, entryEq, fieldEq⟩
    have entryList : assignment.entry.toList = entry := by rw [entryEq, String.toList_ofList]
    have fieldList : assignment.field.toList = field := by rw [fieldEq, String.toList_ofList]
    simp only [List.mem_append, List.mem_cons, not_or] at noEquals
    refine ⟨⟨?_, ?_, ?_, ?_, hasText⟩, ?_⟩
    · rwa [entryEq, Ne, String.ofList_eq_empty_iff]
    · rw [entryList]
      exact ⟨noPoint, noEquals.1⟩
    · rwa [fieldEq, Ne, String.ofList_eq_empty_iff]
    · rw [fieldList]
      exact noEquals.2.2
    · rw [← String.toList_inj, toList_text, textEq, entryList, fieldList]
  · rintro ⟨writable, rfl⟩
    obtain ⟨entryNonempty, ⟨noPoint, entryPlain⟩, fieldNonempty, fieldPlain, hasText⟩ := writable
    refine ⟨assignment.entry.toList, assignment.field.toList, _, toList_text assignment, ?_,
      noPoint, ?_, ?_, ⟨hasText, rfl⟩, String.ofList_toList.symm, String.ofList_toList.symm⟩
    · simp [entryPlain, fieldPlain]
    · rwa [Ne, String.toList_eq_nil_iff]
    · rwa [Ne, String.toList_eq_nil_iff]

end AstGrammar.Assignment
