import Mathlib.Data.List.Forall2
import AstGrammar.Proofs.TypeExpression.Subexpressions
import AstGrammar.Rendering

/-!
# The text of an entry

What the lines of an entry are is said here without the functions that write them: one line
for each attribute of a node, or for each child where there are none, and two lines for a
named type.  The text is these lines below the name.  An entry without lines is refused for
the first part that has none, and the options only choose among lines that exist.
-/

namespace AstGrammar

namespace Rendering

/-- The item is the first bad one of a list, behind a front without bad ones. -/
structure IsFirst {α : Type} (bad : α → Prop) (items front : List α) (item : α) : Prop where
  cut : ∃ back, items = front ++ item :: back
  clean : ∀ other ∈ front, ¬ bad other
  is_bad : bad item

/-- An argument inside an attribute: a label is written as it is, all else as JSON. -/
inductive IsInner : Argument → String → Prop
  | label (name : String) : IsInner (.label name) name
  | json {argument : Argument} (noLabel : argument.label? = none) :
      IsInner argument (Codec.encodeArgument argument).compact

/-- The line of an attribute. -/
inductive IsAttributeLine : Attribute → String → Prop
  | label (name : String) (kind : TypeKind) (label : String) :
      IsAttributeLine ⟨name, .mk kind (.label label)⟩ s!"{name} : {label}"
  | nested (name : String) (kind : TypeKind) {inner : TypeExpression} {text : String}
      (isInner : IsInner inner.argument text) :
      IsAttributeLine ⟨name, .mk kind (.nested inner)⟩ s!"{name} : {kind.name} [ {text} ]"

/-- The labels that a named type with an argument shows. -/
inductive AreLabels : Argument → List String → Prop
  | label (name : String) : AreLabels (.label name) [name]
  | parts {argument : Argument} {labels : List String} (noLabel : argument.label? = none)
      (labelled : List.Forall₂ (fun part label => part.argument = .label label)
        argument.parts labels) :
      AreLabels argument labels

/-- The lines of an entry below its name. -/
inductive AreLines (options : RenderOptions) : Entry → List String → Prop
  | attributes {node : Node} {lines : List String}
      (shown : node.attributes ≠ [] ∨ options.childrenFallback = false)
      (areLines : List.Forall₂ IsAttributeLine node.attributes lines) :
      AreLines options (.node node) lines
  | children {node : Node} (bare : node.attributes = [])
      (fallback : options.childrenFallback = true) :
      AreLines options (.node node) ("no attributes, children:" :: node.children)
  | namedType {namedType : NamedType} {labels : List String}
      (areLabels : AreLabels namedType.expression.argument labels) :
      AreLines options (.namedType namedType)
        [s!"kind: {namedType.expression.kind.name}",
          (if namedType.expression.kind = .union then " | " else " ").intercalate labels]

def CarriesAlternatives (field : Attribute) : Prop :=
  ∃ items, field.type.argument = .alternatives items

def HasNoLabel (item : TypeExpression) : Prop := ∀ label, item.argument ≠ .label label

/-- The first part of an entry without a line, and how it is reported. -/
inductive HasFault : Entry → RenderFault → Prop
  | ofAttribute {node : Node} {front : List Attribute} {field : Attribute}
      {items : List TypeExpression}
      (first : IsFirst CarriesAlternatives node.attributes front field)
      (found : field.type.argument = .alternatives items) :
      HasFault (.node node) (.attributeWithAlternatives field.name items.length)
  | ofAlternative {namedType : NamedType} {front : List TypeExpression} {item : TypeExpression}
      (first : IsFirst HasNoLabel namedType.expression.argument.parts front item) :
      HasFault (.namedType namedType) (.alternativeWithoutLabel front.length item.kind)

section First

variable {α : Type} {bad : α → Prop} {first item : α} {rest front : List α}

theorem not_isFirst_nil : ¬ IsFirst bad [] front item := by
  rintro ⟨⟨back, cut⟩, -, -⟩
  simp at cut

theorem isFirst_cons_of_bad (firstBad : bad first) :
    IsFirst bad (first :: rest) front item ↔ front = [] ∧ item = first := by
  constructor
  · rintro ⟨⟨back, cut⟩, clean, -⟩
    cases front with
    | nil => exact ⟨rfl, (List.cons.inj cut).1.symm⟩
    | cons other others =>
        obtain ⟨rfl, -⟩ := List.cons.inj cut
        exact absurd firstBad (clean _ List.mem_cons_self)
  · rintro ⟨rfl, rfl⟩
    exact ⟨⟨rest, rfl⟩, fun other member => absurd member List.not_mem_nil, firstBad⟩

theorem isFirst_cons_of_not_bad (firstClean : ¬ bad first) :
    IsFirst bad (first :: rest) front item ↔
      ∃ others, front = first :: others ∧ IsFirst bad rest others item := by
  constructor
  · rintro ⟨⟨back, cut⟩, clean, isBad⟩
    cases front with
    | nil =>
        obtain ⟨rfl, -⟩ := List.cons.inj cut
        exact absurd isBad firstClean
    | cons other others =>
        obtain ⟨rfl, restEq⟩ := List.cons.inj cut
        exact ⟨others, rfl, ⟨back, restEq⟩, fun inner member =>
          clean inner (List.mem_cons_of_mem _ member), isBad⟩
  · rintro ⟨others, rfl, ⟨back, rfl⟩, clean, isBad⟩
    exact ⟨⟨back, rfl⟩, List.forall_mem_cons.2 ⟨firstClean, clean⟩, isBad⟩

/-- A list has a first bad item where it has any. -/
theorem exists_isFirst_iff {items : List α} :
    (∃ front item, IsFirst bad items front item) ↔ ∃ item ∈ items, bad item := by
  induction items with
  | nil => simp [not_isFirst_nil]
  | cons first rest ih =>
      rw [List.exists_mem_cons_iff]
      by_cases firstBad : bad first
      · simp [isFirst_cons_of_bad firstBad, firstBad]
      · simp only [isFirst_cons_of_not_bad firstBad, firstBad, false_or, ← ih]
        constructor
        · rintro ⟨_, item, others, rfl, isFirst⟩
          exact ⟨others, item, isFirst⟩
        · rintro ⟨others, item, isFirst⟩
          exact ⟨first :: others, item, others, rfl, isFirst⟩

end First

/-- What is done with a success leaves the errors alone. -/
@[simp]
theorem map_eq_error_iff {ε α β : Type} {result : Except ε α} {change : α → β} {error : ε} :
    result.map change = .error error ↔ result = .error error := by
  cases result <;> simp [Except.map]

theorem map_eq_ok_iff {ε α β : Type} {result : Except ε α} {change : α → β} {value : β} :
    result.map change = .ok value ↔ ∃ before, result = .ok before ∧ value = change before := by
  cases result <;> simp [Except.map, eq_comm]

section Attributes

variable {field : Attribute} {fields : List Attribute} {fault : RenderFault}

theorem isInner_iff {argument : Argument} {text : String} :
    IsInner argument text ↔ text = argumentText argument := by
  constructor
  · rintro (_ | noLabel)
    · rfl
    · cases argument with
      | label name => cases noLabel
      | nested inner => rfl
      | alternatives items => rfl
  · rintro rfl
    cases argument with
    | label name => exact .label name
    | nested inner => exact .json rfl
    | alternatives items => exact .json rfl

theorem attributeLine_eq_ok_iff {line : String} :
    attributeLine field = .ok line ↔ IsAttributeLine field line := by
  obtain ⟨name, ⟨kind, argument⟩⟩ := field
  constructor
  · intro written
    cases argument with
    | label label =>
        cases written
        exact .label name kind label
    | nested inner =>
        cases written
        exact .nested name kind (isInner_iff.2 rfl)
    | alternatives items => cases written
  · rintro (_ | ⟨_, _, isInner⟩)
    · rfl
    · rw [isInner_iff.1 isInner]
      rfl

theorem attributeLine_eq_error_iff :
    attributeLine field = .error fault ↔
      ∃ items, field.type.argument = .alternatives items ∧
        fault = .attributeWithAlternatives field.name items.length := by
  rw [attributeLine]
  cases field.type.argument <;> simp [eq_comm]

theorem attributeLines_eq_ok_iff {lines : List String} :
    attributeLines fields = .ok lines ↔ List.Forall₂ IsAttributeLine fields lines := by
  induction fields generalizing lines with
  | nil => simp [attributeLines, eq_comm]
  | cons field rest ih =>
      rw [attributeLines, List.forall₂_cons_left_iff]
      cases written : attributeLine field with
      | error fault => simp [← attributeLine_eq_ok_iff, written]
      | ok line =>
          simp only [map_eq_ok_iff, ih, ← attributeLine_eq_ok_iff, written, Except.ok.injEq]
          constructor
          · rintro ⟨others, areLines, rfl⟩
            exact ⟨line, others, rfl, areLines, rfl⟩
          · rintro ⟨_, others, rfl, areLines, rfl⟩
            exact ⟨others, areLines, rfl⟩

theorem attributeLines_eq_error_iff :
    attributeLines fields = .error fault ↔
      ∃ front field items, IsFirst CarriesAlternatives fields front field ∧
        field.type.argument = .alternatives items ∧
        fault = .attributeWithAlternatives field.name items.length := by
  induction fields with
  | nil => simp [attributeLines, not_isFirst_nil]
  | cons field rest ih =>
      rw [attributeLines]
      cases written : attributeLine field with
      | error found =>
          obtain ⟨items, alternatives, rfl⟩ := attributeLine_eq_error_iff.1 written
          have carries : CarriesAlternatives field := ⟨items, alternatives⟩
          simp only [isFirst_cons_of_bad carries, Except.error.injEq]
          constructor
          · rintro rfl
            exact ⟨[], field, items, ⟨rfl, rfl⟩, alternatives, rfl⟩
          · rintro ⟨_, _, others, ⟨rfl, rfl⟩, same, rfl⟩
            rw [alternatives, Argument.alternatives.injEq] at same
            rw [same]
      | ok line =>
          have clean : ¬ CarriesAlternatives field := by
            rintro ⟨items, alternatives⟩
            have fails := attributeLine_eq_error_iff.2 ⟨items, alternatives, rfl⟩
            rw [written] at fails
            cases fails
          simp only [map_eq_error_iff, ih, isFirst_cons_of_not_bad clean]
          constructor
          · rintro ⟨front, other, items, first, found⟩
            exact ⟨field :: front, other, items, ⟨front, rfl, first⟩, found⟩
          · rintro ⟨_, other, items, ⟨front, rfl, first⟩, found⟩
            exact ⟨front, other, items, first, found⟩

end Attributes

section Labels

variable {item : TypeExpression} {items : List TypeExpression} {fault : RenderFault}

theorem label?_eq_some_iff {argument : Argument} {label : String} :
    argument.label? = some label ↔ argument = .label label := by
  cases argument <;> simp [Argument.label?]

theorem hasNoLabel_iff : HasNoLabel item ↔ item.argument.label? = none := by
  rw [← Option.not_isSome_iff_eq_none, Option.isSome_iff_exists]
  simp [HasNoLabel, label?_eq_some_iff]

theorem alternativeLabels_eq_ok_iff {index : Nat} {labels : List String} :
    alternativeLabels index items = .ok labels ↔
      List.Forall₂ (fun part label => part.argument = .label label) items labels := by
  induction items generalizing index labels with
  | nil => simp [alternativeLabels, eq_comm]
  | cons item rest ih =>
      rw [alternativeLabels, List.forall₂_cons_left_iff]
      cases found : item.argument.label? with
      | none => simp [hasNoLabel_iff.2 found _]
      | some label =>
          simp only [map_eq_ok_iff, ih, label?_eq_some_iff.1 found, Argument.label.injEq]
          constructor
          · rintro ⟨others, labelled, rfl⟩
            exact ⟨label, others, rfl, labelled, rfl⟩
          · rintro ⟨_, others, rfl, labelled, rfl⟩
            exact ⟨others, labelled, rfl⟩

theorem alternativeLabels_eq_error_iff (index : Nat) :
    alternativeLabels index items = .error fault ↔
      ∃ front item, IsFirst HasNoLabel items front item ∧
        fault = .alternativeWithoutLabel (index + front.length) item.kind := by
  induction items generalizing index with
  | nil => simp [alternativeLabels, not_isFirst_nil]
  | cons item rest ih =>
      rw [alternativeLabels]
      cases found : item.argument.label? with
      | none =>
          simp [isFirst_cons_of_bad (hasNoLabel_iff.2 found), eq_comm]
      | some label =>
          have clean : ¬ HasNoLabel item := by simp [hasNoLabel_iff, found]
          simp only [map_eq_error_iff, ih, isFirst_cons_of_not_bad clean]
          constructor
          · rintro ⟨front, other, first, rfl⟩
            refine ⟨item :: front, other, ⟨front, rfl, first⟩, ?_⟩
            rw [List.length_cons, Nat.add_right_comm, Nat.add_assoc]
          · rintro ⟨_, other, ⟨front, rfl, first⟩, rfl⟩
            refine ⟨front, other, first, ?_⟩
            rw [List.length_cons, Nat.add_right_comm, Nat.add_assoc]

theorem argumentLabels_eq_ok_iff {argument : Argument} {labels : List String} :
    argumentLabels argument = .ok labels ↔ AreLabels argument labels := by
  constructor
  · intro shown
    cases argument with
    | label name =>
        cases shown
        exact .label name
    | nested inner => exact .parts rfl (alternativeLabels_eq_ok_iff.1 shown)
    | alternatives items => exact .parts rfl (alternativeLabels_eq_ok_iff.1 shown)
  · rintro (_ | ⟨noLabel, labelled⟩)
    · rfl
    · cases argument with
      | label name => cases noLabel
      | nested inner => exact alternativeLabels_eq_ok_iff.2 labelled
      | alternatives items => exact alternativeLabels_eq_ok_iff.2 labelled

theorem argumentLabels_eq_error_iff {argument : Argument} :
    argumentLabels argument = .error fault ↔
      ∃ front item, IsFirst HasNoLabel argument.parts front item ∧
        fault = .alternativeWithoutLabel front.length item.kind := by
  have indexed (items : List TypeExpression) : alternativeLabels 0 items = .error fault ↔
      ∃ front item, IsFirst HasNoLabel items front item ∧
        fault = .alternativeWithoutLabel front.length item.kind := by
    simpa only [Nat.zero_add] using alternativeLabels_eq_error_iff 0
  cases argument with
  | label name => simp [argumentLabels, Argument.parts, not_isFirst_nil]
  | nested inner => exact indexed [inner]
  | alternatives items => exact indexed items

end Labels

section Entries

variable {options : RenderOptions} {entry : Entry} {lines : List String} {fault : RenderFault}

theorem separator_eq (kind : TypeKind) :
    separator kind = if kind = .union then " | " else " " := by
  cases kind <;> rfl

theorem nodeLines_eq_ok_iff {node : Node} :
    nodeLines options node = .ok lines ↔ AreLines options (.node node) lines := by
  by_cases fallback : node.attributes = [] ∧ options.childrenFallback = true
  · rw [nodeLines, if_pos (by simpa using fallback), Except.ok.injEq]
    constructor
    · rintro rfl
      exact .children fallback.1 fallback.2
    · rintro (⟨shown, -⟩ | _)
      · rcases shown with attributes | without
        · exact absurd fallback.1 attributes
        · rw [fallback.2] at without
          cases without
      · rfl
  · rw [nodeLines, if_neg (by simpa using fallback), attributeLines_eq_ok_iff]
    constructor
    · intro areLines
      refine .attributes ?_ areLines
      rw [← Bool.not_eq_true]
      exact Decidable.not_and_iff_or_not.1 fallback
    · rintro (⟨-, areLines⟩ | ⟨bare, with'⟩)
      · exact areLines
      · exact absurd ⟨bare, with'⟩ fallback

theorem entryLines_eq_ok_iff :
    entryLines options entry = .ok lines ↔ AreLines options entry lines := by
  cases entry with
  | node node => exact nodeLines_eq_ok_iff
  | namedType namedType =>
      rw [entryLines, namedTypeLines]
      cases shown : argumentLabels namedType.expression.argument with
      | error fault =>
          simp only [reduceCtorEq, false_iff]
          rintro ⟨⟩
          next labels areLabels =>
            rw [argumentLabels_eq_ok_iff.2 areLabels] at shown
            cases shown
      | ok labels =>
          simp only [Except.ok.injEq, separator_eq]
          constructor
          · rintro rfl
            exact .namedType (argumentLabels_eq_ok_iff.1 shown)
          · rintro ⟨⟩
            next others areLabels =>
              rw [argumentLabels_eq_ok_iff.2 areLabels] at shown
              cases shown
              rfl

theorem nodeLines_eq_error_iff {node : Node} :
    nodeLines options node = .error fault ↔ HasFault (.node node) fault := by
  have lines : nodeLines options node = .error fault ↔
      attributeLines node.attributes = .error fault := by
    rw [nodeLines]
    split
    · next fallback =>
        have bare : node.attributes = [] := by
          simp only [Bool.and_eq_true, List.isEmpty_iff] at fallback
          exact fallback.1
        simp [bare, attributeLines]
    · rfl
  rw [lines, attributeLines_eq_error_iff]
  constructor
  · rintro ⟨front, field, items, first, found, rfl⟩
    exact .ofAttribute first found
  · rintro ⟨first, found⟩
    exact ⟨_, _, _, first, found, rfl⟩

theorem entryLines_eq_error_iff :
    entryLines options entry = .error fault ↔ HasFault entry fault := by
  cases entry with
  | node node => exact nodeLines_eq_error_iff
  | namedType namedType =>
      have lines : entryLines options (.namedType namedType) = .error fault ↔
          argumentLabels namedType.expression.argument = .error fault := by
        rw [entryLines, namedTypeLines]
        cases argumentLabels namedType.expression.argument <;> simp
      rw [lines, argumentLabels_eq_error_iff]
      constructor
      · rintro ⟨front, item, first, rfl⟩
        exact .ofAlternative first
      · intro hasFault
        cases hasFault with
        | ofAlternative first => exact ⟨_, _, first, rfl⟩

end Entries

/-- What is there is refused where its lines fail, and the error then names it. -/
theorem render_eq_error_iff {options : RenderOptions} {name : String} {entry : Entry}
    {error : EntryError} :
    render options name (some entry) = .error error ↔
      ∃ fault, entryLines options entry = .error fault ∧ error = .malformedType name fault := by
  rw [render]
  cases entryLines options entry with
  | ok lines => simp
  | error fault =>
      simp only [Except.error.injEq, exists_eq_left']
      exact eq_comm

/-- Each line with its line feed, and perhaps one more line feed. -/
def written (options : RenderOptions) (lines : List String) : List Char :=
  lines.flatMap (fun line => line.toList ++ ['\n']) ++
    if options.trailingBlankLine then ['\n'] else []

theorem render_eq_ok_iff {options : RenderOptions} {name : String} {entry : Entry} {text : String} :
    render options name (some entry) = .ok text ↔
      ∃ lines, AreLines options entry lines ∧ text.toList = written options (name :: lines) := by
  simp only [← entryLines_eq_ok_iff]
  rw [render]
  cases entryLines options entry with
  | error fault => simp
  | ok lines =>
      have characters : (joinLines (name :: lines) ++
          if options.trailingBlankLine then "\n" else "").toList =
            written options (name :: lines) := by
        rw [String.toList_append, joinLines, String.toList_join, List.flatMap_map, written]
        cases options.trailingBlankLine <;> simp
      simp only [Except.ok.injEq, exists_eq_left', ← characters, String.toList_inj]
      exact eq_comm

/-- An entry is rendered as its name and its lines, with a line feed behind each, or it is
refused for its first part without a line.  Which of the two it is does not depend on the
options, and neither does the error; the properties of a named type change nothing. -/
theorem render_writes_lines_or_names_fault (name : String) (entry : Entry) :
    (∀ options text, render options name (some entry) = .ok text ↔
      ∃ lines, AreLines options entry lines ∧ text.toList = written options (name :: lines)) ∧
    (∀ options error, render options name (some entry) = .error error ↔
      ∃ fault, HasFault entry fault ∧ error = .malformedType name fault) ∧
    (∀ first second error, render first name (some entry) = .error error ↔
      render second name (some entry) = .error error) ∧
    (∀ first second, (∃ text, render first name (some entry) = .ok text) ↔
      ∃ text, render second name (some entry) = .ok text) ∧
    ∀ options expression first second,
      render options name (some (.namedType ⟨expression, first⟩)) =
        render options name (some (.namedType ⟨expression, second⟩)) := by
  have fails (options : RenderOptions) (error : EntryError) :
      render options name (some entry) = .error error ↔
        ∃ fault, HasFault entry fault ∧ error = .malformedType name fault := by
    simp only [render_eq_error_iff, entryLines_eq_error_iff]
  have succeeds (options : RenderOptions) : (∃ text, render options name (some entry) = .ok text) ↔
      ¬ ∃ fault, HasFault entry fault := by
    constructor
    · rintro ⟨text, isText⟩ ⟨fault, hasFault⟩
      have refused := (fails options _).2 ⟨fault, hasFault, rfl⟩
      rw [isText] at refused
      cases refused
    · intro faultless
      cases rendered : render options name (some entry) with
      | ok text => exact ⟨text, rfl⟩
      | error error =>
          obtain ⟨fault, hasFault, -⟩ := (fails options error).1 rendered
          exact absurd ⟨fault, hasFault⟩ faultless
  refine ⟨fun options text => render_eq_ok_iff, fails, fun first second error => ?_,
    fun first second => ?_, fun options expression first second => rfl⟩
  · rw [fails, fails]
  · rw [succeeds, succeeds]

end Rendering

end AstGrammar
