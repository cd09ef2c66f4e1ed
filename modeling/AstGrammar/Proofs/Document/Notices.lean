import Mathlib.Data.List.Basic
import AstGrammar.Proofs.Diagnostic.Places
import AstGrammar.Proofs.Document.Acceptance

/-!
# What is said about a document

A diagnostic of a document says something under a code.  What is said about an entry
follows from its collection, its name and its value alone.  A document is told about its
missing collections first and then about each of its entries, in the order in which they
stand, and it gives a model exactly when there is nothing to say.
-/

namespace AstGrammar

/-- A message under a code. -/
structure Notice where
  code : String
  message : String
  deriving DecidableEq

/-- What a diagnostic says under its code, if it has one. -/
def Diagnostic.notice? (diagnostic : Diagnostic) : Option Notice :=
  diagnostic.code.map fun code => ⟨code.text, diagnostic.message⟩

def DocumentProblem.notice (problem : DocumentProblem) : Notice :=
  ⟨problem.code.text, problem.message⟩

theorem DocumentProblem.notice?_diagnostic (text : List Char) (problem : DocumentProblem) :
    (problem.diagnostic text).notice? = some problem.notice := by
  rw [diagnostic, Diagnostic.notice?]
  dsimp only
  rw [Diagnostic.code_withLabel?]
  cases Text.Span.ofKey text problem.key <;> rfl

namespace Document

def HasNodeFields (raw : Json) : Prop :=
  raw.HasField "parents" ∧ raw.HasField "children" ∧ raw.HasField "attributes"

def HasTypeFields (raw : Json) : Prop := raw.HasField "kind" ∧ raw.HasField "argument"

/-- The value has the fields of a shape and not those of the other one. -/
def HasShape (raw : Json) : Shape → Prop
  | .node => HasNodeFields raw ∧ ¬ HasTypeFields raw
  | .namedType => HasTypeFields raw ∧ ¬ HasNodeFields raw

def faultCode : TypeFault → String
  | .tooFewAlternatives _ => "E104"
  | .unexpectedAlternatives _ => "E105"

/-- What is said about the types of attributes, in their order. -/
def typeNotices (name : String) (attributes : List Attribute) : List Notice :=
  attributes.filterMap fun field =>
    match field.type.check with
    | .ok () => none
    | .error fault =>
        some ⟨faultCode fault, (EntryProblem.attributeType field.name fault).message name⟩

/-- What is said about the expression of a named type. -/
def definitionNotices (name : String) (expression : TypeExpression) : List Notice :=
  match expression.check with
  | .ok () => []
  | .error fault => [⟨faultCode fault, (EntryProblem.definition fault).message name⟩]

/-- What is said about the names of attributes. -/
inductive NameNotices (name : String) (attributes : List Attribute) : List Notice → Prop
  | distinct (nodup : (attributes.map Attribute.name).Nodup) : NameNotices name attributes []
  | repeated {field : String} (first : Attribute.IsFirstRepeated field attributes) :
      NameNotices name attributes
        [⟨"E106", (EntryProblem.repeatedAttribute field).message name⟩]

/-- What is said about an entry in the collection for a shape. -/
inductive EntryNotices (name : String) (raw : Json) : Shape → List Notice → Prop
  | unrecognized {shape : Shape} (noNode : ¬ HasNodeFields raw) (noType : ¬ HasTypeFields raw) :
      EntryNotices name raw shape [⟨"E100", (EntryProblem.noShape .unrecognized).message name⟩]
  | ambiguous {shape : Shape} (node : HasNodeFields raw) (type : HasTypeFields raw) :
      EntryNotices name raw shape [⟨"E101", (EntryProblem.noShape .ambiguous).message name⟩]
  | misplaced {shape other : Shape} (shaped : HasShape raw other) (different : other ≠ shape) :
      EntryNotices name raw shape [⟨"E102", (EntryProblem.misplaced other shape).message name⟩]
  | unreadableNode {error : Codec.DecodeError} (shaped : HasShape raw .node)
      (refused : Codec.decodeNode raw = .error error) :
      EntryNotices name raw .node [⟨"E103", (EntryProblem.unreadable error).message name⟩]
  | unreadableNamedType {error : Codec.DecodeError} (shaped : HasShape raw .namedType)
      (refused : Codec.decodeNamedType raw = .error error) :
      EntryNotices name raw .namedType [⟨"E103", (EntryProblem.unreadable error).message name⟩]
  | node {node : Node} {others : List Notice} (shaped : HasShape raw .node)
      (decoded : Codec.decodeNode raw = .ok node)
      (names : NameNotices name node.attributes others) :
      EntryNotices name raw .node (typeNotices name node.attributes ++ others)
  | namedType {namedType : NamedType} (shaped : HasShape raw .namedType)
      (decoded : Codec.decodeNamedType raw = .ok namedType) :
      EntryNotices name raw .namedType (definitionNotices name namedType.expression)

/-- The members of the collection for a shape, and what is said about the collection. -/
inductive CollectionNotices (document : Json) (shape : Shape) :
    List (String × Json) → List Notice → Prop
  | present {members : List (String × Json)}
      (held : HasCollection document shape.collection members) :
      CollectionNotices document shape members []
  | missing (nowhere : ∀ members, ¬ HasCollection document shape.collection members) :
      CollectionNotices document shape []
        [⟨"E002", (DocumentProblem.missingCollection shape).message⟩]

section Entries

variable {name : String} {raw : Json} {shape : Shape} {found : List Notice}

theorem shape_eq_ok_iff : (presence raw).shape = .ok shape ↔ HasShape raw shape := by
  cases shape with
  | node =>
      rw [shape_eq_ok_node_iff, hasNodeFields_iff, hasTypeFields_iff]
      rfl
  | namedType =>
      rw [shape_eq_ok_namedType_iff, hasNodeFields_iff, hasTypeFields_iff]
      rfl

theorem shape_eq_unrecognized_iff :
    (presence raw).shape = .error .unrecognized ↔ ¬ HasNodeFields raw ∧ ¬ HasTypeFields raw := by
  rw [HasNodeFields, HasTypeFields, ← hasNodeFields_iff, ← hasTypeFields_iff, Presence.shape]
  cases (presence raw).hasNodeFields <;> cases (presence raw).hasTypeFields <;> simp

theorem shape_eq_ambiguous_iff :
    (presence raw).shape = .error .ambiguous ↔ HasNodeFields raw ∧ HasTypeFields raw := by
  rw [HasNodeFields, HasTypeFields, ← hasNodeFields_iff, ← hasTypeFields_iff, Presence.shape]
  cases (presence raw).hasNodeFields <;> cases (presence raw).hasTypeFields <;> simp

/-- What reading an entry finds wrong with it. -/
def ownNotices (shape : Shape) (name : String) (raw : Json) : List Notice :=
  match shape with
  | .node => (memberProblems readNode (name, raw)).map DocumentProblem.notice
  | .namedType => (memberProblems readNamedType (name, raw)).map DocumentProblem.notice

theorem ownNotices_of_shapeProblem? {problem : EntryProblem}
    (faulty : shapeProblem? shape raw = some problem) :
    ownNotices shape name raw = [⟨problem.code.text, problem.message name⟩] := by
  cases shape with
  | node => simp only [ownNotices, memberProblems, readNode, readEntry, faulty]; rfl
  | namedType => simp only [ownNotices, memberProblems, readNamedType, readEntry, faulty]; rfl

/-- The problems of an entry whose shape fits. -/
def valueProblems {α : Type} (decode : Json → Codec.Decoded α)
    (problems : α → List EntryProblem) (raw : Json) : List EntryProblem :=
  match decode raw with
  | .error error => [.unreadable error]
  | .ok value => problems value

theorem memberProblems_readEntry {α : Type} (decode : Json → Codec.Decoded α)
    (problems : α → List EntryProblem) (shaped : HasShape raw shape) :
    memberProblems (readEntry shape decode problems) (name, raw) =
      (valueProblems decode problems raw).map (DocumentProblem.entry name) := by
  have fits := (shapeProblem?_eq_none_iff shape raw).2 (shape_eq_ok_iff.2 shaped)
  rw [memberProblems, readEntry, fits, valueProblems]
  cases decode raw with
  | error error => rfl
  | ok value =>
      dsimp only
      cases problems value <;> rfl

theorem ownNotices_node (shaped : HasShape raw .node) :
    ownNotices .node name raw =
      ((valueProblems Codec.decodeNode nodeProblems raw).map (DocumentProblem.entry name)).map
        DocumentProblem.notice :=
  congrArg (List.map DocumentProblem.notice)
    (memberProblems_readEntry Codec.decodeNode nodeProblems shaped)

theorem ownNotices_namedType (shaped : HasShape raw .namedType) :
    ownNotices .namedType name raw =
      ((valueProblems Codec.decodeNamedType namedTypeProblems raw).map
        (DocumentProblem.entry name)).map DocumentProblem.notice :=
  congrArg (List.map DocumentProblem.notice)
    (memberProblems_readEntry Codec.decodeNamedType namedTypeProblems shaped)

theorem text_code_fault (fault : TypeFault) : fault.code.text = faultCode fault := by
  cases fault <;> rfl

theorem map_notice_attributeProblems (name : String) (attributes : List Attribute) :
    ((attributeProblems attributes).map (DocumentProblem.entry name)).map
      DocumentProblem.notice = typeNotices name attributes := by
  rw [attributeProblems, typeNotices, List.map_filterMap, List.map_filterMap]
  apply List.filterMap_congr
  intro field _
  rw [TypeExpression.check]
  cases field.type.fault? with
  | none => rfl
  | some fault =>
      simp only [Option.map_some, ← text_code_fault]
      rfl

theorem map_notice_namedTypeProblems (name : String) (namedType : NamedType) :
    ((namedTypeProblems namedType).map (DocumentProblem.entry name)).map
      DocumentProblem.notice = definitionNotices name namedType.expression := by
  rw [namedTypeProblems, definitionNotices, TypeExpression.check]
  cases namedType.expression.fault? with
  | none => rfl
  | some fault =>
      simp only [← text_code_fault]
      rfl

theorem eq_ownNotices (given : EntryNotices name raw shape found) :
    found = ownNotices shape name raw := by
  cases given with
  | unrecognized noNode noType =>
      have unshaped := shape_eq_unrecognized_iff.2 ⟨noNode, noType⟩
      have faulty : shapeProblem? shape raw = some (.noShape .unrecognized) := by
        rw [shapeProblem?, unshaped]
      rw [ownNotices_of_shapeProblem? faulty]
      rfl
  | ambiguous node type =>
      have unshaped := shape_eq_ambiguous_iff.2 ⟨node, type⟩
      have faulty : shapeProblem? shape raw = some (.noShape .ambiguous) := by
        rw [shapeProblem?, unshaped]
      rw [ownNotices_of_shapeProblem? faulty]
      rfl
  | @misplaced _ other shaped different =>
      have faulty : shapeProblem? shape raw = some (.misplaced other shape) := by
        rw [shapeProblem?, shape_eq_ok_iff.2 shaped]
        exact if_neg different
      rw [ownNotices_of_shapeProblem? faulty]
      rfl
  | unreadableNode shaped refused =>
      rw [ownNotices_node shaped, valueProblems, refused]
      rfl
  | unreadableNamedType shaped refused =>
      rw [ownNotices_namedType shaped, valueProblems, refused]
      rfl
  | @node node others shaped decoded names =>
      rw [ownNotices_node shaped, valueProblems, decoded]
      dsimp only
      rw [nodeProblems, List.map_append, List.map_append, map_notice_attributeProblems]
      cases names with
      | distinct nodup =>
          rw [Attribute.repeated?_eq_none_iff.2 nodup]
          rfl
      | repeated first =>
          rw [Attribute.repeated?_eq_some_iff.2 first]
          rfl
  | @namedType namedType shaped decoded =>
      rw [ownNotices_namedType shaped, valueProblems, decoded]
      exact (map_notice_namedTypeProblems name namedType).symm

theorem exists_nameNotices (name : String) (attributes : List Attribute) :
    ∃ found, NameNotices name attributes found := by
  cases repeated : Attribute.repeated? attributes with
  | none => exact ⟨_, .distinct (Attribute.repeated?_eq_none_iff.1 repeated)⟩
  | some field => exact ⟨_, .repeated (Attribute.repeated?_eq_some_iff.1 repeated)⟩

theorem exists_entryNotices_of_shape (name : String) (shaped : HasShape raw shape) :
    ∃ found, EntryNotices name raw shape found := by
  cases shape with
  | node =>
      cases decoded : Codec.decodeNode raw with
      | error error => exact ⟨_, .unreadableNode shaped decoded⟩
      | ok node =>
          obtain ⟨others, names⟩ := exists_nameNotices name node.attributes
          exact ⟨_, .node shaped decoded names⟩
  | namedType =>
      cases decoded : Codec.decodeNamedType raw with
      | error error => exact ⟨_, .unreadableNamedType shaped decoded⟩
      | ok namedType => exact ⟨_, .namedType shaped decoded⟩

theorem exists_entryNotices (name : String) (raw : Json) (shape : Shape) :
    ∃ found, EntryNotices name raw shape found := by
  have placed {other : Shape} (shaped : HasShape raw other) :
      ∃ found, EntryNotices name raw shape found := by
    by_cases same : other = shape
    · exact exists_entryNotices_of_shape name (same ▸ shaped)
    · exact ⟨_, .misplaced shaped same⟩
  by_cases node : HasNodeFields raw
  · by_cases type : HasTypeFields raw
    · exact ⟨_, .ambiguous node type⟩
    · have shaped : HasShape raw .node := ⟨node, type⟩
      exact placed shaped
  · by_cases type : HasTypeFields raw
    · have shaped : HasShape raw .namedType := ⟨type, node⟩
      exact placed shaped
    · exact ⟨_, .unrecognized node type⟩

/-- What is said about an entry follows from its collection, its name and its value. -/
theorem entryNotices_iff :
    EntryNotices name raw shape found ↔ found = ownNotices shape name raw := by
  refine ⟨eq_ownNotices, ?_⟩
  rintro rfl
  obtain ⟨found, given⟩ := exists_entryNotices name raw shape
  rw [← eq_ownNotices given]
  exact given

end Entries

section Documents

variable {document : Json}

/-- What is said about a document: first that it lacks a collection, and then what is said
about each entry by itself. -/
def DocumentNotices (document : Json) (found : List Notice) : Prop :=
  ∃ nodes noNodes namedTypes noNamedTypes,
    CollectionNotices document .node nodes noNodes ∧
    CollectionNotices document .namedType namedTypes noNamedTypes ∧
    found = noNodes ++ noNamedTypes ++
      nodes.flatMap (fun member => ownNotices .node member.1 member.2) ++
      namedTypes.flatMap fun member => ownNotices .namedType member.1 member.2

theorem collectionNotices (document : Json) (shape : Shape) :
    CollectionNotices document shape ((collection? shape document).getD [])
      ((missing shape document).map DocumentProblem.notice) := by
  rw [missing]
  cases held : collection? shape document with
  | some members => exact .present (collection?_eq_some_iff.1 held)
  | none =>
      refine .missing fun members elsewhere => ?_
      rw [collection?_eq_some_iff.2 elsewhere] at held
      cases held

/-- The problems of a document, as reading it lists them. -/
def problemsOf (document : Json) : List DocumentProblem :=
  missing .node document ++ missing .namedType document ++
    ((collection? .node document).getD []).flatMap (memberProblems readNode) ++
    ((collection? .namedType document).getD []).flatMap (memberProblems readNamedType)

theorem documentNotices_problemsOf (document : Json) :
    DocumentNotices document ((problemsOf document).map DocumentProblem.notice) := by
  refine ⟨_, _, _, _, collectionNotices document .node, collectionNotices document .namedType, ?_⟩
  rw [problemsOf]
  simp only [List.map_append, List.map_flatMap]
  rfl

theorem problems_readCollection {α : Type} (shape : Shape)
    (read : Json → Except (List EntryProblem) α) (document : Json) :
    (readCollection shape read document).problems =
      ((collection? shape document).getD []).flatMap (memberProblems read) := by
  rw [readCollection, problems_readMembers]
  rfl

theorem exists_readModel_eq_ok (clean : problemsOf document = []) :
    ∃ model, readModel document = .ok model := by
  rw [readModel, problems_readCollection, problems_readCollection, ← problemsOf, clean]
  exact ⟨_, rfl⟩

theorem readModel_eq_error (faulty : problemsOf document ≠ []) :
    readModel document = .error (problemsOf document) := by
  rw [readModel, problems_readCollection, problems_readCollection, ← problemsOf]
  split
  · next clean => exact absurd clean faulty
  · rfl

end Documents

end Document

namespace GrammarModel

open Document

/-- What is said about an entry follows from its collection, its name and its value.  The
diagnostics of a text that is JSON say what is said about its document, one after the other,
and there is a model exactly when they have nothing to say. -/
theorem documentNotices_of_load :
    (∀ shape name raw found,
      EntryNotices name raw shape found ↔ found = ownNotices shape name raw) ∧
    ∀ text document, Json.parse text = .ok document →
      ∃ found, DocumentNotices document found ∧
        ((∃ model, load text = .ok model) ↔ found = []) ∧
        (found ≠ [] → ∃ diagnostics, load text = .error (.rejected diagnostics) ∧
          diagnostics.map Diagnostic.notice? = found.map some) := by
  refine ⟨fun _ _ _ _ => entryNotices_iff, fun text document parsed => ?_⟩
  refine ⟨_, documentNotices_problemsOf document, ?_⟩
  rw [List.map_eq_nil_iff, load, parsed]
  dsimp only
  by_cases clean : problemsOf document = []
  · obtain ⟨model, read⟩ := exists_readModel_eq_ok clean
    simp [clean, read]
  · have read := readModel_eq_error clean
    have said : (problemsOf document).map
        (Diagnostic.notice? ∘ DocumentProblem.diagnostic text.toList) =
        (problemsOf document).map (some ∘ DocumentProblem.notice) :=
      List.map_congr_left fun problem _ => problem.notice?_diagnostic text.toList
    simp [clean, read, said]

example :
    (match load ("\x7b\"nodes\":\x7b\"Bad\":\x7b\"kind\":\"node\",\"argument\":\"X\"\x7d," ++
        "\"Worse\":\x7b\"parents\":[],\"children\":[],\"attributes\":[[\"a\",[\"union\",[]]]]" ++
        "\x7d\x7d,\"namedTypes\":\x7b\"Lost\":\x7b\x7d\x7d\x7d") with
      | .error (.rejected diagnostics) => diagnostics.map Diagnostic.code
      | _ => []) = [some .misplacedEntry, some .tooFewAlternatives, some .invalidEntryShape] := by
  decide +kernel

end GrammarModel

end AstGrammar
