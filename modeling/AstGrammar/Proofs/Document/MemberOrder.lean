import AstGrammar.Proofs.Codec.Grammar
import AstGrammar.Proofs.Document.Acceptance
import AstGrammar.Proofs.Document.Rearrangement
import AstGrammar.Proofs.Json.RoundTrip

/-!
# Loading rearranged documents

Neither the order of the members of a record nor the members that are not read play a part in
what is read.  This is proved place by place: from expressions, which are read in three ways
one after the other, over attributes and entries up to the document.
-/

namespace AstGrammar

/-- Two readings give the same value, or neither of them gives one. -/
def Agree {ε α : Type} (first second : Except ε α) : Prop :=
  ∀ value, first = .ok value ↔ second = .ok value

theorem Agree.refl {ε α : Type} (result : Except ε α) : Agree result result := fun _ => .rfl

theorem Agree.symm {ε α : Type} {first second : Except ε α} (agree : Agree first second) :
    Agree second first :=
  fun value => (agree value).symm

theorem Agree.map {ε α β : Type} {first second : Except ε α} (agree : Agree first second)
    (change : α → β) : Agree (first.map change) (second.map change) := by
  have image (result : Except ε α) (value : β) :
      result.map change = .ok value ↔ ∃ held, result = .ok held ∧ change held = value := by
    cases result <;> simp [Except.map]
  intro value
  simp only [image, agree _]

namespace Document

section Fields

variable {α : Type} {place inner : Place} {name : String} {members others : List (String × Json)}

/-- A field is read alike if the value under its name is. -/
theorem SameFields.agree_readField (same : SameFields place members others)
    (read : place.field? name = some inner) (decode : Json → Codec.Decoded α) (before : Option α)
    (alike : ∀ value, Json.member? name members = some value →
      ∀ other, Rearranged inner value other → Agree (decode value) (decode other)) :
    Agree (Codec.readField decode name before members)
      (Codec.readField decode name before others) := by
  have related := same name inner read
  rw [Codec.readField, Codec.readField]
  generalize Json.member? name members = first, Json.member? name others = second at related alike
  cases related with
  | none => exact .refl _
  | @some value other rearranged => exact (alike value rfl other rearranged).map some

theorem SameFields.agree_plain (same : SameFields place members others)
    (read : place.field? name = some .plain) (decode : Json → Codec.Decoded α)
    (before : Option α) :
    Agree (Codec.readField decode name before members)
      (Codec.readField decode name before others) := by
  refine same.agree_readField read decode before fun value _ other rearranged => ?_
  rw [rearranged.eq_of_plain]
  exact .refl _

end Fields

/-- A value is read as the same expression, argument or alternative as another one. -/
structure ReadAlike (raw changed : Json) : Prop where
  string : ∀ name, raw = .string name ↔ changed = .string name
  expression : Agree (Codec.decodeExpression raw) (Codec.decodeExpression changed)
  argument : Agree (Codec.decodeArgument raw) (Codec.decodeArgument changed)

namespace ReadAlike

variable {raw changed : Json} {items others : List Json}

theorem refl (raw : Json) : ReadAlike raw raw := ⟨fun _ => .rfl, .refl _, .refl _⟩

theorem symm (alike : ReadAlike raw changed) : ReadAlike changed raw :=
  ⟨fun name => (alike.string name).symm, alike.expression.symm, alike.argument.symm⟩

theorem isAlternative_iff (alike : ReadAlike raw changed) (item : TypeExpression) :
    Codec.IsAlternative raw item ↔ Codec.IsAlternative changed item := by
  simp only [Codec.IsAlternative, alike.string, alike.expression item]

theorem forall₂_isAlternative_iff (each : List.Forall₂ ReadAlike items others)
    (alternatives : List TypeExpression) :
    List.Forall₂ Codec.IsAlternative items alternatives ↔
      List.Forall₂ Codec.IsAlternative others alternatives := by
  induction each generalizing alternatives with
  | nil => rfl
  | cons first _ ih =>
      simp only [List.forall₂_cons_left_iff, first.isAlternative_iff, ih]

theorem decodeExpression_array_of (each : List.Forall₂ ReadAlike items others)
    {expression : TypeExpression}
    (decoded : Codec.decodeExpression (.array items) = .ok expression) :
    Codec.decodeExpression (.array others) = .ok expression := by
  rw [Codec.decodeExpression, Codec.decodeExpressionItems_eq_ok_iff] at decoded ⊢
  obtain ⟨kind, raw, argument, rfl, read, rfl⟩ := decoded
  cases each with
  | cons first rest =>
      cases rest with
      | cons second none =>
          cases none
          rw [(first.string kind).1 rfl]
          exact ⟨kind, _, argument, rfl, (second.argument argument).1 read, rfl⟩

/-- Lists are read alike if their items are, also when they are tried as alternatives first. -/
theorem array (each : List.Forall₂ ReadAlike items others) :
    ReadAlike (.array items) (.array others) := by
  have expression : Agree (Codec.decodeExpression (.array items))
      (Codec.decodeExpression (.array others)) := by
    refine fun value => ⟨decodeExpression_array_of each, decodeExpression_array_of ?_⟩
    exact each.flip.imp fun _ _ => symm
  refine ⟨by simp, expression, fun argument => ?_⟩
  have alternatives := forall₂_isAlternative_iff each
  by_cases listed : ∃ found, List.Forall₂ Codec.IsAlternative items found
  · obtain ⟨found, areAlternatives⟩ := listed
    rw [Codec.decodeArgument_of_alternatives areAlternatives,
      Codec.decodeArgument_of_alternatives ((alternatives found).1 areAlternatives)]
  · have unlisted := not_exists.1 listed
    have unlistedOther : ∀ found, ¬ List.Forall₂ Codec.IsAlternative others found :=
      fun found areAlternatives => unlisted found ((alternatives found).2 areAlternatives)
    rw [Codec.decodeArgument_eq_ok_iff_of_forall_not unlisted,
      Codec.decodeArgument_eq_ok_iff_of_forall_not unlistedOther]
    simp only [expression _]

end ReadAlike

section Expressions

theorem forall₂_imp_of_mem {α : Type} {relates holds : α → α → Prop} {first second : List α}
    (each : List.Forall₂ relates first second)
    (implies : ∀ value ∈ first, ∀ other, relates value other → holds value other) :
    List.Forall₂ holds first second :=
  ((List.forall₂_and_left _ _).2 ⟨implies, each⟩).imp fun _ other both => both.1 other both.2

theorem decodeArgument_object_eq_ok_iff {members : List (String × Json)} {argument : Argument} :
    Codec.decodeArgument (.object members) = .ok argument ↔
      ∃ inner, Codec.decodeExpression (.object members) = .ok inner ∧
        argument = .nested inner := by
  rw [Codec.decodeArgument, Codec.decodeExpression]
  cases Codec.decodeExpressionMembers none none members <;> simp [eq_comm]

/-- The names of an expression are read in its own object and in that of a named type. -/
theorem SameFields.agree_expressionMembers {place : Place} {members others : List (String × Json)}
    (same : SameFields place members others) (once : place.ReadsOnce members)
    (onceOther : place.ReadsOnce others) (kindRead : place.field? "kind" = some .plain)
    (argumentRead : place.field? "argument" = some .expression)
    (alike : ∀ value, Json.member? "argument" members = some value →
      ∀ other, Rearranged .expression value other → ReadAlike value other) :
    Agree (Codec.decodeExpressionMembers none none members)
      (Codec.decodeExpressionMembers none none others) := by
  intro expression
  have kind := same.agree_plain kindRead Codec.decodeKind none
  have argument := same.agree_readField argumentRead Codec.decodeArgument none
    fun value found other rearranged => (alike value found other rearranged).argument
  rw [Codec.decodeExpressionMembers_eq_ok_iff (once _ _ kindRead) (once _ _ argumentRead),
    Codec.decodeExpressionMembers_eq_ok_iff (onceOther _ _ kindRead) (onceOther _ _ argumentRead)]
  simp only [kind _, argument _]

/-- An expression is read alike when it is rearranged, by induction on the value. -/
theorem readAlike_of_rearranged {raw changed : Json} (distinct : raw.HasDistinctNames)
    (rearranged : Rearranged .expression raw changed) : ReadAlike raw changed := by
  match raw, distinct with
  | .object members, .object nodup distinct =>
      have once : Place.expression.ReadsOnce members := .of_nodup nodup
      obtain ⟨others, rfl, onceOther, same⟩ := rearranged.sameFields (by decide) once
      have expression : Agree (Codec.decodeExpression (.object members))
          (Codec.decodeExpression (.object others)) := by
        rw [Codec.decodeExpression, Codec.decodeExpression]
        refine same.agree_expressionMembers once onceOther rfl rfl fun value found other inner => ?_
        have member := Entries.mem_of_lookup found
        have smaller := Codec.sizeOf_lt_of_mem_members member
        exact readAlike_of_rearranged (distinct _ member) inner
      refine ⟨by simp, expression, fun argument => ?_⟩
      simp only [decodeArgument_object_eq_ok_iff, expression _]
  | .array items, .array distinct =>
      -- An item may be a kind, an argument or an alternative, so it must agree in every reading.
      obtain ⟨others, rfl, each⟩ := rearranged.forall₂_items rfl
      refine .array (forall₂_imp_of_mem each fun item member other inner => ?_)
      have smaller := List.sizeOf_lt_of_mem member
      exact readAlike_of_rearranged (distinct item member) inner
  | .null, _ | .bool _, _ | .number _, _ | .string _, _ =>
      rw [rearranged.eq_of_unread (.inr (by simp)) (.inr (by simp))]
      exact .refl _
termination_by sizeOf raw

end Expressions

section Records

variable {raw changed : Json}

theorem agree_decodeAttribute (distinct : raw.HasDistinctNames)
    (rearranged : Rearranged .attribute raw changed) :
    Agree (Codec.decodeAttribute raw) (Codec.decodeAttribute changed) := by
  cases distinct with
  | @object members nodup distinct =>
      have once : Place.attribute.ReadsOnce members := .of_nodup nodup
      obtain ⟨others, rfl, onceOther, same⟩ := rearranged.sameFields (by decide) once
      intro field
      have nameRead : Place.attribute.field? "name" = some .plain := rfl
      have typeRead : Place.attribute.field? "type" = some .expression := rfl
      have name := same.agree_plain nameRead Codec.decodeString none
      have type := same.agree_readField typeRead Codec.decodeExpression none
        fun value found other inner =>
          (readAlike_of_rearranged (distinct _ (Entries.mem_of_lookup found)) inner).expression
      rw [Codec.decodeAttribute, Codec.decodeAttribute,
        Codec.decodeAttributeMembers_eq_ok_iff (once _ _ nameRead) (once _ _ typeRead),
        Codec.decodeAttributeMembers_eq_ok_iff (onceOther _ _ nameRead) (onceOther _ _ typeRead),
        name _, type _]
  | @array items distinct =>
      rcases rearranged.listed with rfl | ⟨name, type, other, rest, rfl, rfl, inner⟩
      · exact .refl _
      · have alike := readAlike_of_rearranged (distinct type (by simp)) inner
        intro field
        simp only [Codec.decodeAttribute, Codec.decodeAttributeItems, Codec.bind_eq_ok_iff,
          alike.expression _]
  | _ =>
      rw [rearranged.eq_of_unread (.inr (by simp)) (.inr (by simp))]
      exact .refl _

theorem agree_decodeList {α : Type} {decode : Json → Codec.Decoded α} {items others : List Json}
    (each : List.Forall₂ (fun item other => Agree (decode item) (decode other)) items others) :
    Agree (Codec.decodeList decode (.array items)) (Codec.decodeList decode (.array others)) := by
  rw [Codec.decodeList, Codec.decodeList]
  induction each with
  | nil => exact .refl _
  | cons first _ ih =>
      intro values
      simp only [List.mapM_cons, Codec.bind_eq_ok_iff, first _, ih _]

theorem agree_decodeAttributes (distinct : raw.HasDistinctNames)
    (rearranged : Rearranged .attributes raw changed) :
    Agree (Codec.decodeList Codec.decodeAttribute raw)
      (Codec.decodeList Codec.decodeAttribute changed) := by
  cases distinct with
  | array distinct =>
      obtain ⟨others, rfl, each⟩ := rearranged.forall₂_items rfl
      refine agree_decodeList (forall₂_imp_of_mem each fun item member other inner => ?_)
      exact agree_decodeAttribute (distinct item member) inner
  | _ =>
      rw [rearranged.eq_of_unread (.inl ⟨rfl, by simp⟩) (.inr (by simp))]
      exact .refl _

theorem agree_decodeNode (distinct : raw.HasDistinctNames)
    (rearranged : Rearranged (.entry .node) raw changed) :
    Agree (Codec.decodeNode raw) (Codec.decodeNode changed) := by
  cases distinct with
  | @object members nodup distinct =>
      have once : (Place.entry .node).ReadsOnce members := .of_nodup nodup
      obtain ⟨others, rfl, onceOther, same⟩ := rearranged.sameFields (by decide) once
      intro node
      have parentsRead : (Place.entry .node).field? "parents" = some .plain := rfl
      have childrenRead : (Place.entry .node).field? "children" = some .plain := rfl
      have attributesRead : (Place.entry .node).field? "attributes" = some .attributes := rfl
      have parents := same.agree_plain parentsRead (Codec.decodeList Codec.decodeString) none
      have children := same.agree_plain childrenRead (Codec.decodeList Codec.decodeString) none
      have attributes := same.agree_readField attributesRead
        (Codec.decodeList Codec.decodeAttribute) none fun value found other inner =>
          agree_decodeAttributes (distinct _ (Entries.mem_of_lookup found)) inner
      rw [Codec.decodeNode, Codec.decodeNode,
        Codec.decodeNodeMembers_eq_ok_iff (once _ _ parentsRead) (once _ _ childrenRead)
          (once _ _ attributesRead),
        Codec.decodeNodeMembers_eq_ok_iff (onceOther _ _ parentsRead) (onceOther _ _ childrenRead)
          (onceOther _ _ attributesRead),
        parents _, children _, attributes _]
  | _ =>
      rw [rearranged.eq_of_unread (.inr (by simp)) (.inl ⟨rfl, by simp⟩)]
      exact .refl _

theorem agree_decodeNamedType (distinct : raw.HasDistinctNames)
    (rearranged : Rearranged (.entry .namedType) raw changed) :
    Agree (Codec.decodeNamedType raw) (Codec.decodeNamedType changed) := by
  cases distinct with
  | @object members nodup distinct =>
      have once : (Place.entry .namedType).ReadsOnce members := .of_nodup nodup
      obtain ⟨others, rfl, onceOther, same⟩ := rearranged.sameFields (by decide) once
      have read : (Place.entry .namedType).field? "properties" = some .attributes := rfl
      have properties : Agree (Codec.decodeProperties [] members)
          (Codec.decodeProperties [] others) := by
        intro properties
        have found := same.agree_readField read (Codec.decodeList Codec.decodeAttribute) (some [])
          fun value found other inner =>
            agree_decodeAttributes (distinct _ (Entries.mem_of_lookup found)) inner
        rw [Codec.decodeProperties_eq_ok_iff (once _ _ read),
          Codec.decodeProperties_eq_ok_iff (onceOther _ _ read), found _]
      have expression := same.agree_expressionMembers once onceOther rfl rfl
        fun value found other inner =>
          readAlike_of_rearranged (distinct _ (Entries.mem_of_lookup found)) inner
      intro namedType
      simp only [Codec.decodeNamedType, Codec.bind_eq_ok_iff, properties _, expression _]
  | _ =>
      rw [rearranged.eq_of_unread (.inr (by simp)) (.inl ⟨rfl, by simp⟩)]
      exact .refl _

end Records

section Entries

variable {shape : Shape} {raw changed : Json}

theorem SameFields.hasField_eq {place : Place} {members others : List (String × Json)}
    {name : String} (same : SameFields place members others)
    (read : (place.field? name).isSome = true) : hasField members name = hasField others name := by
  obtain ⟨inner, read⟩ := Option.isSome_iff_exists.1 read
  have related := same name inner read
  rw [hasField, hasField]
  generalize Json.member? name members = first, Json.member? name others = second at related
  cases related with
  | none => rfl
  | some rearranged => simp [rearranged.isPresent_eq]

/-- An entry of either shape is probed for the same fields. -/
theorem presence_eq_of_rearranged (distinct : raw.HasDistinctNames)
    (rearranged : Rearranged (.entry shape) raw changed) : presence raw = presence changed := by
  cases distinct with
  | @object members nodup distinct =>
      have once : (Place.entry shape).ReadsOnce members := .of_nodup nodup
      have record : (Place.entry shape).IsRecord := by cases shape <;> decide
      obtain ⟨others, rfl, -, same⟩ := rearranged.sameFields record once
      have probed : ∀ name ∈ ["parents", "children", "attributes", "kind", "argument"],
          hasField members name = hasField others name := by
        intro name listed
        apply same.hasField_eq
        revert name
        cases shape <;> decide
      simp only [List.forall_mem_cons] at probed
      simp only [presence, probed]
  | _ => rw [rearranged.eq_of_unread (.inr (by simp)) (.inl ⟨rfl, by simp⟩)]

theorem agree_readEntry {α : Type} {decode : Json → Codec.Decoded α} {expected : Shape}
    (problems : α → List EntryProblem) (samePresence : presence raw = presence changed)
    (agree : Agree (decode raw) (decode changed)) :
    Agree (readEntry expected decode problems raw)
      (readEntry expected decode problems changed) := by
  intro value
  rw [readEntry_eq_ok_iff, readEntry_eq_ok_iff, samePresence, agree value]

theorem agree_readNode (distinct : raw.HasDistinctNames)
    (rearranged : Rearranged (.entry .node) raw changed) :
    Agree (readNode raw) (readNode changed) :=
  agree_readEntry nodeProblems (presence_eq_of_rearranged distinct rearranged)
    (agree_decodeNode distinct rearranged)

theorem agree_readNamedType (distinct : raw.HasDistinctNames)
    (rearranged : Rearranged (.entry .namedType) raw changed) :
    Agree (readNamedType raw) (readNamedType changed) :=
  agree_readEntry namedTypeProblems (presence_eq_of_rearranged distinct rearranged)
    (agree_decodeNamedType distinct rearranged)

end Entries

section Collections

variable {shape : Shape} {document changed : Json} {members others : List (String × Json)}

/-- Entries that are read one by one are still read when each is rearranged. -/
theorem Reads.of_agree {α : Type} {read : Json → Except (List EntryProblem) α}
    {registry : Registry α} (reads : Reads read members registry)
    (each : List.Forall₂ (fun member other => member.1 = other.1 ∧
      Agree (read member.2) (read other.2)) members others) :
    Reads read others registry := by
  rw [Reads] at reads ⊢
  generalize registry.entries = entries at reads ⊢
  induction each generalizing entries with
  | nil => exact reads
  | cons first _ ih =>
      cases entries with
      | nil => simp at reads
      | cons entry rest =>
          simp only [List.map_cons, List.cons.injEq, Prod.mk.injEq] at reads ⊢
          exact ⟨⟨first.1 ▸ reads.1.1, (first.2 _).1 reads.1.2⟩, ih rest reads.2⟩

/-- A rearranged document has the same collections, with rearranged entries. -/
theorem exists_collection?_of_rearranged (distinct : document.HasDistinctNames)
    (rearranged : Rearranged .document document changed)
    (found : collection? shape document = some members) :
    ∃ others, collection? shape changed = some others ∧
      List.Forall₂ (fun member other => member.1 = other.1 ∧
        Rearranged (.entry shape) member.2 other.2) members others := by
  obtain ⟨fields, rfl, held⟩ := collection?_eq_some_iff.1 found
  cases distinct with
  | object nodup distinct =>
      obtain ⟨otherFields, rfl, -, same⟩ := rearranged.sameFields (by decide) (.of_nodup nodup)
      have read : Place.document.field? shape.collection = some (.collection shape) := by
        cases shape <;> rfl
      have related := same shape.collection _ read
      rw [held] at related
      generalize heldOther : Json.member? shape.collection otherFields = other at related
      cases related with
      | some inner =>
          obtain ⟨others, rfl, each⟩ := inner.forall₂_entries
          exact ⟨others, collection?_eq_some_iff.2 ⟨otherFields, rfl, heldOther⟩, each⟩

theorem names_eq_of_forall₂ {relates : Json → Json → Prop}
    (each : List.Forall₂ (fun member other => member.1 = other.1 ∧
      relates member.2 other.2) members others) :
    members.map Prod.fst = others.map Prod.fst := by
  rw [← List.forall₂_eq_eq_eq, List.forall₂_map_left_iff, List.forall₂_map_right_iff]
  exact each.imp fun _ _ both => both.1

/-- What a document is read as does not change when it is rearranged. -/
theorem readModel_of_rearranged {model : GrammarModel} (distinct : document.HasDistinctNames)
    (rearranged : Rearranged .document document changed)
    (read : readModel document = .ok model) : readModel changed = .ok model := by
  have distinctEntries := hasDistinctEntries_of_hasDistinctNames distinct
  obtain ⟨⟨nodes, nodesFound, nodesRead⟩, namedTypes, typesFound, typesRead⟩ :=
    (readModel_eq_ok_iff distinctEntries model).1 read
  obtain ⟨otherNodes, otherNodesFound, nodesEach⟩ :=
    exists_collection?_of_rearranged distinct rearranged nodesFound
  obtain ⟨otherTypes, otherTypesFound, typesEach⟩ :=
    exists_collection?_of_rearranged distinct rearranged typesFound
  have distinctValue {shape : Shape} {members : List (String × Json)}
      (found : collection? shape document = some members) :
      ∀ member ∈ members, member.2.HasDistinctNames := by
    obtain ⟨fields, rfl, held⟩ := collection?_eq_some_iff.1 found
    cases distinct.of_member? held with
    | object _ distinct => exact distinct
  have otherDistinct : HasDistinctEntries changed := by
    intro shape members found
    cases shape with
    | node =>
        rw [otherNodesFound] at found
        cases found
        exact names_eq_of_forall₂ nodesEach ▸ distinctEntries .node nodes nodesFound
    | namedType =>
        rw [otherTypesFound] at found
        cases found
        exact names_eq_of_forall₂ typesEach ▸ distinctEntries .namedType namedTypes typesFound
  refine (readModel_eq_ok_iff otherDistinct model).2
    ⟨⟨otherNodes, otherNodesFound, nodesRead.of_agree ?_⟩, otherTypes, otherTypesFound,
      typesRead.of_agree ?_⟩
  · refine forall₂_imp_of_mem nodesEach fun member held other inner => ⟨inner.1, ?_⟩
    exact agree_readNode (distinctValue nodesFound member held) inner.2
  · refine forall₂_imp_of_mem typesEach fun member held other inner => ⟨inner.1, ?_⟩
    exact agree_readNamedType (distinctValue typesFound member held) inner.2

end Collections

end Document

namespace GrammarModel

open Document

/-- Whatever a text is loaded as, every rearrangement of its document is read as the same
model, and so is every text that holds such a document.  A document names no member of an
object twice: of those with one name in the text, it has the last. -/
theorem load_of_rearranged {text : String} {model : GrammarModel}
    (loaded : load text = .ok model) :
    ∃ document, Json.parse text = .ok document ∧
      ∀ changed, Rearranged .document document changed →
        readModel changed = .ok model ∧
          ∀ other, Json.parse other = .ok changed → load other = .ok model := by
  obtain ⟨document, parsed, read⟩ := load_eq_ok_iff.1 loaded
  refine ⟨document, parsed, fun changed rearranged => ?_⟩
  have distinct := Json.hasDistinctNames_of_parse parsed
  have readChanged := readModel_of_rearranged distinct rearranged read
  refine ⟨readChanged, fun other otherParsed => ?_⟩
  exact load_eq_ok_iff.2 ⟨changed, otherParsed, readChanged⟩

/-- A document with one named type. -/
def namesDocument : Json :=
  .object [("nodes", .object []), ("namedTypes", .object [("Names",
    .object [("kind", .string "list"), ("argument", .string "Name")])])]

/-- The same document the other way round, with a note that is not read. -/
def notedNamesDocument : Json :=
  .object [("namedTypes", .object [("Names",
    .object [("note", .null), ("argument", .string "Name"), ("kind", .string "list")])]),
    ("nodes", .object [])]

theorem parse_namesDocument : Json.parse namesDocument.compact = .ok namesDocument := by
  refine Json.parse_compact (.object (by decide) ?_) (by decide)
  have names : (Json.object [("kind", .string "list"), ("argument", .string "Name")]).IsTextTree :=
    .object (by decide) (by simp [Json.IsTextTree.string])
  simp [names, Json.IsTextTree.object]

theorem parse_notedNamesDocument :
    Json.parse notedNamesDocument.compact = .ok notedNamesDocument := by
  refine Json.parse_compact (.object (by decide) ?_) (by decide)
  have names : (Json.object [("note", .null), ("argument", .string "Name"),
      ("kind", .string "list")]).IsTextTree :=
    .object (by decide) (by simp [Json.IsTextTree.string, Json.IsTextTree.null])
  simp [names, Json.IsTextTree.object]

theorem rearranged_namesDocument : Rearranged .document namesDocument notedNamesDocument := by
  have document : Place.document.IsRecord := by decide
  have namedType : (Place.entry .namedType).IsRecord := by decide
  have swapped : Rearranged (.entry .namedType)
      (.object [("kind", .string "list"), ("argument", .string "Name")])
      (.object [("argument", .string "Name"), ("kind", .string "list")]) :=
    .permuted namedType (.swap _ _ [])
  have entry : Rearranged (.entry .namedType)
      (.object [("kind", .string "list"), ("argument", .string "Name")])
      (.object [("note", .null), ("argument", .string "Name"), ("kind", .string "list")]) :=
    swapped.trans (.added namedType rfl .null)
  exact .trans (.permuted document (.swap _ _ [])) (.field [] _ rfl (.entry "Names" [] [] entry))

/-- The texts of both documents are loaded as one model. -/
theorem load_of_rearranged_namesDocument :
    ∃ model, load namesDocument.compact = .ok model ∧
      load notedNamesDocument.compact = .ok model := by
  obtain ⟨model, read⟩ : ∃ model, readModel namesDocument = .ok model :=
    exists_eq_ok_of_isOk (by decide +kernel)
  have loaded : load namesDocument.compact = .ok model :=
    load_eq_ok_iff.2 ⟨_, parse_namesDocument, read⟩
  obtain ⟨document, parsed, alike⟩ := load_of_rearranged loaded
  rw [parse_namesDocument] at parsed
  cases parsed
  exact ⟨model, loaded, (alike _ rearranged_namesDocument).2 _ parse_notedNamesDocument⟩

end GrammarModel

end AstGrammar
