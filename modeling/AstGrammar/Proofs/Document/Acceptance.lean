import AstGrammar.Proofs.Document.Collection
import AstGrammar.Proofs.Document.Entry
import AstGrammar.Proofs.Json.DistinctNames

/-!
# The documents that are accepted

A text that is JSON gives a model exactly when its document has both
collections and all their members are acceptable entries.  The model then has
one entry for each member, with its name and decoded value, in the order of
the document.
-/

namespace AstGrammar

namespace Document

/-- The document is an object with an object of these members under a name. -/
def HasCollection (document : Json) (name : String) (members : List (String × Json)) : Prop :=
  ∃ fields, document = .object fields ∧ Json.member? name fields = some (.object members)

theorem collection?_eq_some_iff {shape : Shape} {document : Json}
    {members : List (String × Json)} :
    collection? shape document = some members ↔
      HasCollection document shape.collection members := by
  unfold collection? HasCollection
  cases document with
  | object fields =>
      cases found : Json.member? shape.collection fields with
      | none => simp [found]
      | some held => cases held <;> simp [found]
  | _ => simp

theorem hasDistinctEntries_of_hasDistinctNames {document : Json}
    (distinct : document.HasDistinctNames) : HasDistinctEntries document := by
  intro shape members found
  obtain ⟨fields, rfl, held⟩ := collection?_eq_some_iff.1 found
  cases distinct.of_member? held with
  | object nodup _ => exact nodup

section Reads

variable {α : Type} {read : Json → Except (List EntryProblem) α}
  {members : List (String × Json)}

/-- Members that are all accepted are read as some registry. -/
theorem exists_reads_iff (reported : ∀ raw, read raw ≠ .error [])
    (nodup : (members.map Prod.fst).Nodup) :
    (∃ registry, Reads read members registry) ↔
      ∀ member ∈ members, ∃ value, read member.2 = .ok value := by
  constructor
  · rintro ⟨registry, reads⟩ member held
    have image : (member.1, read member.2) ∈
        registry.entries.map fun entry => (entry.1, (.ok entry.2 : Except _ α)) := by
      rw [← reads]
      exact List.mem_map_of_mem held
    obtain ⟨entry, -, equal⟩ := List.mem_map.1 image
    exact ⟨entry.2, (congrArg Prod.snd equal).symm⟩
  · intro accepted
    have clean : members.flatMap (memberProblems read) = [] := by
      rw [List.flatMap_eq_nil_iff]
      intro member held
      obtain ⟨value, valueRead⟩ := accepted member held
      rw [memberProblems, valueRead]
    have reads := (flatMap_memberProblems_eq_nil_iff reported members _).1 ⟨clean, rfl⟩
    have names : (members.filterMap (loadedMember? read)).map Prod.fst =
        members.map Prod.fst := by
      have := congrArg (List.map Prod.fst) reads
      simpa [Function.comp_def] using this.symm
    exact ⟨⟨members.filterMap (loadedMember? read), names ▸ nodup⟩, reads⟩

end Reads

/-- What is read is what is decoded. -/
theorem Reads.decoded {α : Type} {read : Json → Except (List EntryProblem) α}
    {decode : Json → Codec.Decoded α}
    (decodes : ∀ raw value, read raw = .ok value → decode raw = .ok value)
    {members : List (String × Json)} {registry : Registry α}
    (reads : Reads read members registry) :
    members.map (fun member => (member.1, decode member.2)) =
      registry.entries.map fun entry => (entry.1, .ok entry.2) := by
  rw [Reads] at reads
  generalize registry.entries = entries at reads ⊢
  induction members generalizing entries with
  | nil =>
      cases entries with
      | nil => rfl
      | cons entry others => simp at reads
  | cons member rest ih =>
      cases entries with
      | nil => simp at reads
      | cons entry others =>
          simp only [List.map_cons, List.cons.injEq, Prod.mk.injEq] at reads ⊢
          obtain ⟨⟨name, value⟩, restReads⟩ := reads
          exact ⟨⟨name, decodes member.2 entry.2 value⟩, ih others restReads⟩

end Document

namespace GrammarModel

open Document

/-- A text that is JSON gives a model exactly when its document has both
collections and all their members are acceptable. The entries of the model are
then the decoded members, in the order of the document. -/
theorem load_of_parse {text : String} {document : Json}
    (parsed : Json.parse text = .ok document) :
    ((∃ model, load text = .ok model) ↔
      ∃ nodes namedTypes, HasCollection document "nodes" nodes ∧
        HasCollection document "namedTypes" namedTypes ∧
        (∀ member ∈ nodes, ∃ node, IsNode member.2 node) ∧
        ∀ member ∈ namedTypes, ∃ namedType, IsNamedType member.2 namedType) ∧
    ∀ model, load text = .ok model →
      ∃ nodes namedTypes, HasCollection document "nodes" nodes ∧
        HasCollection document "namedTypes" namedTypes ∧
        nodes.map (fun member => (member.1, Codec.decodeNode member.2)) =
          model.nodes.entries.map (fun entry => (entry.1, .ok entry.2)) ∧
        namedTypes.map (fun member => (member.1, Codec.decodeNamedType member.2)) =
          model.namedTypes.entries.map fun entry => (entry.1, .ok entry.2) := by
  have distinct := hasDistinctEntries_of_hasDistinctNames
    (Json.hasDistinctNames_of_parse parsed)
  have loads (model : GrammarModel) :
      load text = .ok model ↔ readModel document = .ok model := by
    simp [load_eq_ok_iff, parsed]
  simp only [loads, readModel_eq_ok_iff distinct, collection?_eq_some_iff, Shape.collection]
  constructor
  · constructor
    · rintro ⟨model, ⟨nodes, hasNodes, nodesRead⟩, namedTypes, hasTypes, typesRead⟩
      refine ⟨nodes, namedTypes, hasNodes, hasTypes, ?_, ?_⟩
      · have nodup := distinct .node nodes (collection?_eq_some_iff.2 hasNodes)
        simp only [← readNode_eq_ok_iff]
        exact (exists_reads_iff readNode_ne_error_nil nodup).1 ⟨model.nodes, nodesRead⟩
      · have nodup := distinct .namedType namedTypes (collection?_eq_some_iff.2 hasTypes)
        simp only [← readNamedType_eq_ok_iff]
        exact (exists_reads_iff readNamedType_ne_error_nil nodup).1
          ⟨model.namedTypes, typesRead⟩
    · rintro ⟨nodes, namedTypes, hasNodes, hasTypes, nodesAccepted, typesAccepted⟩
      simp only [← readNode_eq_ok_iff] at nodesAccepted
      simp only [← readNamedType_eq_ok_iff] at typesAccepted
      have nodesNodup := distinct .node nodes (collection?_eq_some_iff.2 hasNodes)
      have typesNodup := distinct .namedType namedTypes (collection?_eq_some_iff.2 hasTypes)
      obtain ⟨nodeRegistry, nodesRead⟩ :=
        (exists_reads_iff readNode_ne_error_nil nodesNodup).2 nodesAccepted
      obtain ⟨typeRegistry, typesRead⟩ :=
        (exists_reads_iff readNamedType_ne_error_nil typesNodup).2 typesAccepted
      exact ⟨⟨nodeRegistry, typeRegistry⟩, ⟨nodes, hasNodes, nodesRead⟩,
        namedTypes, hasTypes, typesRead⟩
  · rintro model ⟨⟨nodes, hasNodes, nodesRead⟩, namedTypes, hasTypes, typesRead⟩
    refine ⟨nodes, namedTypes, hasNodes, hasTypes, ?_, ?_⟩
    · exact nodesRead.decoded fun raw node read => (readNode_eq_ok_iff.1 read).decoded
    · exact typesRead.decoded fun raw namedType read =>
        (readNamedType_eq_ok_iff.1 read).decoded

theorem hasCollections_callGrammar :
    ∃ document, Json.parse callGrammar = .ok document ∧
      ∃ nodes namedTypes, HasCollection document "nodes" nodes ∧
        HasCollection document "namedTypes" namedTypes ∧
        (∀ member ∈ nodes, ∃ node, IsNode member.2 node) ∧
        ∀ member ∈ namedTypes, ∃ namedType, IsNamedType member.2 namedType := by
  obtain ⟨model, loaded⟩ := exists_load_callGrammar
  obtain ⟨document, parsed, -⟩ := load_eq_ok_iff.1 loaded
  exact ⟨document, parsed, (load_of_parse parsed).1.1 ⟨model, loaded⟩⟩

end GrammarModel

end AstGrammar
