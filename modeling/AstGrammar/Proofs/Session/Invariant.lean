import AstGrammar.Proofs.Document.Collection
import AstGrammar.Proofs.Edit.Step
import AstGrammar.Proofs.Session.Loading

/-!
# Invariants of a session

A predicate on entries holds of every entry of a session in all states that
edits pass through, once it holds of what the document gives, and once neither
the hints nor an accepted edit can break it.
-/

namespace AstGrammar

/-- The predicate holds of all nodes and all named types of the model. -/
structure GrammarModel.EveryEntry (holds : Entry → Prop) (model : GrammarModel) : Prop where
  nodes : ∀ entry ∈ model.nodes.entries, holds (.node entry.2)
  namedTypes : ∀ entry ∈ model.namedTypes.entries, holds (.namedType entry.2)

variable {holds : Entry → Prop}

namespace GrammarModel

variable {model : GrammarModel}

theorem EveryEntry.of_resolve (every : model.EveryEntry holds) {name : String} {entry : Entry}
    (resolved : model.resolve name = some entry) : holds entry := by
  rcases resolve_eq_some_iff.1 resolved with ⟨held, node, rfl⟩ | ⟨-, held, namedType, rfl⟩
  · exact every.nodes _ (Registry.mem_entries_of_find? node)
  · exact every.namedTypes _ (Registry.mem_entries_of_find? namedType)

theorem EveryEntry.replace (every : model.EveryEntry holds) (name : String) {entry : Entry}
    (replaced : holds entry) : (model.replace name entry).EveryEntry holds := by
  cases entry with
  | node node =>
      refine ⟨fun entry member => ?_, every.namedTypes⟩
      rcases Registry.mem_entries_modify member with held | ⟨_, _, equal⟩
      · exact every.nodes entry held
      · rw [equal]
        exact replaced
  | namedType namedType =>
      refine ⟨every.nodes, fun entry member => ?_⟩
      rcases Registry.mem_entries_modify member with held | ⟨_, _, equal⟩
      · exact every.namedTypes entry held
      · rw [equal]
        exact replaced

/-- An accepted edit touches one entry, so only that one has to be looked at. -/
theorem EveryEntry.edit (every : model.EveryEntry holds) {edit : Edit}
    (preserves : ∀ entry, holds entry → (edit.newType entry.attributes).fault? = none →
      holds (edit.edited entry))
    {result : GrammarModel} {outcome : EditOutcome}
    (accepted : model.edit edit = .ok (result, outcome)) : result.EveryEntry holds := by
  obtain ⟨entry, resolved, clean, rfl, -⟩ := edit_eq_ok_iff.1 accepted
  exact every.replace edit.entry (preserves entry (every.of_resolve resolved) clean)

theorem EveryEntry.applySection (every : model.EveryEntry holds)
    (preserves : ∀ node hints, holds (.node node) → holds (.node (node.reorder hints)))
    (name : String) (held : AttributeOrder.Section) :
    (AttributeOrder.applySection model name held).EveryEntry holds := by
  refine ⟨fun entry member => ?_, every.namedTypes⟩
  rcases Registry.mem_entries_modify member with kept | ⟨node, nodeMember, equal⟩
  · exact every.nodes entry kept
  · rw [equal]
    exact preserves node held.names (every.nodes _ nodeMember)

theorem EveryEntry.applyOrder (every : model.EveryEntry holds)
    (preserves : ∀ node hints, holds (.node node) → holds (.node (node.reorder hints)))
    (order : AttributeOrder) : (order.apply model).1.EveryEntry holds := by
  rw [AttributeOrder.apply]
  induction order.sections.entries generalizing model with
  | nil => exact every
  | cons first rest ih =>
      obtain ⟨name, held⟩ := first
      exact ih (every.applySection preserves name held)

end GrammarModel

namespace Session

/-- The model of a loaded session is the model of the document, perhaps after
hints were applied to it. -/
theorem exists_model_of_load {settings : Settings} {source : GrammarSource} {session : Session}
    (loaded : load settings source = .ok session) :
    ∃ model, GrammarModel.load source.grammar = .ok model ∧
      (session.model = model ∨
        ∃ order : AttributeOrder, session.model = (order.apply model).1) := by
  obtain ⟨ordered, warnings, sourceLoaded, -, rfl⟩ := load_eq_ok_iff.1 loaded
  obtain ⟨model, grammar, withHints⟩ := GrammarSource.load_eq_ok_iff.1 sourceLoaded
  refine ⟨model, grammar, ?_⟩
  rcases withHints with ⟨-, same, -⟩ | ⟨hints, order, -, -, applied⟩
  · exact Or.inl same
  · exact Or.inr ⟨order, by rw [applied]; rfl⟩

/-- What holds of every acceptable entry, and of a node however its attributes
are reordered, holds of every entry of a loaded session. -/
theorem everyEntry_of_load
    (readNode : ∀ raw node, Document.readNode raw = .ok node → holds (.node node))
    (readNamedType : ∀ raw namedType, Document.readNamedType raw = .ok namedType →
      holds (.namedType namedType))
    (preserves : ∀ node hints, holds (.node node) → holds (.node (node.reorder hints)))
    {settings : Settings} {source : GrammarSource} {session : Session}
    (loaded : load settings source = .ok session) : session.model.EveryEntry holds := by
  obtain ⟨model, modelLoaded, ordered⟩ := exists_model_of_load loaded
  have every : model.EveryEntry holds := by
    obtain ⟨document, -, read⟩ := GrammarModel.load_eq_ok_iff.1 modelLoaded
    obtain ⟨nodes, namedTypes⟩ := Document.exists_read_of_readModel read
    refine ⟨fun entry member => ?_, fun entry member => ?_⟩
    · obtain ⟨raw, given⟩ := nodes entry member
      exact readNode raw entry.2 given
    · obtain ⟨raw, given⟩ := namedTypes entry member
      exact readNamedType raw entry.2 given
  rcases ordered with same | ⟨order, same⟩
  · rw [same]
    exact every
  · rw [same]
    exact every.applyOrder preserves order

theorem everyEntry_afterEdit {session : Session} (every : session.model.EveryEntry holds)
    {edit : Edit}
    (preserves : ∀ entry, holds entry → (edit.newType entry.attributes).fault? = none →
      holds (edit.edited entry)) :
    (session.afterEdit edit).model.EveryEntry holds := by
  rcases session.model_afterEdit_cases edit with same | ⟨outcome, accepted⟩
  · rw [same]
    exact every
  · exact every.edit preserves accepted

/-- What holds of every entry of a session and survives each edit holds in all
states that the edits pass through. -/
theorem everyEntry_of_mem_states {session : Session} (every : session.model.EveryEntry holds)
    {edits : List Edit}
    (preserves : ∀ edit ∈ edits, ∀ entry, holds entry →
      (edit.newType entry.attributes).fault? = none → holds (edit.edited entry)) :
    ∀ state ∈ session.states edits, state.model.EveryEntry holds := by
  induction edits generalizing session with
  | nil =>
      intro state member
      rw [states, List.mem_singleton] at member
      rw [member]
      exact every
  | cons edit rest ih =>
      intro state member
      rw [states, List.mem_cons] at member
      rcases member with here | later
      · rw [here]
        exact every
      · apply ih (everyEntry_afterEdit every (preserves edit List.mem_cons_self)) _ state later
        exact fun other otherMember => preserves other (List.mem_cons_of_mem _ otherMember)

/-- A grammar and hints that can be read are loaded when nothing is configured,
whatever the hints say. -/
theorem exists_load_standard {grammar hints : String} {model : GrammarModel}
    {order : AttributeOrder} (loaded : GrammarModel.load grammar = .ok model)
    (parsed : AttributeOrder.parse hints = .ok order) :
    ∃ session, load .standard ⟨grammar, some hints⟩ = .ok session := by
  have read : GrammarSource.load ⟨grammar, some hints⟩ = .ok (order.apply model) :=
    GrammarSource.load_eq_ok_iff.2 ⟨model, loaded, .inr ⟨hints, order, rfl, parsed, rfl⟩⟩
  exact ⟨_, load_eq_ok_iff.2 ⟨_, _, read, nofun, rfl⟩⟩

/-- The grammar of calls with a hint that moves its second attribute. -/
def callSource : GrammarSource := ⟨GrammarModel.callGrammar, some "Call\n to\n"⟩

/-- An edit of the union that is refused, one that keeps an old kind and one
of a named type. -/
def callEdits : List Edit :=
  [⟨"Call", "to", .argument (.alternatives [.labelled .unspecified "A"])⟩,
    ⟨"Call", "of", .argument (.label "Path")⟩,
    ⟨"Names", "size", .type (.labelled .value "Nat")⟩]

theorem exists_load_callSource : ∃ session, load .standard callSource = .ok session := by
  obtain ⟨model, loaded⟩ := GrammarModel.exists_load_callGrammar
  have readable : (AttributeOrder.parse "Call\n to\n").isOk = true := by decide +kernel
  obtain ⟨order, parsed⟩ := exists_eq_ok_of_isOk readable
  exact exists_load_standard loaded parsed

end Session

end AstGrammar
