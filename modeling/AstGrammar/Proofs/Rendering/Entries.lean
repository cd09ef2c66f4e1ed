import Mathlib.Data.List.Forall2
import AstGrammar.Proofs.Document.Collection
import AstGrammar.Proofs.Registry
import AstGrammar.Session

/-!
# Rendering all entries

The text of a whole session is one text after the other, in the order of its
names.  A name looks the node up first, so where a named type has the name of
a node, the node is written a second time and the named type is not written.
All entries are written, each once, exactly when no name stands in both
registries.
-/

namespace AstGrammar

namespace GrammarModel

/-- The entries of a model with their names: the nodes and then the named
types, in order of definition. -/
def entries (model : GrammarModel) : List (String × Entry) :=
  model.nodes.entries.map (fun entry => (entry.1, .node entry.2)) ++
    model.namedTypes.entries.map fun entry => (entry.1, .namedType entry.2)

/-- What the names of a model stand for: as `entries`, with a node in the place
of a named type that has its name. -/
def shownEntries (model : GrammarModel) : List (String × Entry) :=
  model.nodes.entries.map (fun entry => (entry.1, .node entry.2)) ++
    model.namedTypes.entries.map fun entry =>
      (entry.1, ((model.node? entry.1).map .node).getD (.namedType entry.2))

variable (model : GrammarModel)

theorem resolve_of_mem_nodes {entry : String × Node} (member : entry ∈ model.nodes.entries) :
    model.resolve entry.1 = some (.node entry.2) := by
  rw [resolve, node?, Registry.find?_of_mem_entries member]

theorem resolve_of_mem_namedTypes {entry : String × NamedType}
    (member : entry ∈ model.namedTypes.entries) :
    model.resolve entry.1 =
      some (((model.node? entry.1).map .node).getD (.namedType entry.2)) := by
  rw [resolve]
  cases model.node? entry.1 with
  | some node => rfl
  | none =>
      rw [namedType?, Registry.find?_of_mem_entries member]
      rfl

/-- The names, looked up one by one, give the shown entries. -/
theorem map_resolve_names :
    model.names.map (fun name => (name, model.resolve name)) =
      model.shownEntries.map fun entry => (entry.1, some entry.2) := by
  simp only [names, Registry.names, shownEntries, List.map_append, List.map_map]
  congr 1
  · apply List.map_congr_left
    intro entry member
    simp only [Function.comp_apply, model.resolve_of_mem_nodes member]
  · apply List.map_congr_left
    intro entry member
    simp only [Function.comp_apply, model.resolve_of_mem_namedTypes member]

/-- No named type is hidden exactly when no name stands in both registries. -/
theorem shownEntries_eq_entries_iff :
    model.shownEntries = model.entries ↔
      ∀ name ∈ model.nodes.names, name ∉ model.namedTypes.names := by
  rw [shownEntries, entries, List.append_cancel_left_eq, List.map_inj_left]
  constructor
  · intro shown name isNode isNamedType
    obtain ⟨entry, member, rfl⟩ := List.mem_map.1 isNamedType
    cases found : model.node? entry.1 with
    | none => exact Registry.find?_eq_none_iff.1 found isNode
    | some node =>
        have same := shown entry member
        simp [found] at same
  · intro distinct entry member
    have absent : model.node? entry.1 = none := by
      rw [node?, Registry.find?_eq_none_iff]
      intro isNode
      exact distinct entry.1 isNode (List.mem_map_of_mem member)
    rw [absent]
    rfl

end GrammarModel

namespace Rendering

/-- The texts belong to the entries, one to each. -/
def AreTexts (options : RenderOptions) (entries : List (String × Entry)) (texts : List String) :
    Prop :=
  List.Forall₂ (fun entry text => render options entry.1 (some entry.2) = .ok text) entries texts

/-- The names of a model are rendered by joining their texts, all of which have
to exist. -/
theorem renderNames_eq_ok_iff {options : RenderOptions} {model : GrammarModel}
    {names : List String} {text : String} :
    renderNames options model names = .ok text ↔
      ∃ texts, List.Forall₂ (fun name text =>
          render options name (model.resolve name) = .ok text) names texts ∧
        text = String.join texts := by
  induction names generalizing text with
  | nil => simp [renderNames, eq_comm]
  | cons name rest ih =>
      rw [renderNames]
      cases rendered : render options name (model.resolve name) with
      | error error =>
          simp only [reduceCtorEq, false_iff]
          rintro ⟨texts, renders, -⟩
          cases renders with
          | cons first _ =>
              rw [rendered] at first
              cases first
      | ok front =>
          constructor
          · intro joined
            cases others : renderNames options model rest with
            | error error =>
                rw [others] at joined
                cases joined
            | ok back =>
                rw [others] at joined
                cases joined
                obtain ⟨texts, renders, rfl⟩ := ih.1 others
                exact ⟨front :: texts, .cons rendered renders, String.join_cons.symm⟩
          · rintro ⟨texts, renders, rfl⟩
            cases renders with
            | cons first others =>
                rw [rendered, Except.ok.injEq] at first
                dsimp only
                rw [ih.2 ⟨_, others, rfl⟩, String.join_cons, first]
                rfl

end Rendering

namespace Session

/-- A session is rendered whole when all its shown entries are, and its text is
theirs in order. These are all entries of the model, each once, exactly when no
node has the name of a named type. -/
theorem renderAll_eq_ok_iff (session : Session) :
    (∀ text, session.renderAll = .ok text ↔
      ∃ texts, Rendering.AreTexts session.options session.model.shownEntries texts ∧
        text = String.join texts) ∧
    (session.model.shownEntries = session.model.entries ↔
      ∀ name ∈ session.model.nodes.names, name ∉ session.model.namedTypes.names) := by
  refine ⟨fun text => ?_, session.model.shownEntries_eq_entries_iff⟩
  have renders (texts : List String) :
      List.Forall₂ (fun name text =>
          Rendering.render session.options name (session.model.resolve name) = .ok text)
        session.model.names texts ↔
      Rendering.AreTexts session.options session.model.shownEntries texts := by
    let holds : String × Option Entry → String → Prop := fun found text =>
      Rendering.render session.options found.1 found.2 = .ok text
    calc
      _ ↔ List.Forall₂ holds
          (session.model.names.map fun name => (name, session.model.resolve name)) texts :=
        List.forall₂_map_left_iff.symm
      _ ↔ List.Forall₂ holds
          (session.model.shownEntries.map fun entry => (entry.1, some entry.2)) texts := by
        rw [session.model.map_resolve_names]
      _ ↔ _ := List.forall₂_map_left_iff
  rw [renderAll, Session.renderNames, Rendering.renderNames_eq_ok_iff]
  simp only [names, renders]

/-- A grammar with a node and a named type of one name. -/
def sharedSource : GrammarSource where
  grammar :=
    "\x7b\"nodes\":\x7b\"List\":" ++
      "\x7b\"parents\":[],\"children\":[],\"attributes\":[]\x7d\x7d," ++
      "\"namedTypes\":\x7b\"List\":\x7b\"kind\":\"list\",\"argument\":\"Name\"\x7d\x7d\x7d"
  hints := none

/-- The named type is not written: the text of this session is not that of its
entries. -/
theorem renderAll_sharedSource :
    ∃ session text, load .standard sharedSource = .ok session ∧
      session.renderAll = .ok text ∧
      ¬ ∃ texts, Rendering.AreTexts session.options session.model.entries texts ∧
        text = String.join texts := by
  let node : Node := ⟨[], [], []⟩
  let namedType : NamedType := .ofExpression (.labelled .list "Name")
  have loads : (load .standard sharedSource).toOption.map
      (fun session => (session.model.nodes.entries, session.model.namedTypes.entries,
        session.options)) =
        some ([("List", node)], [("List", namedType)], .standard) := by
    decide +kernel
  obtain ⟨⟨⟨⟨nodes, _⟩, ⟨namedTypes, _⟩⟩, options, warnings⟩, loaded, seen⟩ :=
    Option.map_eq_some_iff.1 loads
  simp only [Prod.mk.injEq] at seen
  obtain ⟨rfl, rfl, rfl⟩ := seen
  let nodeText := "List\nno attributes, children:\n\n"
  have front : Rendering.render .standard "List" (some (.node node)) = .ok nodeText := rfl
  have back : Rendering.render .standard "List" (some (.namedType namedType)) =
      .ok "List\nkind: list\nName\n\n" := rfl
  refine ⟨_, nodeText ++ nodeText, eq_ok_of_toOption_eq_some loaded, rfl, ?_⟩
  rintro ⟨texts, areTexts, joined⟩
  obtain ⟨first, rest, firstText, restTexts, rfl⟩ := List.forall₂_cons_left_iff.1 areTexts
  obtain ⟨second, others, secondText, noTexts, rfl⟩ := List.forall₂_cons_left_iff.1 restTexts
  rw [List.forall₂_nil_left_iff.1 noTexts] at joined
  rw [front] at firstText
  rw [back] at secondText
  cases firstText
  cases secondText
  revert joined
  decide

end Session

end AstGrammar
