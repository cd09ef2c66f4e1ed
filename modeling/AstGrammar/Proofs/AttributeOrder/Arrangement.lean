import AstGrammar.Proofs.AttributeOrder.Application
import AstGrammar.Proofs.AttributeOrder.Parse
import AstGrammar.Proofs.AttributeOrder.Reorder

/-!
# What an order makes of a model

An order puts the hinted attributes of each node first and warns about what it says
of the model that does not hold, in the order of its text.  Both depend on which
names there are and not on their order, and no name comes or goes, so applying the
order again gives the same model and the same warnings.
-/

namespace AstGrammar.AttributeOrder

/-- What a section says that does not hold of a model: that there is a node, or
that the node has an attribute. -/
def Section.mismatches (model : GrammarModel) (name : String) (held : Section) :
    List Diagnostic :=
  match model.node? name with
  | none =>
      [⟨.warning, some .unknownNode, s!"no node named `{name}` to order",
        [⟨held.span, "unknown node", true⟩], none⟩]
  | some node =>
      (held.attributes.filter fun hint => hint.name ∉ node.attributes.map Attribute.name).map
        fun hint =>
          ⟨.warning, some .unknownAttribute, s!"node `{name}` has no attribute `{hint.name}`",
            [⟨hint.span, "unknown attribute", true⟩], none⟩

/-- What an order says that does not hold of a model, section by section. -/
def mismatches (order : AttributeOrder) (model : GrammarModel) : List Diagnostic :=
  order.sections.entries.flatMap fun entry => entry.2.mismatches model entry.1

/-- A node as the order has it: with a section, its hinted attributes first. -/
def arrangedNode (order : AttributeOrder) (name : String) (node : Node) : Node :=
  match order.sections.find? name with
  | none => node
  | some held => { node with attributes := Attribute.arrange held.names node.attributes }

theorem sectionWarnings_eq_mismatches {model : GrammarModel} {name : String} {held : Section}
    (namesNodup : held.names.Nodup)
    (nodup : ∀ node, model.node? name = some node → (node.attributes.map Attribute.name).Nodup) :
    sectionWarnings model name held = held.mismatches model name := by
  rw [sectionWarnings, Section.mismatches]
  cases found : model.node? name with
  | none => rfl
  | some node =>
      dsimp only
      rw [Node.unknownHints, Attribute.reorder_eq_of_nodup namesNodup (nodup node found)]
      dsimp only
      rw [Section.names, List.filter_map, List.map_map]
      apply List.map_congr_left
      intro hint member
      have placed := find?_key_of_mem Hint.name namesNodup (List.mem_filter.1 member).1
      rw [Function.comp_apply, unknownAttribute, placed]
      rfl

/-- No section lists an attribute twice. -/
def IsTidy (order : AttributeOrder) : Prop :=
  ∀ entry ∈ order.sections.entries, entry.2.names.Nodup

variable {order : AttributeOrder} {model : GrammarModel}

section Nodes

variable {name : String} {node : Node} (tidy : order.IsTidy)
  (nodup : (node.attributes.map Attribute.name).Nodup)

include tidy nodup

theorem attributes_arrangedNode_perm :
    (order.arrangedNode name node).attributes.Perm node.attributes := by
  rw [arrangedNode]
  split
  · exact .refl _
  · next held found =>
      exact Attribute.arrange_perm (tidy _ (Registry.mem_entries_of_find? found)) nodup

theorem arrangedNode_arrangedNode :
    order.arrangedNode name (order.arrangedNode name node) = order.arrangedNode name node := by
  rw [arrangedNode, arrangedNode]
  cases found : order.sections.find? name with
  | none => rfl
  | some held =>
      dsimp only
      rw [Attribute.arrange_arrange (tidy _ (Registry.mem_entries_of_find? found)) nodup]

/-- A node is reordered by its section as the order has it. -/
theorem elim_reorder_eq_arrangedNode :
    ((order.sections.find? name).elim node fun held => node.reorder held.names) =
      order.arrangedNode name node := by
  rw [arrangedNode]
  cases found : order.sections.find? name with
  | none => rfl
  | some held =>
      have namesNodup := tidy _ (Registry.mem_entries_of_find? found)
      rw [Option.elim_some, Node.reorder, Attribute.reorder_eq_of_nodup namesNodup nodup]

end Nodes

section Apply

variable (tidy : order.IsTidy)
  (distinct : ∀ entry ∈ model.nodes.entries, (entry.2.attributes.map Attribute.name).Nodup)

include tidy distinct

theorem nodes_apply :
    (order.apply model).1.nodes.entries =
      model.nodes.entries.map fun entry => (entry.1, order.arrangedNode entry.1 entry.2) := by
  rw [apply, nodes_applySections order.sections.nodup]
  apply List.map_congr_left
  intro entry member
  exact congrArg (entry.1, ·) (elim_reorder_eq_arrangedNode tidy (distinct entry member))

theorem node?_apply (name : String) :
    (order.apply model).1.node? name = (model.node? name).map (order.arrangedNode name) := by
  rw [GrammarModel.node?, Registry.find?, nodes_apply tidy distinct, Entries.lookup_map_values]
  rfl

theorem warnings_apply : (order.apply model).2 = order.mismatches model := by
  rw [apply, warnings_applySections order.sections.nodup, mismatches]
  apply List.flatMap_congr
  intro entry member
  apply sectionWarnings_eq_mismatches (tidy entry member)
  intro node found
  exact distinct _ (Registry.mem_entries_of_find? found)

/-- What does not hold of a model does not hold of the ordered one. -/
theorem mismatches_apply : order.mismatches (order.apply model).1 = order.mismatches model := by
  apply List.flatMap_congr
  intro entry _
  rw [Section.mismatches, Section.mismatches, node?_apply tidy distinct]
  cases found : model.node? entry.1 with
  | none => rfl
  | some node =>
      have nodup := distinct _ (Registry.mem_entries_of_find? found)
      have perm : (order.arrangedNode entry.1 node).attributes.Perm node.attributes :=
        attributes_arrangedNode_perm tidy nodup
      dsimp only [Option.map_some]
      congr 1
      apply List.filter_congr
      intro hint _
      exact decide_eq_decide.2 (not_congr (perm.map Attribute.name).mem_iff)

theorem nodup_names_apply :
    ∀ entry ∈ (order.apply model).1.nodes.entries,
      (entry.2.attributes.map Attribute.name).Nodup := by
  rw [nodes_apply tidy distinct]
  intro entry member
  obtain ⟨source, sourceMember, rfl⟩ := List.mem_map.1 member
  have nodup := distinct source sourceMember
  exact ((attributes_arrangedNode_perm tidy nodup).map _).nodup_iff.2 nodup

/-- Applying an order again changes nothing and warns about the same. -/
theorem apply_apply : order.apply (order.apply model).1 = order.apply model := by
  have again := nodup_names_apply tidy distinct
  have nodes : (order.apply (order.apply model).1).1.nodes = (order.apply model).1.nodes := by
    apply Registry.eq_of_entries_eq
    rw [nodes_apply tidy again, nodes_apply tidy distinct, List.map_map]
    apply List.map_congr_left
    intro entry member
    rw [Function.comp_apply, arrangedNode_arrangedNode tidy (distinct entry member)]
  have namedTypes : (order.apply (order.apply model).1).1.namedTypes =
      (order.apply model).1.namedTypes :=
    namedTypes_applySections _ _
  have warnings : (order.apply (order.apply model).1).2 = (order.apply model).2 := by
    rw [warnings_apply tidy again, warnings_apply tidy distinct, mismatches_apply tidy distinct]
  exact Prod.ext (congrArg₂ GrammarModel.mk nodes namedTypes) warnings

end Apply

/-- The warnings about a section are labelled with places in it, in their order. -/
theorem Section.labels_mismatches_sublist (model : GrammarModel) (name : String)
    (held : Section) :
    (((held.mismatches model name).flatMap Diagnostic.labels).map Label.span).Sublist
      (((held.lines name).filterMap Line.hint?).map Hint.span) := by
  have hints : (held.lines name).filterMap Line.hint? = ⟨name, held.span⟩ :: held.attributes := by
    rw [Section.lines, List.filterMap_cons, List.filterMap_map]
    simp [Line.hint?, Function.comp_def]
  rw [hints, Section.mismatches]
  cases model.node? name with
  | none => simp
  | some node =>
      simp only [List.flatMap_map, List.map_flatMap, List.map_cons, List.map_nil]
      rw [← List.map_eq_flatMap]
      exact (List.filter_sublist.map _).cons _

/-- The places that the warnings point to are names of the order, in their order. -/
theorem labels_mismatches_sublist (order : AttributeOrder) (model : GrammarModel) :
    (((order.mismatches model).flatMap Diagnostic.labels).map Label.span).Sublist
      (order.hints.map Hint.span) := by
  rw [mismatches, hints, lines, sectionLines]
  induction order.sections.entries with
  | nil => exact .slnil
  | cons first rest ih =>
      simp only [List.flatMap_cons, List.flatMap_append, List.filterMap_append, List.map_append]
      exact (first.2.labels_mismatches_sublist model first.1).append ih

/-- An order that was read puts the hinted attributes of each node first and
changes nothing else. It warns, in the order of its text, about every name in it
that the model lacks. Applying it again changes nothing and warns about the same. -/
theorem apply_of_parse {text : String} (parsed : parse text = .ok order)
    (distinct : ∀ entry ∈ model.nodes.entries, (entry.2.attributes.map Attribute.name).Nodup) :
    (order.apply model).1.nodes.entries =
        model.nodes.entries.map (fun entry => (entry.1, order.arrangedNode entry.1 entry.2)) ∧
      (order.apply model).1.namedTypes = model.namedTypes ∧
      (∀ entry ∈ model.nodes.entries,
        (order.arrangedNode entry.1 entry.2).attributes.Perm entry.2.attributes) ∧
      (order.apply model).2 = order.mismatches model ∧
      ((order.apply model).2.flatMap Diagnostic.labels).Pairwise
        (fun earlier later => earlier.span.start < later.span.start) ∧
      order.apply (order.apply model).1 = order.apply model := by
  have tidy : order.IsTidy := nodup_names_of_parse parsed
  have inOrder : ((order.mismatches model).flatMap Diagnostic.labels).Pairwise
      fun earlier later => earlier.span.start < later.span.start := by
    have starts : (order.hints.map Hint.span).Pairwise fun earlier later =>
        earlier.start < later.start :=
      List.pairwise_map.2 (pairwise_start_hints parsed)
    have sorted := starts.sublist (order.labels_mismatches_sublist model)
    rw [List.pairwise_map] at sorted
    exact sorted
  have warnings := warnings_apply tidy distinct
  refine ⟨nodes_apply tidy distinct, namedTypes_applySections _ _, ?_, warnings, ?_,
    apply_apply tidy distinct⟩
  · intro entry member
    exact attributes_arrangedNode_perm tidy (distinct entry member)
  · rw [warnings]
    exact inOrder

/-- A model with one node, for calls, that has two attributes. -/
def callModel : GrammarModel :=
  GrammarModel.empty.insertNode "Call"
    ⟨[], [], [⟨"of", .labelled .value "Path"⟩, ⟨"to", .labelled .value "Name"⟩]⟩

/-- Hints that move the second attribute, with a name that no attribute has and
one that no node has. -/
def callHints : String := "Call\n to # first\r\n size\nUses\n"

theorem apply_callHints :
    ∃ order, parse callHints = .ok order ∧
      (∀ entry ∈ callModel.nodes.entries, (entry.2.attributes.map Attribute.name).Nodup) ∧
      (order.apply callModel).2 = order.mismatches callModel ∧
      order.apply (order.apply callModel).1 = order.apply callModel := by
  have readable : (parse callHints).isOk = true := by decide +kernel
  have distinct : ∀ entry ∈ callModel.nodes.entries,
      (entry.2.attributes.map Attribute.name).Nodup := by decide
  cases parsed : parse callHints with
  | error diagnostics =>
      rw [parsed] at readable
      cases readable
  | ok order =>
      obtain ⟨-, -, -, warnings, -, again⟩ := apply_of_parse parsed distinct
      exact ⟨order, rfl, distinct, warnings, again⟩

end AstGrammar.AttributeOrder
