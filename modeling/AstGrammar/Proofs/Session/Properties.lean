import AstGrammar.Proofs.AttributeOrder.Application
import AstGrammar.Proofs.Session.Invariant

/-!
# Properties of named types

Edits keep the properties of a named type distinct in name and free of faults,
but a document may give properties that are neither: loading takes them as they
are.  So they stay valid through all edits exactly when the document gives
valid ones.
-/

namespace AstGrammar

/-- The entry is a node, or its properties are valid. -/
def Entry.HasValidProperties : Entry → Prop
  | .node _ => True
  | .namedType held => Attribute.AreValid held.properties

theorem Entry.HasValidProperties.edited {entry : Entry} (valid : entry.HasValidProperties)
    {edit : Edit} (clean : (edit.newType entry.attributes).fault? = none) :
    (edit.edited entry).HasValidProperties := by
  cases entry with
  | node node => trivial
  | namedType namedType => exact Attribute.AreValid.setType valid edit.field clean

/-- The properties of all named types of the model are valid. -/
def GrammarModel.HasValidProperties (model : GrammarModel) : Prop :=
  ∀ entry ∈ model.namedTypes.entries, Attribute.AreValid entry.2.properties

theorem GrammarModel.everyEntry_hasValidProperties_iff {model : GrammarModel} :
    model.EveryEntry Entry.HasValidProperties ↔ model.HasValidProperties :=
  ⟨fun every => every.namedTypes, fun valid => ⟨fun _ _ => trivial, valid⟩⟩

namespace Session

variable {settings : Settings} {source : GrammarSource} {session : Session}

theorem mem_states_self (session : Session) (edits : List Edit) :
    session ∈ session.states edits := by
  cases edits <;> simp [states]

/-- Hints do not touch named types. -/
theorem namedTypes_of_load (loaded : load settings source = .ok session) :
    ∃ model, GrammarModel.load source.grammar = .ok model ∧
      session.model.namedTypes = model.namedTypes := by
  obtain ⟨model, modelLoaded, same | ⟨order, same⟩⟩ := exists_model_of_load loaded
  · exact ⟨model, modelLoaded, by rw [same]⟩
  · refine ⟨model, modelLoaded, ?_⟩
    rw [same]
    exact AttributeOrder.namedTypes_applySections order.sections.entries model

/-- The properties of named types are valid in all states that edits of a loaded
session pass through, accepted or refused, exactly when those that the grammar
gives are. -/
theorem hasValidProperties_of_mem_states_iff (loaded : load settings source = .ok session)
    (edits : List Edit) :
    (∀ state ∈ session.states edits, state.model.HasValidProperties) ↔
      ∀ model, GrammarModel.load source.grammar = .ok model → model.HasValidProperties := by
  obtain ⟨given, givenLoaded, sameTypes⟩ := namedTypes_of_load loaded
  have starts : session.model.HasValidProperties ↔ given.HasValidProperties := by
    rw [GrammarModel.HasValidProperties, sameTypes, GrammarModel.HasValidProperties]
  constructor
  · intro valid model modelLoaded
    rw [givenLoaded, Except.ok.injEq] at modelLoaded
    rw [← modelLoaded]
    exact starts.1 (valid session (session.mem_states_self edits))
  · intro valid state member
    have every : session.model.EveryEntry Entry.HasValidProperties :=
      GrammarModel.everyEntry_hasValidProperties_iff.2 (starts.2 (valid given givenLoaded))
    rw [← GrammarModel.everyEntry_hasValidProperties_iff]
    apply everyEntry_of_mem_states every _ state member
    exact fun edit _ entry held clean => held.edited clean

/-- A grammar with one named type, whose properties are given as they are
written. -/
def namesSource (properties : String) : GrammarSource where
  grammar :=
    "\x7b\"nodes\":\x7b\x7d,\"namedTypes\":\x7b\"Names\":" ++
      "\x7b\"kind\":\"list\",\"argument\":\"Name\",\"properties\":[" ++ properties ++
        "]\x7d\x7d\x7d"
  hints := none

def sizeProperty : String := "\x7b\"name\":\"size\",\"type\":\x7b\"argument\":\"Nat\"\x7d\x7d"

theorem hasValidProperties_namesSource :
    ∃ session, load .standard (namesSource sizeProperty) = .ok session ∧
      ∀ state ∈ session.states [⟨"Names", "size", .argument (.label "Int")⟩],
        state.model.HasValidProperties := by
  let size : Attribute := ⟨"size", .labelled .unspecified "Nat"⟩
  have loads : (GrammarModel.load (namesSource sizeProperty).grammar).toOption.map
      (fun model => model.namedTypes.entries) =
        some [("Names", ⟨.labelled .list "Name", [size]⟩)] := by
    decide +kernel
  obtain ⟨given, found, types⟩ := Option.map_eq_some_iff.1 loads
  have givenLoaded := eq_ok_of_toOption_eq_some found
  obtain ⟨session, loaded⟩ :
      ∃ session, load .standard (namesSource sizeProperty) = .ok session := by
    rw [load, GrammarSource.load, givenLoaded]
    exact ⟨_, rfl⟩
  have valid : Attribute.AreValid [size] := by
    refine ⟨by simp, ?_⟩
    intro field member
    rw [List.mem_singleton.1 member]
    rfl
  refine ⟨session, loaded, (hasValidProperties_of_mem_states_iff loaded _).2 ?_⟩
  intro model modelLoaded
  rw [givenLoaded, Except.ok.injEq] at modelLoaded
  intro entry member
  rw [← modelLoaded, types, List.mem_singleton] at member
  rw [member]
  exact valid

/-- Loading accepts two properties of one name. -/
theorem not_hasValidProperties_namesSource :
    ∃ session, load .standard (namesSource (sizeProperty ++ "," ++ sizeProperty)) = .ok session ∧
      ¬ session.model.HasValidProperties := by
  have loads : (load .standard
      (namesSource (sizeProperty ++ "," ++ sizeProperty))).toOption.map
      (fun session => session.model.namedTypes.entries.map fun entry =>
        entry.2.properties.map Attribute.name) = some [["size", "size"]] := by
    decide +kernel
  obtain ⟨session, loaded, names⟩ := Option.map_eq_some_iff.1 loads
  refine ⟨session, eq_ok_of_toOption_eq_some loaded, ?_⟩
  intro valid
  obtain ⟨entry, member, entryNames⟩ : ∃ entry ∈ session.model.namedTypes.entries,
      entry.2.properties.map Attribute.name = ["size", "size"] := by
    apply List.mem_map.1
    rw [names]
    exact List.mem_singleton_self _
  have nodup := (valid entry member).names_nodup
  rw [entryNames] at nodup
  revert nodup
  decide

end Session

end AstGrammar
