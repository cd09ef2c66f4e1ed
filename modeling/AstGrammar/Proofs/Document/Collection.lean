import AstGrammar.Document.Model
import AstGrammar.Proofs.Registry

/-!
# Loading the collections of a document

Every member of a collection gives either a value or at least one problem.  So
a document without problems gives every member its entry, in the same order,
provided that no member name is repeated.
-/

namespace AstGrammar

namespace Document

section Members

variable {α : Type} (read : Json → Except (List EntryProblem) α)

def loadedMember? (member : String × Json) : Option (String × α) :=
  match read member.2 with
  | .ok value => some (member.1, value)
  | .error _ => none

def memberProblems (member : String × Json) : List DocumentProblem :=
  match read member.2 with
  | .ok _ => []
  | .error found => found.map (DocumentProblem.entry member.1)

theorem problems_readMembers (loaded : Loaded α) (members : List (String × Json)) :
    (readMembers read loaded members).problems =
      loaded.problems ++ members.flatMap (memberProblems read) := by
  induction members generalizing loaded with
  | nil => simp [readMembers]
  | cons member rest ih =>
      obtain ⟨name, raw⟩ := member
      rw [readMembers, List.flatMap_cons, memberProblems]
      cases read raw with
      | ok value => simp [ih]
      | error found => simp [ih]

/-- Under distinct names, the entries of a collection are those of its members,
one after the other. -/
theorem entries_readMembers (loaded : Loaded α) (members : List (String × Json))
    (distinct : (loaded.registry.names ++ members.map Prod.fst).Nodup) :
    (readMembers read loaded members).registry.entries =
      loaded.registry.entries ++ members.filterMap (loadedMember? read) := by
  induction members generalizing loaded with
  | nil => simp [readMembers]
  | cons member rest ih =>
      obtain ⟨name, raw⟩ := member
      rw [List.map_cons] at distinct
      have fresh : name ∉ loaded.registry.names := by
        intro held
        exact (List.nodup_append.1 distinct).2.2 name held name List.mem_cons_self rfl
      rw [readMembers, List.filterMap_cons, loadedMember?]
      cases read raw with
      | ok value =>
          have entered := Registry.entries_insert_of_notMem value fresh
          have names : (loaded.registry.insert name value).names =
              loaded.registry.names ++ [name] := by
            rw [Registry.names, entered]
            simp [Registry.names]
          simp only
          rw [ih]
          · simp [entered]
          · simpa [names] using distinct
      | error found =>
          simp only
          rw [ih]
          exact distinct.sublist
            ((List.sublist_cons_self name (rest.map Prod.fst)).append_left _)

variable {read}

/-- Every entry of a collection is what some member gives. -/
theorem mem_entries_readMembers {loaded : Loaded α} {members : List (String × Json)}
    {entry : String × α} (member : entry ∈ (readMembers read loaded members).registry.entries) :
    entry ∈ loaded.registry.entries ∨ ∃ raw, read raw = .ok entry.2 := by
  induction members generalizing loaded with
  | nil => exact Or.inl member
  | cons first rest ih =>
      obtain ⟨name, raw⟩ := first
      rw [readMembers] at member
      cases found : read raw with
      | error problems =>
          simp only [found] at member
          have given := ih member
          exact given
      | ok value =>
          simp only [found] at member
          rcases ih member with held | fromRest
          · rcases Entries.mem_set held with before | here
            · exact Or.inl before
            · exact Or.inr ⟨raw, by rw [found, here]⟩
          · exact Or.inr fromRest

/-- Where every refused member has a problem, a collection has no problems
exactly when each member gives its entry. -/
theorem flatMap_memberProblems_eq_nil_iff
    (reported : ∀ raw, read raw ≠ .error []) (members : List (String × Json))
    (entries : List (String × α)) :
    (members.flatMap (memberProblems read) = [] ∧
        members.filterMap (loadedMember? read) = entries) ↔
      members.map (fun member => (member.1, read member.2)) =
        entries.map fun entry => (entry.1, .ok entry.2) := by
  induction members generalizing entries with
  | nil => cases entries <;> simp
  | cons member rest ih =>
      obtain ⟨name, raw⟩ := member
      rw [List.flatMap_cons, List.append_eq_nil_iff, List.filterMap_cons, List.map_cons,
        memberProblems, loadedMember?]
      cases found : read raw with
      | error problems =>
          have nonempty : problems ≠ [] := fun empty => reported raw (empty ▸ found)
          cases entries <;> simp [nonempty]
      | ok value =>
          cases entries with
          | nil => simp
          | cons entry others =>
              simp only [true_and, List.map_cons, List.cons.injEq, Except.ok.injEq,
                Prod.ext_iff]
              rw [← ih others]
              simp only [and_comm, and_assoc]

end Members

theorem readEntry_ne_error_nil {α : Type} (expected : Shape) (decode : Json → Codec.Decoded α)
    (problems : α → List EntryProblem) (raw : Json) :
    readEntry expected decode problems raw ≠ .error [] := by
  rw [readEntry]
  cases shapeProblem? expected raw with
  | some problem => simp
  | none =>
      cases decode raw with
      | error error => simp
      | ok value =>
          simp only
          cases problems value <;> simp

theorem readNode_ne_error_nil (raw : Json) : readNode raw ≠ .error [] :=
  readEntry_ne_error_nil _ _ _ _

theorem readNamedType_ne_error_nil (raw : Json) : readNamedType raw ≠ .error [] :=
  readEntry_ne_error_nil _ _ _ _

/-- The collections of the document repeat no member name. -/
def HasDistinctEntries (document : Json) : Prop :=
  ∀ shape members, collection? shape document = some members → (members.map Prod.fst).Nodup

/-- Every entry of a collection is the value of a member without problems. -/
def Reads {α : Type} (read : Json → Except (List EntryProblem) α)
    (members : List (String × Json)) (registry : Registry α) : Prop :=
  members.map (fun member => (member.1, read member.2)) =
    registry.entries.map fun entry => (entry.1, .ok entry.2)

theorem readCollection_iff {α : Type} {shape : Shape}
    {read : Json → Except (List EntryProblem) α} (reported : ∀ raw, read raw ≠ .error [])
    {document : Json} (distinct : HasDistinctEntries document) (registry : Registry α) :
    (missing shape document = [] ∧ (readCollection shape read document).problems = [] ∧
        (readCollection shape read document).registry = registry) ↔
      ∃ members, collection? shape document = some members ∧ Reads read members registry := by
  rw [missing, readCollection, problems_readMembers read]
  cases found : collection? shape document with
  | none => simp
  | some members =>
      have nodup : ((Registry.empty : Registry α).names ++ members.map Prod.fst).Nodup :=
        distinct shape members found
      have entries := entries_readMembers read ⟨.empty, []⟩ members nodup
      have registryEq : ∀ other : Registry α,
          (readMembers read ⟨.empty, []⟩ members).registry = other ↔
            members.filterMap (loadedMember? read) = other.entries := by
        intro other
        constructor
        · intro equal
          rw [← equal]
          exact entries.symm
        · intro equal
          exact Registry.eq_of_entries_eq (entries.trans equal)
      simp only [Option.getD_some, List.nil_append, true_and, registryEq,
        flatMap_memberProblems_eq_nil_iff reported, Option.some.injEq, exists_eq_left', Reads]

/-- A document is loaded as a model exactly when it has both collections and
each of their members gives the entry of the model at its place. -/
theorem readModel_eq_ok_iff {document : Json} (distinct : HasDistinctEntries document)
    (model : GrammarModel) :
    readModel document = .ok model ↔
      (∃ members, collection? .node document = some members ∧
          Reads readNode members model.nodes) ∧
        ∃ members, collection? .namedType document = some members ∧
          Reads readNamedType members model.namedTypes := by
  rw [← readCollection_iff readNode_ne_error_nil distinct,
    ← readCollection_iff readNamedType_ne_error_nil distinct, readModel]
  generalize readCollection .node readNode document = nodes
  generalize readCollection .namedType readNamedType document = namedTypes
  obtain ⟨modelNodes, modelTypes⟩ := model
  split
  · next clean =>
      simp only [List.append_eq_nil_iff] at clean
      obtain ⟨⟨⟨noNodes, noTypes⟩, nodesClean⟩, typesClean⟩ := clean
      simp [noNodes, noTypes, nodesClean, typesClean]
  · next problems faulty =>
      simp only [reduceCtorEq, false_iff]
      rintro ⟨⟨noNodes, nodesClean, -⟩, noTypes, typesClean, -⟩
      exact faulty (by simp [noNodes, noTypes, nodesClean, typesClean])

/-- Every entry of a loaded model is what some raw value gives. -/
theorem exists_read_of_readModel {document : Json} {model : GrammarModel}
    (loaded : readModel document = .ok model) :
    (∀ entry ∈ model.nodes.entries, ∃ raw, readNode raw = .ok entry.2) ∧
      ∀ entry ∈ model.namedTypes.entries, ∃ raw, readNamedType raw = .ok entry.2 := by
  rw [readModel] at loaded
  split at loaded
  · cases loaded
    refine ⟨fun entry member => ?_, fun entry member => ?_⟩
    · rcases mem_entries_readMembers member with held | given
      · exact absurd held List.not_mem_nil
      · exact given
    · rcases mem_entries_readMembers member with held | given
      · exact absurd held List.not_mem_nil
      · exact given
  · cases loaded

end Document

theorem exists_eq_ok_of_isOk {ε α : Type} {result : Except ε α} (succeeds : result.isOk = true) :
    ∃ value, result = .ok value := by
  cases result with
  | error error => cases succeeds
  | ok value => exact ⟨value, rfl⟩

theorem eq_ok_of_toOption_eq_some {ε α : Type} {result : Except ε α} {value : α}
    (found : result.toOption = some value) : result = .ok value := by
  cases result with
  | error error => cases found
  | ok held => exact congrArg Except.ok (Option.some.inj found)

namespace GrammarModel

/-- A text is loaded as what the document in it is loaded as. -/
theorem load_eq_ok_iff {text : String} {model : GrammarModel} :
    load text = .ok model ↔
      ∃ document, Json.parse text = .ok document ∧ Document.readModel document = .ok model := by
  rw [load]
  cases parsed : Json.parse text with
  | error error =>
      dsimp only
      cases error.diagnostic? text.toList <;> simp
  | ok document =>
      dsimp only
      cases read : Document.readModel document <;> simp [read]

/-- A grammar with one node, for the call of a function, and one named type. -/
def callGrammar : String :=
  "\x7b\"nodes\":\x7b\"Call\":\x7b\"parents\":[],\"children\":[],\"attributes\":" ++
    "[[\"of\",[\"node\",\"Name\"]],[\"to\",[\"union\",[\"A\",\"B\"]]]]\x7d\x7d," ++
    "\"namedTypes\":\x7b\"Names\":\x7b\"kind\":\"list\",\"argument\":\"Name\"\x7d\x7d\x7d"

theorem exists_load_callGrammar : ∃ model, load callGrammar = .ok model := by
  apply exists_eq_ok_of_isOk
  decide +kernel

end GrammarModel

end AstGrammar
