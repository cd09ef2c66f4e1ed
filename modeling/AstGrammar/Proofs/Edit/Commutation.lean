import AstGrammar.Proofs.Edit.Independence

/-!
# Two edits in either order, and one edit twice

Edits of different attributes of a model can be made in either order: each is accepted, or
refused for the same reason, and the resulting model is the same.  The one exception are two
edits that each add an attribute to one entry: the two stand in the order of the edits.
Making an edit again changes nothing.

An entry is read and replaced under its name.  The laws of replacing it under one name twice
and under two names reduce two edits of a model to two edits of one entry, or to edits that
have nothing to do with each other.
-/

namespace AstGrammar

namespace GrammarModel

variable {model : GrammarModel} {first second edit : Edit} {name other : String}
  {entry result : Entry}

/-- The model after an edit. A refused edit changes nothing. -/
def afterEdit (model : GrammarModel) (edit : Edit) : GrammarModel :=
  match model.edit edit with
  | .ok (edited, _) => edited
  | .error _ => model

/-- What an edit of the model reports: where it put the attribute, or why it is refused. -/
def outcome (model : GrammarModel) (edit : Edit) : Except EntryError EditOutcome :=
  (model.edit edit).map Prod.snd

/-- Whether an edit of the model is accepted, and if not, why. -/
def verdict (model : GrammarModel) (edit : Edit) : Except EntryError Unit :=
  (model.outcome edit).map fun _ => ()

theorem outcome_eq (model : GrammarModel) (edit : Edit) :
    model.outcome edit = edit.outcome (model.resolve edit.entry) := by
  rw [outcome, GrammarModel.edit, Edit.outcome]
  cases edit.apply (model.resolve edit.entry) <;> rfl

theorem verdict_eq (model : GrammarModel) (edit : Edit) :
    model.verdict edit = edit.verdict (model.resolve edit.entry) := by
  rw [verdict, outcome_eq, Edit.verdict]

/-- Putting an entry where it is changes nothing. -/
theorem replace_of_resolve (resolved : model.resolve name = some entry) :
    model.replace name entry = model := by
  rcases resolve_eq_some_iff.1 resolved with ⟨held, found, rfl⟩ | ⟨-, held, found, rfl⟩
  · rw [replace, Registry.modify_of_find? found]
  · rw [replace, Registry.modify_of_find? found]

/-- Of two entries of one shape under one name the second one stays. -/
theorem replace_replace_self (model : GrammarModel) (name : String)
    (sameShape : result.shape = entry.shape) :
    (model.replace name entry).replace name result = model.replace name result := by
  cases entry with
  | node held =>
      cases result with
      | node other => simp [replace, Registry.modify_modify_self]
      | namedType other => cases sameShape
  | namedType held =>
      cases result with
      | node other => cases sameShape
      | namedType other => simp [replace, Registry.modify_modify_self]

theorem replace_comm (different : name ≠ other) :
    (model.replace name entry).replace other result =
      (model.replace other result).replace name entry := by
  cases entry <;> cases result <;> simp [replace, Registry.modify_comm different]

theorem resolve_replace_of_ne (different : other ≠ name) :
    (model.replace name entry).resolve other = model.resolve other := by
  cases entry <;>
    simp [resolve, node?, namedType?, replace, Registry.find?_modify_of_ne different]

theorem afterEdit_of_resolve_eq_none (absent : model.resolve edit.entry = none) :
    model.afterEdit edit = model := by
  rw [afterEdit, GrammarModel.edit, absent]
  rfl

/-- An edit of a model is an edit of the entry that its name resolves to. -/
theorem afterEdit_of_resolve (resolved : model.resolve edit.entry = some entry) :
    model.afterEdit edit = model.replace edit.entry (entry.afterEdit edit) := by
  rw [afterEdit, GrammarModel.edit, resolved]
  rcases entry.afterEdit_cases edit with ⟨fault, faulty, kept⟩ | ⟨clean, edited⟩
  · rw [Edit.apply_of_fault?_eq_some faulty, kept, replace_of_resolve resolved]
  · rw [Edit.apply_of_fault?_eq_none clean, edited]

theorem resolve_afterEdit_self (resolved : model.resolve edit.entry = some entry) :
    (model.afterEdit edit).resolve edit.entry = some (entry.afterEdit edit) := by
  rw [afterEdit_of_resolve resolved]
  exact resolve_replace resolved (entry.shape_afterEdit edit)

theorem resolve_afterEdit_of_ne (model : GrammarModel) (different : name ≠ edit.entry) :
    (model.afterEdit edit).resolve name = model.resolve name := by
  cases resolved : model.resolve edit.entry with
  | none => rw [afterEdit_of_resolve_eq_none resolved]
  | some entry => rw [afterEdit_of_resolve resolved, resolve_replace_of_ne different]

/-- Two edits of one entry are made to the entry, and the result takes its place. -/
theorem afterEdit_afterEdit_of_resolve (same : second.entry = first.entry)
    (resolved : model.resolve first.entry = some entry) :
    (model.afterEdit first).afterEdit second =
      model.replace first.entry ((entry.afterEdit first).afterEdit second) := by
  have later := resolve_afterEdit_self resolved
  rw [← same] at later
  rw [afterEdit_of_resolve later, afterEdit_of_resolve resolved, same,
    replace_replace_self _ _ (Entry.shape_afterEdit _ second)]

theorem afterEdit_comm_of_ne (different : first.entry ≠ second.entry) :
    (model.afterEdit first).afterEdit second = (model.afterEdit second).afterEdit first := by
  have firstKept := resolve_afterEdit_of_ne model different
  have secondKept := resolve_afterEdit_of_ne model different.symm
  cases firstResolved : model.resolve first.entry with
  | none =>
      rw [afterEdit_of_resolve_eq_none firstResolved,
        afterEdit_of_resolve_eq_none (firstKept.trans firstResolved)]
  | some entry =>
      cases secondResolved : model.resolve second.entry with
      | none =>
          rw [afterEdit_of_resolve_eq_none secondResolved,
            afterEdit_of_resolve_eq_none (secondKept.trans secondResolved)]
      | some other =>
          rw [afterEdit_of_resolve (secondKept.trans secondResolved),
            afterEdit_of_resolve (firstKept.trans firstResolved),
            afterEdit_of_resolve firstResolved, afterEdit_of_resolve secondResolved,
            replace_comm different]

/-- Each of two edits adds an attribute to one and the same entry. -/
def BothAppend (model : GrammarModel) (first second : Edit) : Prop :=
  first.entry = second.entry ∧
    (∃ index, model.outcome first = .ok (.appended index)) ∧
      ∃ index, model.outcome second = .ok (.appended index)

theorem bothAppend_iff (same : second.entry = first.entry)
    (resolved : model.resolve first.entry = some entry) :
    model.BothAppend first second ↔ first.Adds entry ∧ second.Adds entry := by
  rw [BothAppend, outcome_eq, outcome_eq, same, resolved, ← Edit.adds_iff, ← Edit.adds_iff]
  simp

/-- Two edits come to the same in either order.  Each is accepted, or refused for the same
reason, whether the other was made before or not.  If both add an attribute to one entry, the
two attributes stand last and in the order of the edits; if not, the places that the edits
report and the resulting models are equal. -/
structure Commutes (model : GrammarModel) (first second : Edit) : Prop where
  first_verdict : (model.afterEdit second).verdict first = model.verdict first
  second_verdict : (model.afterEdit first).verdict second = model.verdict second
  appended : model.BothAppend first second →
    ∃ entry, model.resolve first.entry = some entry ∧
      (model.afterEdit first).afterEdit second = model.replace first.entry
        (entry.withAttributes (entry.attributes ++ [first.added, second.added])) ∧
      (model.afterEdit second).afterEdit first = model.replace first.entry
        (entry.withAttributes (entry.attributes ++ [second.added, first.added]))
  apart : ¬ model.BothAppend first second →
    (model.afterEdit second).outcome first = model.outcome first ∧
      (model.afterEdit first).outcome second = model.outcome second ∧
      (model.afterEdit first).afterEdit second = (model.afterEdit second).afterEdit first

theorem commutes_of_entry_ne (different : first.entry ≠ second.entry) :
    model.Commutes first second := by
  have firstOutcome : (model.afterEdit second).outcome first = model.outcome first := by
    rw [outcome_eq, outcome_eq, resolve_afterEdit_of_ne model different]
  have secondOutcome : (model.afterEdit first).outcome second = model.outcome second := by
    rw [outcome_eq, outcome_eq, resolve_afterEdit_of_ne model different.symm]
  exact {
    first_verdict := by rw [verdict, firstOutcome, verdict]
    second_verdict := by rw [verdict, secondOutcome, verdict]
    appended := fun both => absurd both.1 different
    apart := fun _ => ⟨firstOutcome, secondOutcome, afterEdit_comm_of_ne different⟩ }

theorem commutes_of_resolve_eq_none (same : second.entry = first.entry)
    (absent : model.resolve first.entry = none) : model.Commutes first second := by
  have secondAbsent : model.resolve second.entry = none := same ▸ absent
  have firstKept := afterEdit_of_resolve_eq_none absent
  have secondKept := afterEdit_of_resolve_eq_none secondAbsent
  have refused : ¬ model.BothAppend first second := by
    rintro ⟨-, ⟨index, accepted⟩, -⟩
    rw [outcome_eq, absent] at accepted
    cases accepted
  exact {
    first_verdict := by rw [secondKept]
    second_verdict := by rw [firstKept]
    appended := fun both => absurd both refused
    apart := fun _ => by
      rw [firstKept, secondKept, firstKept]
      exact ⟨rfl, rfl, rfl⟩ }

theorem commutes_of_resolve (same : second.entry = first.entry)
    (different : first.field ≠ second.field)
    (resolved : model.resolve first.entry = some entry) : model.Commutes first second := by
  have firstLater := resolve_afterEdit_self resolved
  have secondResolved : model.resolve second.entry = some entry := same ▸ resolved
  have secondLater := resolve_afterEdit_self secondResolved
  have firstRun := afterEdit_afterEdit_of_resolve same resolved
  have secondRun := afterEdit_afterEdit_of_resolve same.symm secondResolved
  rw [same] at secondRun
  exact {
    first_verdict := by
      rw [verdict_eq, ← same, secondLater, verdict_eq, resolved]
      exact Entry.verdict_afterEdit_of_ne different entry
    second_verdict := by
      rw [verdict_eq, same, firstLater, verdict_eq, secondResolved]
      exact Entry.verdict_afterEdit_of_ne different.symm entry
    appended := fun both => by
      obtain ⟨firstAdds, secondAdds⟩ := (bothAppend_iff same resolved).1 both
      rw [firstRun, secondRun, Entry.afterEdit_afterEdit_of_adds different firstAdds secondAdds,
        Entry.afterEdit_afterEdit_of_adds different.symm secondAdds firstAdds]
      exact ⟨entry, resolved, rfl, rfl⟩
    apart := fun apart => by
      rw [bothAppend_iff same resolved] at apart
      rw [firstRun, secondRun, Entry.afterEdit_comm different apart]
      refine ⟨?_, ?_, rfl⟩
      · rw [outcome_eq, ← same, secondLater, outcome_eq, resolved]
        exact Entry.outcome_afterEdit_of_ne different apart
      · rw [outcome_eq, same, firstLater, outcome_eq, secondResolved]
        exact Entry.outcome_afterEdit_of_ne different.symm (mt And.symm apart) }

/-- Two edits of different entries or attributes commute, and an edit that is made again leaves
the model as it is: it is refused for the same reason, or updates the attribute at the place
that it reported. -/
theorem commutes_and_repeats (model : GrammarModel) :
    (∀ first second : Edit, first.entry ≠ second.entry ∨ first.field ≠ second.field →
      model.Commutes first second) ∧
    ∀ edit : Edit, (model.afterEdit edit).afterEdit edit = model.afterEdit edit ∧
      (model.afterEdit edit).outcome edit =
        (model.outcome edit).map fun outcome => .updated outcome.index := by
  refine ⟨fun first second different => ?_, fun edit => ?_⟩
  · by_cases same : second.entry = first.entry
    · have fields : first.field ≠ second.field := different.resolve_left (not_not.2 same.symm)
      cases resolved : model.resolve first.entry with
      | some entry => exact commutes_of_resolve same fields resolved
      | none => exact commutes_of_resolve_eq_none same resolved
    · exact commutes_of_entry_ne (Ne.symm same)
  · cases resolved : model.resolve edit.entry with
    | none =>
        rw [afterEdit_of_resolve_eq_none resolved, afterEdit_of_resolve_eq_none resolved,
          outcome_eq, resolved]
        exact ⟨rfl, rfl⟩
    | some entry =>
        have again : (model.afterEdit edit).afterEdit edit =
            model.replace edit.entry ((entry.afterEdit edit).afterEdit edit) :=
          afterEdit_afterEdit_of_resolve rfl resolved
        obtain ⟨kept, outcome⟩ := entry.afterEdit_afterEdit_self edit
        rw [again, kept, outcome_eq, resolve_afterEdit_self resolved, outcome, outcome_eq,
          resolved, ← afterEdit_of_resolve resolved]
        exact ⟨rfl, rfl⟩

/-- A call gets a target and a path, in the order in which they are given. -/
theorem commutes_and_repeats_call :
    let call : Node := ⟨[], [], [⟨"of", .labelled .node "Name"⟩]⟩
    let model := empty.insertNode "Call" call
    let target : Edit := ⟨"Call", "to", .argument (.label "Path")⟩
    let path : Edit := ⟨"Call", "by", .type (.labelled .value "Text")⟩
    (target.entry ≠ path.entry ∨ target.field ≠ path.field) ∧
      model.BothAppend target path ∧ model.Commutes target path ∧
      (model.afterEdit path).afterEdit path = model.afterEdit path := by
  intro call model target path
  have different : target.entry ≠ path.entry ∨ target.field ≠ path.field := by decide
  obtain ⟨commutes, repeats⟩ := commutes_and_repeats model
  exact ⟨different, ⟨rfl, ⟨1, rfl⟩, 1, rfl⟩, commutes target path different, (repeats path).1⟩

end GrammarModel

end AstGrammar
