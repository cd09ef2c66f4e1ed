import AstGrammar.Proofs.Text.Boundary

/-!
# Spans in a text

A span lies in a text when its ends are boundaries of the text, in their order and not
behind its end.  So does every span that is cut out as a piece of the text, among them the
character at a line and a column and the first key with a colon behind it.
-/

namespace AstGrammar.Text

variable {text piece : List Char} {offset : Nat}

/-- What is taken up to an offset is a front part of the text. -/
theorem eq_append_of_takeBytes (taken : takeBytes text offset = some piece) :
    ∃ back, text = piece ++ back ∧ byteSize piece = offset := by
  induction text generalizing offset piece with
  | nil =>
      cases offset with
      | zero => exact ⟨[], by simpa using taken, by cases taken; rfl⟩
      | succ offset => cases taken
  | cons character rest ih =>
      cases offset with
      | zero => exact ⟨character :: rest, by cases taken; rfl, by cases taken; rfl⟩
      | succ offset =>
          rw [takeBytes] at taken
          split at taken
          · cases taken
          · obtain ⟨front, frontTaken, rfl⟩ := Option.map_eq_some_iff.1 taken
            obtain ⟨back, restEq, size⟩ := ih frontTaken
            refine ⟨back, by rw [restEq, List.cons_append], ?_⟩
            rw [byteSize_cons]
            omega

namespace Span

variable {span : Span}

/-- The ends of a span are boundaries of a text, in their order and not behind its end. -/
def IsIn (span : Span) (text : List Char) : Prop :=
  span.start ≤ span.stop ∧ span.stop ≤ byteSize text ∧
    IsBoundary text span.start ∧ IsBoundary text span.stop

theorem isIn_ofPiece (front piece back : List Char) :
    (ofPiece (byteSize front) piece).IsIn (front ++ (piece ++ back)) := by
  have behind : IsBoundary (front ++ (piece ++ back)) (byteSize front + byteSize piece) := by
    rw [← List.append_assoc, ← byteSize_append]
    exact isBoundary_append _ _
  exact ⟨Nat.le_add_right _ _, le_byteSize_of_isBoundary behind, isBoundary_append _ _, behind⟩

/-- A span that covers something lies in the text. -/
theorem isIn_of_text? (covered : span.text? text = some piece) : span.IsIn text := by
  obtain ⟨rest, dropped, taken⟩ := Option.bind_eq_some_iff.1 covered
  obtain ⟨front, rfl, start⟩ := eq_append_of_dropBytes dropped
  obtain ⟨back, rfl, size⟩ := eq_append_of_takeBytes taken
  have same : span = ofPiece (byteSize front) piece := by
    obtain ⟨first, last, ordered⟩ := span
    dsimp only at start size
    subst start
    have stop : last = byteSize front + byteSize piece := by omega
    subst stop
    rfl
  rw [same]
  exact isIn_ofPiece front piece back

theorem isIn_of_atLineColumn {line column : Nat}
    (found : atLineColumn text line column = some span) : span.IsIn text := by
  obtain ⟨rest, dropped, rfl⟩ := Option.map_eq_some_iff.1 found
  obtain ⟨front, rfl, start⟩ := eq_append_of_dropBytes dropped
  have whole := isIn_ofPiece front (rest.take 1) (rest.drop 1)
  rw [List.take_append_drop, start] at whole
  exact whole

/-- A key is found where it stands. -/
theorem exists_append_of_findKey {quoted : List Char} {skipped : Nat}
    (found : findKey quoted text offset skipped = some span) :
    ∃ front back, text = front ++ (quoted ++ back) ∧
      span = ofPiece (offset + byteSize front) quoted := by
  fun_induction findKey quoted text offset skipped with
  | case1 => cases found
  | case2 character rest offset skipped ih =>
      obtain ⟨front, back, rfl, rfl⟩ := ih found
      exact ⟨character :: front, back, rfl, by rw [byteSize_cons, Nat.add_assoc]⟩
  | case3 character rest offset starts _ =>
      obtain ⟨back, textEq⟩ := List.isPrefixOf_iff_prefix.1 starts
      exact ⟨[], back, textEq.symm, (Option.some.inj found).symm⟩
  | case4 character rest offset _ _ ih =>
      obtain ⟨front, back, rfl, rfl⟩ := ih found
      exact ⟨character :: front, back, rfl, by rw [byteSize_cons, Nat.add_assoc]⟩
  | case5 character rest offset _ ih =>
      obtain ⟨front, back, rfl, rfl⟩ := ih found
      exact ⟨character :: front, back, rfl, by rw [byteSize_cons, Nat.add_assoc]⟩

theorem isIn_of_ofKey {key : String} (found : ofKey text key = some span) : span.IsIn text := by
  obtain ⟨front, back, rfl, rfl⟩ := exists_append_of_findKey found
  rw [Nat.zero_add]
  exact isIn_ofPiece front _ back

end Span

end AstGrammar.Text
