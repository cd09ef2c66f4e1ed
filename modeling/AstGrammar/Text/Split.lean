/-!
# Splitting a text at a character

A text is split at the first place of a character, which belongs to neither
part.
-/

namespace AstGrammar.Text

/-- The parts in front of and behind the first place of a character. -/
def splitOnce (mark : Char) : List Char → Option (List Char × List Char)
  | [] => none
  | character :: rest =>
      if character = mark then some ([], rest)
      else (splitOnce mark rest).map fun (front, back) => (character :: front, back)

/-- A text splits into a part without the character, and what follows it. -/
theorem splitOnce_eq_some_iff {mark : Char} {text front back : List Char} :
    splitOnce mark text = some (front, back) ↔ text = front ++ mark :: back ∧ mark ∉ front := by
  induction text generalizing front with
  | nil => simp [splitOnce]
  | cons character rest ih =>
      simp only [splitOnce]
      split
      · next equal =>
          subst equal
          cases front with
          | nil => simp
          | cons first others =>
              simp only [Option.some.injEq, Prod.mk.injEq, List.cons_append, List.cons.injEq,
                List.mem_cons, not_or]
              constructor
              · rintro ⟨⟨⟩, _⟩
              · rintro ⟨⟨equal, _⟩, different, _⟩
                exact absurd equal different
      · next different =>
          cases front with
          | nil =>
              simp only [Option.map_eq_some_iff, Prod.mk.injEq, List.nil_append, List.cons.injEq]
              constructor
              · rintro ⟨_, _, ⟨⟩, _⟩
              · rintro ⟨⟨equal, _⟩, _⟩
                exact absurd equal different
          | cons first others =>
              simp only [Option.map_eq_some_iff, Prod.mk.injEq, List.cons_append,
                List.cons.injEq, List.mem_cons, not_or]
              constructor
              · rintro ⟨⟨found, left⟩, split, ⟨equal, rfl⟩, rfl⟩
                obtain ⟨restEq, absent⟩ := ih.1 split
                exact ⟨⟨equal, restEq⟩, by rw [← equal]; exact Ne.symm different, absent⟩
              · rintro ⟨⟨equal, restEq⟩, _, absent⟩
                exact ⟨(others, back), ih.2 ⟨restEq, absent⟩, ⟨equal, rfl⟩, rfl⟩

/-- A text does not split exactly when the character is not in it. -/
theorem splitOnce_eq_none_iff {mark : Char} {text : List Char} :
    splitOnce mark text = none ↔ mark ∉ text := by
  induction text with
  | nil => simp [splitOnce]
  | cons character rest ih =>
      simp only [splitOnce]
      split
      · next equal => simp [equal]
      · next different => simp [ih, Ne.symm different]

end AstGrammar.Text
