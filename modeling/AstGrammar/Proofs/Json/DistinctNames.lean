import AstGrammar.Json.Reader
import AstGrammar.Proofs.Registry

/-!
# Distinct member names

In a value that was read from a text, no object has two members with the same
name, at any depth: a repeated name takes the place of the first one.
-/

namespace AstGrammar.Json

/-- No object in the value, at any depth, repeats a member name. -/
inductive HasDistinctNames : Json → Prop
  | null : HasDistinctNames .null
  | bool (value : Bool) : HasDistinctNames (.bool value)
  | number (value : Number) : HasDistinctNames (.number value)
  | string (text : String) : HasDistinctNames (.string text)
  | array {items : List Json} (distinct : ∀ item ∈ items, HasDistinctNames item) :
      HasDistinctNames (.array items)
  | object {members : List (String × Json)} (nodup : (members.map Prod.fst).Nodup)
      (distinct : ∀ member ∈ members, HasDistinctNames member.2) :
      HasDistinctNames (.object members)

theorem HasDistinctNames.of_member? {members : List (String × Json)} {name : String}
    {value : Json} (distinct : HasDistinctNames (.object members))
    (found : member? name members = some value) : HasDistinctNames value := by
  cases distinct with
  | object nodup distinct => exact distinct _ (Entries.mem_of_lookup found)

def ValueReader.IsDistinct (reader : ValueReader) : Prop :=
  ∀ {text rest : List Char} {value : Json},
    reader.read text = .ok (value, rest) → value.HasDistinctNames

section Levels

variable {inner : ValueReader} {text rest : List Char}

theorem hasDistinctNames_of_readWord {value result : Json} {letters : List Char}
    (read : readWord value letters text = .ok (result, rest))
    (distinct : value.HasDistinctNames) : result.HasDistinctNames := by
  induction letters generalizing text with
  | nil =>
      simp only [readWord, Except.ok.injEq, Prod.mk.injEq] at read
      rw [← read.1]
      exact distinct
  | cons letter letters ih =>
      cases text with
      | nil => simp [readWord] at read
      | cons character after =>
          simp only [readWord] at read
          split at read
          · exact ih read
          · simp at read

theorem hasDistinctNames_of_readItems (innerDistinct : inner.IsDistinct)
    {taken items : List Json} (read : readItems inner taken text = .ok (items, rest))
    (takenDistinct : ∀ item ∈ taken, item.HasDistinctNames) :
    ∀ item ∈ items, item.HasDistinctNames := by
  fun_induction readItems inner taken text with
  | case1 => simp at read
  | case2 => simp at read
  | case3 taken text item after itemRead =>
      simp only [Except.ok.injEq, Prod.mk.injEq] at read
      intro other member
      rw [← read.1, List.mem_reverse, List.mem_cons] at member
      rcases member with here | before
      · rw [here]
        exact innerDistinct itemRead
      · exact takenDistinct other before
  | case4 => simp at read
  | case5 taken text item after itemRead _ _ _ behind _ _ _ ih =>
      apply ih read
      intro other member
      rcases List.mem_cons.1 member with here | before
      · rw [here]
        exact innerDistinct itemRead
      · exact takenDistinct other before
  | case6 => simp at read

theorem hasDistinctNames_of_readList (innerDistinct : inner.IsDistinct) {items : List Json}
    (read : readList inner text = .ok (items, rest)) :
    ∀ item ∈ items, item.HasDistinctNames := by
  unfold readList at read
  split at read
  · simp at read
  · simp only [Except.ok.injEq, Prod.mk.injEq] at read
    rw [← read.1]
    exact fun item member => absurd member List.not_mem_nil
  · exact hasDistinctNames_of_readItems innerDistinct read
      fun item member => absurd member List.not_mem_nil

theorem hasDistinctNames_of_readMember (innerDistinct : inner.IsDistinct)
    {member : String × Json} (read : readMember inner text = .ok (member, rest)) :
    member.2.HasDistinctNames := by
  unfold readMember at read
  split at read
  · simp at read
  · split at read
    · simp at read
    · split at read
      · simp at read
      · next valueRead =>
          simp only [Except.ok.injEq, Prod.mk.injEq] at read
          rw [← read.1]
          exact innerDistinct valueRead
    · simp at read

/-- A member takes the place of one with its name, so no name is repeated. -/
theorem hasDistinctNames_set {members : List (String × Json)} {name : String} {value : Json}
    (distinct : HasDistinctNames (.object members)) (valueDistinct : value.HasDistinctNames) :
    HasDistinctNames (.object (Entries.set name value members)) := by
  cases distinct with
  | object nodup distinct =>
      refine .object (Entries.nodup_set nodup) fun member held => ?_
      rcases Entries.mem_set held with before | here
      · exact distinct member before
      · rw [here]
        exact valueDistinct

theorem hasDistinctNames_of_readMembers (innerDistinct : inner.IsDistinct)
    {taken members : List (String × Json)}
    (read : readMembers inner taken text = .ok (members, rest))
    (takenDistinct : HasDistinctNames (.object taken)) :
    HasDistinctNames (.object members) := by
  fun_induction readMembers inner taken text with
  | case3 taken text name value after memberRead =>
      simp only [Except.ok.injEq, Prod.mk.injEq] at read
      rw [← read.1]
      exact hasDistinctNames_set takenDistinct
        (hasDistinctNames_of_readMember innerDistinct memberRead)
  | case4 taken text name value after memberRead _ _ _ _ _ _ _ _ _ ih =>
      exact ih read (hasDistinctNames_set takenDistinct
        (hasDistinctNames_of_readMember innerDistinct memberRead))
  | _ => simp at read

theorem hasDistinctNames_of_readObject (innerDistinct : inner.IsDistinct)
    {members : List (String × Json)}
    (read : readObject inner text = .ok (members, rest)) :
    HasDistinctNames (.object members) := by
  have empty : HasDistinctNames (.object []) :=
    .object List.nodup_nil fun member held => absurd held List.not_mem_nil
  unfold readObject at read
  split at read
  · simp at read
  · simp only [Except.ok.injEq, Prod.mk.injEq] at read
    rw [← read.1]
    exact empty
  · exact hasDistinctNames_of_readMembers innerDistinct read empty
  · simp at read

theorem hasDistinctNames_of_readValue {inner : Option ValueReader} {value : Json}
    (innerDistinct : ∀ reader, inner = some reader → reader.IsDistinct)
    (read : readValue inner text = .ok (value, rest)) : value.HasDistinctNames := by
  unfold readValue at read
  split at read
  case h_1 => simp at read
  case h_2 => exact hasDistinctNames_of_readWord read .null
  case h_3 | h_4 => exact hasDistinctNames_of_readWord read (.bool _)
  case h_5 =>
    obtain ⟨number, -, equal⟩ := Reading.map_eq_ok_iff.1 read
    exact equal ▸ .number number
  case h_6 =>
    obtain ⟨string, -, equal⟩ := Reading.map_eq_ok_iff.1 read
    exact equal ▸ .string string
  case h_7 =>
    split at read
    · simp at read
    · next reader =>
        obtain ⟨items, itemsRead, equal⟩ := Reading.map_eq_ok_iff.1 read
        exact equal ▸ .array (hasDistinctNames_of_readList (innerDistinct reader rfl) itemsRead)
  case h_8 =>
    split at read
    · simp at read
    · next reader =>
        obtain ⟨members, membersRead, equal⟩ := Reading.map_eq_ok_iff.1 read
        exact equal ▸ hasDistinctNames_of_readObject (innerDistinct reader rfl) membersRead
  case h_9 =>
    split at read
    · obtain ⟨number, -, equal⟩ := Reading.map_eq_ok_iff.1 read
      exact equal ▸ .number number
    · simp at read

end Levels

theorem isDistinct_reader (depth : Nat) : (reader depth).IsDistinct := by
  induction depth with
  | zero =>
      intro text rest value read
      change readValue none text = _ at read
      refine hasDistinctNames_of_readValue (fun inner same => ?_) read
      cases same
  | succ depth ih =>
      intro text rest value read
      change readValue (some (reader depth)) text = _ at read
      refine hasDistinctNames_of_readValue (fun inner same => ?_) read
      cases same
      exact ih

/-- A value that was read from a text repeats no member names. -/
theorem hasDistinctNames_of_parse {text : String} {value : Json}
    (parsed : parse text = .ok value) : value.HasDistinctNames := by
  rw [parse] at parsed
  cases read : readText text.toList with
  | error stop => simp [read] at parsed
  | ok held =>
      simp only [read, Except.ok.injEq] at parsed
      subst parsed
      unfold readText at read
      split at read
      · cases read
      · next valueRead =>
          split at read
          · cases read
            exact isDistinct_reader greatestDepth valueRead
          · cases read

end AstGrammar.Json
