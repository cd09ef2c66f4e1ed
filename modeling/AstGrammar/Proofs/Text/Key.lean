import Mathlib.Order.Bounds.Basic
import Mathlib.Order.Nat
import AstGrammar.Proofs.Text.Span

/-!
# Keys in a text

A key stands in a text where it is quoted and a colon follows behind blanks.  The search for
it goes over the places of the quoted key from left to right, but passes over those that
overlap a place it has already looked at.  It finds the leftmost of the places that it looks
at; this is the leftmost place of the key unless that one is passed over.
-/

namespace AstGrammar.Text

/-- Behind blanks stands a colon. -/
def HasColon (text : List Char) : Prop :=
  ∃ blanks back, text = blanks ++ ':' :: back ∧ ∀ character ∈ blanks, isBlank character = true

/-- A piece stands in a text behind the first `place` characters. -/
def Occurs (piece text : List Char) (place : Nat) : Prop :=
  piece <+: text.drop place

/-- The places of a piece that are looked at from left to right: those that overlap none that
was looked at before. -/
def IsMatch (piece text : List Char) (place : Nat) : Prop :=
  Occurs piece text place ∧
    ∀ earlier < place, IsMatch piece text earlier → earlier + piece.length ≤ place
termination_by place

/-- The key with a quotation mark on either side. -/
def quotedKey (key : String) : List Char := '"' :: key.toList ++ ['"']

/-- A quoted key stands in a text at a place, and behind it a colon. -/
def IsKeyAt (key : String) (text : List Char) (place : Nat) : Prop :=
  Occurs (quotedKey key) text place ∧
    HasColon (text.drop (place + (quotedKey key).length))

section Places

variable {piece text : List Char} {place : Nat}

theorem IsMatch.occurs (isMatch : IsMatch piece text place) : Occurs piece text place := by
  rw [IsMatch] at isMatch
  exact isMatch.1

theorem IsMatch.apart {earlier : Nat} (isMatch : IsMatch piece text place)
    (inFront : earlier < place) (earlierMatch : IsMatch piece text earlier) :
    earlier + piece.length ≤ place := by
  rw [IsMatch] at isMatch
  exact isMatch.2 earlier inFront earlierMatch

theorem lt_length_of_occurs (nonempty : piece ≠ []) (occurs : Occurs piece text place) :
    place < text.length := by
  have longer := occurs.length_le
  have positive := List.length_pos_iff.2 nonempty
  rw [List.length_drop] at longer
  omega

theorem startsWithColon_iff : Span.startsWithColon text = true ↔ HasColon text := by
  rw [Span.startsWithColon, beq_iff_eq, List.head?_eq_some_iff]
  constructor
  · rintro ⟨back, rest⟩
    refine ⟨text.takeWhile isBlank, back, ?_, List.all_eq_true.1 List.all_takeWhile⟩
    rw [← rest, List.takeWhile_append_dropWhile]
  · rintro ⟨blanks, back, rfl, blank⟩
    refine ⟨back, ?_⟩
    rw [List.dropWhile_append_of_pos blank, List.dropWhile_cons_of_neg (by decide)]

end Places

/-- The matches that are still to be looked at start behind `skipped` more characters. -/
structure SkipsTo (piece text : List Char) (place skipped : Nat) : Prop where
  skips : ∀ later, place ≤ later → later < place + skipped → ¬ IsMatch piece text later
  reached : ∀ earlier < place, IsMatch piece text earlier →
    earlier + piece.length ≤ place + skipped

namespace SkipsTo

variable {piece text : List Char} {place skipped : Nat}

theorem start : SkipsTo piece text 0 0 where
  skips later _ before := absurd before (Nat.not_lt_zero later)
  reached earlier before := absurd before (Nat.not_lt_zero earlier)

theorem skip (skipsTo : SkipsTo piece text place (skipped + 1)) :
    SkipsTo piece text (place + 1) skipped where
  skips later behind before := skipsTo.skips later (by omega) (by omega)
  reached earlier before isMatch := by
    rcases Nat.lt_succ_iff_lt_or_eq.1 before with inFront | rfl
    · have reached := skipsTo.reached earlier inFront isMatch
      omega
    · exact absurd isMatch (skipsTo.skips earlier (Nat.le_refl _) (by omega))

theorem isMatch_iff (skipsTo : SkipsTo piece text place 0) :
    IsMatch piece text place ↔ Occurs piece text place := by
  rw [IsMatch]
  exact and_iff_left skipsTo.reached

/-- Behind a place that is no match the search goes on with the next character. -/
theorem pass (skipsTo : SkipsTo piece text place 0) (noMatch : ¬ IsMatch piece text place) :
    SkipsTo piece text (place + 1) 0 where
  skips later behind before := absurd before (by omega)
  reached earlier before isMatch := by
    rcases Nat.lt_succ_iff_lt_or_eq.1 before with inFront | rfl
    · have reached := skipsTo.reached earlier inFront isMatch
      omega
    · exact absurd isMatch noMatch

/-- Behind a match the characters of the match are skipped. -/
theorem pass_match (skipsTo : SkipsTo piece text place 0) (isMatch : IsMatch piece text place)
    (nonempty : piece ≠ []) : SkipsTo piece text (place + 1) (piece.length - 1) where
  skips later behind before laterMatch := by
    have apart := laterMatch.apart behind isMatch
    omega
  reached earlier before earlierMatch := by
    rcases Nat.lt_succ_iff_lt_or_eq.1 before with inFront | rfl
    · have reached := skipsTo.reached earlier inFront earlierMatch
      omega
    · have positive := List.length_pos_iff.2 nonempty
      omega

end SkipsTo

namespace Span

/-- The span of a quoted key at a place of a text. -/
def ofKeyAt (key : String) (text : List Char) (place : Nat) : Span :=
  ofPiece (byteSize (text.take place)) (quotedKey key)

/-- The places from one place on that are looked at and have a colon behind them. -/
def foundFrom (piece text : List Char) (place : Nat) : Set Nat :=
  {found | place ≤ found ∧ IsMatch piece text found ∧ HasColon (text.drop (found + piece.length))}

/-- A text is cut at a place, which is given in characters and in bytes. -/
structure IsCut (text front suffix : List Char) (place offset : Nat) : Prop where
  text_eq : text = front ++ suffix
  length_eq : front.length = place
  byteSize_eq : byteSize front = offset

section Search

variable {piece text front suffix : List Char} {character : Char} {place skipped offset : Nat}
  {span : Span}

namespace IsCut

theorem succ (cut : IsCut text front (character :: suffix) place offset) :
    IsCut text (front ++ [character]) suffix (place + 1) (offset + character.utf8Size) where
  text_eq := by rw [cut.text_eq, List.append_assoc, List.singleton_append]
  length_eq := by rw [List.length_append, cut.length_eq, List.length_singleton]
  byteSize_eq := by rw [byteSize_append, cut.byteSize_eq, byteSize_cons, byteSize_nil, Nat.add_zero]

theorem take_eq (cut : IsCut text front suffix place offset) : text.take place = front := by
  rw [cut.text_eq, ← cut.length_eq, List.take_left]

theorem occurs_iff (cut : IsCut text front suffix place offset) :
    Occurs piece text place ↔ piece.isPrefixOf suffix = true := by
  rw [Occurs, cut.text_eq, ← cut.length_eq, List.drop_left, List.isPrefixOf_iff_prefix]

theorem hasColon_iff (cut : IsCut text front suffix place offset) :
    HasColon (text.drop (place + piece.length)) ↔
      startsWithColon (suffix.drop piece.length) = true := by
  rw [startsWithColon_iff, cut.text_eq, ← cut.length_eq, List.drop_length_add_append]

end IsCut

theorem foundFrom_eq_succ
    (unfound : ¬ (IsMatch piece text place ∧ HasColon (text.drop (place + piece.length)))) :
    foundFrom piece text place = foundFrom piece text (place + 1) := by
  ext found
  refine ⟨fun ⟨behind, isFound⟩ => ⟨?_, isFound⟩, fun ⟨behind, isFound⟩ => ⟨by omega, isFound⟩⟩
  rcases Nat.eq_or_lt_of_le behind with rfl | later
  · exact absurd isFound unfound
  · exact later

/-- The search goes over what is not skipped, and stops at the first match with a colon. -/
theorem findKey_eq_some_iff (nonempty : piece ≠ []) (cut : IsCut text front suffix place offset)
    (skipsTo : SkipsTo piece text place skipped) :
    findKey piece suffix offset skipped = some span ↔
      ∃ found, IsLeast (foundFrom piece text place) found ∧
        span = ofPiece (byteSize (text.take found)) piece := by
  fun_induction findKey piece suffix offset skipped generalizing front place with
  | case1 =>
      refine iff_of_false (by simp) ?_
      rintro ⟨found, ⟨⟨behind, isMatch, -⟩, -⟩, -⟩
      have inside := lt_length_of_occurs nonempty isMatch.occurs
      rw [cut.text_eq, List.append_nil, cut.length_eq] at inside
      omega
  | case2 character rest offset skipped ih =>
      -- The character belongs to a match without a colon.
      have unmatched := skipsTo.skips place (Nat.le_refl _) (by omega)
      rw [foundFrom_eq_succ fun isFound => unmatched isFound.1]
      exact ih cut.succ skipsTo.skip
  | case3 character rest offset starts colon =>
      have isMatch := skipsTo.isMatch_iff.2 (cut.occurs_iff.2 starts)
      have least : IsLeast (foundFrom piece text place) place :=
        ⟨⟨Nat.le_refl _, isMatch, cut.hasColon_iff.2 colon⟩, fun found isFound => isFound.1⟩
      rw [Option.some.injEq, ← cut.byteSize_eq, ← cut.take_eq]
      constructor
      · rintro rfl
        exact ⟨place, least, rfl⟩
      · rintro ⟨found, foundLeast, rfl⟩
        rw [foundLeast.unique least]
  | case4 character rest offset starts noColon ih =>
      -- A match without a colon: from here on its other characters are skipped.
      have isMatch := skipsTo.isMatch_iff.2 (cut.occurs_iff.2 starts)
      rw [foundFrom_eq_succ fun isFound => noColon (cut.hasColon_iff.1 isFound.2)]
      exact ih cut.succ (skipsTo.pass_match isMatch nonempty)
  | case5 character rest offset other ih =>
      have unmatched : ¬ IsMatch piece text place :=
        fun isMatch => other (cut.occurs_iff.1 isMatch.occurs)
      rw [foundFrom_eq_succ fun isFound => unmatched isFound.1]
      exact ih cut.succ (skipsTo.pass unmatched)

end Search

section Leftmost

variable {key : String} {text : List Char} {place : Nat}

/-- The search for a key gives the span at the leftmost place with a property, and nothing
exactly when there is no such place. -/
def FindsLeftmost (key : String) (text : List Char) (places : Set Nat) : Prop :=
  (∀ place, IsLeast places place → ofKey text key = some (ofKeyAt key text place)) ∧
    (ofKey text key = none ↔ places = ∅)

/-- The places of a key that the search looks at. -/
def lookedAt (key : String) (text : List Char) : Set Nat :=
  {place | IsMatch (quotedKey key) text place ∧ IsKeyAt key text place}

theorem foundFrom_zero (key : String) (text : List Char) :
    foundFrom (quotedKey key) text 0 = lookedAt key text := by
  ext place
  constructor
  · rintro ⟨-, isMatch, colon⟩
    exact ⟨isMatch, isMatch.occurs, colon⟩
  · rintro ⟨isMatch, -, colon⟩
    exact ⟨Nat.zero_le place, isMatch, colon⟩

theorem ofKey_eq_some_iff {span : Span} :
    ofKey text key = some span ↔
      ∃ place, IsLeast (lookedAt key text) place ∧ span = ofKeyAt key text place := by
  rw [← foundFrom_zero]
  have whole : IsCut text [] text 0 0 := ⟨rfl, rfl, rfl⟩
  exact findKey_eq_some_iff (List.cons_ne_nil _ _) whole SkipsTo.start

theorem exists_isLeast {places : Set Nat} (nonempty : places ≠ ∅) :
    ∃ place, IsLeast places place := by
  classical
  exact ⟨_, (Set.nonempty_iff_ne_empty.2 nonempty).isLeast_natFind⟩

/-- The search gives the leftmost of the places that it looks at. -/
theorem findsLeftmost_lookedAt (key : String) (text : List Char) :
    FindsLeftmost key text (lookedAt key text) := by
  refine ⟨fun place least => ofKey_eq_some_iff.2 ⟨place, least, rfl⟩, ?_, ?_⟩
  · intro unfound
    by_contra nonempty
    obtain ⟨place, least⟩ := exists_isLeast nonempty
    rw [ofKey_eq_some_iff.2 ⟨place, least, rfl⟩] at unfound
    cases unfound
  · intro empty
    rw [Option.eq_none_iff_forall_ne_some]
    intro span found
    obtain ⟨place, least, -⟩ := ofKey_eq_some_iff.1 found
    exact Set.eq_empty_iff_forall_notMem.1 empty place least.1

theorem byteSize_take_lt {first second : Nat} (inFront : first < second)
    (inside : second ≤ text.length) :
    byteSize (text.take first) < byteSize (text.take second) := by
  obtain ⟨character, between, cut⟩ : ∃ character between,
      (text.take second).drop first = character :: between := by
    apply List.exists_cons_of_ne_nil
    rw [Ne, List.drop_eq_nil_iff, List.length_take_of_le inside]
    omega
  have joined := List.take_append_drop first (text.take second)
  rw [List.take_take, Nat.min_eq_left inFront.le, cut] at joined
  rw [← joined, byteSize_append, byteSize_cons]
  have positive := Char.utf8Size_pos character
  omega

/-- Two places of a key have different spans. -/
theorem eq_of_ofKeyAt_eq {first second : Nat} (isFirst : IsKeyAt key text first)
    (isSecond : IsKeyAt key text second)
    (same : ofKeyAt key text first = ofKeyAt key text second) : first = second := by
  have sizes : byteSize (text.take first) = byteSize (text.take second) := congrArg start same
  have firstInside := lt_length_of_occurs (List.cons_ne_nil _ _) isFirst.1
  have secondInside := lt_length_of_occurs (List.cons_ne_nil _ _) isSecond.1
  rcases Nat.lt_trichotomy first second with inFront | equal | behind
  · exact absurd sizes (byteSize_take_lt inFront secondInside.le).ne
  · exact equal
  · exact absurd sizes (byteSize_take_lt behind firstInside.le).ne'

/-- The search for a key looks at the places of the quoted key from left to right that overlap
none it has looked at before, and finds the leftmost of these with a colon behind it.  So it
finds the leftmost place of the key exactly when it looks at that place. -/
theorem ofKey_findsLeftmost (key : String) (text : List Char) :
    FindsLeftmost key text (lookedAt key text) ∧
    (FindsLeftmost key text {place | IsKeyAt key text place} ↔
      ∀ place, IsLeast {place | IsKeyAt key text place} place →
        IsMatch (quotedKey key) text place) := by
  have looks := findsLeftmost_lookedAt key text
  have included : lookedAt key text ⊆ {place | IsKeyAt key text place} := fun place held => held.2
  refine ⟨looks, fun finds place least => ?_, fun matches' => ⟨fun place least => ?_, ?_⟩⟩
  · obtain ⟨other, otherLeast, same⟩ := ofKey_eq_some_iff.1 (finds.1 place least)
    rw [eq_of_ofKeyAt_eq least.1 otherLeast.1.2 same]
    exact otherLeast.1.1
  · have seen : place ∈ lookedAt key text := ⟨matches' place least, least.1⟩
    exact looks.1 place ⟨seen, fun other held => least.2 (included held)⟩
  · rw [looks.2]
    constructor
    · intro unseen
      by_contra nonempty
      obtain ⟨place, least⟩ := exists_isLeast nonempty
      exact Set.eq_empty_iff_forall_notMem.1 unseen place ⟨matches' place least, least.1⟩
    · exact fun empty => Set.subset_empty_iff.1 (empty ▸ included)

/-- The quotation mark that ends the value `Y` and the one that starts the key `,` are taken for
a quoted comma, so the key overlaps a place that was looked at before and is not found. -/
theorem not_findsLeftmost_comma :
    let text := "\x7b\"X\":\"Y\",\",\":1\x7d".toList
    ofKey text "," = none ∧ IsKeyAt "," text 9 ∧
      ¬ FindsLeftmost "," text {place | IsKeyAt "," text place} := by
  intro text
  have unfound : ofKey text "," = none := by decide
  have stands : IsKeyAt "," text 9 :=
    ⟨⟨[':', '1', '\x7d'], by decide⟩, [], ['1', '\x7d'], by decide, by simp⟩
  refine ⟨unfound, stands, fun finds => ?_⟩
  exact Set.eq_empty_iff_forall_notMem.1 (finds.2.1 unfound) 9 stands

end Leftmost

end Span

end AstGrammar.Text
