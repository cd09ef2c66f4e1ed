import Mathlib.Data.List.TakeWhile
import AstGrammar.AttributeOrder.Line

/-!
# Written lines

A line of hints has an indent, perhaps a name, a gap and perhaps a comment.
Reading a line takes exactly such parts off the text: whatever it takes has
this form, and what has this form up to a line end is taken whole.
-/

namespace AstGrammar.AttributeOrder

open Text

/-- The parts of a line. A line without a name has an empty one. -/
structure LineParts where
  indent : List Char
  name : List Char
  gap : List Char
  comment : List Char
  indent_blank : ∀ character ∈ indent, isIndent character = true
  name_identifier : ∀ character ∈ name, isIdentifier character = true
  gap_blank : ∀ character ∈ gap, isIndent character = true
  comment_marked : ∀ character ∈ comment.head?, character = '#'

namespace LineParts

def characters (parts : LineParts) : List Char :=
  parts.indent ++ (parts.name ++ (parts.gap ++ parts.comment))

/-- The name with the place where it is written. -/
def hint (parts : LineParts) (offset : Nat) : Hint :=
  ⟨String.ofList parts.name, .ofPiece (offset + byteSize parts.indent) parts.name⟩

/-- What a line with these parts says: nothing, or a name that is indented or
not. -/
def line (parts : LineParts) (offset : Nat) : Line :=
  if parts.name = [] then .blank
  else if parts.indent = [] then .heading (parts.hint offset)
  else .indented (parts.hint offset)

end LineParts

section Characters

variable {character : Char}

theorem isIdentifier_of_isIndent (blank : isIndent character = true) :
    isIdentifier character = false := by
  simp only [isIndent, Bool.or_eq_true, beq_iff_eq] at blank
  rcases blank with rfl | rfl <;> decide +kernel

theorem isLineEnd_of_isIndent (blank : isIndent character = true) :
    isLineEnd character = false := by
  simp only [isIndent, Bool.or_eq_true, beq_iff_eq] at blank
  rcases blank with rfl | rfl <;> decide

theorem isIdentifier_of_isLineEnd (lineEnd : isLineEnd character = true) :
    isIdentifier character = false := by
  simp only [isLineEnd, Bool.or_eq_true, beq_iff_eq] at lineEnd
  rcases lineEnd with rfl | rfl <;> decide +kernel

theorem isIndent_of_isLineEnd (lineEnd : isLineEnd character = true) :
    isIndent character = false := by
  simp only [isLineEnd, Bool.or_eq_true, beq_iff_eq] at lineEnd
  rcases lineEnd with rfl | rfl <;> decide

theorem isIndent_of_isIdentifier (identifier : isIdentifier character = true) :
    isIndent character = false := by
  rw [Bool.eq_false_iff]
  intro blank
  rw [isIdentifier_of_isIndent blank] at identifier
  cases identifier

theorem isLineEnd_of_isIdentifier (identifier : isIdentifier character = true) :
    isLineEnd character = false := by
  rw [Bool.eq_false_iff]
  intro lineEnd
  rw [isIdentifier_of_isLineEnd lineEnd] at identifier
  cases identifier

theorem isLineEnd_eq_false_iff :
    isLineEnd character = false ↔ character ≠ '\r' ∧ character ≠ '\n' := by
  simp [isLineEnd]

end Characters

section Runs

variable {test : Char → Bool} {run rest : List Char}

theorem first_fails (fails : ∀ character ∈ rest.head?, test character = false)
    (nonempty : 0 < rest.length) : ¬ test rest[0] = true := by
  have head : rest[0] ∈ rest.head? := by simp [List.head?_eq_getElem?]
  simp [fails rest[0] head]

/-- Nothing is taken off a text whose first character fails. -/
theorem takeWhile_eq_nil (fails : ∀ character ∈ rest.head?, test character = false) :
    rest.takeWhile test = [] :=
  List.takeWhile_eq_nil_iff.2 (first_fails fails)

theorem dropWhile_eq_self (fails : ∀ character ∈ rest.head?, test character = false) :
    rest.dropWhile test = rest :=
  List.dropWhile_eq_self_iff.2 (first_fails fails)

/-- A run of characters that pass is taken whole, and no more than it where the
next character fails. -/
theorem takeWhile_run (pass : ∀ character ∈ run, test character = true)
    (fails : ∀ character ∈ rest.head?, test character = false) :
    (run ++ rest).takeWhile test = run := by
  rw [List.takeWhile_append_of_pos pass, takeWhile_eq_nil fails, List.append_nil]

theorem dropWhile_run (pass : ∀ character ∈ run, test character = true)
    (fails : ∀ character ∈ rest.head?, test character = false) :
    (run ++ rest).dropWhile test = rest := by
  rw [List.dropWhile_append_of_pos pass, dropWhile_eq_self fails]

end Runs

theorem atLineEnd_cases {tail : List Char} (ends : atLineEnd tail = true) :
    tail = [] ∨ (∃ rest, tail = '\n' :: rest) ∨ ∃ rest, tail = '\r' :: '\n' :: rest := by
  rw [atLineEnd, Bool.or_eq_true, List.isEmpty_iff] at ends
  rcases ends with empty | found
  · exact Or.inl empty
  · rw [lineEnd?.eq_def] at found
    split at found
    · exact Or.inr (Or.inl ⟨_, rfl⟩)
    · exact Or.inr (Or.inr ⟨_, rfl⟩)
    · cases found

theorem isLineEnd_head_of_atLineEnd {tail : List Char} (ends : atLineEnd tail = true) :
    ∀ character ∈ tail.head?, isLineEnd character = true := by
  rcases atLineEnd_cases ends with rfl | ⟨rest, rfl⟩ | ⟨rest, rfl⟩
  all_goals
    intro character head
    cases head
  all_goals decide

section Comments

variable {comment tail : List Char}

/-- Where a comment may start, neither a gap nor a name goes on. -/
theorem head_comment_append (marked : ∀ character ∈ comment.head?, character = '#')
    (ends : atLineEnd tail = true) :
    ∀ character ∈ (comment ++ tail).head?,
      isIndent character = false ∧ isIdentifier character = false := by
  intro character head
  cases comment with
  | nil =>
      have lineEnd := isLineEnd_head_of_atLineEnd ends character head
      exact ⟨isIndent_of_isLineEnd lineEnd, isIdentifier_of_isLineEnd lineEnd⟩
  | cons first rest =>
      rw [marked character head]
      decide +kernel

/-- A comment is skipped up to the line end. -/
theorem skipComment_append (marked : ∀ character ∈ comment.head?, character = '#')
    (unbroken : ∀ character ∈ comment, isLineEnd character = false)
    (ends : atLineEnd tail = true) : skipComment (comment ++ tail) = tail := by
  have stops := isLineEnd_head_of_atLineEnd ends
  cases comment with
  | nil =>
      cases tail with
      | nil => rfl
      | cons first rest =>
          have lineEnd := stops first rfl
          have unmarked : first ≠ '#' := by
            rintro rfl
            revert lineEnd
            decide
          simp [skipComment, unmarked]
  | cons first rest =>
      have behind : (rest ++ tail).dropWhile (fun character => !isLineEnd character) = tail := by
        apply dropWhile_run
        · intro character member
          simp [unbroken character (List.mem_cons_of_mem _ member)]
        · intro character head
          simp [stops character head]
      rw [marked first rfl, List.cons_append, skipComment]
      simp only [behind, ends, if_true]

/-- What is skipped is a comment without line ends, or nothing. -/
theorem exists_comment_skipComment (text : List Char) :
    ∃ comment, text = comment ++ skipComment text ∧
      (∀ character ∈ comment.head?, character = '#') ∧
      ∀ character ∈ comment, isLineEnd character = false := by
  unfold skipComment
  split
  · next rest =>
      dsimp only
      split
      · refine ⟨'#' :: rest.takeWhile fun character => !isLineEnd character, ?_, ?_, ?_⟩
        · rw [List.cons_append, List.takeWhile_append_dropWhile]
        · simp
        · intro character member
          rcases List.mem_cons.1 member with rfl | later
          · decide
          · simpa using List.all_eq_true.1 List.all_takeWhile character later
      · exact ⟨[], rfl, by simp, by simp⟩
  · exact ⟨[], rfl, by simp, by simp⟩

end Comments

section Reading

variable {indent name gap rest : List Char}

/-- Blanks and a comment are a line without a name. -/
theorem readLine_blanks (blank : ∀ character ∈ indent, isIndent character = true)
    (stops : ∀ character ∈ rest.head?,
      isIndent character = false ∧ isIdentifier character = false) (offset : Nat) :
    readLine offset (indent ++ rest) = ⟨.blank, skipComment rest⟩ := by
  have behindIndent : (indent ++ rest).dropWhile isIndent = rest :=
    dropWhile_run blank fun character head => (stops character head).1
  have unnamed : rest.takeWhile isIdentifier = [] :=
    takeWhile_eq_nil fun character head => (stops character head).2
  have behindName : rest.dropWhile isIdentifier = rest :=
    dropWhile_eq_self fun character head => (stops character head).2
  have behindGap : rest.dropWhile isIndent = rest :=
    dropWhile_eq_self fun character head => (stops character head).1
  simp only [readLine, behindIndent, unnamed, behindName, behindGap]
  rfl

/-- A name between blanks is read with the place where it is written. -/
theorem readLine_name (indentBlank : ∀ character ∈ indent, isIndent character = true)
    (identifier : ∀ character ∈ name, isIdentifier character = true) (named : name ≠ [])
    (gapBlank : ∀ character ∈ gap, isIndent character = true)
    (stops : ∀ character ∈ rest.head?,
      isIndent character = false ∧ isIdentifier character = false) (offset : Nat) :
    readLine offset (indent ++ (name ++ (gap ++ rest))) =
      let hint : Hint := ⟨String.ofList name, .ofPiece (offset + byteSize indent) name⟩
      ⟨if indent = [] then .heading hint else .indented hint, skipComment rest⟩ := by
  have atName : ∀ character ∈ (name ++ (gap ++ rest)).head?, isIndent character = false := by
    intro character head
    cases name with
    | nil => exact absurd rfl named
    | cons first others =>
        cases head
        exact isIndent_of_isIdentifier (identifier _ List.mem_cons_self)
  have behindName : ∀ character ∈ (gap ++ rest).head?, isIdentifier character = false := by
    intro character head
    cases gap with
    | nil => exact (stops character head).2
    | cons blank blanks =>
        cases head
        exact isIdentifier_of_isIndent (gapBlank _ List.mem_cons_self)
  have indented := takeWhile_run indentBlank atName
  have behindIndent := dropWhile_run indentBlank atName
  have taken := takeWhile_run identifier behindName
  have behind := dropWhile_run identifier behindName
  have behindGap : (gap ++ rest).dropWhile isIndent = rest :=
    dropWhile_run gapBlank fun character head => (stops character head).1
  simp only [readLine, indented, behindIndent, taken, behind, behindGap, List.isEmpty_iff, named,
    if_false]

/-- Reading takes the parts of a line and stops at its end. -/
theorem readLine_append {parts : LineParts} {tail : List Char}
    (unbroken : ∀ character ∈ parts.characters, isLineEnd character = false)
    (ends : atLineEnd tail = true) (offset : Nat) :
    readLine offset (parts.characters ++ tail) = ⟨parts.line offset, tail⟩ := by
  have stops := head_comment_append parts.comment_marked ends
  have skipped : skipComment (parts.comment ++ tail) = tail := by
    apply skipComment_append parts.comment_marked _ ends
    intro character member
    exact unbroken character (by simp [LineParts.characters, member])
  have split : parts.characters ++ tail =
      parts.indent ++ (parts.name ++ (parts.gap ++ (parts.comment ++ tail))) := by
    simp [LineParts.characters]
  rw [split, LineParts.line]
  by_cases named : parts.name = []
  · -- Without a name, indent and gap are one run of blanks.
    have blank : ∀ character ∈ parts.indent ++ parts.gap, isIndent character = true :=
      List.forall_mem_append.2 ⟨parts.indent_blank, parts.gap_blank⟩
    rw [if_pos named, named, List.nil_append, ← List.append_assoc, readLine_blanks blank stops,
      skipped]
  · rw [if_neg named, readLine_name parts.indent_blank parts.name_identifier named
      parts.gap_blank stops, skipped]
    rfl

end Reading

/-- Whatever a text starts with, reading a line takes parts off it that hold no
line end. -/
theorem exists_parts_readLine (offset : Nat) (text : List Char) :
    ∃ parts : LineParts, text = parts.characters ++ (readLine offset text).rest ∧
      (readLine offset text).line = parts.line offset ∧
      ∀ character ∈ parts.characters, isLineEnd character = false := by
  let behindIndent := text.dropWhile isIndent
  let behindName := behindIndent.dropWhile isIdentifier
  obtain ⟨comment, commentEq, marked, unbroken⟩ :=
    exists_comment_skipComment (behindName.dropWhile isIndent)
  let parts : LineParts :=
    { indent := text.takeWhile isIndent
      name := behindIndent.takeWhile isIdentifier
      gap := behindName.takeWhile isIndent
      comment := comment
      indent_blank := List.all_eq_true.1 List.all_takeWhile
      name_identifier := List.all_eq_true.1 List.all_takeWhile
      gap_blank := List.all_eq_true.1 List.all_takeWhile
      comment_marked := marked }
  refine ⟨parts, ?_, ?_, ?_⟩
  · have atIndent : text.takeWhile isIndent ++ behindIndent = text :=
      List.takeWhile_append_dropWhile
    have atName : behindIndent.takeWhile isIdentifier ++ behindName = behindIndent :=
      List.takeWhile_append_dropWhile
    have atGap : behindName.takeWhile isIndent ++ (comment ++
        skipComment (behindName.dropWhile isIndent)) = behindName := by
      rw [← commentEq]
      exact List.takeWhile_append_dropWhile
    have rest : (readLine offset text).rest = skipComment (behindName.dropWhile isIndent) := rfl
    rw [rest]
    simp only [parts, LineParts.characters, List.append_assoc]
    rw [atGap, atName, atIndent]
  · simp only [readLine, LineParts.line, parts, List.isEmpty_iff]
    rfl
  · intro character member
    simp only [LineParts.characters, List.mem_append] at member
    rcases member with inIndent | inName | inGap | inComment
    · exact isLineEnd_of_isIndent (parts.indent_blank character inIndent)
    · exact isLineEnd_of_isIdentifier (parts.name_identifier character inName)
    · exact isLineEnd_of_isIndent (parts.gap_blank character inGap)
    · exact unbroken character inComment

end AstGrammar.AttributeOrder
