import Mathlib.Tactic.SplitIfs
import AstGrammar.Files.Tree

/-!
# What is written to a tree of files

A text that is written to a file is what is read from it afterwards.  The way to
the file leads through directories, and a file that is put at the end of the way
takes none of them away.
-/

namespace AstGrammar

namespace FileTree

variable {tree : FileTree} {names other start : List String} {content : ByteArray}

theorem placeAt_eq_directory_iff :
    tree.placeAt names = .directory ↔
      tree.files.lookup names = none ∧
        (isAbove names ∨ ∃ entry ∈ tree.files, names.isPrefixOf entry.1) := by
  rw [placeAt]
  cases tree.files.lookup names with
  | some content => simp
  | none =>
      cases isAbove names with
      | true => simp
      | false => simp

@[simp]
theorem placeAt_put_self : (tree.put names content).placeAt names = .file content := by
  simp [placeAt, put]

/-- A directory stays one when a file is put elsewhere. -/
theorem placeAt_put_of_directory (isDirectory : tree.placeAt other = .directory)
    (different : other ≠ names) : (tree.put names content).placeAt other = .directory := by
  obtain ⟨isNoFile, isThere⟩ := placeAt_eq_directory_iff.1 isDirectory
  rw [placeAt_eq_directory_iff]
  constructor
  · rw [List.lookup_eq_none_iff] at isNoFile ⊢
    intro entry member
    rcases List.mem_cons.1 member with rfl | kept
    · simpa using different
    · exact isNoFile entry (List.mem_filter.1 kept).1
  · refine isThere.imp_right fun ⟨entry, member, below⟩ => ?_
    by_cases replaced : entry.1 = names
    · exact ⟨(names, content), List.mem_cons_self, replaced ▸ below⟩
    · exact ⟨entry, List.mem_cons_of_mem _ (List.mem_filter.2 ⟨member, by simpa using replaced⟩),
        below⟩

/-- All steps that can be taken: from a directory, with a name that is not too
long. -/
theorem step_eq_ok_iff {name : String} :
    tree.step start name = .ok other ↔
      tree.placeAt start = .directory ∧ name.utf8ByteSize ≤ greatestNameSize ∧
        other = extended start name := by
  rw [step]
  cases tree.placeAt start with
  | file content => simp
  | nothing => simp
  | directory =>
      by_cases tooLong : greatestNameSize < name.utf8ByteSize
      · simp [tooLong, Nat.not_le.2 tooLong]
      · simp [tooLong, Nat.not_lt.1 tooLong, eq_comm]

/-- A way to a place that is no directory leads there also with a file put at
its end, since it does not pass through the place before. -/
theorem foldlM_step_put (noDirectory : tree.placeAt names ≠ .directory) {way : List String}
    (leads : way.foldlM tree.step start = .ok names) :
    way.foldlM (tree.put names content).step start = .ok names := by
  induction way generalizing start with
  | nil => exact leads
  | cons name rest ih =>
      rw [List.foldlM_cons] at leads ⊢
      cases stepped : tree.step start name with
      | error error =>
          rw [stepped] at leads
          cases leads
      | ok next =>
          rw [stepped] at leads
          obtain ⟨isDirectory, short, nextEq⟩ := step_eq_ok_iff.1 stepped
          have passedBefore : start ≠ names := by
            rintro rfl
            exact noDirectory isDirectory
          have steppedThen : (tree.put names content).step start name = .ok next :=
            step_eq_ok_iff.2
              ⟨placeAt_put_of_directory isDirectory passedBefore, short, nextEq⟩
          rw [steppedThen]
          exact ih leads

theorem follow_put {path : String} (noDirectory : tree.placeAt names ≠ .directory)
    (leads : tree.follow path = .ok names) :
    (tree.put names content).follow path = .ok names := by
  rw [follow] at leads ⊢
  split_ifs at leads ⊢ with hasNul isEmpty tooLong isAbsolute
  · exact leads
  · exact foldlM_step_put noDirectory leads

/-- All that a write can be: a file is put where the path leads, unless a
directory is there. -/
theorem write_eq_ok_iff {path text : String} {written : FileTree} :
    tree.write path text = .ok written ↔
      ∃ names, tree.target path = .ok names ∧ tree.placeAt names ≠ .directory ∧
        written = tree.put names text.toUTF8 := by
  rw [write]
  cases tree.target path with
  | error error => simp
  | ok names => cases found : tree.placeAt names <;> simp [found, eq_comm]

theorem follow_of_target {path : String} (targets : tree.target path = .ok names) :
    tree.follow path = .ok names := by
  rw [target] at targets
  split_ifs at targets with atSlash
  · cases followed : tree.follow (parentPath path) <;> simp [followed] at targets
  · exact targets

/-- What is written is what is read. -/
theorem read_of_write {path text : String} {written : FileTree}
    (writes : tree.write path text = .ok written) : written.read path = .ok text := by
  obtain ⟨names, targets, noDirectory, rfl⟩ := write_eq_ok_iff.1 writes
  have leads : (tree.put names text.toUTF8).follow path = .ok names :=
    follow_put noDirectory (follow_of_target targets)
  have decodes : String.fromUTF8? text.toUTF8 = some text := by
    have valid : text.toUTF8.IsValidUTF8 := text.isValidUTF8
    simp only [String.fromUTF8?, valid, dite_true]
    rfl
  simp only [read, leads, placeAt_put_self, decodes]

end FileTree

end AstGrammar
