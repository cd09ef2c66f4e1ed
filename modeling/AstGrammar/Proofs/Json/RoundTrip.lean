import AstGrammar.Json.Printer
import AstGrammar.Json.Reader
import AstGrammar.Proofs.Registry

/-!
# Reading printed values

A tree of texts is a value without numbers in which no object repeats a name.  It is read
back from its compact text, whatever follows the text, when it is nested no deeper than the
reader allows.  So the compact text has one meaning, and it holds no control characters.
-/

namespace AstGrammar.Json

/-- A value without numbers in which no object repeats a member name. -/
inductive IsTextTree : Json → Prop
  | null : IsTextTree .null
  | bool (value : Bool) : IsTextTree (.bool value)
  | string (text : String) : IsTextTree (.string text)
  | array {items : List Json} (trees : ∀ item ∈ items, IsTextTree item) :
      IsTextTree (.array items)
  | object {members : List (String × Json)} (nodup : (members.map Prod.fst).Nodup)
      (trees : ∀ member ∈ members, IsTextTree member.2) :
      IsTextTree (.object members)

mutual

/-- How many lists and objects stand around each other, at the deepest place. -/
def depth : Json → Nat
  | .array items => itemsDepth items + 1
  | .object members => membersDepth members + 1
  | _ => 0

def itemsDepth : List Json → Nat
  | [] => 0
  | item :: rest => max (depth item) (itemsDepth rest)

def membersDepth : List (String × Json) → Nat
  | [] => 0
  | (_, value) :: rest => max (depth value) (membersDepth rest)

end

theorem itemsDepth_le_iff {items : List Json} {bound : Nat} :
    itemsDepth items ≤ bound ↔ ∀ item ∈ items, item.depth ≤ bound := by
  induction items with
  | nil => simp [itemsDepth]
  | cons item rest ih => rw [itemsDepth, Nat.max_le, List.forall_mem_cons, ih]

theorem membersDepth_le_iff {members : List (String × Json)} {bound : Nat} :
    membersDepth members ≤ bound ↔ ∀ member ∈ members, member.2.depth ≤ bound := by
  induction members with
  | nil => simp [membersDepth]
  | cons member rest ih => rw [membersDepth, Nat.max_le, List.forall_mem_cons, ih]

section Strings

variable {taken rest : List Char}

theorem hexUnit?_hexDigit : ∀ code < 0x20,
    hexUnit? '0' '0' (hexDigit (code / 16)) (hexDigit (code % 16)) = some code := by
  decide

theorem readString_of_readEscape {escape : List Char} {character : Char}
    (read : readEscape escape = .ok (character, rest)) :
    readString taken ('\\' :: escape) = readString (character :: taken) rest := by
  rw [readString]
  split
  · next other behind found =>
      rw [read] at found
      cases found
      rfl
  · next found =>
      rw [read] at found
      cases found

theorem readEscape_control {character : Char} (control : character.toNat < 0x20) :
    readEscape ('u' :: '0' :: '0' :: hexDigit (character.toNat / 16) ::
      hexDigit (character.toNat % 16) :: rest) = .ok (character, rest) := by
  have noLow : isLowSurrogate character.toNat = false := by
    rw [isLowSurrogate, Bool.and_eq_false_iff]
    exact .inl (decide_eq_false (by omega))
  have noHigh : isHighSurrogate character.toNat = false := by
    rw [isHighSurrogate, Bool.and_eq_false_iff]
    exact .inl (decide_eq_false (by omega))
  rw [readEscape, readUnicodeEscape, readUnit, hexUnit?_hexDigit _ control]
  simp [noLow, noHigh, Char.ofNat_toNat]

/-- A character of a string is read back from what is written for it. -/
theorem readString_printCharacter (character : Char) :
    readString taken (printCharacter character ++ rest) =
      readString (character :: taken) rest := by
  unfold printCharacter
  split
  case h_8 noQuote noBackslash _ _ _ _ _ =>
    split
    · next control => exact readString_of_readEscape (readEscape_control control)
    · next printable =>
        rw [List.cons_append, readString, if_neg printable]
        · rfl
        · exact noQuote
        · exact noBackslash
  all_goals exact readString_of_readEscape rfl

theorem readString_flatMap (text : List Char) :
    readString taken (text.flatMap printCharacter ++ '"' :: rest) =
      .ok (String.ofList (taken.reverse ++ text), rest) := by
  induction text generalizing taken with
  | nil => rw [List.flatMap_nil, List.nil_append, readString, List.append_nil]
  | cons character others ih =>
      rw [List.flatMap_cons, List.append_assoc, readString_printCharacter, ih,
        List.reverse_cons, List.append_assoc, List.singleton_append]

theorem readString_printString (text : String) :
    readString [] (text.toList.flatMap printCharacter ++ '"' :: rest) = .ok (text, rest) := by
  rw [readString_flatMap, List.reverse_nil, List.nil_append, String.ofList_toList]

end Strings

theorem skipBlanks_cons {first : Char} {text : List Char} (noBlank : isBlank first = false) :
    skipBlanks (first :: text) = first :: text :=
  List.dropWhile_cons_of_neg (by simp [noBlank])

/-- No printed value starts with a blank, nor with what ends a list. -/
theorem exists_print_eq_cons {value : Json} (tree : value.IsTextTree) :
    ∃ first text, print value = first :: text ∧ isBlank first = false ∧ first ≠ ']' := by
  cases tree with
  | null => exact ⟨_, _, rfl, by decide, by decide⟩
  | bool value => cases value <;> exact ⟨_, _, rfl, by decide, by decide⟩
  | string text => exact ⟨_, _, rfl, by decide, by decide⟩
  | array trees => exact ⟨_, _, rfl, by decide, by decide⟩
  | object nodup trees => exact ⟨_, _, rfl, by decide, by decide⟩

theorem skipBlanks_print {value : Json} (tree : value.IsTextTree) (rest : List Char) :
    skipBlanks (print value ++ rest) = print value ++ rest := by
  obtain ⟨first, text, printed, noBlank, -⟩ := exists_print_eq_cons tree
  rw [printed, List.cons_append, skipBlanks_cons noBlank]

/-- The reader reads back the printed value, whatever follows it. -/
def ValueReader.ReadsBack (reader : ValueReader) (value : Json) : Prop :=
  ∀ rest, reader.read (print value ++ rest) = .ok (value, rest)

section Lists

variable {inner : ValueReader} {item : Json} {taken : List Json} {text after rest : List Char}

theorem readItems_last (read : inner.read (skipBlanks text) = .ok (item, after))
    (last : skipBlanks after = ']' :: rest) :
    readItems inner taken text = .ok ((item :: taken).reverse, rest) := by
  rw [readItems]
  split
  · next found =>
      rw [read] at found
      cases found
  · next found =>
      rw [read] at found
      cases found
      dsimp only
      split
      all_goals simp_all

theorem readItems_next (read : inner.read (skipBlanks text) = .ok (item, after))
    (next : skipBlanks after = ',' :: rest) (more : ∀ others, skipBlanks rest ≠ ']' :: others) :
    readItems inner taken text = readItems inner (item :: taken) rest := by
  rw [readItems]
  split
  · next found =>
      rw [read] at found
      cases found
  · next found =>
      rw [read] at found
      cases found
      dsimp only
      split
      all_goals simp_all

theorem exists_printItems_eq_cons {first : Json} (items : List Json) (tree : first.IsTextTree) :
    ∃ start text, printItems (first :: items) = start :: text ∧ isBlank start = false ∧
      start ≠ ']' := by
  obtain ⟨start, text, printed, noBlank, noEnd⟩ := exists_print_eq_cons tree
  cases items with
  | nil => exact ⟨start, text, printed, noBlank, noEnd⟩
  | cons next items =>
      rw [printItems, printed]
      exact ⟨start, _, rfl, noBlank, noEnd⟩

/-- Printed items are read one after the other, up to the end of the list. -/
theorem readItems_printItems {first : Json} {items : List Json}
    (trees : ∀ item ∈ first :: items, item.IsTextTree)
    (readsBack : ∀ item ∈ first :: items, inner.ReadsBack item) :
    readItems inner taken (printItems (first :: items) ++ ']' :: rest) =
      .ok (taken.reverse ++ first :: items, rest) := by
  induction items generalizing first taken with
  | nil =>
      have read : inner.read (skipBlanks (printItems [first] ++ ']' :: rest)) =
          .ok (first, ']' :: rest) := by
        rw [printItems, skipBlanks_print (trees first List.mem_cons_self)]
        exact readsBack first List.mem_cons_self _
      rw [readItems_last read (skipBlanks_cons (by decide)), List.reverse_cons]
  | cons next items ih =>
      have read : inner.read (skipBlanks (printItems (first :: next :: items) ++ ']' :: rest)) =
          .ok (first, ',' :: (printItems (next :: items) ++ ']' :: rest)) := by
        rw [printItems, List.append_assoc, skipBlanks_print (trees first List.mem_cons_self)]
        exact readsBack first List.mem_cons_self _
      have more (others : List Char) :
          skipBlanks (printItems (next :: items) ++ ']' :: rest) ≠ ']' :: others := by
        obtain ⟨start, text, printed, noBlank, noEnd⟩ :=
          exists_printItems_eq_cons items (trees next (by simp))
        rw [printed, List.cons_append, skipBlanks_cons noBlank]
        exact fun same => noEnd (List.cons.inj same).1
      rw [readItems_next read (skipBlanks_cons (by decide)) more,
        ih (fun item member => trees item (List.mem_cons_of_mem _ member))
          (fun item member => readsBack item (List.mem_cons_of_mem _ member)),
        List.reverse_cons, List.append_assoc, List.singleton_append]

theorem readList_printItems {items : List Json} (trees : ∀ item ∈ items, item.IsTextTree)
    (readsBack : ∀ item ∈ items, inner.ReadsBack item) :
    readList inner (printItems items ++ ']' :: rest) = .ok (items, rest) := by
  cases items with
  | nil => rfl
  | cons first items =>
      obtain ⟨start, text, printed, noBlank, noEnd⟩ :=
        exists_printItems_eq_cons items (trees first List.mem_cons_self)
      have blankless : skipBlanks (printItems (first :: items) ++ ']' :: rest) =
          start :: (text ++ ']' :: rest) := by
        rw [printed, List.cons_append, skipBlanks_cons noBlank]
      rw [readList]
      split
      · next empty =>
          rw [blankless] at empty
          cases empty
      · next ends =>
          rw [blankless] at ends
          exact absurd (List.cons.inj ends).1 noEnd
      · exact readItems_printItems trees readsBack

end Lists

section Objects

variable {inner : ValueReader} {name : String} {value : Json}
  {members taken : List (String × Json)} {text after behind rest : List Char}

theorem readMember_printString (name : String) (tree : value.IsTextTree)
    (readsBack : inner.ReadsBack value) (rest : List Char) :
    readMember inner (name.toList.flatMap printCharacter ++ '"' :: ':' :: (print value ++ rest)) =
      .ok ((name, value), rest) := by
  have colon : skipBlanks (':' :: (print value ++ rest)) = ':' :: (print value ++ rest) :=
    skipBlanks_cons (by decide)
  rw [readMember, readString_printString]
  simp only [colon, skipBlanks_print tree, readsBack rest]

theorem readMembers_last (read : readMember inner text = .ok ((name, value), after))
    (last : skipBlanks after = '\x7d' :: rest) :
    readMembers inner taken text = .ok (Entries.set name value taken, rest) := by
  rw [readMembers]
  split
  · next found =>
      rw [read] at found
      cases found
  · next found =>
      rw [read] at found
      cases found
      dsimp only
      split
      all_goals simp_all

theorem readMembers_next (read : readMember inner text = .ok ((name, value), after))
    (next : skipBlanks after = ',' :: behind) (quote : skipBlanks behind = '"' :: rest) :
    readMembers inner taken text = readMembers inner (Entries.set name value taken) rest := by
  rw [readMembers]
  split
  · next found =>
      rw [read] at found
      cases found
  · next found =>
      rw [read] at found
      cases found
      dsimp only
      split
      · simp_all
      · simp_all
      · next comma =>
          rw [next, List.cons.injEq] at comma
          obtain ⟨-, rfl⟩ := comma
          split
          all_goals simp_all
      · simp_all

/-- A name that was not there yet stands behind the others. -/
theorem set_of_nodup (nodup : ((taken ++ (name, value) :: members).map Prod.fst).Nodup) :
    Entries.set name value taken = taken ++ [(name, value)] := by
  apply Entries.set_of_notMem
  rw [List.map_append, List.nodup_append] at nodup
  exact fun held => nodup.2.2 name held name List.mem_cons_self rfl

/-- Printed members start with the quote of a name, behind which they are read one after the
other, up to the end of the object. -/
theorem exists_readMembers_printMembers
    (nodup : ((taken ++ (name, value) :: members).map Prod.fst).Nodup)
    (trees : ∀ member ∈ (name, value) :: members, member.2.IsTextTree)
    (readsBack : ∀ member ∈ (name, value) :: members, inner.ReadsBack member.2)
    (rest : List Char) :
    ∃ text, printMembers ((name, value) :: members) ++ '\x7d' :: rest = '"' :: text ∧
      readMembers inner taken text = .ok (taken ++ (name, value) :: members, rest) := by
  induction members generalizing name value taken with
  | nil =>
      refine ⟨name.toList.flatMap printCharacter ++ '"' :: ':' :: (print value ++ '\x7d' :: rest),
        by simp [printMembers, printString], ?_⟩
      have read := readMember_printString name (trees _ List.mem_cons_self)
        (readsBack _ List.mem_cons_self) ('\x7d' :: rest)
      rw [readMembers_last read (skipBlanks_cons (by decide)), set_of_nodup nodup]
  | cons next members ih =>
      obtain ⟨nextName, nextValue⟩ := next
      have regrouped : taken ++ (name, value) :: (nextName, nextValue) :: members =
          (taken ++ [(name, value)]) ++ (nextName, nextValue) :: members := by simp
      obtain ⟨behind, printed, others⟩ := ih (regrouped ▸ nodup)
        (fun member held => trees member (List.mem_cons_of_mem _ held))
        (fun member held => readsBack member (List.mem_cons_of_mem _ held))
      refine ⟨name.toList.flatMap printCharacter ++ '"' :: ':' :: (print value ++
        ',' :: (printMembers ((nextName, nextValue) :: members) ++ '\x7d' :: rest)),
        by simp [printMembers, printString], ?_⟩
      have read := readMember_printString name (trees _ List.mem_cons_self)
        (readsBack _ List.mem_cons_self)
        (',' :: (printMembers ((nextName, nextValue) :: members) ++ '\x7d' :: rest))
      have quote : skipBlanks (printMembers ((nextName, nextValue) :: members) ++
          '\x7d' :: rest) = '"' :: behind := by
        rw [printed, skipBlanks_cons (by decide)]
      rw [readMembers_next read (skipBlanks_cons (by decide)) quote, set_of_nodup nodup, others,
        regrouped]

theorem readObject_printMembers (nodup : (members.map Prod.fst).Nodup)
    (trees : ∀ member ∈ members, member.2.IsTextTree)
    (readsBack : ∀ member ∈ members, inner.ReadsBack member.2) :
    readObject inner (printMembers members ++ '\x7d' :: rest) = .ok (members, rest) := by
  cases members with
  | nil => rfl
  | cons member members =>
      obtain ⟨name, value⟩ := member
      have namesNodup : (([] ++ (name, value) :: members).map Prod.fst).Nodup := nodup
      obtain ⟨text, printed, read⟩ :=
        exists_readMembers_printMembers namesNodup trees readsBack rest
      rw [readObject, printed, skipBlanks_cons (by decide)]
      exact read

end Objects

theorem enclosed_append (opening closing : Char) (text rest : List Char) :
    opening :: text ++ [closing] ++ rest = opening :: (text ++ closing :: rest) := by
  simp

theorem readValue_printString (inner : Option ValueReader) (text : String) (rest : List Char) :
    readValue inner (printString text ++ rest) = .ok (.string text, rest) := by
  rw [printString, enclosed_append, readValue, readString_printString, Reading.map]

/-- A tree of texts is read back by the reader of any level that is at least its depth. -/
theorem readsBack_of_depth_le {value : Json} (tree : value.IsTextTree) {level : Nat}
    (shallow : value.depth ≤ level) : (reader level).ReadsBack value := by
  -- Each list and object takes one level for what stands in it.
  induction tree generalizing level with
  | null => cases level <;> exact fun rest => rfl
  | bool value => cases level <;> cases value <;> exact fun rest => rfl
  | string text =>
      cases level with
      | zero => exact readValue_printString none text
      | succ level => exact readValue_printString (some (reader level)) text
  | @array items trees ih =>
      cases level with
      | zero => exact absurd shallow (by simp [depth])
      | succ level =>
          rw [depth, Nat.add_le_add_iff_right, itemsDepth_le_iff] at shallow
          intro rest
          change readValue (some (reader level)) ('[' :: printItems items ++ [']'] ++ rest) = _
          rw [enclosed_append, readValue,
            readList_printItems trees fun item member => ih item member (shallow item member),
            Reading.map]
  | @object members nodup trees ih =>
      cases level with
      | zero => exact absurd shallow (by simp [depth])
      | succ level =>
          rw [depth, Nat.add_le_add_iff_right, membersDepth_le_iff] at shallow
          intro rest
          change readValue (some (reader level))
            ('\x7b' :: printMembers members ++ ['\x7d'] ++ rest) = _
          rw [enclosed_append, readValue, readObject_printMembers nodup trees fun member held =>
            ih member held (shallow member held), Reading.map]

/-- The compact text of a tree of texts means that tree. -/
theorem parse_compact {value : Json} (tree : value.IsTextTree)
    (shallow : value.depth ≤ greatestDepth) : parse value.compact = .ok value := by
  have read : (reader greatestDepth).read (skipBlanks (print value)) = .ok (value, []) := by
    have blankless := skipBlanks_print tree []
    rw [List.append_nil] at blankless
    rw [blankless]
    simpa using readsBack_of_depth_le tree shallow []
  rw [parse, compact, String.toList_ofList, readText, read]
  rfl

section Printable

/-- Without control characters, of which a string in a JSON text may not hold any. -/
def IsPrintable (text : List Char) : Prop := ∀ character ∈ text, 0x20 ≤ character.toNat

variable {first second : List Char}

@[simp] theorem isPrintable_nil : IsPrintable [] := fun _ member => absurd member List.not_mem_nil

@[simp] theorem isPrintable_append :
    IsPrintable (first ++ second) ↔ IsPrintable first ∧ IsPrintable second :=
  List.forall_mem_append

@[simp] theorem isPrintable_cons {start : Char} :
    IsPrintable (start :: first) ↔ 0x20 ≤ start.toNat ∧ IsPrintable first :=
  List.forall_mem_cons

theorem isPrintable_hexDigits : ∀ code < 0x20,
    0x20 ≤ (hexDigit (code / 16)).toNat ∧ 0x20 ≤ (hexDigit (code % 16)).toNat := by
  decide

theorem isPrintable_printCharacter (character : Char) :
    IsPrintable (printCharacter character) := by
  unfold printCharacter
  split
  case h_8 =>
    split
    · next control => simp [isPrintable_hexDigits _ control]
    · next printable => simpa using printable
  all_goals simp

theorem isPrintable_printString (text : String) : IsPrintable (printString text) := by
  have body : IsPrintable (text.toList.flatMap printCharacter) := by
    intro character member
    obtain ⟨source, -, printed⟩ := List.mem_flatMap.1 member
    exact isPrintable_printCharacter source character printed
  simp [printString, body]

theorem isPrintable_printItems {items : List Json}
    (printable : ∀ item ∈ items, IsPrintable (print item)) : IsPrintable (printItems items) := by
  induction items with
  | nil => simp [printItems]
  | cons first items ih =>
      rw [List.forall_mem_cons] at printable
      cases items with
      | nil => exact printable.1
      | cons next items => simp [printItems, printable.1, ih printable.2]

theorem isPrintable_printMembers {members : List (String × Json)}
    (printable : ∀ member ∈ members, IsPrintable (print member.2)) :
    IsPrintable (printMembers members) := by
  induction members with
  | nil => simp [printMembers]
  | cons first members ih =>
      rw [List.forall_mem_cons] at printable
      cases members with
      | nil => simp [printMembers, isPrintable_printString, printable.1]
      | cons next members =>
          simp [printMembers, isPrintable_printString, printable.1, ih printable.2]

theorem isPrintable_print {value : Json} (tree : value.IsTextTree) : IsPrintable (print value) := by
  induction tree with
  | null => simp [print]
  | bool value => cases value <;> simp [print]
  | string text => exact isPrintable_printString text
  | array trees ih => simp [print, isPrintable_printItems ih]
  | object nodup trees ih => simp [print, isPrintable_printMembers ih]

end Printable

end AstGrammar.Json
