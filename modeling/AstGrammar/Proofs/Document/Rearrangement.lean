import Mathlib.Data.List.Forall2
import Mathlib.Data.List.Nodup
import AstGrammar.Document.Model
import AstGrammar.Proofs.Codec.Fields
import AstGrammar.Proofs.Json.DistinctNames

/-!
# Rearranged documents

Every value of a document has a place, and the place says which names are read in an object
there.  A document is rearranged by permuting the members of such objects and by adding or
removing members that are not read.  The entries of a collection and the items of a list keep
their order.  Under each name that is read a rearranged object has a rearranged value.
-/

namespace AstGrammar.Document

/-- What a value of a document is read as. -/
inductive Place where
  | document
  | collection (shape : Shape)
  | entry (shape : Shape)
  | attributes
  | attribute
  /-- A type expression, or an argument or an alternative of one. -/
  | expression
  /-- A value in which nothing is an object that is read. -/
  | plain

namespace Place

/-- The names that are read in an object, with the places of their values. -/
def fields : Place → List (String × Place)
  | .document => [("nodes", .collection .node), ("namedTypes", .collection .namedType)]
  | .entry .node =>
      [("parents", .plain), ("children", .plain), ("attributes", .attributes), ("kind", .plain),
        ("argument", .expression)]
  | .entry .namedType =>
      [("parents", .plain), ("children", .plain), ("attributes", .attributes), ("kind", .plain),
        ("argument", .expression), ("properties", .attributes)]
  | .attribute => [("name", .plain), ("type", .expression)]
  | .expression => [("kind", .plain), ("argument", .expression)]
  | .collection _ | .attributes | .plain => []

def field? (place : Place) (name : String) : Option Place :=
  place.fields.lookup name

/-- The place of the items of a list. -/
def item? : Place → Option Place
  | .attributes => some .attribute
  | .expression => some .expression
  | _ => none

/-- An object in which names are read, so that the order of its members means nothing. -/
def IsRecord (place : Place) : Prop := place.fields ≠ []

instance (place : Place) : Decidable place.IsRecord :=
  inferInstanceAs (Decidable (place.fields ≠ []))

/-- No name that is read stands twice. -/
def ReadsOnce (place : Place) (members : List (String × Json)) : Prop :=
  ∀ name inner, place.field? name = some inner → Codec.IsOnce name members

end Place

/-- A value at a place is rearranged: the members of records are permuted, and members that are
not read are added or removed, in the value itself or in a value inside it. -/
inductive Rearranged : Place → Json → Json → Prop
  | refl {place : Place} (raw : Json) : Rearranged place raw raw
  | trans {place : Place} {first second third : Json} (former : Rearranged place first second)
      (latter : Rearranged place second third) : Rearranged place first third
  | permuted {place : Place} {members others : List (String × Json)} (record : place.IsRecord)
      (perm : members.Perm others) : Rearranged place (.object members) (.object others)
  | added {place : Place} {members : List (String × Json)} {name : String} (record : place.IsRecord)
      (unread : place.field? name = none) (value : Json) :
      Rearranged place (.object members) (.object ((name, value) :: members))
  | removed {place : Place} {members : List (String × Json)} {name : String}
      (record : place.IsRecord) (unread : place.field? name = none) (value : Json) :
      Rearranged place (.object ((name, value) :: members)) (.object members)
  | field {place inner : Place} {name : String} (front back : List (String × Json))
      {raw other : Json} (read : place.field? name = some inner)
      (value : Rearranged inner raw other) :
      Rearranged place (.object (front ++ (name, raw) :: back))
        (.object (front ++ (name, other) :: back))
  | entry {shape : Shape} (name : String) (front back : List (String × Json)) {raw other : Json}
      (value : Rearranged (.entry shape) raw other) :
      Rearranged (.collection shape) (.object (front ++ (name, raw) :: back))
        (.object (front ++ (name, other) :: back))
  | item {place inner : Place} (front back : List Json) {raw other : Json}
      (listed : place.item? = some inner) (value : Rearranged inner raw other) :
      Rearranged place (.array (front ++ raw :: back)) (.array (front ++ other :: back))
  /-- The type of an attribute that is written as a list of its name and its type. -/
  | listedType (name : Json) (rest : List Json) {raw other : Json}
      (value : Rearranged .expression raw other) :
      Rearranged .attribute (.array (name :: raw :: rest)) (.array (name :: other :: rest))

/-- Under each name that is read stand values of which one is rearranged to the other, or none
in either object. -/
def SameFields (place : Place) (members others : List (String × Json)) : Prop :=
  ∀ name inner, place.field? name = some inner →
    Option.Rel (Rearranged inner) (Json.member? name members) (Json.member? name others)

section Lookups

variable {place inner : Place} {name : String} {members others front back : List (String × Json)}
  {value raw changed : Json}

theorem Place.ReadsOnce.of_nodup (nodup : (members.map Prod.fst).Nodup) :
    place.ReadsOnce members :=
  fun name _ _ => List.nodup_iff_count_le_one.1 nodup name

theorem Place.ReadsOnce.of_names_perm (once : place.ReadsOnce members)
    (perm : (members.map Prod.fst).Perm (others.map Prod.fst)) : place.ReadsOnce others := by
  intro name inner read
  rw [Codec.IsOnce, ← perm.count_eq]
  exact once name inner read

theorem Place.readsOnce_cons_iff (unread : place.field? name = none) :
    place.ReadsOnce ((name, value) :: members) ↔ place.ReadsOnce members := by
  refine forall_congr' fun held => forall_congr' fun inner => imp_congr_right fun read => ?_
  have different : name ≠ held := by
    rintro rfl
    rw [unread] at read
    cases read
  rw [Codec.IsOnce, List.map_cons, List.count_cons_of_ne different, Codec.IsOnce]

theorem SameFields.refl (place : Place) (members : List (String × Json)) :
    SameFields place members members := by
  intro name inner read
  cases Json.member? name members with
  | none => exact .none
  | some value => exact .some (.refl value)

theorem SameFields.trans {third : List (String × Json)} (former : SameFields place members others)
    (latter : SameFields place others third) : SameFields place members third := by
  intro name inner read
  have first := former name inner read
  have second := latter name inner read
  generalize Json.member? name members = start, Json.member? name others = middle,
    Json.member? name third = last at first second
  cases first with
  | none =>
      cases second with
      | none => exact .none
  | some former =>
      cases second with
      | some latter => exact .some (former.trans latter)

theorem sameFields_of_perm (once : place.ReadsOnce members) (perm : members.Perm others) :
    SameFields place members others := by
  intro name inner read
  rw [← (once name inner read).member?_eq_of_perm perm]
  exact SameFields.refl place members name inner read

theorem sameFields_cons (unread : place.field? name = none) :
    SameFields place members ((name, value) :: members) ∧
      SameFields place ((name, value) :: members) members := by
  have unchanged (held : String) (inner : Place) (read : place.field? held = some inner) :
      Json.member? held ((name, value) :: members) = Json.member? held members := by
    have different : held ≠ name := by
      rintro rfl
      rw [unread] at read
      cases read
    rw [Json.member?, List.lookup_cons, beq_false_of_ne different]
    rfl
  refine ⟨fun held inner read => ?_, fun held inner read => ?_⟩
  · rw [unchanged held inner read]
    exact SameFields.refl place members held inner read
  · rw [unchanged held inner read]
    exact SameFields.refl place members held inner read

theorem sameFields_append_cons (read : place.field? name = some inner)
    (rearranged : Rearranged inner raw changed) :
    SameFields place (front ++ (name, raw) :: back) (front ++ (name, changed) :: back) := by
  intro held heldInner heldRead
  simp only [Json.member?, List.lookup_append, List.lookup_cons]
  cases front.lookup held with
  | some value => exact .some (.refl value)
  | none =>
      by_cases same : held = name
      · subst same
        rw [read] at heldRead
        cases heldRead
        simp only [BEq.rfl, Option.none_or]
        exact .some rearranged
      · simp only [beq_false_of_ne same]
        exact SameFields.refl place back held heldInner heldRead

/-- Members that are rearranged stand under the same names. -/
theorem Rearranged.sameFields {members : List (String × Json)}
    (rearranged : Rearranged place (.object members) changed) (record : place.IsRecord)
    (once : place.ReadsOnce members) :
    ∃ others, changed = .object others ∧ place.ReadsOnce others ∧
      SameFields place members others := by
  generalize start : Json.object members = raw at rearranged
  -- Without repeated names a permutation keeps what stands under a name, so this is carried along.
  induction rearranged generalizing members with
  | refl raw => exact ⟨members, start.symm, once, .refl _ members⟩
  | trans _ _ former latter =>
      obtain ⟨others, rfl, othersOnce, first⟩ := former record once start
      obtain ⟨third, rfl, thirdOnce, second⟩ := latter record othersOnce rfl
      exact ⟨third, rfl, thirdOnce, first.trans second⟩
  | permuted _ perm =>
      cases start
      exact ⟨_, rfl, once.of_names_perm (perm.map Prod.fst), sameFields_of_perm once perm⟩
  | added _ unread value =>
      cases start
      exact ⟨_, rfl, (Place.readsOnce_cons_iff unread).2 once, (sameFields_cons unread).1⟩
  | removed _ unread value =>
      cases start
      exact ⟨_, rfl, (Place.readsOnce_cons_iff unread).1 once, (sameFields_cons unread).2⟩
  | field front back read value _ =>
      cases start
      refine ⟨_, rfl, once.of_names_perm ?_, sameFields_append_cons read value⟩
      simp
  | entry => exact absurd rfl record
  | item => cases start
  | listedType => cases start

end Lookups

section Lists

variable {place inner : Place} {shape : Shape} {members : List (String × Json)} {items : List Json}
  {raw changed : Json}

theorem forall₂_trans {α : Type} {relates : α → α → Prop}
    (trans : ∀ {first second third}, relates first second → relates second third →
      relates first third) {first second third : List α}
    (former : List.Forall₂ relates first second) (latter : List.Forall₂ relates second third) :
    List.Forall₂ relates first third := by
  induction former generalizing third with
  | nil => exact latter
  | cons head _ ih =>
      cases latter with
      | cons next rest => exact .cons (trans head next) (ih rest)

theorem forall₂_append_cons {α : Type} {relates : α → α → Prop}
    (refl : ∀ value, relates value value) {first second : α} (related : relates first second)
    (front back : List α) :
    List.Forall₂ relates (front ++ first :: back) (front ++ second :: back) := by
  have same (values : List α) : List.Forall₂ relates values values :=
    List.forall₂_same.2 fun value _ => refl value
  exact List.rel_append (same front) (.cons related (same back))

/-- The items of a list that is read keep their order, and each is rearranged by itself. -/
theorem Rearranged.forall₂_items (rearranged : Rearranged place (.array items) changed)
    (listed : place.item? = some inner) :
    ∃ others, changed = .array others ∧ List.Forall₂ (Rearranged inner) items others := by
  generalize start : Json.array items = raw at rearranged
  induction rearranged generalizing items with
  | refl raw => exact ⟨items, start.symm, List.forall₂_same.2 fun item _ => .refl item⟩
  | trans _ _ former latter =>
      obtain ⟨others, rfl, first⟩ := former listed start
      obtain ⟨third, rfl, second⟩ := latter listed rfl
      exact ⟨third, rfl, forall₂_trans .trans first second⟩
  | item front back itemListed value _ =>
      cases start
      rw [listed] at itemListed
      cases itemListed
      exact ⟨_, rfl, forall₂_append_cons .refl value front back⟩
  | listedType => cases listed
  | permuted | added | removed | field | entry => cases start

/-- The entries of a collection keep their names and their order. -/
theorem Rearranged.forall₂_entries
    (rearranged : Rearranged (.collection shape) (.object members) changed) :
    ∃ others, changed = .object others ∧
      List.Forall₂ (fun member other => member.1 = other.1 ∧
        Rearranged (.entry shape) member.2 other.2) members others := by
  generalize start : Json.object members = raw at rearranged
  generalize held : Place.collection shape = place at rearranged
  induction rearranged generalizing members with
  | refl raw =>
      exact ⟨members, start.symm, List.forall₂_same.2 fun member _ => ⟨rfl, .refl member.2⟩⟩
  | trans _ _ former latter =>
      obtain ⟨others, rfl, first⟩ := former start held
      obtain ⟨third, rfl, second⟩ := latter rfl held
      refine ⟨third, rfl, forall₂_trans ?_ first second⟩
      exact fun former latter => ⟨former.1.trans latter.1, former.2.trans latter.2⟩
  | entry name front back value _ =>
      cases start
      cases held
      exact ⟨_, rfl, forall₂_append_cons (fun member => ⟨rfl, .refl member.2⟩) ⟨rfl, value⟩ _ _⟩
  | permuted record | added record | removed record => exact absurd (held ▸ rfl) record
  | field _ _ read =>
      subst held
      cases read
  | item | listedType => cases start

/-- An attribute that is a list has the same items, or another type. -/
theorem Rearranged.listed (rearranged : Rearranged .attribute (.array items) changed) :
    changed = .array items ∨ ∃ name type other rest, items = name :: type :: rest ∧
      changed = .array (name :: other :: rest) ∧ Rearranged .expression type other := by
  generalize start : Json.array items = raw at rearranged
  generalize held : Place.attribute = place at rearranged
  induction rearranged generalizing items with
  | refl raw => exact .inl rfl
  | trans _ _ former latter =>
      rcases former start held with rfl | ⟨name, type, other, rest, rfl, rfl, first⟩
      · exact latter start held
      · rcases latter rfl held with rfl | ⟨_, _, third, _, same, rfl, second⟩
        · exact .inr ⟨name, type, other, rest, rfl, rfl, first⟩
        · cases same
          exact .inr ⟨name, type, third, rest, rfl, rfl, first.trans second⟩
  | item front back itemListed =>
      subst held
      cases itemListed
  | listedType name rest value =>
      cases start
      exact .inr ⟨name, _, _, rest, rfl, rfl, value⟩
  | permuted | added | removed | field | entry => cases start

/-- Nothing is changed where nothing is read: in a value that is no object, and in a list that
has no place for its items. -/
theorem Rearranged.eq_of_unread (rearranged : Rearranged place raw changed)
    (noObject : (place.fields = [] ∧ ∀ shape, place ≠ .collection shape) ∨
      ∀ members, raw ≠ .object members)
    (noList : (place.item? = none ∧ place ≠ .attribute) ∨ ∀ items, raw ≠ .array items) :
    changed = raw := by
  induction rearranged with
  | refl raw => rfl
  | trans _ _ former latter =>
      have same := former noObject noList
      subst same
      exact latter noObject noList
  | permuted record | added record | removed record =>
      rcases noObject with ⟨noFields, -⟩ | noObject
      · exact absurd noFields record
      · exact absurd rfl (noObject _)
  | field _ _ read =>
      rcases noObject with ⟨noFields, -⟩ | noObject
      · rw [Place.field?, noFields] at read
        cases read
      · exact absurd rfl (noObject _)
  | entry =>
      rcases noObject with ⟨-, noCollection⟩ | noObject
      · exact absurd rfl (noCollection _)
      · exact absurd rfl (noObject _)
  | item _ _ listed =>
      rcases noList with ⟨unlisted, -⟩ | noList
      · rw [listed] at unlisted
        cases unlisted
      · exact absurd rfl (noList _)
  | listedType =>
      rcases noList with ⟨-, other⟩ | noList
      · exact absurd rfl other
      · exact absurd rfl (noList _)

theorem Rearranged.eq_of_plain (rearranged : Rearranged .plain raw changed) : changed = raw :=
  rearranged.eq_of_unread (.inl ⟨rfl, by simp⟩) (.inl ⟨rfl, by simp⟩)

/-- Whether a value is null stays as it is. -/
theorem Rearranged.isPresent_eq (rearranged : Rearranged place raw changed) :
    raw.isPresent = changed.isPresent := by
  induction rearranged with
  | refl raw => rfl
  | trans _ _ former latter => exact former.trans latter
  | permuted | added | removed | field | entry | item | listedType => rfl

end Lists

end AstGrammar.Document
