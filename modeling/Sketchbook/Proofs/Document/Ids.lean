import Mathlib.Data.List.Sort
import Mathlib.Data.Set.List
import Sketchbook.Document.Library
import Sketchbook.Entries

/-!
Document ids and lists of them. What is in a text tells whether it is that of an id (`IsIdText`).
Sorting ids that are all different makes each less than those that follow it (`sort_ascending`), and
such a list is told by its members alone (`ascending_ext`). A library whose keys are texts of ids lists
just these ids, in ascending order and without a notice (`list_of_keys`).
-/
namespace Sketchbook

/-- A text that may name a document: some character is visible, none is a control character, and there
are at most eighty bytes. -/
structure IsIdText (raw : String) : Prop where
  visible : ∃ c ∈ raw.toList, Text.isBlank c = false
  short : raw.utf8ByteSize ≤ 80
  printable : ∀ c ∈ raw.toList, isControl c = false

namespace DocumentId

theorem fault?_eq_none_iff {raw : String} : fault? raw = none ↔ IsIdText raw := by
  have blank : raw.toList.all Text.isBlank = true ↔ ¬ ∃ c ∈ raw.toList, Text.isBlank c = false := by
    simp
  have control : raw.toList.any isControl = true ↔ ¬ ∀ c ∈ raw.toList, isControl c = false := by
    simp
  unfold fault?
  constructor
  · intro faultless
    split at faultless
    · cases faultless
    next visible =>
      split at faultless
      · cases faultless
      next short =>
        split at faultless
        · cases faultless
        next printable =>
          rw [blank, not_not] at visible
          rw [control, not_not] at printable
          exact ⟨visible, Nat.not_lt.mp short, printable⟩
  · intro valid
    have visible := fun all => blank.mp all valid.visible
    have short : ¬ byteLimit < raw.utf8ByteSize := Nat.not_lt.mpr valid.short
    have printable := fun any => control.mp any valid.printable
    rw [if_neg visible, if_neg short, if_neg printable]

/-- The texts of ids are these and no others. -/
theorem exists_text_iff {raw : String} : (∃ id : DocumentId, id.text = raw) ↔ IsIdText raw := by
  rw [← fault?_eq_none_iff]
  constructor
  · rintro ⟨id, rfl⟩
    exact id.valid
  · intro valid
    exact ⟨⟨raw, valid⟩, rfl⟩

theorem isIdText (id : DocumentId) : IsIdText id.text :=
  exists_text_iff.mp ⟨id, rfl⟩

theorem text_injective {a b : DocumentId} (same : a.text = b.text) : a = b := by
  cases a
  cases b
  cases same
  rfl

instance : CanLift String DocumentId DocumentId.text fun raw => fault? raw = none where
  prf raw valid := ⟨⟨raw, valid⟩, rfl⟩

/-- The empty text names no document. -/
theorem ne_empty_of_valid {raw : String} (valid : fault? raw = none) : raw ≠ "" := by
  rintro rfl
  obtain ⟨c, member, _⟩ := (fault?_eq_none_iff.mp valid).visible
  cases member

instance : KeyOrder DocumentId where
  irrefl a := KeyOrder.irrefl a.text
  trans {a b c} first second :=
    KeyOrder.trans (a := a.text) (b := b.text) (c := c.text) first second
  eq_of_not_lt above below := text_injective (KeyOrder.eq_of_not_lt above below)

/-- Ascending lists of ids with the same members are the same. -/
theorem ascending_ext {left right : List DocumentId} (hl : left.Pairwise (· < ·))
    (hr : right.Pairwise (· < ·)) (same : ∀ id, id ∈ left ↔ id ∈ right) : left = right := by
  have irrefl : Std.Irrefl (· < · : DocumentId → DocumentId → Prop) := ⟨KeyOrder.irrefl⟩
  have antisymm : Std.Antisymm (· < · : DocumentId → DocumentId → Prop) :=
    ⟨fun a b below above => absurd (KeyOrder.trans below above) (KeyOrder.irrefl a)⟩
  exact hl.eq_of_mem_iff hr same

theorem mem_sort {ids : List DocumentId} {id : DocumentId} : id ∈ sort ids ↔ id ∈ ids :=
  (List.mergeSort_perm ids _).mem_iff

theorem count_sort (ids : List DocumentId) (id : DocumentId) :
    (sort ids).count id = ids.count id :=
  (List.mergeSort_perm ids _).count_eq id

theorem nodup_sort {ids : List DocumentId} : (sort ids).Nodup ↔ ids.Nodup :=
  (List.mergeSort_perm ids _).nodup_iff

/-- Sorting puts no id before a lesser one. -/
theorem sort_ordered (ids : List DocumentId) : (sort ids).Pairwise fun a b => ¬ b < a := by
  have ordered : (sort ids).Pairwise fun a b => (!decide (b < a)) = true := by
    refine List.pairwise_mergeSort ?_ ?_ ids
    · intro a b c first second
      rw [Bool.not_eq_true', decide_eq_false_iff_not] at first second ⊢
      intro below
      by_cases same : a = b
      · exact second (same ▸ below)
      · by_cases further : a < b
        · exact second (KeyOrder.trans below further)
        · exact same (KeyOrder.eq_of_not_lt further first)
    · intro a b
      rw [Bool.or_eq_true, Bool.not_eq_true', Bool.not_eq_true', decide_eq_false_iff_not,
        decide_eq_false_iff_not]
      by_contra both
      obtain ⟨below, above⟩ := not_or.mp both
      exact KeyOrder.irrefl a (KeyOrder.trans (not_not.mp above) (not_not.mp below))
  refine ordered.imp fun {a b} kept => ?_
  rwa [Bool.not_eq_true', decide_eq_false_iff_not] at kept

/-- Sorting puts ids that are all different in ascending order. -/
theorem sort_ascending {ids : List DocumentId} (distinct : ids.Nodup) :
    (sort ids).Pairwise (· < ·) := by
  refine ((sort_ordered ids).and (nodup_sort.mpr distinct)).imp fun {a b} both => ?_
  by_contra above
  exact both.2 (KeyOrder.eq_of_not_lt above both.1)

end DocumentId

namespace Library

variable {σ : Type} [Records σ] {l : Library σ}

/-- Keys that are texts of ids stand for these ids. -/
private theorem idsOf_texts (ids : List DocumentId) : idsOf (ids.map DocumentId.text) = pure ids := by
  induction ids with
  | nil => rfl
  | cons id rest ih =>
    rw [List.map_cons, idsOf, DocumentId.parse_text, ih]
    rfl

/-- The ids among keys are those that the keys parse to, in the order of the keys. -/
theorem value_idsOf (keys : List String) :
    (idsOf keys).value = keys.filterMap fun key => (DocumentId.parse key).toOption := by
  induction keys with
  | nil => rfl
  | cons key rest ih =>
    unfold idsOf
    split
    · next id parsed =>
      rw [List.filterMap_cons, parsed]
      exact congrArg (id :: ·) ih
    · next fault parsed =>
      rw [List.filterMap_cons, parsed]
      exact ih

theorem value_list (l : Library σ) :
    l.list.value = (Records.keys l.records).map fun keys =>
      DocumentId.sort (keys.filterMap fun key => (DocumentId.parse key).toOption) := by
  unfold list
  split
  · next failed => rw [failed]; rfl
  · next keys told =>
    rw [told]
    exact congrArg (fun ids => Except.ok (DocumentId.sort ids)) (value_idsOf keys)

/-- Keys that are texts of ids and all different are listed as these ids. -/
theorem list_of_keys {keys : List String} (told : Records.keys l.records = .ok keys)
    (distinct : keys.Nodup) (valid : ∀ key ∈ keys, DocumentId.fault? key = none) :
    ∃ ids, l.list = pure (.ok ids) ∧ ids.Pairwise (· < ·) ∧ ∀ id, id ∈ ids ↔ id.text ∈ keys := by
  lift keys to List DocumentId using valid
  refine ⟨DocumentId.sort keys, ?_, DocumentId.sort_ascending distinct.of_map, fun id => ?_⟩
  · simp only [list, told, idsOf_texts]
    rfl
  · rw [DocumentId.mem_sort, List.mem_map]
    constructor
    · exact fun member => ⟨id, member, rfl⟩
    · rintro ⟨other, member, same⟩
      exact DocumentId.text_injective same ▸ member

end Library

end Sketchbook
