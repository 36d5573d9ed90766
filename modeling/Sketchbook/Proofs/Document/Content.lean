import Sketchbook.Document.Content
import Sketchbook.Proofs.Json.Reading

/-!
Content. What an editor hands over is told as well-formed JSON, whatever it is
(`wellFormed_ofModel`), and a value that was read from text is told as itself (`ofModel_ofJson`). If all
its numbers are integers, its own text is read as the same content (`ofText_again`).
-/
namespace Sketchbook

namespace Model

mutual

theorem wellFormed_toJson : ∀ (m : Model) (j : Json), m.toJson = .ok j → j.WellFormed
  | .null, _, made => by cases made; trivial
  | .boolean _, _, made => by cases made; trivial
  | .integer n, _, made => by
    unfold toJson at made
    split at made
    · next range => cases made; exact range
    · cases made
  | .float x, _, made => by
    cases made
    exact (Json.sound_ofNumber (n := .float x) (by simp)).formed
  | .text _, _, made => by cases made; trivial
  | .list items, _, made => by
    obtain ⟨values, told, rfl⟩ := map_eq_ok.mp made
    exact wellFormed_itemsToJson items values told
  | .map entries, _, made => by
    obtain ⟨members, told, rfl⟩ := map_eq_ok.mp made
    have formed := wellFormed_entriesToJson entries members told
    exact Json.wellFormed_ofMembers (Json.membersWellFormed_iff.mp formed)
  | .unwritable _, _, made => by cases made

private theorem wellFormed_itemsToJson : ∀ (items : List Model) (made : List Json),
    itemsToJson items = .ok made → Json.ItemsWellFormed made
  | [], _, made => by cases made; trivial
  | item :: items, _, made => by
    obtain ⟨value, first, rest⟩ := bind_eq_ok.mp made
    obtain ⟨values, others, same⟩ := bind_eq_ok.mp rest
    cases same
    exact ⟨wellFormed_toJson item value first, wellFormed_itemsToJson items values others⟩

private theorem wellFormed_entriesToJson : ∀ (entries : List (Model × Model))
    (made : List (String × Json)), entriesToJson entries = .ok made →
    Json.MembersWellFormed made
  | [], _, made => by cases made; trivial
  | (key, value) :: entries, _, made => by
    obtain ⟨name, _, made⟩ := bind_eq_ok.mp made
    obtain ⟨told, first, rest⟩ := bind_eq_ok.mp made
    obtain ⟨members, others, same⟩ := bind_eq_ok.mp rest
    cases same
    exact ⟨wellFormed_toJson value told first, wellFormed_entriesToJson entries members others⟩

end

mutual

/-- A value that is taken over as data is told as itself. -/
private theorem toJson_ofJson : ∀ j : Json, j.WellFormed → (∀ x ∈ j.floats, x.isFinite = true) →
    (ofJson j).toJson = .ok j
  | .null, _, _ => rfl
  | .boolean _, _, _ => rfl
  | .number (.integer n), formed, _ => by
    have range : Json.IntegerRange n := formed
    rw [ofJson, toJson, if_pos range]
  | .number (.float x), _, finite => by
    have finite : x.isFinite = true := finite x (by simp [Json.floats])
    rw [ofJson, toJson, Json.ofNumber, if_pos finite]
  | .text _, _, _ => rfl
  | .list items, formed, finite => by
    rw [ofJson, toJson, itemsToJson_ofItems items formed finite]
    rfl
  | .object members, formed, finite => by
    rw [ofJson, toJson, entriesToJson_ofMembers members formed.2 finite]
    exact congrArg Except.ok (Json.ofMembers_of_ascending formed.1)

private theorem itemsToJson_ofItems : ∀ items : List Json, Json.ItemsWellFormed items →
    (∀ x ∈ Json.floatsOfItems items, x.isFinite = true) →
    itemsToJson (ofItems items) = .ok items
  | [], _, _ => rfl
  | item :: items, formed, finite => by
    have first := toJson_ofJson item formed.1 fun x inside =>
      finite x (List.mem_append_left _ inside)
    have others := itemsToJson_ofItems items formed.2 fun x inside =>
      finite x (List.mem_append_right _ inside)
    rw [ofItems, itemsToJson, first, others]
    rfl

private theorem entriesToJson_ofMembers : ∀ members : List (String × Json),
    Json.MembersWellFormed members → (∀ x ∈ Json.floatsOfMembers members, x.isFinite = true) →
    entriesToJson (ofMembers members) = .ok members
  | [], _, _ => rfl
  | (name, value) :: members, formed, finite => by
    have first := toJson_ofJson value formed.1 fun x inside =>
      finite x (List.mem_append_left _ inside)
    have others := entriesToJson_ofMembers members formed.2 fun x inside =>
      finite x (List.mem_append_right _ inside)
    rw [ofMembers, entriesToJson, toName, first, others]
    rfl

end

end Model

namespace Content

theorem wellFormed_ofModel {m : Model} {c : Content} (made : ofModel m = .ok c) :
    c.value.WellFormed := by
  unfold ofModel at made
  split at made
  · next value told =>
    cases made
    exact Model.wellFormed_toJson m value told
  · cases made

/-- Content that was read from text is told as it is. -/
theorem ofModel_ofJson {j : Json} (sound : j.Sound) : ofModel (.ofJson j) = .ok ⟨j⟩ := by
  rw [ofModel, Model.toJson_ofJson j sound.formed sound.finite]

theorem ofText_eq_ok {text : String} {c : Content} :
    ofText text = .ok c ↔ Json.read text = .ok c.value := by
  unfold ofText
  constructor
  · intro read
    split at read
    · next value told =>
      obtain rfl := Except.ok.inj read
      exact told
    · cases read
  · intro told
    rw [told]

/-- Content that was read from a text without floats is read from its own text, also as a line. -/
theorem ofText_again {text : String} {c : Content} (read : ofText text = .ok c)
    (integers : c.value.floats = []) :
    ofText c.toText = .ok c ∧ ofText (c.toText ++ "\n") = .ok c := by
  obtain ⟨whole, line⟩ := Json.read_again (ofText_eq_ok.mp read) integers
  exact ⟨ofText_eq_ok.mpr whole, ofText_eq_ok.mpr line⟩

/-- Only the empty scene is the same as the empty scene. -/
theorem eq_emptyScene {c : Content} (same : emptyScene.value.same c.value = true) :
    c = emptyScene := by
  obtain ⟨value⟩ := c
  cases value with
  | object members =>
    cases members with
    | nil => cases same
    | cons member others =>
      obtain ⟨name, inner⟩ := member
      have parts : ("elements" == name && (Json.list []).same inner &&
          Json.sameMembers [] others) = true := same
      rw [Bool.and_eq_true, Bool.and_eq_true] at parts
      obtain ⟨⟨named, inside⟩, rest⟩ := parts
      have name_eq : "elements" = name := eq_of_beq named
      cases others with
      | cons other more => cases rest
      | nil =>
        cases inner with
        | list items =>
          cases items with
          | nil => rw [← name_eq]; rfl
          | cons item items => cases inside
        | _ => cases inside
  | _ => cases same

end Content

end Sketchbook
