import Sketchbook.Document.Descriptor
import Sketchbook.Preference.Basic
import Sketchbook.Proofs.Document.Ids
import Sketchbook.Proofs.Failing
import Sketchbook.Proofs.Json.RoundTrip

/-!
Which texts are document ids, and that no way to an id leads to another text. Ids are read from texts,
from JSON text, alone or in a descriptor, from the keys of records and from a preference, and they are
drawn at random. Each time the same predicate on texts decides (`document_ids_stay_valid`), and ids and
descriptors are read back from their own JSON text.
-/
namespace Sketchbook

open Json

namespace DocumentId

theorem parse_eq_ok {raw : String} {id : DocumentId} : parse raw = .ok id ↔ id.text = raw := by
  constructor
  · exact text_of_parse
  · rintro rfl
    exact parse_text id

/-! ### Ids and descriptors in JSON text -/

/-- A text that is read and then taken as an id is read as it is, and is the text of the id. -/
theorem bind_parse_eq_ok {ε : Type} (read : Except ε (String × List Char))
    (failure : IdFault → List Char → ε) {id : DocumentId} {rest : List Char} :
    (read >>= fun (raw, rest) =>
      match parse raw with
      | .ok id => Except.ok (id, rest)
      | .error fault => .error (failure fault rest)) = .ok (id, rest) ↔
    read = .ok (id.text, rest) := by
  rw [bind_eq_ok]
  constructor
  · rintro ⟨⟨raw, left⟩, text, found⟩
    cases parsed : parse raw with
    | error fault =>
      simp only [parsed] at found
      cases found
    | ok own =>
      simp only [parsed] at found
      cases found
      rw [text_of_parse parsed]
      exact text
  · intro text
    refine ⟨(id.text, rest), text, ?_⟩
    simp only [parse_text]

/-- An id is read from JSON text just if a text is read, and it is the text of the id. -/
theorem read_eq_ok {json : String} {id : DocumentId} :
    read json = .ok id ↔ readAll expectText json = .ok id.text := by
  unfold read
  rw [readAll_eq_ok, readAll_eq_ok]
  apply exists_congr
  intro rest
  apply and_congr_left
  intro _
  exact bind_parse_eq_ok (expectText json.toList) fun fault _ => .unplaced (refusal fault)

end DocumentId

namespace Descriptor

/-- The object that a descriptor with these texts is told as, whether or not `raw` names a document. -/
def objectOf (raw name : String) : Json := .ofMembers [("id", .text raw), ("name", .text name)]

/-- The list that stands for a descriptor with these texts. -/
def pairOf (raw name : String) : Json := .list [.text raw, .text name]

/-- Where a descriptor has its id a text is read, and it is the text of the id. -/
theorem expectId_eq_ok {afterClose : List Char → List Char} {cs rest : List Char} {id : DocumentId} :
    expectId afterClose cs = .ok (id, rest) ↔ expectText cs = .ok (id.text, rest) :=
  DocumentId.bind_parse_eq_ok (expectText cs) fun fault rest =>
    .before (DocumentId.refusal fault) (afterClose rest)

theorem expectId_textChars (afterClose : List Char → List Char) (raw : String) (rest : List Char) :
    expectId afterClose (textChars raw ++ rest) =
      match DocumentId.parse raw with
      | .ok id => .ok (id, rest)
      | .error fault => .error (.before (DocumentId.refusal fault) (afterClose rest)) := by
  rw [expectId, expectText_textChars]
  rfl

section Fields

variable {first : Bool} {fuel : Nat} {cs rest : List Char}

/-- The member `id` is read unless its text names no document. -/
private theorem readFields_id {raw : String} {name : Option String}
    (next : nextMember first cs = .ok (.entry ("id", ':' :: (textChars raw ++ rest)))) :
    readFields first none name (fuel + 1) cs =
      match DocumentId.parse raw with
      | .ok id => readFields false (some id) name fuel rest
      | .error fault => .error (.before (DocumentId.refusal fault) (afterObject rest)) := by
  rw [readFields, next]
  simp only [bind, Except.bind, readColon_colon, expectId_textChars]
  cases DocumentId.parse raw <;> rfl

/-- The member `name` is read, whatever its text is. -/
private theorem readFields_name {id : Option DocumentId} {name : String}
    (next : nextMember first cs = .ok (.entry ("name", ':' :: (textChars name ++ rest)))) :
    readFields first id none (fuel + 1) cs = readFields false id (some name) fuel rest := by
  rw [readFields, next]
  simp only [bind, Except.bind, readColon_colon, expectText_textChars]
  rfl

end Fields

private theorem chars_objectOf (raw name : String) : (objectOf raw name).chars =
    '\x7b' :: (textChars "id" ++ ':' :: (textChars raw ++
      ',' :: (textChars "name" ++ ':' :: (textChars name ++ ['\x7d'])))) := by
  have below : "id" < "name" := by decide
  have ascending : Entries.Ascending [("id", Json.text raw), ("name", .text name)] :=
    List.pairwise_pair.mpr below
  rw [objectOf, ofMembers_of_ascending ascending]
  simp only [chars, memberChars]

/-- Two members and the closing brace take three steps. -/
private theorem readFields_objectOf (raw name : String) (fuel : Nat) :
    (readFields true none none (fuel + 3) (textChars "id" ++ ':' :: (textChars raw ++
        ',' :: (textChars "name" ++ ':' :: (textChars name ++ ['\x7d']))))).toOption =
      (DocumentId.parse raw).toOption.map fun id => (⟨id, name⟩, []) := by
  rw [readFields_id (nextMember_first _ _)]
  cases DocumentId.parse raw with
  | error fault => rfl
  | ok id =>
    simp only [readFields_name (nextMember_comma _ _)]
    rfl

/-- An object of two texts is read as a descriptor unless the first of them names no document. -/
theorem expect_objectOf (raw name : String) :
    (expect (objectOf raw name).chars).toOption =
      (DocumentId.parse raw).toOption.map fun id => (⟨id, name⟩, []) := by
  rw [chars_objectOf, expect, skipBlanks_cons (by decide)]
  exact readFields_objectOf raw name _

private theorem chars_pairOf (raw name : String) :
    (pairOf raw name).chars = '[' :: (textChars raw ++ ',' :: (textChars name ++ [']'])) := by
  simp only [pairOf, chars, itemChars]

/-- A list of two texts is read as a descriptor unless the first of them names no document. -/
theorem expect_pairOf (raw name : String) :
    (expect (pairOf raw name).chars).toOption =
      (DocumentId.parse raw).toOption.map fun id => (⟨id, name⟩, []) := by
  have first := nextItem_first (.text raw) (',' :: (textChars name ++ [']']))
  have second := nextItem_comma (.text name) [']']
  rw [chars] at first second
  rw [chars_pairOf, expect, skipBlanks_cons (by decide)]
  simp only [expectPair, first, bind, Except.bind, expectId_textChars]
  cases DocumentId.parse raw with
  | error fault => rfl
  | ok id =>
    simp only [second, expectText_textChars]
    rfl

/-- A value that stands for a descriptor with these texts is read as one just if the first of them names
a document. -/
private theorem read_of_expect {j : Json} {raw name : String} {d : Descriptor}
    (expected : (expect j.chars).toOption =
      (DocumentId.parse raw).toOption.map fun id => (⟨id, name⟩, [])) :
    read j.compact = .ok d ↔ d.id.text = raw ∧ d.name = name := by
  rw [read, readAll_eq_ok, compact, String.toList_ofList]
  constructor
  · rintro ⟨rest, found, _⟩
    rw [← toOption_eq_some, expected, Option.map_eq_some_iff] at found
    obtain ⟨id, parsed, same⟩ := found
    cases same
    exact ⟨DocumentId.text_of_parse (toOption_eq_some.mp parsed), rfl⟩
  · rintro ⟨rfl, rfl⟩
    refine ⟨[], ?_, rfl⟩
    rw [← toOption_eq_some, expected, DocumentId.parse_text]
    rfl

/-- How a descriptor is read from its object: its texts are those of the object, and the first of them
names a document. -/
theorem read_objectOf {raw name : String} {d : Descriptor} :
    read (objectOf raw name).compact = .ok d ↔ d.id.text = raw ∧ d.name = name :=
  read_of_expect (expect_objectOf raw name)

theorem read_pairOf {raw name : String} {d : Descriptor} :
    read (pairOf raw name).compact = .ok d ↔ d.id.text = raw ∧ d.name = name :=
  read_of_expect (expect_pairOf raw name)

end Descriptor

/-! ### Ids among keys and in a preference -/

/-- A library lists the keys that name documents. -/
theorem Library.mem_list {σ : Type} [Records σ] {l : Library σ} {keys : List String}
    (told : Records.keys l.records = .ok keys) : ∃ ids, l.list.value = .ok ids ∧
      ∀ id, id ∈ ids ↔ id.text ∈ keys := by
  refine ⟨_, by rw [value_list, told]; rfl, fun id => ?_⟩
  rw [DocumentId.mem_sort, List.mem_filterMap]
  constructor
  · rintro ⟨key, member, parsed⟩
    rwa [DocumentId.text_of_parse (toOption_eq_some.mp parsed)]
  · intro member
    exact ⟨id.text, member, toOption_eq_some.mpr (DocumentId.parse_text id)⟩

/-- The current document is the one that the stored text names. -/
theorem Preferences.currentDocument_eq_some {τ : Type} [PreferenceStore τ] {p : Preferences τ}
    {id : DocumentId} :
    p.currentDocument.value = some id ↔ p.get .currentDocument = some id.text := by
  unfold currentDocument
  split
  · next unset =>
    rw [unset]
    constructor <;> intro same <;> cases same
  · next raw stored =>
    rw [stored]
    cases parsed : DocumentId.parse raw with
    | error fault =>
      constructor
      · intro same
        cases same
      · intro same
        obtain rfl := Option.some.inj same
        rw [DocumentId.parse_text] at parsed
        cases parsed
    | ok own =>
      obtain rfl := DocumentId.text_of_parse parsed
      constructor
      · intro same
        obtain rfl := Option.some.inj same
        rfl
      · intro same
        exact congrArg some (DocumentId.text_injective (Option.some.inj same))

/-! ### Every way to an id -/

section Ways

variable {σ τ : Type} [Records σ] [PreferenceStore τ]

/-- That a library and preferences, texts and JSON text give ids with the texts of ids only. Of each way
to an id it is told which texts are taken, and that they are kept as they are. -/
structure IdsStayValid (l : Library σ) (p : Preferences τ) : Prop where
  parsed : ∀ raw text, (DocumentId.parse raw).map DocumentId.text = .ok text ↔
    text = raw ∧ IsIdText raw
  read : ∀ json text, (DocumentId.read json).map DocumentId.text = .ok text ↔
    readAll expectText json = .ok text ∧ IsIdText text
  /-- Whatever form the JSON text of a descriptor has. -/
  described : ∀ json d, Descriptor.read json = .ok d → IsIdText d.id.text
  /-- Where a descriptor has its id a text is read, however it is spelled. -/
  inside : ∀ afterClose cs text rest,
    (Descriptor.expectId afterClose cs).map (fun found => (found.1.text, found.2)) = .ok (text, rest) ↔
      expectText cs = .ok (text, rest) ∧ IsIdText text
  object : ∀ raw name text shown,
    (Descriptor.read (Descriptor.objectOf raw name).compact).map (fun d => (d.id.text, d.name)) =
      .ok (text, shown) ↔ text = raw ∧ shown = name ∧ IsIdText raw
  pair : ∀ raw name text shown,
    (Descriptor.read (Descriptor.pairOf raw name).compact).map (fun d => (d.id.text, d.name)) =
      .ok (text, shown) ↔ text = raw ∧ shown = name ∧ IsIdText raw
  generated : ∀ bits, (DocumentId.generate bits).text = uuid bits ∧ IsIdText (uuid bits)
  listed : ∀ keys, Records.keys l.records = .ok keys → ∃ ids, l.list.value = .ok ids ∧
    ∀ text, text ∈ ids.map DocumentId.text ↔ text ∈ keys ∧ IsIdText text
  current : ∀ text, p.currentDocument.value.map DocumentId.text = some text ↔
    p.get .currentDocument = some text ∧ IsIdText text
  /-- An id is read back from its JSON text, and a descriptor with any name from its own. -/
  again : ∀ id, DocumentId.read id.toJson = .ok id ∧
    ∀ name, Descriptor.read (Descriptor.toJson ⟨id, name⟩) = .ok ⟨id, name⟩

/-- What holds of the texts of ids, for one of them that is an id. -/
private theorem exists_text_and (Q : String → Prop) {text : String} :
    (∃ id : DocumentId, Q id.text ∧ id.text = text) ↔ Q text ∧ IsIdText text := by
  constructor
  · rintro ⟨id, holds, rfl⟩
    exact ⟨holds, id.isIdText⟩
  · rintro ⟨holds, valid⟩
    obtain ⟨id, rfl⟩ := DocumentId.exists_text_iff.mpr valid
    exact ⟨id, holds, rfl⟩

private theorem read_told {json raw name text shown : String}
    (reads : ∀ d, Descriptor.read json = .ok d ↔ d.id.text = raw ∧ d.name = name) :
    (Descriptor.read json).map (fun d => (d.id.text, d.name)) = .ok (text, shown) ↔
      text = raw ∧ shown = name ∧ IsIdText raw := by
  rw [map_eq_ok]
  constructor
  · rintro ⟨d, read, same⟩
    obtain ⟨rfl, rfl⟩ := (reads d).mp read
    cases same
    exact ⟨rfl, rfl, d.id.isIdText⟩
  · rintro ⟨rfl, rfl, valid⟩
    obtain ⟨id, rfl⟩ := DocumentId.exists_text_iff.mpr valid
    exact ⟨⟨id, shown⟩, (reads _).mpr ⟨rfl, rfl⟩, rfl⟩

/-- No way to an id leads to a text that names no document, and none changes the text. -/
theorem document_ids_stay_valid (l : Library σ) (p : Preferences τ) : IdsStayValid l p := by
  constructor
  case parsed =>
    intro raw text
    rw [map_eq_ok]
    simp only [DocumentId.parse_eq_ok]
    rw [exists_text_and (· = raw)]
    apply and_congr_right
    rintro rfl
    exact Iff.rfl
  case read =>
    intro json text
    rw [map_eq_ok]
    simp only [DocumentId.read_eq_ok]
    exact exists_text_and fun text => readAll expectText json = .ok text
  case described =>
    intro json d _
    exact d.id.isIdText
  case inside =>
    intro afterClose cs text rest
    rw [map_eq_ok]
    constructor
    · rintro ⟨⟨id, left⟩, found, same⟩
      cases same
      exact ⟨Descriptor.expectId_eq_ok.mp found, id.isIdText⟩
    · rintro ⟨read, valid⟩
      obtain ⟨id, rfl⟩ := DocumentId.exists_text_iff.mpr valid
      exact ⟨(id, rest), Descriptor.expectId_eq_ok.mpr read, rfl⟩
  case object =>
    intro raw name text shown
    exact read_told fun d => Descriptor.read_objectOf
  case pair =>
    intro raw name text shown
    exact read_told fun d => Descriptor.read_pairOf
  case generated =>
    intro bits
    exact ⟨rfl, (DocumentId.generate bits).isIdText⟩
  case listed =>
    intro keys told
    obtain ⟨ids, listed, member⟩ := Library.mem_list told
    refine ⟨ids, listed, fun text => ?_⟩
    rw [List.mem_map]
    simp only [member]
    exact exists_text_and (· ∈ keys)
  case current =>
    intro text
    rw [Option.map_eq_some_iff]
    simp only [Preferences.currentDocument_eq_some]
    exact exists_text_and fun text => p.get .currentDocument = some text
  case again =>
    intro id
    refine ⟨?_, fun name => ?_⟩
    · exact DocumentId.read_eq_ok.mpr (readAll_text id.text)
    · exact Descriptor.read_objectOf.mpr ⟨rfl, rfl⟩

end Ways

end Sketchbook
