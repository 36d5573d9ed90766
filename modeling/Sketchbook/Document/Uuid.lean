import Sketchbook.Document.Id
/-!
Version 4 UUIDs: thirty-two hexadecimal digits in five groups, drawn at random but for the digits
that tell version and variant. Main statement: each is a document id (`fault?_uuid`).
-/
namespace Sketchbook

/-- A digit of the number, counted from the lowest. -/
def hexDigitAt (bits index : Nat) : Char := Nat.digitChar (bits / Nat.pow 16 index % 16)

/-- The characters of the version 4 UUID that takes its random digits from a number. -/
def uuidChars (bits : Nat) : List Char :=
  let digits (start count : Nat) := (List.range count).map fun i => hexDigitAt bits (start + i)
  digits 0 8 ++ '-' :: digits 8 4 ++ '-' :: '4' :: digits 12 3 ++
    '-' :: Nat.digitChar (8 + bits / 0x1000000000000000 % 4) :: digits 16 3 ++ '-' :: digits 19 12

/-- The version 4 UUID that takes its random digits from a number. -/
def uuid (bits : Nat) : String := String.ofList (uuidChars bits)

/-- Whether a text is a version 4 UUID in lower case. -/
def isUuid (s : String) : Bool :=
  let cs := s.toList
  let hex (c : Char) : Bool := ('0' ≤ c && c ≤ '9') || ('a' ≤ c && c ≤ 'f')
  cs.length == 36 &&
    (cs.zipIdx.all fun (c, i) =>
      if i = 8 ∨ i = 13 ∨ i = 18 ∨ i = 23 then c == '-'
      else if i = 14 then c == '4'
      else if i = 19 then c == '8' || c == '9' || c == 'a' || c == 'b'
      else hex c)

/-- An ASCII character that may stand in any document id. -/
private def Plain (c : Char) : Prop :=
  c.toNat < 128 ∧ Text.isBlank c = false ∧ isControl c = false

private theorem plain_digitChar {n : Nat} (h : n < 16) : Plain (Nat.digitChar n) := by
  have every : ∀ n : Fin 16, (Nat.digitChar n).toNat < 128 ∧
      Text.isBlank (Nat.digitChar n) = false ∧ isControl (Nat.digitChar n) = false := by
    decide
  exact every ⟨n, h⟩

private theorem plain_uuidChars (bits : Nat) : ∀ c ∈ uuidChars bits, Plain c := by
  have digits (start count : Nat) :
      ∀ c ∈ (List.range count).map fun i => hexDigitAt bits (start + i), Plain c := by
    intro c h
    obtain ⟨i, _, rfl⟩ := List.mem_map.1 h
    exact plain_digitChar (Nat.mod_lt _ (by decide))
  have dash : Plain '-' := ⟨by decide, by decide, by decide⟩
  have four : Plain '4' := ⟨by decide, by decide, by decide⟩
  have variant : Plain (Nat.digitChar (8 + bits / 0x1000000000000000 % 4)) := plain_digitChar (by omega)
  intro c h
  simp only [uuidChars, List.mem_append, List.mem_cons] at h
  rcases h with (((h | rfl | h) | rfl | rfl | h) | rfl | rfl | h) | rfl | h
  · exact digits _ _ c h
  · exact dash
  · exact digits _ _ c h
  · exact dash
  · exact four
  · exact digits _ _ c h
  · exact dash
  · exact variant
  · exact digits _ _ c h
  · exact dash
  · exact digits _ _ c h

private theorem length_uuidChars (bits : Nat) : (uuidChars bits).length = 36 := by
  simp [uuidChars]

theorem fault?_uuid (bits : Nat) : DocumentId.fault? (uuid bits) = none := by
  have plain := plain_uuidChars bits
  have size : (uuid bits).utf8ByteSize = 36 := by
    rw [uuid, Text.utf8ByteSize_ofList,
      Text.byteSize_of_ascii fun c h => (plain c h).1, length_uuidChars]
  have chars : (uuid bits).toList = uuidChars bits := String.toList_ofList
  have notBlank : (uuidChars bits).all Text.isBlank = false := by
    cases h : uuidChars bits with
    | nil => exact absurd (length_uuidChars bits) (by simp [h])
    | cons c rest => simp [(plain c (by simp [h])).2.1]
  have noControl : (uuidChars bits).any isControl = false := by
    simpa using fun c h => (plain c h).2.2
  simp [DocumentId.fault?, size, chars, DocumentId.byteLimit, notBlank, noControl]

namespace DocumentId

/-- A new id, drawn from a random number. -/
def generate (bits : Nat) : DocumentId := ⟨uuid bits, fault?_uuid bits⟩

end DocumentId

end Sketchbook
