/-!
How many bytes a text takes in UTF-8, as a sum over its characters; and that these bytes give the text
back (`fromUTF8?_toUTF8`).
-/
namespace Sketchbook.Text

/-- The bytes that characters take in UTF-8. -/
def byteSize : List Char → Nat
  | [] => 0
  | c :: rest => c.utf8Size + byteSize rest

/-- The bytes of a text are those of no other text. -/
theorem fromUTF8?_toUTF8 (s : String) : String.fromUTF8? s.toUTF8 = some s := by
  have valid : s.toUTF8.IsValidUTF8 := s.isValidUTF8
  rw [String.fromUTF8?, dif_pos valid]
  rfl

theorem utf8ByteSize_ofList (cs : List Char) :
    (String.ofList cs).utf8ByteSize = byteSize cs := by
  induction cs with
  | nil => rfl
  | cons c cs ih =>
    simp only [String.ofList_cons, String.utf8ByteSize_append, ih, byteSize,
      Nat.add_right_cancel_iff]
    simp

/-- A text of ASCII characters has a byte for each. -/
theorem byteSize_of_ascii {cs : List Char} (ascii : ∀ c ∈ cs, c.toNat < 128) :
    byteSize cs = cs.length := by
  induction cs with
  | nil => rfl
  | cons c cs ih =>
    have size : c.utf8Size = 1 := by
      have := ascii c (by simp)
      have : c.val ≤ 0x7F := by
        rw [UInt32.le_iff_toNat_le]
        exact Nat.le_of_lt_succ this
      simp [Char.utf8Size, this]
    have rest := ih fun c h => ascii c (List.mem_cons_of_mem _ h)
    simp only [byteSize, size, rest, List.length_cons]
    omega

end Sketchbook.Text
