namespace WidgetOutline.Text

def utf8Bytes (text : String) : List UInt8 := text.toUTF8.data.toList

theorem utf8Bytes_eq (text : String) :
    utf8Bytes text = text.toList.flatMap String.utf8EncodeChar := by
  obtain ⟨chars, rfl⟩ : ∃ chars, text = String.ofList chars := ⟨text.toList, by simp⟩
  simp [utf8Bytes, List.utf8Encode]

theorem utf8EncodeChar_append_lt {c d : Char} (less : c < d) (rest rest' : List UInt8) :
    String.utf8EncodeChar c ++ rest < String.utf8EncodeChar d ++ rest' := by
  have less' : c.val.toNat < d.val.toNat := less
  have bound : d.val.toNat < 0x110000 := by
    rcases d.valid with low | high
    · exact Nat.lt_trans low (by decide)
    · exact high.2
  unfold String.utf8EncodeChar
  dsimp only
  generalize c.val.toNat = m at less' ⊢
  generalize d.val.toNat = n at less' bound ⊢
  -- One case for each two lengths; longer encodings have greater first bytes.
  repeat' split
  all_goals simp (disch := omega) only [List.cons_append, List.nil_append, List.cons_lt_cons_iff,
    UInt8.lt_iff_toNat_lt, ← UInt8.toNat_inj, UInt8.toNat_ofNat', Nat.mod_eq_of_lt]
  all_goals omega

theorem flatMap_utf8EncodeChar_lt {a b : List Char} (less : a < b) :
    a.flatMap String.utf8EncodeChar < b.flatMap String.utf8EncodeChar := by
  induction less with
  | @nil d b =>
    have nonempty : (d :: b).flatMap String.utf8EncodeChar ≠ [] := by simp
    obtain ⟨byte, rest, bytes⟩ := List.exists_cons_of_ne_nil nonempty
    rw [bytes]
    exact .nil
  | rel less =>
    rw [List.flatMap_cons, List.flatMap_cons]
    exact utf8EncodeChar_append_lt less _ _
  | cons _ ih =>
    rw [List.flatMap_cons, List.flatMap_cons]
    exact List.append_left_lt ih

theorem utf8Bytes_lt {a b : String} (less : a < b) : utf8Bytes a < utf8Bytes b := by
  rw [utf8Bytes_eq, utf8Bytes_eq]
  exact flatMap_utf8EncodeChar_lt less

theorem utf8Bytes_le_iff {a b : String} : utf8Bytes a ≤ utf8Bytes b ↔ a ≤ b := by
  constructor
  · intro ordered
    apply String.not_lt.1
    intro less
    exact List.not_lt.2 ordered (utf8Bytes_lt less)
  · intro ordered
    by_cases back : b ≤ a
    · obtain rfl := String.le_antisymm ordered back
      exact List.le_refl _
    · exact List.le_of_lt (utf8Bytes_lt (String.not_le.1 back))

end WidgetOutline.Text
