import SandboxProfile.Text.Utf8

/-! Bytes of texts. A text is read back from the bytes that encode it. -/
namespace SandboxProfile.Text

/-- The bytes from some place on are listed behind those before it. -/
theorem toList_loop_eq (bs : ByteArray) (i : Nat) (before : List UInt8) :
    ByteArray.toList.loop bs i before = before.reverse ++ bs.data.toList.drop i := by
  fun_induction ByteArray.toList.loop bs i before with
  | case1 i before more ih =>
    have inside : i < bs.data.toList.length := more
    rw [ih, List.drop_eq_getElem_cons inside]
    simp [ByteArray.get!, more]
  | case2 i before done =>
    have outside : bs.data.toList.length ≤ i := Nat.le_of_not_lt done
    rw [List.drop_eq_nil_of_le outside, List.append_nil]

theorem toList_eq (bs : ByteArray) : bs.toList = bs.data.toList := toList_loop_eq bs 0 []

theorem decodeUtf8_toUTF8 (s : String) : decodeUtf8 s.toUTF8.toList = .ok s := by
  have bytes : (⟨s.toUTF8.toList.toArray⟩ : ByteArray) = s.toUTF8 := by
    rw [toList_eq, Array.toArray_toList]
  have valid : s.toUTF8.IsValidUTF8 := s.isValidUTF8
  have read : String.fromUTF8? s.toUTF8 = some s := by
    rw [String.fromUTF8?, dif_pos valid]
    rfl
  rw [decodeUtf8, bytes, read]

end SandboxProfile.Text
