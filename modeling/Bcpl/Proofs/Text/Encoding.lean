import Bcpl.Proofs.Text.Slice

/-!
A text in its bytes. The byte of a line feed stands for a line feed only, so line breaks can be
counted in bytes as well (`count_newline_bytes`), and no two texts have the same bytes
(`bytes_injective`).
-/

namespace Bcpl.Text

theorem encode_newline : String.utf8EncodeChar '\n' = [0x0a] := by decide

/-- Only a character of one byte is written as its number. -/
theorem forall_mem_encode (c : Char) :
    ∀ byte ∈ String.utf8EncodeChar c, byte.toNat = c.toNat ∨ 0x80 ≤ byte.toNat := by
  unfold String.utf8EncodeChar Char.toNat
  simp only
  (repeat' split) <;>
    simp only [List.mem_cons, List.not_mem_nil, or_false, forall_eq_or_imp, forall_eq,
      UInt8.toNat_ofNat'] <;>
    omega

theorem newline_notMem_encode {c : Char} (other : c ≠ '\n') :
    (0x0a : UInt8) ∉ String.utf8EncodeChar c := by
  intro inside
  rcases forall_mem_encode c _ inside with same | large
  · exact other (Char.ext (UInt32.toNat_inj.mp same.symm))
  · contradiction

theorem bytes_cons (c : Char) (rest : Text) :
    bytes (c :: rest) = String.utf8EncodeChar c ++ bytes rest := rfl

theorem count_newline_bytes (text : Text) : text.bytes.count 0x0a = text.count '\n' := by
  induction text with
  | nil => rfl
  | cons c rest ih =>
      rw [bytes_cons, List.count_append, ih]
      by_cases newline : c = '\n'
      · subst newline
        rw [encode_newline, List.count_cons_self, List.count_cons_self, List.count_nil,
          Nat.add_comm]
      · rw [List.count_cons_of_ne newline, List.count_eq_zero.mpr (newline_notMem_encode newline),
          Nat.zero_add]

theorem bytes_injective : Function.Injective bytes := by
  intro first second same
  have encoded (text : Text) : text.bytes.toByteArray = text.utf8Encode := rfl
  have arrays := congrArg List.toByteArray same
  rw [encoded, encoded] at arrays
  have decoded := congrArg ByteArray.utf8Decode? arrays
  rw [List.utf8Decode?_utf8Encode, List.utf8Decode?_utf8Encode] at decoded
  exact congrArg Array.toList (Option.some.inj decoded)

end Bcpl.Text
