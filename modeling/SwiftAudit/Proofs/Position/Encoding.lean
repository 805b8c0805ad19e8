import SwiftAudit.Source.Location
import SwiftAudit.Text.Utf8

namespace SwiftAudit.Text.Utf8

@[simp] theorem encode_nil : encode [] = [] := rfl

@[simp] theorem encode_cons (c : Char) (rest : List Char) :
    encode (c :: rest) = String.utf8EncodeChar c ++ encode rest := rfl

@[simp] theorem encode_append (a b : List Char) : encode (a ++ b) = encode a ++ encode b :=
  List.flatMap_append

theorem encode_lineFeed : String.utf8EncodeChar '\n' = [lineFeed] := by
  decide

-- No byte of a character is a line feed unless the character is one. All bytes of a character
-- that is not ASCII have their highest bit set.
theorem lineFeed_notMem_utf8EncodeChar (c : Char) (hc : c ≠ '\n') :
    lineFeed ∉ String.utf8EncodeChar c := by
  intro hm
  unfold String.utf8EncodeChar at hm
  dsimp only at hm
  split at hm
  · rename_i hv
    have h : lineFeed = UInt8.ofNat c.val.toNat := by simpa using hm
    have h := congrArg UInt8.toNat h
    rw [UInt8.toNat_ofNat', Nat.mod_eq_of_lt (by omega)] at h
    apply hc
    apply Char.ext
    apply UInt32.toNat_inj.mp
    exact h.symm
  all_goals
    repeat' split at hm
    all_goals
      simp only [List.mem_cons, List.not_mem_nil, or_false, ← UInt8.toNat_inj,
        UInt8.toNat_ofNat'] at hm
      simp only [lineFeed] at hm
      have h : (0x0A : UInt8).toNat = 10 := rfl
      omega

theorem count_lineFeed_utf8EncodeChar (c : Char) :
    (String.utf8EncodeChar c).count lineFeed = [c].count '\n' := by
  by_cases hc : c = '\n'
  · subst hc
    rw [encode_lineFeed]
    decide
  · rw [List.count_eq_zero_of_not_mem (lineFeed_notMem_utf8EncodeChar c hc),
      List.count_singleton]
    simp [hc]

-- The line feeds of a text are those of its bytes.
theorem count_lineFeed_encode (text : List Char) :
    (encode text).count lineFeed = text.count '\n' := by
  induction text with
  | nil => rfl
  | cons c rest ih =>
      rw [encode_cons, List.count_append, ih, count_lineFeed_utf8EncodeChar,
        ← List.count_append, List.singleton_append]

end SwiftAudit.Text.Utf8
