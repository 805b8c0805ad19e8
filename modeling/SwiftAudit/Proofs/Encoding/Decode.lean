import SwiftAudit.Proofs.Encoding.Character
import SwiftAudit.Proofs.Position.Encoding

namespace SwiftAudit.Text.Utf8

theorem firstPiece_eq_iff (lead : UInt8) (rest : List UInt8) (c : Char) (size : Nat) :
    firstPiece lead rest = .character c size ↔
      (∃ after, lead :: rest = String.utf8EncodeChar c ++ after) ∧
        size = (String.utf8EncodeChar c).length := by
  rw [firstPiece_eq_character_iff]
  constructor
  · rintro ⟨tail, after, rfl, hread, rfl, rfl⟩
    rw [encode_codeOf lead tail hread]
    exact ⟨⟨after, rfl⟩, rfl⟩
  · rintro ⟨⟨after, hbytes⟩, rfl⟩
    obtain ⟨first, tail, hencode, hread, hc⟩ := exists_isRead_of_encode c
    rw [hencode] at hbytes ⊢
    obtain ⟨rfl, rfl⟩ := List.cons.inj hbytes
    exact ⟨tail, after, rfl, hread, hc, rfl⟩

theorem piecesAfter_eq (skip : Nat) (bytes : List UInt8) :
    piecesAfter skip bytes = pieces (bytes.drop skip) := by
  induction bytes generalizing skip with
  | nil => cases skip <;> rfl
  | cons byte rest ih =>
      cases skip with
      | zero => rfl
      | succ skip => rw [piecesAfter, ih, List.drop_succ_cons]

-- A character at the head is the first piece, and the others are those of what follows it.
theorem pieces_encode_append (c : Char) (after : List UInt8) :
    pieces (String.utf8EncodeChar c ++ after) =
      .character c (String.utf8EncodeChar c).length :: pieces after := by
  obtain ⟨lead, tail, hencode, -, -⟩ := exists_isRead_of_encode c
  have hfirst : firstPiece lead (tail ++ after) =
      .character c (String.utf8EncodeChar c).length :=
    (firstPiece_eq_iff lead _ c _).mpr ⟨⟨after, by rw [hencode, List.cons_append]⟩, rfl⟩
  have hskip : (String.utf8EncodeChar c).length - 1 = tail.length := by
    rw [hencode, List.length_cons, Nat.add_sub_cancel]
  rw [hencode, List.cons_append, pieces, piecesAfter, hfirst, ← hencode]
  simp only [Piece.size, hskip, piecesAfter_eq, List.drop_left]

-- A text is read back from its bytes. The whole bytes and the position matter to faults only.
theorem decodePieces_encode (whole : List UInt8) (position : Nat) (text : List Char) :
    decodePieces whole position (pieces (encode text)) = .ok text := by
  induction text generalizing position with
  | nil => rfl
  | cons c rest ih => rw [encode_cons, pieces_encode_append, decodePieces, ih]

theorem encode_of_decodePieces (whole : List UInt8) (position : Nat) (bytes : List UInt8)
    (text : List Char) (h : decodePieces whole position (pieces bytes) = .ok text) :
    encode text = bytes := by
  cases bytes with
  | nil =>
      cases h
      rfl
  | cons lead rest =>
      cases hfirst : firstPiece lead rest with
      | defect why size =>
          rw [pieces, piecesAfter, hfirst] at h
          cases h
      | character c size =>
          obtain ⟨⟨after, hbytes⟩, -⟩ := (firstPiece_eq_iff lead rest c size).mp hfirst
          have hshorter : after.length < (lead :: rest).length := by
            obtain ⟨first, tail, hencode, -, -⟩ := exists_isRead_of_encode c
            rw [hbytes, hencode, List.length_append, List.length_cons]
            omega
          rw [hbytes, pieces_encode_append, decodePieces] at h
          cases hrest : decodePieces whole (position + (String.utf8EncodeChar c).length)
              (pieces after) with
          | error fault =>
              rw [hrest] at h
              cases h
          | ok more =>
              rw [hrest] at h
              cases h
              rw [encode_cons, encode_of_decodePieces _ _ after more hrest, hbytes]
termination_by bytes.length

-- Reading and writing undo each other.
theorem decode_eq_ok_iff (bytes : List UInt8) (text : List Char) :
    decode bytes = .ok text ↔ encode text = bytes := by
  constructor
  · exact encode_of_decodePieces bytes 0 bytes text
  · rintro rfl
    exact decodePieces_encode _ 0 text

-- The well-formed byte strings are those of the texts.
theorem isWellFormed_iff (bytes : List UInt8) :
    IsWellFormed bytes ↔ ∃ text, encode text = bytes := by
  constructor
  · rintro ⟨characters, hcharacters, rfl⟩
    induction characters with
    | nil => exact ⟨[], rfl⟩
    | cons character rest ih =>
        obtain ⟨text, htext⟩ := ih fun other hm => hcharacters other (List.mem_cons_of_mem _ hm)
        have hcharacter := hcharacters character List.mem_cons_self
        cases character with
        | nil => cases hcharacter
        | cons lead tail =>
            have hread := (isCharacter_iff lead tail).mp hcharacter
            refine ⟨Char.ofNat (codeOf lead tail) :: text, ?_⟩
            rw [encode_cons, encode_codeOf lead tail hread, htext, List.flatten_cons]
  · rintro ⟨text, rfl⟩
    refine ⟨text.map String.utf8EncodeChar, ?_, rfl⟩
    intro character hm
    obtain ⟨c, -, rfl⟩ := List.mem_map.mp hm
    obtain ⟨lead, tail, hencode, hread, -⟩ := exists_isRead_of_encode c
    rw [hencode]
    exact (isCharacter_iff lead tail).mpr hread

theorem exists_decode_eq_error_iff (bytes : List UInt8) :
    (∃ fault, decode bytes = .error fault) ↔ ¬IsWellFormed bytes := by
  rw [isWellFormed_iff]
  simp only [← decode_eq_ok_iff]
  cases decode bytes <;> simp

end SwiftAudit.Text.Utf8
