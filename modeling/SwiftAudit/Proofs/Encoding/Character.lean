import Mathlib.Data.List.Basic
import SwiftAudit.Text.Utf8

namespace SwiftAudit.Text.Utf8

-- The ranges in which the bytes of a character lie, one after the other. The second byte
-- leaves out the overlong forms after E0 and F0, the surrogates after ED, and what lies above
-- the last code point after F4.
def forms : List (List (UInt8 × UInt8)) :=
  [[(0x00, 0x7F)],
    [(0xC2, 0xDF), (0x80, 0xBF)],
    [(0xE0, 0xE0), (0xA0, 0xBF), (0x80, 0xBF)],
    [(0xE1, 0xEC), (0x80, 0xBF), (0x80, 0xBF)],
    [(0xED, 0xED), (0x80, 0x9F), (0x80, 0xBF)],
    [(0xEE, 0xEF), (0x80, 0xBF), (0x80, 0xBF)],
    [(0xF0, 0xF0), (0x90, 0xBF), (0x80, 0xBF), (0x80, 0xBF)],
    [(0xF1, 0xF3), (0x80, 0xBF), (0x80, 0xBF), (0x80, 0xBF)],
    [(0xF4, 0xF4), (0x80, 0x8F), (0x80, 0xBF), (0x80, 0xBF)]]

def hasForm : List (UInt8 × UInt8) → List UInt8 → Bool
  | [], [] => true
  | (low, high) :: form, byte :: bytes => low ≤ byte && byte ≤ high && hasForm form bytes
  | _, _ => false

def isCharacter (bytes : List UInt8) : Bool := forms.any (hasForm · bytes)

-- A byte string is well-formed if it is made of characters.
def IsWellFormed (bytes : List UInt8) : Prop :=
  ∃ characters : List (List UInt8), (∀ character ∈ characters, isCharacter character) ∧
    characters.flatten = bytes

theorem tailSize?_eq_some_iff (lead : UInt8) (owed : Nat) :
    tailSize? lead = some owed ↔
      (owed = 1 ∧ 0xC2 ≤ lead.toNat ∧ lead.toNat ≤ 0xDF) ∨
        (owed = 2 ∧ 0xE0 ≤ lead.toNat ∧ lead.toNat ≤ 0xEF) ∨
          (owed = 3 ∧ 0xF0 ≤ lead.toNat ∧ lead.toNat ≤ 0xF4) := by
  have h (low high : UInt8) : (decide (low ≤ lead) && decide (lead ≤ high)) = true ↔
      low.toNat ≤ lead.toNat ∧ lead.toNat ≤ high.toNat := by
    simp [UInt8.le_iff_toNat_le]
  simp only [tailSize?, h, UInt8.reduceToNat]
  split
  · simp only [Option.some.injEq]
    omega
  split
  · simp only [Option.some.injEq]
    omega
  split
  · simp only [Option.some.injEq]
    omega
  · simp only [reduceCtorEq, false_iff]
    omega

theorem mem_secondRange_iff (lead byte : UInt8) :
    ((secondRange lead).1 ≤ byte ∧ byte ≤ (secondRange lead).2) ↔
      (0x80 ≤ byte.toNat ∧ byte.toNat ≤ 0xBF) ∧ (lead.toNat = 0xE0 → 0xA0 ≤ byte.toNat) ∧
        (lead.toNat = 0xED → byte.toNat ≤ 0x9F) ∧ (lead.toNat = 0xF0 → 0x90 ≤ byte.toNat) ∧
          (lead.toNat = 0xF4 → byte.toNat ≤ 0x8F) := by
  have heq (n : UInt8) : lead = n ↔ lead.toNat = n.toNat := UInt8.toNat_inj.symm
  unfold secondRange
  simp only [heq, UInt8.reduceToNat, UInt8.le_iff_toNat_le]
  split
  · simp only [UInt8.reduceToNat]
    omega
  split
  · simp only [UInt8.reduceToNat]
    omega
  split
  · simp only [UInt8.reduceToNat]
    omega
  split
  · simp only [UInt8.reduceToNat]
    omega
  · simp only [UInt8.reduceToNat]
    omega

-- Bytes that continue a character: the first lies in a given range, the others in that of all
-- later bytes.
def Continues : UInt8 × UInt8 → List UInt8 → Prop
  | _, [] => True
  | range, byte :: rest => (range.1 ≤ byte ∧ byte ≤ range.2) ∧ Continues (0x80, 0xBF) rest

-- The code so far, with the six low bits of each further byte put behind it.
def codeAfter (code : Nat) (bytes : List UInt8) : Nat :=
  bytes.foldl (fun code byte => code * 64 + byte.toNat % 64) code

theorem continued_eq_character_iff (code size owed : Nat) (range : UInt8 × UInt8)
    (bytes : List UInt8) (c : Char) (total : Nat) :
    continued code size owed range bytes = .character c total ↔
      ∃ tail after, bytes = tail ++ after ∧ tail.length = owed ∧ Continues range tail ∧
        Char.ofNat (codeAfter code tail) = c ∧ total = size + owed := by
  induction owed generalizing code size range bytes with
  | zero =>
      simp only [continued, Piece.character.injEq, List.length_eq_zero_iff]
      constructor
      · rintro ⟨rfl, rfl⟩
        exact ⟨[], bytes, rfl, rfl, trivial, rfl, rfl⟩
      · rintro ⟨_, _, -, rfl, -, hc, ht⟩
        exact ⟨hc, ht.symm⟩
  | succ owed ih =>
      obtain ⟨low, high⟩ := range
      cases bytes with
      | nil =>
          simp only [continued, reduceCtorEq, false_iff]
          rintro ⟨tail, after, hb, hlength, -⟩
          rw [(List.append_eq_nil_iff.mp hb.symm).1] at hlength
          cases hlength
      | cons byte rest =>
          rw [continued]
          by_cases hbyte : low ≤ byte ∧ byte ≤ high
          · rw [if_pos (by simpa using hbyte), ih]
            constructor
            · rintro ⟨tail, after, rfl, rfl, htail, hc, rfl⟩
              refine ⟨byte :: tail, after, rfl, rfl, ⟨hbyte, htail⟩, hc, ?_⟩
              omega
            · rintro ⟨tail, after, hb, hlength, htail, hc, rfl⟩
              cases tail with
              | nil => cases hlength
              | cons head tail =>
                  obtain ⟨rfl, rfl⟩ := List.cons.inj hb
                  refine ⟨tail, after, rfl, Nat.succ.inj hlength, htail.2, hc, ?_⟩
                  omega
          · rw [if_neg (by simpa using hbyte)]
            simp only [reduceCtorEq, false_iff]
            rintro ⟨tail, after, hb, hlength, htail, -⟩
            cases tail with
            | nil => cases hlength
            | cons head tail =>
                obtain ⟨rfl, rfl⟩ := List.cons.inj hb
                exact hbyte htail.1

-- A first byte with the bytes that the reader takes after it.
def IsRead (lead : UInt8) (tail : List UInt8) : Prop :=
  (lead < 0x80 ∧ tail = []) ∨
    (tailSize? lead = some tail.length ∧ Continues (secondRange lead) tail)

-- What the reader makes of them.
def codeOf (lead : UInt8) (tail : List UInt8) : Nat :=
  if lead < 0x80 then lead.toNat else codeAfter (leadBits tail.length lead) tail

theorem isAscii_iff (byte : UInt8) : byte < 0x80 ↔ byte.toNat < 0x80 := UInt8.lt_iff_toNat_lt

theorem codeOf_ascii (lead : UInt8) (tail : List UInt8) (h : lead.toNat < 0x80) :
    codeOf lead tail = lead.toNat := if_pos ((isAscii_iff lead).mpr h)

theorem codeOf_of_le (lead : UInt8) (tail : List UInt8) (h : 0x80 ≤ lead.toNat) :
    codeOf lead tail = codeAfter (leadBits tail.length lead) tail :=
  if_neg (fun hascii => Nat.not_lt.mpr h ((isAscii_iff lead).mp hascii))

theorem firstPiece_eq_character_iff (lead : UInt8) (rest : List UInt8) (c : Char) (size : Nat) :
    firstPiece lead rest = .character c size ↔
      ∃ tail after, rest = tail ++ after ∧ IsRead lead tail ∧ Char.ofNat (codeOf lead tail) = c ∧
        size = tail.length + 1 := by
  unfold firstPiece IsRead codeOf
  by_cases hascii : lead < 0x80
  · have htail : tailSize? lead = none := by
      have hlead := (isAscii_iff lead).mp hascii
      rw [Option.eq_none_iff_forall_ne_some]
      intro owed h
      rw [tailSize?_eq_some_iff] at h
      omega
    simp only [hascii, if_true, htail, Piece.character.injEq, true_and, reduceCtorEq, false_and,
      or_false]
    constructor
    · rintro ⟨rfl, rfl⟩
      exact ⟨[], rest, rfl, rfl, rfl, rfl⟩
    · rintro ⟨tail, after, -, rfl, hc, rfl⟩
      exact ⟨hc, rfl⟩
  · simp only [hascii, if_false, false_and, false_or]
    cases htail : tailSize? lead with
    | none => simp
    | some owed =>
        simp only [Option.some.injEq, continued_eq_character_iff]
        constructor
        · rintro ⟨tail, after, hrest, rfl, hcontinues, hc, rfl⟩
          exact ⟨tail, after, hrest, ⟨rfl, hcontinues⟩, hc, Nat.add_comm _ _⟩
        · rintro ⟨tail, after, hrest, ⟨rfl, hcontinues⟩, hc, rfl⟩
          exact ⟨tail, after, hrest, rfl, hcontinues, hc, Nat.add_comm _ _⟩

-- The bytes that are read together, by their number.
theorem isRead_iff (lead : UInt8) (tail : List UInt8) :
    IsRead lead tail ↔
      (tail = [] ∧ lead.toNat < 0x80) ∨
      (∃ a, tail = [a] ∧ (0xC2 ≤ lead.toNat ∧ lead.toNat ≤ 0xDF) ∧
        0x80 ≤ a.toNat ∧ a.toNat ≤ 0xBF) ∨
      (∃ a b, tail = [a, b] ∧ (0xE0 ≤ lead.toNat ∧ lead.toNat ≤ 0xEF) ∧
        (0x80 ≤ a.toNat ∧ a.toNat ≤ 0xBF) ∧ (lead.toNat = 0xE0 → 0xA0 ≤ a.toNat) ∧
        (lead.toNat = 0xED → a.toNat ≤ 0x9F) ∧ 0x80 ≤ b.toNat ∧ b.toNat ≤ 0xBF) ∨
      (∃ a b c, tail = [a, b, c] ∧ (0xF0 ≤ lead.toNat ∧ lead.toNat ≤ 0xF4) ∧
        (0x80 ≤ a.toNat ∧ a.toNat ≤ 0xBF) ∧ (lead.toNat = 0xF0 → 0x90 ≤ a.toNat) ∧
        (lead.toNat = 0xF4 → a.toNat ≤ 0x8F) ∧ (0x80 ≤ b.toNat ∧ b.toNat ≤ 0xBF) ∧
        0x80 ≤ c.toNat ∧ c.toNat ≤ 0xBF) := by
  have hlater (byte : UInt8) :
      (0x80 ≤ byte ∧ byte ≤ 0xBF) ↔ 0x80 ≤ byte.toNat ∧ byte.toNat ≤ 0xBF := by
    rw [UInt8.le_iff_toNat_le, UInt8.le_iff_toNat_le]
    rfl
  unfold IsRead
  rw [tailSize?_eq_some_iff, isAscii_iff]
  match tail with
  | [] => simp
  | [a] =>
      simp [Continues, mem_secondRange_iff]
      omega
  | [a, b] =>
      simp [Continues, mem_secondRange_iff, hlater]
      omega
  | [a, b, c] =>
      simp [Continues, mem_secondRange_iff, hlater]
      omega
  | _ :: _ :: _ :: _ :: _ => simp

theorem isCharacter_iff (lead : UInt8) (tail : List UInt8) :
    isCharacter (lead :: tail) ↔ IsRead lead tail := by
  rw [isRead_iff]
  match tail with
  | [] =>
      simp [isCharacter, forms, hasForm, UInt8.le_iff_toNat_le]
      omega
  | [a] => simp [isCharacter, forms, hasForm, UInt8.le_iff_toNat_le]
  | [a, b] =>
      simp [isCharacter, forms, hasForm, UInt8.le_iff_toNat_le]
      omega
  | [a, b, c] =>
      simp [isCharacter, forms, hasForm, UInt8.le_iff_toNat_le]
      omega
  | _ :: _ :: _ :: _ :: _ => simp [isCharacter, forms, hasForm]

theorem val_ofNat (code : Nat) (h : code < 0xD800 ∨ 0xDFFF < code ∧ code < 0x110000) :
    (Char.ofNat code).val.toNat = code := by
  have hvalid : code.isValidChar := h
  rw [Char.ofNat, dif_pos hvalid]
  rfl

-- What is read is written back as it was. The ranges of the bytes keep the code in the range of
-- their number, and out of the surrogates.
theorem encode_codeOf (lead : UInt8) (tail : List UInt8) (h : IsRead lead tail) :
    String.utf8EncodeChar (Char.ofNat (codeOf lead tail)) = lead :: tail := by
  rcases (isRead_iff lead tail).mp h with ⟨rfl, hlead⟩ | ⟨a, rfl, hlead, ha⟩ |
    ⟨a, b, rfl, hlead, ha, hlow, hhigh, hb⟩ | ⟨a, b, c, rfl, hlead, ha, hlow, hhigh, hb, hc⟩
  · rw [codeOf_ascii lead [] hlead, String.utf8EncodeChar, val_ofNat _ (by omega),
      if_pos (by omega), UInt8.ofNat_toNat]
  · have hcode : codeOf lead [a] = lead.toNat % 32 * 64 + a.toNat % 64 :=
      codeOf_of_le lead [a] (by omega)
    rw [hcode, String.utf8EncodeChar, val_ofNat _ (by omega), if_neg (by omega),
      if_pos (by omega)]
    simp only [List.cons.injEq, and_true, ← UInt8.toNat_inj, UInt8.toNat_ofNat']
    omega
  · have hcode : codeOf lead [a, b] =
        (lead.toNat % 16 * 64 + a.toNat % 64) * 64 + b.toNat % 64 :=
      codeOf_of_le lead [a, b] (by omega)
    rw [hcode, String.utf8EncodeChar, val_ofNat _ (by omega), if_neg (by omega),
      if_neg (by omega), if_pos (by omega)]
    simp only [List.cons.injEq, and_true, ← UInt8.toNat_inj, UInt8.toNat_ofNat']
    omega
  · have hcode : codeOf lead [a, b, c] =
        ((lead.toNat % 8 * 64 + a.toNat % 64) * 64 + b.toNat % 64) * 64 + c.toNat % 64 :=
      codeOf_of_le lead [a, b, c] (by omega)
    rw [hcode, String.utf8EncodeChar, val_ofNat _ (by omega), if_neg (by omega),
      if_neg (by omega), if_neg (by omega)]
    simp only [List.cons.injEq, and_true, ← UInt8.toNat_inj, UInt8.toNat_ofNat']
    omega

-- What is written is read back as it was.
theorem exists_isRead_of_encode (c : Char) :
    ∃ lead tail, String.utf8EncodeChar c = lead :: tail ∧ IsRead lead tail ∧
      Char.ofNat (codeOf lead tail) = c := by
  have hvalid : c.val.toNat < 0xD800 ∨ 0xDFFF < c.val.toNat ∧ c.val.toNat < 0x110000 := c.valid
  have hc (code : Nat) (h : code = c.val.toNat) : Char.ofNat code = c := h ▸ Char.ofNat_toNat c
  have hbyte (n : Nat) (h : n < 256) : (UInt8.ofNat n).toNat = n :=
    UInt8.toNat_ofNat_of_lt' h
  unfold String.utf8EncodeChar
  dsimp only
  split
  · have hlead := hbyte c.val.toNat (by omega)
    refine ⟨_, _, rfl, (isRead_iff _ _).mpr (.inl ⟨rfl, by omega⟩), hc _ ?_⟩
    rw [codeOf_ascii _ _ (by omega), hlead]
  split
  · have hlead := hbyte (c.val.toNat / 64 % 32 + 192) (by omega)
    have ha := hbyte (c.val.toNat % 64 + 128) (by omega)
    refine ⟨_, _, rfl, (isRead_iff _ _).mpr (.inr (.inl ⟨_, rfl, ?_⟩)), hc _ ?_⟩
    · omega
    · rw [codeOf_of_le _ _ (by omega)]
      show _ % 32 * 64 + _ % 64 = _
      omega
  split
  · have hlead := hbyte (c.val.toNat / 4096 % 16 + 224) (by omega)
    have ha := hbyte (c.val.toNat / 64 % 64 + 128) (by omega)
    have hb := hbyte (c.val.toNat % 64 + 128) (by omega)
    refine ⟨_, _, rfl, (isRead_iff _ _).mpr (.inr (.inr (.inl ⟨_, _, rfl, ?_⟩))), hc _ ?_⟩
    · omega
    · rw [codeOf_of_le _ _ (by omega)]
      show (_ % 16 * 64 + _ % 64) * 64 + _ % 64 = _
      omega
  · have hlead := hbyte (c.val.toNat / 262144 % 8 + 240) (by omega)
    have ha := hbyte (c.val.toNat / 4096 % 64 + 128) (by omega)
    have hb := hbyte (c.val.toNat / 64 % 64 + 128) (by omega)
    have hd := hbyte (c.val.toNat % 64 + 128) (by omega)
    refine ⟨_, _, rfl, (isRead_iff _ _).mpr (.inr (.inr (.inr ⟨_, _, _, rfl, ?_⟩))), hc _ ?_⟩
    · omega
    · rw [codeOf_of_le _ _ (by omega)]
      show ((_ % 8 * 64 + _ % 64) * 64 + _ % 64) * 64 + _ % 64 = _
      omega

end SwiftAudit.Text.Utf8
