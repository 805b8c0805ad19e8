import Mathlib.Data.Nat.Digits.Defs
import SwiftAudit.Text.Numeral

namespace SwiftAudit.Swift

-- The bases in which an integer literal can be written.
inductive LiteralBase where
  | binary
  | octal
  | decimal
  | hexadecimal
  deriving DecidableEq

namespace LiteralBase

def radix : LiteralBase → Nat
  | binary => 2
  | octal => 8
  | decimal => 10
  | hexadecimal => 16

-- What a literal starts with before its digits.
def mark : LiteralBase → List Char
  | binary => ['0', 'b']
  | octal => ['0', 'o']
  | decimal => []
  | hexadecimal => ['0', 'x']

-- The kind of the nodes of such literals.
def kind : LiteralBase → String
  | binary => "bin_literal"
  | octal => "oct_literal"
  | decimal => "integer_literal"
  | hexadecimal => "hex_literal"

end LiteralBase

-- A digit as it is spelt. The letters of hexadecimal digits come in both cases.
structure LiteralDigit (base : LiteralBase) where
  value : Fin base.radix
  isUpper : Bool
  deriving DecidableEq

def LiteralDigit.char {base : LiteralBase} (digit : LiteralDigit base) : Char :=
  if digit.isUpper then (Nat.digitChar digit.value).toUpper else Nat.digitChar digit.value

-- A literal by its digits, the most significant one first, zeros at the front included. Each
-- digit but the first tells whether an underscore stands before it.
structure IntegerLiteral (base : LiteralBase) where
  first : LiteralDigit base
  more : List (Bool × LiteralDigit base)
  deriving DecidableEq

namespace IntegerLiteral

variable {base : LiteralBase}

def digits (literal : IntegerLiteral base) : List (LiteralDigit base) :=
  literal.first :: literal.more.map (·.2)

def text (literal : IntegerLiteral base) : List Char :=
  base.mark ++ literal.first.char :: literal.more.flatMap fun (isGrouped, digit) =>
    if isGrouped then ['_', digit.char] else [digit.char]

def value (literal : IntegerLiteral base) : Nat :=
  Nat.ofDigits base.radix (literal.digits.map fun digit => digit.value.val).reverse

-- A literal with no more digits than decimal numerals may have.
def IsReadable (literal : IntegerLiteral base) : Prop :=
  base = .decimal → literal.digits.length ≤ Text.decimalDigitLimit

end IntegerLiteral

end SwiftAudit.Swift

namespace SwiftAudit.Text

open Swift

section Digits

variable {base : LiteralBase}

theorem digit?_char (digit : LiteralDigit base) :
    digit? base.radix digit.char = some digit.value.val := by
  obtain ⟨value, isUpper⟩ := digit
  revert value isUpper
  cases base <;> decide +kernel

-- Digits are no underscores, signs and blanks. The mark of a base is no digit of it.
theorem char_isPlain (digit : LiteralDigit base) :
    digit.char ∉ ['_', '-', '+'] ∧ ¬isNumeralBlank digit.char ∧
      baseMark? base.radix ≠ some digit.char.toLower := by
  obtain ⟨value, isUpper⟩ := digit
  revert value isUpper
  cases base <;> decide +kernel

theorem foldlM_digits (digits : List (LiteralDigit base)) (start : Nat) :
    (digits.map LiteralDigit.char).foldlM
        (fun value c => (digit? base.radix c).map (value * base.radix + ·)) start =
      some (digits.foldl (fun value digit => value * base.radix + digit.value) start) := by
  induction digits generalizing start with
  | nil => rfl
  | cons digit rest ih =>
      rw [List.map_cons, List.foldlM_cons, digit?_char, List.foldl_cons, ← ih]
      rfl

theorem digitsValue?_chars (digits : List (LiteralDigit base)) :
    digitsValue? base.radix (digits.map LiteralDigit.char) =
      some (Nat.ofDigits base.radix (digits.map fun digit => digit.value.val).reverse) := by
  rw [digitsValue?, foldlM_digits, Nat.ofDigits_eq_foldr, List.foldr_reverse, List.foldl_map]
  congr 2
  funext value digit
  rw [Nat.cast_id, Nat.add_comm, Nat.mul_comm]

-- Digits are not taken for a mark.
theorem dropBaseMark_chars (digits : List (LiteralDigit base)) :
    dropBaseMark base.radix (digits.map LiteralDigit.char) = digits.map LiteralDigit.char := by
  rcases digits with _ | ⟨first, _ | ⟨second, rest⟩⟩
  · rfl
  · rfl
  · have hmark : ¬(digitValue? first.char = some 0 &&
        baseMark? base.radix = some second.char.toLower) := by
      simp [(char_isPlain second).2.2]
    exact if_neg hmark

theorem trimWhere_of_forall_not {p : Char → Bool} {text : List Char} (h : ∀ c ∈ text, ¬p c) :
    trimWhere p text = text := by
  have hleft {text : List Char} (h : ∀ c ∈ text, ¬p c) : text.dropWhile p = text := by
    cases text with
    | nil => rfl
    | cons c rest => exact List.dropWhile_cons_of_neg (h c List.mem_cons_self)
  rw [trimWhere, trimLeftWhere, trimRightWhere, hleft h,
    hleft fun c hc => h c (List.mem_reverse.mp hc), List.reverse_reverse]

theorem readInteger?_chars (digit : LiteralDigit base) (rest : List (LiteralDigit base)) :
    readInteger? base.radix ((digit :: rest).map LiteralDigit.char) =
      (readNatural? base.radix ((digit :: rest).map LiteralDigit.char)).map Int.ofNat := by
  have hblank : ∀ c ∈ (digit :: rest).map LiteralDigit.char, ¬isNumeralBlank c := by
    intro c hc
    obtain ⟨other, -, rfl⟩ := List.mem_map.mp hc
    exact (char_isPlain other).2.1
  have hsign := (char_isPlain digit).1
  unfold readInteger?
  rw [trimWhere_of_forall_not hblank, List.map_cons]
  split
  · rename_i hminus
    rw [(List.cons.inj hminus).1] at hsign
    simp at hsign
  · rename_i hplus
    rw [(List.cons.inj hplus).1] at hsign
    simp at hsign
  · cases readNatural? base.radix (digit.char :: rest.map LiteralDigit.char) <;> rfl

theorem readNatural?_chars (digit : LiteralDigit base) (rest : List (LiteralDigit base))
    (h : base = .decimal → (digit :: rest).length ≤ decimalDigitLimit) :
    readNatural? base.radix ((digit :: rest).map LiteralDigit.char) =
      some (Nat.ofDigits base.radix ((digit :: rest).map fun digit => digit.value.val).reverse) := by
  have hdecimal : base.radix = 10 → base = .decimal := by cases base <;> decide
  have hshort : ¬(((digit :: rest).map LiteralDigit.char).isEmpty || (base.radix = 10 &&
      ((digit :: rest).map LiteralDigit.char).length > decimalDigitLimit)) := by
    simp only [List.map_cons, List.isEmpty_cons, Bool.false_or, Bool.and_eq_true, decide_eq_true_eq,
      List.length_cons, List.length_map, not_and, gt_iff_lt, not_lt]
    exact fun hradix => h (hdecimal hradix)
  rw [readNatural?, dropBaseMark_chars, if_neg hshort, digitsValue?_chars]

-- What is left of a literal without its underscores.
theorem filter_text (literal : IntegerLiteral base) :
    literal.text.filter (· != '_') = base.mark ++ literal.digits.map LiteralDigit.char := by
  have hchar (digit : LiteralDigit base) : digit.char ≠ '_' := by
    have hplain := (char_isPlain digit).1
    rw [List.mem_cons, not_or] at hplain
    exact hplain.1
  have hmark : base.mark.filter (· != '_') = base.mark := by
    cases base <;> decide
  have hmore (more : List (Bool × LiteralDigit base)) :
      (more.flatMap fun (isGrouped, digit) =>
        if isGrouped then ['_', digit.char] else [digit.char]).filter (· != '_') =
        (more.map (·.2)).map LiteralDigit.char := by
    induction more with
    | nil => rfl
    | cons item rest ih =>
        obtain ⟨isGrouped, digit⟩ := item
        rw [List.flatMap_cons, List.filter_append, ih]
        cases isGrouped <;> simp [hchar digit]
  have hfirst : literal.first.char != '_' := bne_iff_ne.mpr (hchar _)
  rw [IntegerLiteral.text, List.filter_append, hmark, List.filter_cons, if_pos hfirst, hmore,
    IntegerLiteral.digits, List.map_cons]

-- The value of a literal does not depend on how it is spelt: in which base, with which letters,
-- with zeros at the front and underscores between the digits.
theorem literalValue?_text {literal : IntegerLiteral base} (h : literal.IsReadable) :
    literalValue? base.radix literal.text = some (literal.value : Int) := by
  have hdigits : (if base.radix = 10 then literal.text.filter (· != '_')
      else (literal.text.filter (· != '_')).drop 2) = literal.digits.map LiteralDigit.char := by
    rw [filter_text]
    cases base <;> rfl
  rw [literalValue?, hdigits, IntegerLiteral.digits, readInteger?_chars, readNatural?_chars _ _ h]
  rfl

end Digits

end SwiftAudit.Text
