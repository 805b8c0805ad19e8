import SwiftAudit.Finding
import SwiftAudit.Proofs.Translation.Source

namespace SwiftAudit

theorem toString_text (text : String) : toString text = text := rfl

namespace Finding

def repetitionOpening : List Char := "Repeated code block in function '".toList

def repetitionMiddle : List Char := "' (first seen at line ".toList

-- A description of a repeated block ends in a line number and a parenthesis. This splits it
-- into what stands before the number, and the digits.
def repetitionParts? (description : List Char) : Option (List Char × List Char) :=
  match description.reverse with
  | ')' :: rest =>
    let before := (rest.dropWhile Char.isDigit).reverse
    if repetitionOpening.isPrefixOf description && repetitionMiddle.isSuffixOf before then
      some (before, (rest.takeWhile Char.isDigit).reverse)
    else none
  | _ => none

-- A text in which the line that it names, if it names one, lies further down.
def movedText (lines : Nat) (description : String) : String :=
  match repetitionParts? description.toList with
  | some (before, digits) =>
    String.ofList before ++ toString (Nat.ofDigitChars 10 digits 0 + lines) ++ ")"
  | none => description

-- No description with a surrogate names a line.
def movedDescription (lines : Nat) : CodeText → CodeText
  | .plain description => movedText lines description
  | broken => broken

-- A finding some lines further down. All else is kept, but for the line that a description
-- names.
def movedDown (lines : Nat) (finding : Finding) : Finding :=
  { finding with
    line := finding.line + lines
    description := movedDescription lines finding.description }

theorem takeWhile_isDigit_reverse (line : Nat) (before : List Char) :
    ((Nat.toDigits 10 line).reverse ++ ' ' :: before).takeWhile Char.isDigit =
      (Nat.toDigits 10 line).reverse := by
  have hdigits : ∀ c ∈ (Nat.toDigits 10 line).reverse, c.isDigit = true := by
    intro c hc
    exact Nat.isDigit_of_mem_toDigits (by omega) (by omega) (List.mem_reverse.mp hc)
  rw [List.takeWhile_append_of_pos hdigits, List.takeWhile_cons_of_neg (by decide),
    List.append_nil]

theorem dropWhile_isDigit_reverse (line : Nat) (before : List Char) :
    ((Nat.toDigits 10 line).reverse ++ ' ' :: before).dropWhile Char.isDigit = ' ' :: before := by
  have h : ((Nat.toDigits 10 line).reverse ++ ' ' :: before).takeWhile Char.isDigit ++
      ((Nat.toDigits 10 line).reverse ++ ' ' :: before).dropWhile Char.isDigit =
        (Nat.toDigits 10 line).reverse ++ ' ' :: before :=
    List.takeWhile_append_dropWhile
  rw [takeWhile_isDigit_reverse] at h
  exact List.append_cancel_left h

theorem repetitionParts?_repetition (name : List Char) (line : Nat) :
    repetitionParts? (repetitionOpening ++ name ++ repetitionMiddle ++ Nat.toDigits 10 line ++
        [')']) =
      some (repetitionOpening ++ name ++ repetitionMiddle, Nat.toDigits 10 line) := by
  obtain ⟨middle, hmiddle⟩ : ∃ middle, repetitionMiddle = middle ++ [' '] :=
    ⟨"' (first seen at line".toList, by decide⟩
  have hreverse : (repetitionOpening ++ name ++ repetitionMiddle ++ Nat.toDigits 10 line ++
      [')']).reverse = ')' :: ((Nat.toDigits 10 line).reverse ++
        ' ' :: (repetitionOpening ++ name ++ middle).reverse) := by
    simp [hmiddle]
  have hbefore : (' ' :: (repetitionOpening ++ name ++ middle).reverse).reverse =
      repetitionOpening ++ name ++ repetitionMiddle := by
    simp [hmiddle]
  have hopening : repetitionOpening.isPrefixOf (repetitionOpening ++ name ++ repetitionMiddle ++
      Nat.toDigits 10 line ++ [')']) = true := by
    simp [List.append_assoc]
  have hends : repetitionMiddle.isSuffixOf (repetitionOpening ++ name ++ repetitionMiddle) =
      true := by
    exact List.isSuffixOf_iff_suffix.mpr (List.suffix_append _ _)
  unfold repetitionParts?
  rw [hreverse]
  simp only [takeWhile_isDigit_reverse, dropWhile_isDigit_reverse, hbefore, hopening, hends,
    Bool.and_self, ite_true, List.reverse_reverse]

-- The line that a repetition names moves down with the text.
theorem movedText_repetition (lines line : Nat) (name : String) :
    movedText lines
        s!"Repeated code block in function '{name}' (first seen at line {line})" =
      s!"Repeated code block in function '{name}' (first seen at line {line + lines})" := by
  have hlist : (s!"Repeated code block in function '{name}' (first seen at line {line})").toList =
      repetitionOpening ++ name.toList ++ repetitionMiddle ++ Nat.toDigits 10 line ++ [')'] := by
    simp only [toString_text, String.toList_append, Nat.toString_eq_repr, Nat.toList_repr]
    rfl
  unfold movedText
  rw [hlist, repetitionParts?_repetition]
  simp only [Nat.ofDigitChars_ten_toDigits]
  apply String.toList_inj.mp
  simp only [toString_text, String.toList_append, String.toList_ofList]
  rfl

theorem repetitionParts?_of_head (description : List Char)
    (h : description.head? ≠ some 'R') : repetitionParts? description = none := by
  have hopening : repetitionOpening.isPrefixOf description = false := by
    cases description with
    | nil => rfl
    | cons c rest =>
        have hc : 'R' ≠ c := by
          intro hc
          exact h (by rw [← hc]; rfl)
        have hcons : repetitionOpening = 'R' :: "epeated code block in function '".toList := by rfl
        rw [hcons, List.isPrefixOf_cons_cons]
        simp [hc]
  unfold repetitionParts?
  split
  · rw [hopening]
    rfl
  · rfl

-- All other descriptions start with another letter.
theorem movedText_of_head (lines : Nat) (description : String)
    (h : description.toList.head? ≠ some 'R') : movedText lines description = description := by
  unfold movedText
  rw [repetitionParts?_of_head description.toList h]

end Finding

namespace Source.MovedBy

variable {above : List UInt8} {source moved : Source}

theorem onNodeWith_movedDescription (h : MovedBy above source moved) (n : Node)
    (category : String) (description : CodeText) (severity : Severity) :
    Finding.onNodeWith moved (n.shift above.length) category
        (Finding.movedDescription (above.count lineFeed) description) severity =
      (Finding.onNodeWith source n category description severity).movedDown
        (above.count lineFeed) := by
  simp only [Finding.onNodeWith, Finding.movedDown, h.position_eq, Position.down, Int.natCast_add]

theorem onNode_movedText (h : MovedBy above source moved) (n : Node)
    (category description : String) (severity : Severity) :
    Finding.onNode moved (n.shift above.length) category
        (Finding.movedText (above.count lineFeed) description) severity =
      (Finding.onNode source n category description severity).movedDown
        (above.count lineFeed) :=
  h.onNodeWith_movedDescription n category description severity

theorem onNode_eq (h : MovedBy above source moved) (n : Node) (category description : String)
    (severity : Severity) (hd : description.toList.head? ≠ some 'R') :
    Finding.onNode moved (n.shift above.length) category description severity =
      (Finding.onNode source n category description severity).movedDown
        (above.count lineFeed) := by
  rw [← h.onNode_movedText, Finding.movedText_of_head _ description hd]

-- Findings with one description on each of some nodes.
theorem map_onNode_eq (h : MovedBy above source moved) (nodes : List Node)
    (category description : String) (severity : Severity)
    (hd : description.toList.head? ≠ some 'R') :
    nodes.map (fun n =>
        Finding.onNode moved (n.shift above.length) category description severity) =
      nodes.map fun n => (Finding.onNode source n category description severity).movedDown
        (above.count lineFeed) := by
  apply List.map_congr_left
  intro n _
  exact h.onNode_eq n category description severity hd

end Source.MovedBy

end SwiftAudit
