import SwiftAudit.Proofs.Except
import SwiftAudit.Proofs.Failure.Check
import SwiftAudit.Proofs.Literals.Spelling
import SwiftAudit.Proofs.Tree.Ancestors

namespace SwiftAudit.Rule.MagicNumber

-- A node is the operand of a minus, which its parent holds first.
def IsNegatedBy (source : Source) (n parent : Node) : Prop :=
  n.parent? = some parent ∧ parent.kind = "prefix_expression" ∧
    ∃ first, parent.children.head? = some first ∧ source.textOf first = "-"

theorem negation?_eq_some_iff {source : Source} {n parent : Node} :
    negation? source n = some parent ↔ IsNegatedBy source n parent := by
  rw [negation?, Option.filter_eq_some_iff, Bool.and_eq_true, beq_iff_eq, Option.any_eq_true]
  simp only [beq_iff_eq, IsNegatedBy]

-- Where a literal of some magnitude is reported, and the number that it stands for there.
inductive Signed (source : Source) (n : Node) (magnitude : Nat) : Node → Int → Prop where
  | negative (parent : Node) (h : IsNegatedBy source n parent) :
      Signed source n magnitude parent (-magnitude)
  | positive (h : ∀ parent, ¬IsNegatedBy source n parent) : Signed source n magnitude n magnitude

theorem exists_signed (source : Source) (n : Node) (magnitude : Nat) :
    ∃ target v, Signed source n magnitude target v ∧ target = (negation? source n).getD n ∧
      v = if (negation? source n).isSome then -(magnitude : Int) else magnitude := by
  cases hnegation : negation? source n with
  | none =>
      refine ⟨n, magnitude, .positive ?_, rfl, rfl⟩
      intro parent hparent
      rw [negation?_eq_some_iff.mpr hparent] at hnegation
      cases hnegation
  | some parent =>
      exact ⟨parent, -magnitude, .negative parent (negation?_eq_some_iff.mp hnegation), rfl, rfl⟩

-- A literal whose declaration gives it a name.
def IsNamed (n : Node) : Prop := ∃ f ∈ n.ancestors, f.kind = "property_declaration"

instance (n : Node) : Decidable (IsNamed n) :=
  inferInstanceAs (Decidable (∃ f ∈ n.ancestors, f.kind = "property_declaration"))

theorem isNamed_iff {n : Node} : n.isInside ["property_declaration"] ↔ IsNamed n := by
  simp only [Node.isInside_iff, List.mem_singleton, IsNamed]

def magicNumber (source : Source) (target : Node) (v : Int) : Finding :=
  .onNode source target Category.magicNumbers
    s!"Magic number '{v}' found. Consider extracting this as a named constant"

section Literal

variable {source : Source} {base : Swift.LiteralBase} {literal : Swift.IntegerLiteral base}

theorem integerBase?_kind (base : Swift.LiteralBase) : integerBase? base.kind = some base.radix := by
  cases base <;> decide

theorem shownInteger?_literal (exempt : ScalarSet) (hreadable : literal.IsReadable)
    (hsize : literal.value < Nat.pow 10 Text.decimalDigitLimit) {negative : Bool} {v : Int}
    (hv : v = if negative then -(literal.value : Int) else literal.value) :
    shownInteger? exempt negative base.radix literal.text =
      .ok (if exempt.hasInt v then none else some (toString v)) := by
  have habs : v.natAbs = literal.value := by
    rw [hv]
    split
    · rw [Int.natAbs_neg, Int.natAbs_natCast]
    · rw [Int.natAbs_natCast]
  have hshown : Text.decimalText? v = some (toString v) := by
    rw [Text.decimalText?, habs, if_pos hsize]
  unfold shownInteger?
  rw [Text.literalValue?_text hreadable]
  dsimp only
  rw [← hv, hshown]
  split <;> rfl

-- What is found at a literal depends on nothing but the number that it stands for.
theorem findingsAt_literal (exempt : ScalarSet) {n : Node} (hkind : n.kind = base.kind)
    (htext : source.chars n.label = literal.text) (hreadable : literal.IsReadable)
    (hsize : literal.value < Nat.pow 10 Text.decimalDigitLimit) :
    ∃ target v, Signed source n literal.value target v ∧
      findingsAt source exempt n =
        .ok (if IsNamed n ∨ exempt.hasInt v then [] else [magicNumber source target v]) := by
  have hbase : integerBase? n.kind = some base.radix := by rw [hkind, integerBase?_kind]
  have hnumber : isNumber n := by rw [isNumber, hbase]; rfl
  obtain ⟨target, v, hsigned, htarget, hv⟩ := exists_signed source n literal.value
  refine ⟨target, v, hsigned, ?_⟩
  by_cases hnamed : IsNamed n
  · have hout : ¬(isNumber n && !n.isInside ["property_declaration"]) := by
      simp [isNamed_iff.mpr hnamed]
    rw [findingsAt, if_neg hout, if_pos (.inl hnamed)]
  · have hin : isNumber n && !n.isInside ["property_declaration"] := by
      simp [hnumber, mt isNamed_iff.mp hnamed]
    have hshown : shown? source exempt n (negation? source n).isSome =
        .ok (if exempt.hasInt v then none else some (toString v)) := by
      rw [shown?, hbase, htext]
      exact shownInteger?_literal exempt hreadable hsize hv
    rw [findingsAt, if_pos hin]
    dsimp only
    rw [hshown, ok_bind, ← htarget]
    simp only [hnamed, false_or]
    by_cases hexempt : exempt.hasInt v
    · rw [if_pos hexempt, if_pos hexempt]
      rfl
    · rw [if_neg hexempt, if_neg hexempt]
      rfl

-- Literals are reported by value. Two literals for one number are treated alike, whichever way
-- they are spelt.
theorem findings_of_literal (hreadable : literal.IsReadable)
    (hsize : literal.value < Nat.pow 10 Text.decimalDigitLimit) :
    Text.literalValue? base.radix literal.text = some (literal.value : Int) ∧
      ∀ (source : Source) (settings : Settings), ∀ n ∈ source.root.preorder,
        n.kind = base.kind → source.chars n.label = literal.text →
          ∃ target v, Signed source n literal.value target v ∧
            ∃ front back, source.root.preorder = front ++ n :: back ∧
              findings source settings = do
                let before ← front.flatMapM
                  (findingsAt source (settings.set .magicNumberExemptions))
                let after ← back.flatMapM
                  (findingsAt source (settings.set .magicNumberExemptions))
                return before ++
                  (if IsNamed n ∨ (settings.set .magicNumberExemptions).hasInt v then []
                  else [.onNode source target Category.magicNumbers
                    s!"Magic number '{v}' found. Consider extracting this as a named constant"]) ++
                  after := by
  refine ⟨Text.literalValue?_text hreadable, ?_⟩
  intro source settings n hn hkind htext
  obtain ⟨target, v, hsigned, hfound⟩ :=
    findingsAt_literal (settings.set .magicNumberExemptions) hkind htext hreadable hsize
  obtain ⟨front, back, hsplit⟩ := List.append_of_mem hn
  refine ⟨target, v, hsigned, front, back, hsplit, ?_⟩
  rw [findings, Source.nodes, Node.all_eq_preorder, hsplit, flatMapM_append, List.flatMapM_cons,
    hfound]
  simp only [ok_bind, bind_assoc, pure_bind, List.append_assoc]
  rfl

end Literal

-- The call `f(-0x0b_1)`.
def negatedCall : Source :=
  .ofText "f.swift" "f(-0x0b_1)\n" <|
    .node ⟨0, "source_file", 0, 11, true, false, false, []⟩
      [.node ⟨1, "call_expression", 0, 10, true, false, false, []⟩
        [.node ⟨2, "simple_identifier", 0, 1, true, false, false, []⟩ [],
          .node ⟨3, "call_suffix", 1, 10, true, false, false, []⟩
            [.node ⟨4, "value_arguments", 1, 10, true, false, false, []⟩
              [.node ⟨5, "(", 1, 2, false, false, false, []⟩ [],
                .node ⟨6, "value_argument", 2, 9, true, false, false, []⟩
                  [.node ⟨7, "prefix_expression", 2, 9, true, false, false, []⟩
                    [.node ⟨8, "-", 2, 3, false, false, false, []⟩ [],
                      .node ⟨9, "hex_literal", 3, 9, true, false, false, [.target]⟩ []]],
                .node ⟨10, ")", 9, 10, false, false, false, []⟩ []]]]]

-- The literal `0x0b_1`, whose digits look like a mark themselves.
def groupedDigits : Swift.IntegerLiteral .hexadecimal :=
  ⟨⟨(0 : Fin 16), false⟩, [(false, ⟨(11 : Fin 16), false⟩), (true, ⟨(1 : Fin 16), false⟩)]⟩

theorem findings_of_literal_negatedCall :
    ∃ n ∈ negatedCall.root.preorder, n.kind = "hex_literal" ∧
      negatedCall.chars n.label = groupedDigits.text ∧ groupedDigits.IsReadable ∧
      groupedDigits.value < Nat.pow 10 Text.decimalDigitLimit ∧
      Text.literalValue? 16 groupedDigits.text = some 177 ∧
      ∃ parent, IsNegatedBy negatedCall n parent ∧ ∃ front back,
        negatedCall.root.preorder = front ++ n :: back ∧
          findings negatedCall .default = do
            let before ← front.flatMapM (findingsAt negatedCall
              (Settings.default.set .magicNumberExemptions))
            let after ← back.flatMapM (findingsAt negatedCall
              (Settings.default.set .magicNumberExemptions))
            return before ++ [.onNode negatedCall parent Category.magicNumbers
              "Magic number '-177' found. Consider extracting this as a named constant"] ++
              after := by
  obtain ⟨n, hn, parent, -, hkind, htext, hparent, hnamed⟩ :
      ∃ n ∈ negatedCall.root.preorder, ∃ parent ∈ negatedCall.root.preorder,
        n.kind = Swift.LiteralBase.hexadecimal.kind ∧
          negatedCall.chars n.label = groupedDigits.text ∧
          negation? negatedCall n = some parent ∧ ¬IsNamed n := by
    decide +kernel
  have hreadable : groupedDigits.IsReadable := nofun
  have hsize : groupedDigits.value < Nat.pow 10 Text.decimalDigitLimit := by decide +kernel
  have hnegated := negation?_eq_some_iff.mp hparent
  obtain ⟨hvalue, hliteral⟩ := findings_of_literal hreadable hsize
  obtain ⟨target, v, hsigned, front, back, hsplit, hfindings⟩ :=
    hliteral negatedCall .default n hn hkind htext
  refine ⟨n, hn, hkind, htext, hreadable, hsize, hvalue, parent, hnegated, front, back, hsplit, ?_⟩
  cases hsigned with
  | negative other hother =>
      have hsame := negation?_eq_some_iff.mpr hother
      rw [hparent, Option.some.injEq] at hsame
      subst hsame
      have hshare : ¬(IsNamed n ∨
          (Settings.default.set .magicNumberExemptions).hasInt (-groupedDigits.value)) :=
        not_or.mpr ⟨hnamed, by decide +kernel⟩
      have hshown : -(groupedDigits.value : Int) = -177 := by decide
      rw [hfindings, if_neg hshare, hshown]
      rfl
  | positive h => exact absurd hnegated (h parent)

end SwiftAudit.Rule.MagicNumber
