import SwiftAudit.Proofs.Lists
import SwiftAudit.Proofs.Text.Trim
import SwiftAudit.Proofs.Text.Word
import SwiftAudit.Swift.Attribute

namespace SwiftAudit.Swift

theorem beforeLastClose?_eq_some_iff {text before : List Char} :
    beforeLastClose? text = some before ↔ ∃ rest, text = before ++ ')' :: rest ∧ ')' ∉ rest := by
  constructor
  · intro h
    unfold beforeLastClose? at h
    split at h
    · cases h
    · rename_i c reversed hcut
      obtain ⟨run, htext, hrun, hclose⟩ := dropWhile_eq_iff.mp hcut
      obtain rfl : c = ')' := by simpa using hclose
      cases h
      refine ⟨run.reverse, ?_, fun hm => ?_⟩
      · rw [← List.reverse_inj, htext]
        simp
      · have hnot := hrun ')' (List.mem_reverse.mp hm)
        simp at hnot
  · rintro ⟨rest, rfl, hrest⟩
    have hcut : (before ++ ')' :: rest).reverse.dropWhile (· != ')') = ')' :: before.reverse := by
      refine dropWhile_eq_iff.mpr ⟨rest.reverse, by simp, fun c hc => ?_, by simp⟩
      exact bne_iff_ne.mpr fun heq => hrest (heq ▸ List.mem_reverse.mp hc)
    rw [beforeLastClose?, hcut]
    exact congrArg some (List.reverse_reverse before)

theorem beforeLastClose?_eq_none_iff {text : List Char} :
    beforeLastClose? text = none ↔ ')' ∉ text := by
  rw [Option.eq_none_iff_forall_ne_some]
  constructor
  · intro hnone hm
    obtain ⟨rest, before, hreverse, hrest⟩ := List.eq_append_cons_of_mem (List.mem_reverse.mpr hm)
    refine hnone before.reverse (beforeLastClose?_eq_some_iff.mpr ⟨rest.reverse, ?_, ?_⟩)
    · rw [← List.reverse_inj, hreverse]
      simp
    · rwa [List.mem_reverse]
  · intro hm before hsome
    obtain ⟨rest, rfl, -⟩ := beforeLastClose?_eq_some_iff.mp hsome
    exact hm (by simp)

-- Arguments in parentheses, which blanks may precede.
def HasArguments (after : List Char) : Prop :=
  ∃ gap inner, after = gap ++ '(' :: inner ∧ Text.isBlankText gap ∧ ')' ∈ inner

section Arguments

variable {after : List Char}

theorem trimLeft_eq_open_iff {inner : List Char} :
    Text.trimLeft after = '(' :: inner ↔
      ∃ gap, after = gap ++ '(' :: inner ∧ Text.isBlankText gap :=
  Text.trimLeft_eq_cons_iff (by decide)

theorem argumentsAfter?_of_open {gap inner : List Char} (h : after = gap ++ '(' :: inner)
    (hgap : Text.isBlankText gap) : argumentsAfter? after = beforeLastClose? inner := by
  rw [argumentsAfter?, trimLeft_eq_open_iff.mpr ⟨gap, h, hgap⟩]
  rfl

theorem argumentsAfter?_eq_some_iff {arguments : List Char} :
    argumentsAfter? after = some arguments ↔
      ∃ gap rest, after = gap ++ '(' :: (arguments ++ ')' :: rest) ∧ Text.isBlankText gap ∧
        ')' ∉ rest := by
  constructor
  · intro h
    unfold argumentsAfter? at h
    split at h
    · rename_i inner htrim
      obtain ⟨gap, rfl, hgap⟩ := trimLeft_eq_open_iff.mp htrim
      obtain ⟨rest, rfl, hrest⟩ := beforeLastClose?_eq_some_iff.mp h
      exact ⟨gap, rest, rfl, hgap, hrest⟩
    · cases h
  · rintro ⟨gap, rest, hafter, hgap, hrest⟩
    rw [argumentsAfter?_of_open hafter hgap]
    exact beforeLastClose?_eq_some_iff.mpr ⟨rest, rfl, hrest⟩

theorem argumentsAfter?_eq_none_iff : argumentsAfter? after = none ↔ ¬HasArguments after := by
  constructor
  · rintro hnone ⟨gap, inner, hafter, hgap, hclose⟩
    rw [argumentsAfter?_of_open hafter hgap, beforeLastClose?_eq_none_iff] at hnone
    exact hnone hclose
  · intro hlacks
    rw [Option.eq_none_iff_forall_ne_some]
    intro arguments hsome
    obtain ⟨gap, rest, hafter, hgap, -⟩ := argumentsAfter?_eq_some_iff.mp hsome
    exact hlacks ⟨gap, _, hafter, hgap, by simp⟩

end Arguments

-- The names of attributes may have dots in them.
def IsAttributeName (name : List Char) : Prop := name ≠ [] ∧ ∀ c ∈ name, isAttributeNameChar c

-- A text starts with the sign of an attribute, blanks and a name. The name is all up to `after`.
structure BearsName (text name after : List Char) : Prop where
  spelt : ∃ lead, text = '@' :: (lead ++ name ++ after) ∧ Text.isBlankText lead
  isName : IsAttributeName name
  ends : ∀ c ∈ after.head?, ¬isAttributeNameChar c

theorem not_isBlank_of_isAttributeNameChar {c : Char} (h : isAttributeNameChar c) :
    ¬Text.isBlank c := by
  rw [isAttributeNameChar, Bool.or_eq_true] at h
  rcases h with hword | hdot
  · exact Text.not_isBlank_of_isWord hword
  · rw [beq_iff_eq.mp hdot]
    decide

-- Neither a blank nor the parenthesis behind it goes on with a name.
theorem not_isAttributeNameChar_of_gap {gap inner : List Char} (hgap : Text.isBlankText gap) :
    ∀ c ∈ (gap ++ '(' :: inner).head?, ¬isAttributeNameChar c := by
  intro c hc hname
  cases gap with
  | nil =>
      cases hc
      revert hname
      decide +kernel
  | cons blank gap =>
      cases hc
      exact not_isBlank_of_isAttributeNameChar hname
        (Text.isBlankText_iff.mp hgap c List.mem_cons_self)

theorem BearsName.splitAttribute {text name after : List Char} (h : BearsName text name after) :
    splitAttribute text = (name, argumentsAfter? after) := by
  obtain ⟨⟨lead, rfl, hlead⟩, ⟨hne, hname⟩, hends⟩ := h
  obtain ⟨c, tail, rfl⟩ := List.exists_cons_of_ne_nil hne
  have htrim : Text.trimLeft (lead ++ (c :: tail) ++ after) = (c :: tail) ++ after := by
    refine dropWhile_eq_iff.mpr ⟨lead, List.append_assoc _ _ _, Text.isBlankText_iff.mp hlead, ?_⟩
    rintro a ha
    cases ha
    exact not_isBlank_of_isAttributeNameChar (hname c List.mem_cons_self)
  have hspan : ((c :: tail) ++ after).span isAttributeNameChar = (c :: tail, after) :=
    span_eq_iff.mpr ⟨rfl, hname, hends⟩
  simp only [Swift.splitAttribute, htrim, hspan]

-- What bears no name is all name, but for the signs at its start.
theorem splitAttribute_of_nameless {text : List Char}
    (h : ¬∃ name after, BearsName text name after) :
    splitAttribute text = (text.dropWhile (· == '@'), none) := by
  unfold splitAttribute
  split
  · rename_i rest
    split
    · rfl
    · rename_i name after hne hspan
      obtain ⟨htrim, hname, hends⟩ := span_eq_iff.mp hspan
      obtain ⟨lead, hrest, hlead, -⟩ := dropWhile_eq_iff.mp htrim
      refine absurd ⟨name, after, ⟨lead, ?_, Text.isBlankText_iff.mpr hlead⟩, ⟨?_, hname⟩, hends⟩ h
      · rw [hrest, List.append_assoc]
      · rintro rfl
        exact hne rfl
  · rfl

theorem splitAttribute_eq_some_iff {text name arguments : List Char} :
    splitAttribute text = (name, some arguments) ↔
      ∃ lead gap rest,
        text = '@' :: (lead ++ name ++ gap ++ '(' :: (arguments ++ ')' :: rest)) ∧
          IsAttributeName name ∧ Text.isBlankText lead ∧ Text.isBlankText gap ∧ ')' ∉ rest := by
  constructor
  · intro h
    by_cases hnamed : ∃ name after, BearsName text name after
    · obtain ⟨own, after, hbears⟩ := hnamed
      rw [hbears.splitAttribute, Prod.mk.injEq, argumentsAfter?_eq_some_iff] at h
      obtain ⟨rfl, gap, rest, rfl, hgap, hrest⟩ := h
      obtain ⟨lead, htext, hlead⟩ := hbears.spelt
      refine ⟨lead, gap, rest, ?_, hbears.isName, hlead, hgap, hrest⟩
      rw [htext, ← List.append_assoc]
    · rw [splitAttribute_of_nameless hnamed] at h
      cases h
  · rintro ⟨lead, gap, rest, htext, hname, hlead, hgap, hrest⟩
    have hbears : BearsName text name (gap ++ '(' :: (arguments ++ ')' :: rest)) :=
      ⟨⟨lead, by rw [htext, ← List.append_assoc], hlead⟩, hname,
        not_isAttributeNameChar_of_gap hgap⟩
    rw [hbears.splitAttribute, Prod.mk.injEq, argumentsAfter?_eq_some_iff]
    exact ⟨rfl, gap, rest, rfl, hgap, hrest⟩

theorem splitAttribute_eq_none_iff {text name : List Char} :
    splitAttribute text = (name, none) ↔
      (∃ after, BearsName text name after ∧ ¬HasArguments after) ∨
        (¬∃ name after, BearsName text name after) ∧ name = text.dropWhile (· == '@') := by
  by_cases hnamed : ∃ name after, BearsName text name after
  · obtain ⟨own, after, hbears⟩ := hnamed
    constructor
    · intro h
      rw [hbears.splitAttribute, Prod.mk.injEq, argumentsAfter?_eq_none_iff] at h
      obtain ⟨rfl, hlacks⟩ := h
      exact .inl ⟨after, hbears, hlacks⟩
    · rintro (⟨after, hbears, hlacks⟩ | ⟨hnameless, -⟩)
      · rw [hbears.splitAttribute, argumentsAfter?_eq_none_iff.mpr hlacks]
      · exact absurd ⟨own, after, hbears⟩ hnameless
  · rw [splitAttribute_of_nameless hnamed, Prod.mk.injEq, and_iff_left rfl]
    constructor
    · intro h
      exact .inr ⟨hnamed, h.symm⟩
    · rintro (⟨after, hbears, -⟩ | ⟨-, h⟩)
      · exact absurd ⟨name, after, hbears⟩ hnamed
      · exact h.symm

-- An attribute with arguments is read back from what is written: from the sign, the name and the
-- arguments in parentheses, with blanks before the name and behind it. Nothing else is taken for
-- one, but that there may be text without a closing parenthesis behind it. Without arguments all
-- that is read is the name, up to the first character that is none of a name's.
theorem splitAttribute_isInverse (text name : List Char) :
    (∀ arguments, splitAttribute text = (name, some arguments) ↔
      ∃ lead gap rest,
        text = '@' :: (lead ++ name ++ gap ++ '(' :: (arguments ++ ')' :: rest)) ∧
          IsAttributeName name ∧ Text.isBlankText lead ∧ Text.isBlankText gap ∧ ')' ∉ rest) ∧
      (splitAttribute text = (name, none) ↔
        (∃ after, BearsName text name after ∧ ¬HasArguments after) ∨
          (¬∃ name after, BearsName text name after) ∧ name = text.dropWhile (· == '@')) :=
  ⟨fun _ => splitAttribute_eq_some_iff, splitAttribute_eq_none_iff⟩

example : splitAttribute "@ a.b (x(\")\"\n) y) z".toList =
    ("a.b".toList, some "x(\")\"\n) y".toList) := by
  decide +kernel

end SwiftAudit.Swift
