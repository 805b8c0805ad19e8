import SwiftAudit.Proofs.Attributes.Labels
import SwiftAudit.Proofs.Attributes.Splitting
import SwiftAudit.Proofs.Attributes.Usage

namespace SwiftAudit

namespace Swift

theorem splitAttribute_available (arguments : List Char) :
    splitAttribute ("@available(".toList ++ arguments ++ [')']) =
      ("available".toList, some arguments) := by
  have hname : "available".toList.all isAttributeNameChar := by decide +kernel
  refine splitAttribute_eq_some_iff.mpr ⟨[], [], [], ?_, ⟨by decide, ?_⟩, rfl, rfl, by simp⟩
  · rw [List.append_assoc]
    rfl
  · exact List.all_eq_true.mp hname

end Swift

namespace Rule.Attribute

-- The finding on an interface that is withdrawn without a message.
def withoutMessage (source : Source) (n : Node) : Finding :=
  finding source n .warning "@available with deprecated or obsoleted should include a message"

-- Of the names of arguments, one withdraws an interface and none gives a message.
def WithdrawsSilently (names : List Char → Prop) : Prop :=
  (names "deprecated".toList ∨ names "obsoleted".toList) ∧ ¬names "message".toList

theorem lacksMessage_iff (labels : List (List Char)) :
    lacksMessage (labels.map String.ofList) ↔ WithdrawsSilently (· ∈ labels) := by
  have hlabel (word : String) : word ∈ labels.map String.ofList ↔ word.toList ∈ labels := by
    rw [List.mem_map]
    constructor
    · rintro ⟨label, hm, rfl⟩
      rwa [String.toList_ofList]
    · intro hm
      exact ⟨word.toList, hm, String.ofList_toList⟩
  simp only [lacksMessage, Bool.and_eq_true, Bool.or_eq_true, Bool.not_eq_true', ← Bool.not_eq_true,
    List.contains_iff_mem, hlabel, WithdrawsSilently]

theorem withoutMessage_mem_iff {source : Source} {n : Node} {arguments : List Char} :
    withoutMessage source n ∈ available source n (some arguments) ↔
      WithdrawsSilently (· ∈ Swift.argumentLabels arguments) := by
  rw [available, isBlankArgument, Option.getD_some]
  by_cases hblank : Text.isBlankText arguments
  · rw [if_pos hblank, Swift.argumentLabels_of_blank hblank, List.mem_singleton]
    simp [withoutMessage, finding, WithdrawsSilently, Finding.onNode, Finding.onNodeWith]
  · rw [if_neg hblank]
    split
    · rename_i hlacks
      exact iff_of_true (List.mem_singleton.mpr rfl) ((lacksMessage_iff _).mp hlacks)
    · rename_i hlacks
      exact iff_of_false List.not_mem_nil (mt (lacksMessage_iff _).mpr hlacks)

theorem withdrawsSilently_congr {names names' : List Char → Prop}
    (h : ∀ word ∈ ["deprecated".toList, "obsoleted".toList, "message".toList],
      names word ↔ names' word) :
    WithdrawsSilently names ↔ WithdrawsSilently names' := by
  simp only [WithdrawsSilently, h _ (by simp : "deprecated".toList ∈ _),
    h _ (by simp : "obsoleted".toList ∈ _), h _ (by simp : "message".toList ∈ _)]

-- An interface is withdrawn silently, as far as a reader can tell that takes the words behind the
-- commas of a string for labels. It tells right if none of the three words strays from a string.
theorem withoutMessage_mem_findingsAt_iff {source : Source} (settings : Settings) {n : Node}
    {arguments : List Swift.Argument} (hn : n ∈ source.root.preorder)
    (hkind : n.kind = "attribute")
    (htext : source.chars n.label =
      "@available(".toList ++ Swift.Argument.written arguments ++ [')']) :
    let found := findingsAt source (settings.set .standardAttributes) n
    found.Sublist (AttributeUsage.findings source settings) ∧
      (withoutMessage source n ∈ found ↔ WithdrawsSilently fun word =>
        Swift.IsNamed arguments word ∨ Swift.HasStray arguments word) ∧
      ((∀ word ∈ ["deprecated".toList, "obsoleted".toList, "message".toList],
        ¬Swift.HasStray arguments word) →
        (withoutMessage source n ∈ found ↔ WithdrawsSilently (Swift.IsNamed arguments))) := by
  intro found
  have hfound : found = available source n (some (Swift.Argument.written arguments)) := by
    simp only [found, findingsAt, htext, Swift.splitAttribute_available, String.ofList_toList]
  have hexact : withoutMessage source n ∈ found ↔ WithdrawsSilently fun word =>
      Swift.IsNamed arguments word ∨ Swift.HasStray arguments word := by
    rw [hfound, withoutMessage_mem_iff]
    refine withdrawsSilently_congr fun word hword => ?_
    have hplain : word ≠ [] ∧ '"' ∉ word := by
      revert word
      decide
    exact Swift.mem_argumentLabels_written_iff hplain.1 hplain.2 arguments
  refine ⟨AttributeUsage.findingsAt_sublist hn hkind, hexact, fun hstray => hexact.trans ?_⟩
  exact withdrawsSilently_congr fun word hword => or_iff_left (hstray word hword)

-- A function that is withdrawn without a message, and renamed.
def renamed (name : String) : Source :=
  .ofText "f.swift"
      ("@available(*, deprecated, renamed: \"" ++ name ++ "\")\nfunc f() \x7b \x7d\n") <|
    .node ⟨0, "source_file", 0, 66, true, false, false, []⟩
      [.node ⟨1, "function_declaration", 0, 65, true, false, false, []⟩
        [.node ⟨2, "modifiers", 0, 52, true, false, false, []⟩
          [.node ⟨3, "attribute", 0, 52, true, false, false, []⟩
            [.node ⟨4, "@", 0, 1, false, false, false, []⟩ [],
              .node ⟨5, "user_type", 1, 10, true, false, false, []⟩
                [.node ⟨6, "type_identifier", 1, 10, true, false, false, []⟩ []],
              .node ⟨7, "(", 10, 11, false, false, false, []⟩ [],
              .node ⟨8, "*", 11, 12, false, false, false, []⟩ [],
              .node ⟨9, ",", 12, 13, false, false, false, []⟩ [],
              .node ⟨10, "simple_identifier", 14, 24, true, false, false, []⟩ [],
              .node ⟨11, ",", 24, 25, false, false, false, []⟩ [],
              .node ⟨12, "simple_identifier", 26, 33, true, false, false, []⟩ [],
              .node ⟨13, ":", 33, 34, false, false, false, []⟩ [],
              .node ⟨14, "line_string_literal", 35, 51, true, false, false, []⟩
                [.node ⟨15, "\"", 35, 36, false, false, false, []⟩ [],
                  .node ⟨16, "line_str_text", 36, 50, true, false, false, []⟩ [],
                  .node ⟨17, "\"", 50, 51, false, false, false, []⟩ []],
              .node ⟨18, ")", 51, 52, false, false, false, []⟩ []]],
          .node ⟨19, "func", 53, 57, false, false, false, []⟩ [],
          .node ⟨20, "simple_identifier", 58, 59, true, false, false, [.name]⟩ [],
          .node ⟨21, "(", 59, 60, false, false, false, []⟩ [],
          .node ⟨22, ")", 60, 61, false, false, false, []⟩ [],
          .node ⟨23, "function_body", 62, 65, true, false, false, [.body]⟩
            [.node ⟨24, "\x7b", 62, 63, false, false, false, []⟩ [],
              .node ⟨25, "\x7d", 64, 65, false, false, false, []⟩ []]]]

def renamedArguments (name : String) (noQuote : '"' ∉ name.toList) : List Swift.Argument :=
  [⟨"*".toList, none, by simp⟩, ⟨" deprecated".toList, none, by simp⟩,
    ⟨" renamed".toList, some (.quoted ⟨" ".toList, name.toList, [], by decide, by decide, noQuote⟩),
      by simp⟩]

theorem withoutMessage_mem_findingsAt_iff_renamed :
    ∃ n ∈ (renamed "go(x:message:)").root.preorder, n.kind = "attribute" ∧
      withoutMessage (renamed "go(x:message:)") n ∈
        AttributeUsage.findings (renamed "go(x:message:)") Settings.default := by
  obtain ⟨n, hn, hkind, htext⟩ : ∃ n ∈ (renamed "go(x:message:)").root.preorder,
      n.kind = "attribute" ∧ (renamed "go(x:message:)").chars n.label = "@available(".toList ++
        Swift.Argument.written (renamedArguments "go(x:message:)" (by decide)) ++ [')'] := by
    decide +kernel
  obtain ⟨hsublist, -, hsound⟩ :=
    withoutMessage_mem_findingsAt_iff Settings.default hn hkind htext
  have hstray (word : List Char) :
      ¬Swift.HasStray (renamedArguments "go(x:message:)" (by decide)) word := by
    apply Swift.not_hasStray
    simp [renamedArguments]
  have hnamed : WithdrawsSilently
      (Swift.IsNamed (renamedArguments "go(x:message:)" (by decide))) :=
    ⟨.inl (by decide +kernel), by decide +kernel⟩
  exact ⟨n, hn, hkind, hsublist.subset ((hsound fun word _ => hstray word).mpr hnamed)⟩

-- What stands behind the comma of the new name is taken for a message.
theorem findings_renamed_ne_withoutMessage :
    ∃ n ∈ (renamed "go, message: b").root.preorder, n.kind = "attribute" ∧
      (renamed "go, message: b").chars n.label = "@available(".toList ++
        Swift.Argument.written (renamedArguments "go, message: b" (by decide)) ++ [')'] ∧
      WithdrawsSilently (Swift.IsNamed (renamedArguments "go, message: b" (by decide))) ∧
      AttributeUsage.findings (renamed "go, message: b") Settings.default = [] := by
  obtain ⟨n, hn, hkind, htext⟩ : ∃ n ∈ (renamed "go, message: b").root.preorder,
      n.kind = "attribute" ∧ (renamed "go, message: b").chars n.label = "@available(".toList ++
        Swift.Argument.written (renamedArguments "go, message: b" (by decide)) ++ [')'] := by
    decide +kernel
  exact ⟨n, hn, hkind, htext, ⟨.inl (by decide +kernel), by decide +kernel⟩, by decide +kernel⟩

end Rule.Attribute

end SwiftAudit
