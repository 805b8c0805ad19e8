import SwiftAudit.Audit
import SwiftAudit.Proofs.Settings.Alike

namespace SwiftAudit

namespace Rule

theorem Indentation.scan_of_alike {allowed other : ScalarSet} (h : allowed.Alike other)
    (number previous : Nat) (lines : List (List Char)) :
    scan allowed number previous lines = scan other number previous lines := by
  induction lines generalizing number previous with
  | nil => rfl
  | cons line rest ih => simp only [scan, ih, h.hasInt]

theorem MagicNumber.findingsAt_of_alike {exempt other : ScalarSet} (h : exempt.Alike other)
    (source : Source) (n : Node) : findingsAt source exempt n = findingsAt source other n := by
  have hshown (negative : Bool) (base : Nat) (text : List Char) :
      shownInteger? exempt negative base text = shownInteger? other negative base text := by
    simp only [shownInteger?, h.hasInt]
  simp only [findingsAt, shown?, hshown]

theorem Attribute.findingsAt_of_alike {standard other : ScalarSet} (h : standard.Alike other)
    (source : Source) (n : Node) : findingsAt source standard n = findingsAt source other n := by
  simp only [findingsAt, custom, h.hasText]

theorem Directive.finding?_of_alike {standard other : ScalarSet} (h : standard.Alike other)
    (source : Source) (n : Node) : finding? source standard n = finding? source other n := by
  have hfault (name : String) (rest : List Char) :
      fault? standard n name rest = fault? other n name rest := by
    simp only [fault?, invocationFault?, h.hasText]
  simp only [finding?, hfault]

theorem AttributeUsage.scan_of_alike {a b : Settings} (h : a.Alike b) (source : Source)
    (seen : List Position) (nodes : List Node) :
    scan source a seen nodes = scan source b seen nodes := by
  induction nodes generalizing seen with
  | nil => rfl
  | cons n rest ih =>
      simp only [scan, ih, Attribute.findingsAt_of_alike (h.set .standardAttributes),
        Directive.finding?_of_alike (h.set .standardMacros)]

theorem SymbolUsage.findings_of_alike {a b : Settings} (h : a.Alike b) (source : Source) :
    findings source a = findings source b := by
  have hshort (name : String) :
      isShort (a.set .shortNameWhitelist) name = isShort (b.set .shortNameWhitelist) name := by
    simp only [isShort, (h.set .shortNameWhitelist).hasText]
  have honce (threshold : Int) (references : List String) (name : String) (d : Declaration) :
      isUsedOnce threshold (a.set .singleReferenceExemptions) references name d =
        isUsedOnce threshold (b.set .singleReferenceExemptions) references name d := by
    simp only [isUsedOnce, (h.set .singleReferenceExemptions).hasText]
  have honce := funext₂ fun name d =>
    honce (b.number .unusedReferenceThreshold) (references source) name d
  simp only [findings, h.number, hshort, honce]

end Rule

-- No check reads more of a set than which members it has.
theorem Check.findings_of_alike {a b : Settings} (h : a.Alike b) (source : Source)
    (check : Check) : check.findings source a = check.findings source b := by
  cases check with
  | complexity => simp only [findings, Rule.Complexity.findings, h.number]
  | longFunctions => simp only [findings, Rule.LongFunction.findings, h.number]
  | magicNumbers =>
      have hexempt := h.set .magicNumberExemptions
      have hat := funext (Rule.MagicNumber.findingsAt_of_alike hexempt source)
      simp only [findings, Rule.MagicNumber.findings, hat]
  | deprecatedApis => simp only [findings, Rule.DeprecatedApi.findings, h.deprecatedApis]
  | localization => simp only [findings, Rule.Localization.findings, h.number]
  | optionalChains => simp only [findings, Rule.OptionalChain.findings, h.number, h.flag]
  | codeStyle =>
      simp only [findings, Rule.Indentation.findings, Rule.BlankLines.findings, h.number, h.flag,
        Rule.Indentation.scan_of_alike (h.set .allowedIndentDeltas)]
  | duplicateFunctions =>
      simp only [findings, Rule.DuplicateFunction.findings, h.number, h.similarityThreshold]
  | refactoring =>
      have hfunction := funext fun function =>
        show Rule.Refactoring.functionFindings source a function =
            Rule.Refactoring.functionFindings source b function by
          simp only [Rule.Refactoring.functionFindings, h.number]
      have htype := funext fun n =>
        show Rule.Refactoring.typeFindings source a n =
            Rule.Refactoring.typeFindings source b n by
          simp only [Rule.Refactoring.typeFindings, h.number]
      simp only [findings, Rule.Refactoring.findings, hfunction, htype]
  | symbolUsage => simp only [findings, Rule.SymbolUsage.findings_of_alike h]
  | attributeUsage =>
      simp only [findings, Rule.AttributeUsage.findings, Rule.AttributeUsage.scan_of_alike h]
  | _ => rfl

namespace Audit

theorem run_of_alike {a b : Settings} (h : a.Alike b) (source : Source) (checks : List Check) :
    run source a checks = run source b checks := by
  induction checks with
  | nil => rfl
  | cons check rest ih => simp only [run, runCheck, ih, Check.findings_of_alike h]

-- Settings objects that are the same but for how the members of sets are listed are refused in
-- the same way, or every audit under them takes the same course, to the last entry of its log.
theorem text_of_sameMembers (settings : Settings) (first second : List (CodeText × Json))
    (h : List.Forall₂ SameEntry first second) (names : List String) (path text : String)
    (tree : Tree) :
    (settings.merge first).map (fun changed => Audit.text changed names path text tree) =
      (settings.merge second).map (fun changed => Audit.text changed names path text tree) := by
  refine (Settings.Alike.merge (.refl settings) h).map_eq ?_
  intro a b halike
  simp only [Audit.text, run_of_alike halike]

-- The sum of two integers.
def onePlusSeven : Tree :=
  .node ⟨0, "source_file", 0, 5, true, false, false, []⟩
    [.node ⟨1, "additive_expression", 0, 5, true, false, false, []⟩
      [.node ⟨2, "integer_literal", 0, 1, true, false, false, []⟩ [],
        .node ⟨3, "+", 2, 3, false, false, false, []⟩ [],
        .node ⟨4, "integer_literal", 4, 5, true, false, false, []⟩ []]]

-- The first list exempts one as a truth value, the second as an integer, after a negative zero.
theorem text_of_sameMembers_one :
    let exempting (members : List Scalar) : List (CodeText × Json) :=
      [("magic_number_exemptions", Json.list (members.map Scalar.toJson))]
    let audit (entries : List (CodeText × Json)) :=
      (Settings.default.merge entries).map fun changed =>
        Audit.text changed ["magic_numbers"] "f.swift" "1 + 7" onePlusSeven
    let first := exempting [.bool true, .int 0, .float .nan, .text "0"]
    let second :=
      exempting [.text "0", .float (.finite true 0 0), .int 1, .float (.finite false 1 0)]
    audit first = audit second ∧ (audit first >>= Transcript.result) =
      .ok [⟨1, 5, .warning, "Magic Numbers",
        "Magic number '7' found. Consider extracting this as a named constant"⟩] := by
  intro exempting audit first second
  have hsame : List.Forall₂ SameEntry first second :=
    .cons (.set .magicNumberExemptions (by decide +kernel) (by decide +kernel)) .nil
  exact ⟨text_of_sameMembers Settings.default first second hsame ["magic_numbers"] "f.swift" "1 + 7"
    onePlusSeven, by decide +kernel⟩

end Audit

end SwiftAudit
