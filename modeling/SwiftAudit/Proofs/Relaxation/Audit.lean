import SwiftAudit.Audit
import SwiftAudit.Proofs.Failure.Audit
import SwiftAudit.Proofs.Relaxation.Functions
import SwiftAudit.Proofs.Relaxation.Rules

namespace SwiftAudit

-- The limits up to which nothing is found.
def NumberSetting.limits : List NumberSetting :=
  [.complexityThreshold, .longFunctionThreshold, .maxOptionalChainDepth, .largeFunctionStatements,
    .largeTypeMembers, .maxInheritedTypes, .repeatedStatementMinLength, .localizationMinLength]

-- The sets whose members are not reported. The standard macros are not among them: a finding
-- on a directive hides others at the same position, which one exempt macro may bring to light.
def SetSetting.exemptions : List SetSetting :=
  [.magicNumberExemptions, .allowedIndentDeltas, .standardAttributes, .shortNameWhitelist,
    .singleReferenceExemptions]

-- Settings of which none is stricter than it was. Where only the first excess line of a run
-- is found, the limit on blank lines stays, as it says which line that is.
structure Settings.Relaxes (relaxed strict : Settings) : Prop where
  limits : ∀ s ∈ NumberSetting.limits, strict.number s ≤ relaxed.number s
  blankLines : relaxed.number .maxBlankLines = strict.number .maxBlankLines ∨
    strict.flag .flagEachExcessBlankLine ∧
      strict.number .maxBlankLines ≤ relaxed.number .maxBlankLines
  bucket : relaxed.number .maxDuplicateBucket = strict.number .maxDuplicateBucket ∨
    0 ≤ relaxed.number .maxDuplicateBucket ∧
      relaxed.number .maxDuplicateBucket ≤ strict.number .maxDuplicateBucket
  similarity : relaxed.similarityThreshold = strict.similarityThreshold ∨
    strict.similarityThreshold.le relaxed.similarityThreshold
  exemptions : ∀ s ∈ SetSetting.exemptions, (strict.set s).Within (relaxed.set s)
  unusedReferenceThreshold :
    relaxed.number .unusedReferenceThreshold = strict.number .unusedReferenceThreshold
  standardMacros : relaxed.set .standardMacros = strict.set .standardMacros
  flag : relaxed.flag = strict.flag
  deprecatedApis : relaxed.deprecatedApis = strict.deprecatedApis

namespace Check

theorem eased_ofExcept {relaxed strict : Except Breakdown (List Finding)}
    (h : Eased relaxed strict) :
    Eased (Transcript.ofExcept relaxed).result (Transcript.ofExcept strict).result := by
  intro more hmore
  cases strict with
  | error breakdown => cases hmore
  | ok found =>
      cases hmore
      obtain ⟨fewer, rfl, hthinned⟩ := h _ rfl
      exact ⟨fewer, rfl, hthinned⟩

-- No check finds more under relaxed settings, and none fails that did not fail before.
theorem findings_eased {relaxed strict : Settings} (h : relaxed.Relaxes strict) (source : Source)
    (check : Check) :
    Eased (check.findings source relaxed).result (check.findings source strict).result := by
  cases check with
  | complexity =>
      have hlimit := h.limits .complexityThreshold (by decide)
      exact .ok (Rule.Complexity.walk_thinned hlimit source _ rfl (.refl _))
  | longFunctions =>
      have hlimit := h.limits .longFunctionThreshold (by decide)
      exact .ok (Thinned.filterMap _ fun n _ => Rule.LongFunction.finding?_thinned hlimit source n)
  | magicNumbers =>
      have hexempt := h.exemptions .magicNumberExemptions (by decide)
      exact eased_ofExcept (Eased.flatMapM _ fun n _ =>
        Rule.MagicNumber.findingsAt_eased hexempt source n)
  | deprecatedApis =>
      simp only [findings, Rule.DeprecatedApi.findings, h.deprecatedApis]
      exact .refl _
  | localization =>
      have hlimit := h.limits .localizationMinLength (by decide)
      exact .ok (Thinned.filterMap _ fun n _ => Rule.Localization.finding?_thinned hlimit source n)
  | optionalChains =>
      have hlimit := h.limits .maxOptionalChainDepth (by decide)
      exact .ok (Rule.OptionalChain.findings_thinned hlimit (congrFun h.flag _))
  | codeStyle =>
      have hallowed := h.exemptions .allowedIndentDeltas (by decide)
      refine .ok (Thinned.append ?_ ?_)
      · exact Rule.Indentation.scan_thinned hallowed 1 0 source.lines
      · simp only [Rule.BlankLines.findings, h.flag]
        exact Rule.BlankLines.scan_thinned h.blankLines 1 ⟨0, false⟩ source.lines
  | duplicateFunctions =>
      exact .ok (Rule.DuplicateFunction.findings_thinned h.bucket h.similarity)
  | refactoring =>
      have hlarge := h.limits .largeFunctionStatements (by decide)
      have hlength := h.limits .repeatedStatementMinLength (by decide)
      have hmembers := h.limits .largeTypeMembers (by decide)
      have hinherited := h.limits .maxInheritedTypes (by decide)
      exact eased_ofExcept
        (Rule.Refactoring.findings_eased hlarge hlength hmembers hinherited)
  | symbolUsage =>
      have hshort := h.exemptions .shortNameWhitelist (by decide)
      have honce := h.exemptions .singleReferenceExemptions (by decide)
      exact .ok (Rule.SymbolUsage.findings_thinned h.unusedReferenceThreshold hshort honce)
  | attributeUsage =>
      have hattributes := h.exemptions .standardAttributes (by decide)
      exact .ok (Rule.AttributeUsage.scan_thinned hattributes h.standardMacros [] source.nodes)
  | _ => exact .refl _

end Check

namespace Audit

-- What an audit finds under relaxed settings it finds under strict ones as well, in the same
-- order and in the same places. Where the strict audit does not fail the relaxed one does not.
theorem text_relaxed {relaxed strict : Settings} (h : relaxed.Relaxes strict)
    (names : List String) (path text : String) (tree : Tree) (more : List Finding)
    (hmore : (Audit.text strict names path text tree).result = .ok more) :
    ∃ fewer, (Audit.text relaxed names path text tree).result = .ok fewer ∧
      (fewer.map Finding.mark).Sublist (more.map Finding.mark) := by
  simp only [Audit.text, Transcript.result_bind, opened_result, ok_bind, run_result] at hmore ⊢
  obtain ⟨checks, hchecks, hmore⟩ := exists_of_bind_eq_ok hmore
  rw [hchecks]
  exact Eased.flatMapM checks (fun check _ => Check.findings_eased h _ check) more hmore

-- The defaults, but for one more blank line.
def moreBlankLines : Settings :=
  { Settings.default with
    number := fun s => if s = .maxBlankLines then 3 else Settings.default.number s }

def bareFile : Tree := .node ⟨0, "source_file", 3, 10, true, false, false, []⟩ []

-- Of two blank lines in excess the second stays one.
theorem text_relaxed_blankLines :
    ∃ fewer, (Audit.text moreBlankLines ["code_style"] "f.swift" "   a\n\n\n\n\nb"
        bareFile).result = .ok fewer ∧
      fewer.map (·.line) = [1, 5] ∧ (fewer.map Finding.mark).Sublist
        [(1, 1, .warning, "Code Style"), (4, 1, .warning, "Code Style"),
          (5, 1, .warning, "Code Style")] := by
  have hrelaxes : moreBlankLines.Relaxes Settings.default :=
    { limits := by decide
      blankLines := by decide
      bucket := by decide
      similarity := .inl rfl
      exemptions := fun _ _ _ _ hfound => hfound
      unusedReferenceThreshold := rfl
      standardMacros := rfl
      flag := rfl
      deprecatedApis := rfl }
  obtain ⟨fewer, hfewer, hsublist⟩ := text_relaxed hrelaxes ["code_style"] "f.swift"
    "   a\n\n\n\n\nb" bareFile
    [Rule.Indentation.finding 1 3, Rule.BlankLines.finding 4, Rule.BlankLines.finding 5]
    (by decide +kernel)
  have hfound : (Audit.text moreBlankLines ["code_style"] "f.swift" "   a\n\n\n\n\nb"
      bareFile).result = .ok [Rule.Indentation.finding 1 3, Rule.BlankLines.finding 5] := by
    decide +kernel
  rw [hfound] at hfewer
  cases hfewer
  exact ⟨_, hfound, rfl, hsublist⟩

end Audit

end SwiftAudit
