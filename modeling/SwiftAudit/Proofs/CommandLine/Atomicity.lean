import SwiftAudit.Proofs.Composition.CommandLine
import SwiftAudit.Proofs.Files
import SwiftAudit.Proofs.Placement.Audit
import SwiftAudit.Proofs.Report.Sections

namespace SwiftAudit.CommandLine

theorem run_of_source {arguments : List String} {options : Options} {source : String}
    (hparse : parse arguments = .ok options) (hlist : options.listChecks = false)
    (hsource : options.source = some source) (date : String) (files : Files) :
    run date arguments files = runAudit options (Path.ofText source) date files := by
  rw [run_of_parse hparse, runOptions, hlist, hsource]
  rfl

theorem runAudit_of_reported {options : Options} {path : Path} {files : Files} {error : AuditError}
    (h : (audit options path files).result = .error (.reported error)) (date : String) :
    ∃ errors, runAudit options path date files = ⟨.ok 1, "", errors, files⟩ := by
  unfold runAudit
  dsimp only
  rw [h]
  exact ⟨_, rfl⟩

theorem runAudit_of_ok {options : Options} {path : Path} {files : Files} {findings : List Finding}
    (h : (audit options path files).result = .ok findings) (date : String) :
    runAudit options path date files =
      conclude options path date (audit options path files).log findings files := by
  unfold runAudit
  dsimp only
  rw [h]

-- An audit ends with the first error that is reported, be it about the settings or by a check
-- after others that found something.
theorem audit_of_reported {options : Options} {path : Path} {files : Files} {error : AuditError}
    {settings : Settings} {before after : List String} {name : String}
    (hsettings : (loadSettings files options.config).result = .ok settings)
    (hrequested : options.requested = before ++ name :: after)
    (hbefore : ∀ earlier ∈ before, ∃ found,
      (Audit.file settings path (files.lookup path) earlier).result = .ok found)
    (hname : (Audit.file settings path (files.lookup path) name).result =
      .error (.reported error)) :
    (audit options path files).result = .error (.reported error) := by
  rw [audit_result, hsettings, ok_bind, flatMapM_eq_error_iff]
  refine ⟨before, name, after, hrequested, fun earlier hm => ?_, hname⟩
  exact (exists_ok_iff _).mp (hbefore earlier hm)

theorem printable_eq (texts : List CodeText) :
    printable texts = (texts.takeWhile CodeText.isPlain).map CodeText.shown := by
  induction texts with
  | nil => rfl
  | cons text rest ih =>
      cases text with
      | plain s => exact congrArg (s :: ·) ih
      | broken before half after => rfl

variable (options : Options) (path : Path) (date : String) (log : List LogEntry)
  (findings : List Finding) (files : Files)

-- The report on the findings that a run prints.
def Options.reportOn : Report := ⟨findings, path.text, options.legacyCategories, date⟩

-- The line for a finding: the file, the finding and its category in the report.
def Options.line (finding : Finding) : String :=
  s!"{path.text}:{finding.line}:{finding.column}: {finding.severity.word}: " ++
    finding.description.shown ++
    s!" [{(options.reportOn path date findings).categoryOf finding}]"

-- A run prints the lines before the first that has a surrogate in it.
theorem printable_findingLine :
    printable (findings.map (findingLine path (options.reportOn path date findings))) =
      (findings.takeWhile (·.description.isPlain)).map (options.line path date findings) := by
  have hplain (finding : Finding) :
      (findingLine path (options.reportOn path date findings) finding).isPlain =
        finding.description.isPlain := by
    simp [findingLine, Finding.text, CodeText.isPlain_append]
  have hshown (finding : Finding) :
      (findingLine path (options.reportOn path date findings) finding).shown =
        options.line path date findings finding := by
    simp [findingLine, Finding.text, Options.line, CodeText.shown_append, CodeText.shown,
      String.append_assoc]
  rw [printable_eq, List.takeWhile_map, List.map_map]
  simp only [Function.comp_def, hplain, hshown]

theorem conclude_broken (h : ∃ finding ∈ findings, ¬finding.description.isPlain) :
    let outcome := conclude options path date log findings files
    outcome.ending = .error .unencodableText ∧
      outcome.output = joinLines
        ((findings.takeWhile (·.description.isPlain)).map (options.line path date findings)) ∧
      outcome.files = files := by
  have hprinted := printable_findingLine options path date findings
  have hfewer : (findings.takeWhile (·.description.isPlain)).length < findings.length := by
    refine Nat.lt_of_le_of_ne (List.takeWhile_prefix _).length_le fun hlength => ?_
    have hall := (List.takeWhile_prefix _).eq_of_length hlength
    obtain ⟨finding, hm, hbroken⟩ := h
    rw [← hall] at hm
    have hplain := List.mem_takeWhile_imp hm
    exact hbroken hplain
  rw [Options.reportOn] at hprinted
  simp only [conclude, hprinted, List.length_map, if_pos hfewer, and_self]

-- Where every line can be printed, the report is what is left to do.
theorem conclude_eq_saveReport (h : ∀ finding ∈ findings, finding.description.isPlain) :
    conclude options path date log findings files =
      saveReport options path log (findings.map (options.line path date findings))
        (options.reportOn path date findings) files := by
  have hprinted := printable_findingLine options path date findings
  rw [List.takeWhile_eq_self_iff.mpr h, Options.reportOn] at hprinted
  simp only [conclude, hprinted, List.length_map, Nat.lt_irrefl, if_false, Options.reportOn]

variable (lines : List String) (report : Report)

theorem saveReport_unasked (h : options.report = none) :
    let outcome := saveReport options path log lines report files
    outcome.ending = .ok 0 ∧ outcome.output = joinLines lines ∧ outcome.files = files := by
  unfold saveReport
  rw [h]
  exact ⟨rfl, rfl, rfl⟩

theorem saveReport_written {asked text : String} (h : options.report = some asked)
    (hplain : report.detailed = .plain text)
    (hwritable : files.IsWritable (reportPath path asked)) :
    let outcome := saveReport options path log lines report files
    let target := reportPath path asked
    outcome.ending = .ok 0 ∧
      outcome.output = joinLines (lines ++ [s!"Report saved to: {target.text}"]) ∧
      files.IsWritten outcome.files target (Text.Utf8.encode text.toList) := by
  obtain ⟨written, hwrite, hwritten⟩ := files.exists_write_eq_ok (reportPath path asked)
    (Text.Utf8.encode text.toList) hwritable
  unfold saveReport
  rw [h]
  dsimp only
  rw [hplain, Files.save, hwrite]
  exact ⟨rfl, rfl, hwritten⟩

theorem saveReport_null {asked text : String} (h : options.report = some asked)
    (hplain : report.detailed = .plain text) (hnull : (reportPath path asked).hasNull) :
    let outcome := saveReport options path log lines report files
    outcome.ending = .error .nullInPath ∧ outcome.output = joinLines lines ∧
      outcome.files = files := by
  have hwrite := files.write_of_hasNull hnull (Text.Utf8.encode text.toList)
  unfold saveReport
  rw [h]
  dsimp only
  rw [hplain, Files.save, hwrite]
  exact ⟨rfl, rfl, rfl⟩

theorem saveReport_refused {asked text : String} (h : options.report = some asked)
    (hplain : report.detailed = .plain text) (hnull : ¬(reportPath path asked).hasNull)
    (hwritable : ¬files.IsWritable (reportPath path asked)) :
    let outcome := saveReport options path log lines report files
    outcome.ending = .ok 1 ∧ outcome.output = joinLines lines ∧ outcome.files = files := by
  obtain ⟨error, hwrite⟩ := files.exists_write_eq_refused hnull hwritable
    (Text.Utf8.encode text.toList)
  unfold saveReport
  rw [h]
  dsimp only
  rw [hplain, Files.save, hwrite]
  exact ⟨rfl, rfl, rfl⟩

-- A run on a file does all or nothing as long as what it prints and writes has an encoding. If the
-- settings cannot be loaded, or a check cannot be made, however many were made before, it ends with
-- nothing but an error. Otherwise it prints every finding, and nothing is written but the report
-- that is asked for, which is on those findings; a report that has no place is not written, and
-- only then the run fails. It breaks down at the first finding with a surrogate in its description,
-- which only a replacement in the settings can have brought there, and at a null character in the
-- path of the report.
theorem run_isAtomic {arguments : List String} {options : Options} {source : String}
    (hparse : parse arguments = .ok options) (hlist : options.listChecks = false)
    (hsource : options.source = some source) (date : String) (files : Files) :
    let path := Path.ofText source
    let check := fun settings name => (Audit.file settings path (files.lookup path) name).result
    let outcome := run date arguments files
    let onLines := fun lines : List String => String.join (lines.map (· ++ "\n"))
    (∀ error, (loadSettings files options.config).result = .error (.reported error) →
      ∃ errors, outcome = ⟨.ok 1, "", errors, files⟩) ∧
    ∀ settings, (loadSettings files options.config).result = .ok settings →
      (∀ before name after error, options.requested = before ++ name :: after →
        (∀ earlier ∈ before, ∃ found, check settings earlier = .ok found) →
        check settings name = .error (.reported error) →
        ∃ errors, outcome = ⟨.ok 1, "", errors, files⟩) ∧
      ∀ findings, options.requested.flatMapM (check settings) = .ok findings →
        let report : Report := ⟨findings, path.text, options.legacyCategories, date⟩
        let line := fun finding : Finding =>
          s!"{path.text}:{finding.line}:{finding.column}: {finding.severity.word}: " ++
            finding.description.shown ++ s!" [{report.categoryOf finding}]"
        ((∃ finding ∈ findings, ¬finding.description.isPlain) →
          outcome.ending = .error .unencodableText ∧
          outcome.output = onLines ((findings.takeWhile (·.description.isPlain)).map line) ∧
          outcome.files = files) ∧
        ((∀ finding ∈ findings, finding.description.isPlain) →
          let printed := findings.map line
          (options.report = none →
            outcome.ending = .ok 0 ∧ outcome.output = onLines printed ∧ outcome.files = files) ∧
          ∀ asked, options.report = some asked →
            let target := Path.ofText (if asked.isEmpty then s!"{path.name}-report.md" else asked)
            (files.IsWritable target →
              outcome.ending = .ok 0 ∧
              outcome.output = onLines (printed ++ [s!"Report saved to: {target.text}"]) ∧
              ∃ text, report.detailed = .plain text ∧
                files.IsWritten outcome.files target (Text.Utf8.encode text.toList)) ∧
            (target.hasNull →
              outcome.ending = .error .nullInPath ∧ outcome.output = onLines printed ∧
              outcome.files = files) ∧
            (¬target.hasNull → ¬files.IsWritable target →
              outcome.ending = .ok 1 ∧ outcome.output = onLines printed ∧
              outcome.files = files)) ∧
        ((∀ entry ∈ settings.deprecatedApis, ∀ text, entry.2 = .text text → text.isPlain) →
          ∀ finding ∈ findings, finding.description.isPlain) := by
  intro path check outcome onLines
  have hrun : outcome = runAudit options path date files :=
    run_of_source hparse hlist hsource date files
  refine ⟨fun error hload => ?_, fun settings hload => ⟨?_, fun findings hfound => ?_⟩⟩
  · have haudit : (audit options path files).result = .error (.reported error) := by
      rw [audit_result, hload, error_bind]
    rw [hrun]
    exact runAudit_of_reported haudit date
  · intro before name after error hrequested hbefore hname
    rw [hrun]
    exact runAudit_of_reported (audit_of_reported hload hrequested hbefore hname) date
  · have haudit : (audit options path files).result = .ok findings := by
      rw [audit_result, hload, ok_bind]
      exact hfound
    intro report line
    rw [hrun, runAudit_of_ok haudit date]
    refine ⟨conclude_broken options path date _ findings files, fun hplain => ?_, ?_⟩
    · intro printed
      obtain ⟨text, htext⟩ := CodeText.isPlain_iff.mp (report.isPlain_detailed_iff.mpr hplain)
      rw [conclude_eq_saveReport options path date _ findings files hplain]
      exact ⟨saveReport_unasked options path _ files printed report, fun asked hasked =>
        ⟨fun hwritable =>
            have ⟨hending, houtput, hwritten⟩ :=
              saveReport_written options path _ files printed report hasked htext hwritable
            ⟨hending, houtput, text, htext, hwritten⟩,
          saveReport_null options path _ files printed report hasked htext,
          saveReport_refused options path _ files printed report hasked htext⟩⟩
    · intro htable finding hm
      obtain ⟨name, -, part, hpart, hm⟩ :=
        mem_of_flatMapM_eq_ok _ options.requested findings hfound finding hm
      exact Audit.isPlain_of_file hpart htable finding hm

-- A check that is none undoes what was found before it, and a report stands beside the source.
theorem run_isAtomic_unclosed :
    (∃ errors, run "" ["f.swift", "--check", "syntax", "--check", "nope"] unclosedFile =
      ⟨.ok 1, "", errors, unclosedFile⟩) ∧
    let outcome := run "" ["f.swift", "--check", "syntax", "--report", "out.md"] unclosedFile
    outcome.ending = .ok 0 ∧
      outcome.output = "f.swift:2:1: error: Invalid syntax: expected ')' [Syntax]\n" ++
        "Report saved to: out.md\n" ∧
      ∃ text, Report.detailed ⟨[⟨2, 1, .error, Category.parsing,
          "Invalid syntax: expected ')'"⟩], "f.swift", false, ""⟩ = .plain text ∧
        unclosedFile.IsWritten outcome.files (Path.ofText "out.md")
          (Text.Utf8.encode text.toList) := by
  let path := Path.ofText "f.swift"
  let finding : Finding := ⟨2, 1, .error, Category.parsing, "Invalid syntax: expected ')'"⟩
  have hfound : (Audit.file Settings.default path (unclosedFile.lookup path) "syntax").result =
      .ok [finding] := by decide +kernel
  constructor
  · have hparse : parse ["f.swift", "--check", "syntax", "--check", "nope"] =
        .ok { Options.none with source := some "f.swift", checks := ["syntax", "nope"] } := rfl
    obtain ⟨-, hloaded⟩ := run_isAtomic hparse rfl rfl "" unclosedFile
    refine (hloaded Settings.default rfl).1 ["syntax"] "nope" [] (.unknownCheck "nope") rfl ?_ rfl
    intro earlier hm
    obtain rfl := List.mem_singleton.mp hm
    exact ⟨_, hfound⟩
  · have hparse : parse ["f.swift", "--check", "syntax", "--report", "out.md"] =
        .ok { Options.none with
          source := some "f.swift", checks := ["syntax"], report := some "out.md" } := rfl
    have hfindings : ["syntax"].flatMapM (fun name =>
        (Audit.file Settings.default path (unclosedFile.lookup path) name).result) =
          .ok [finding] := by
      rw [List.flatMapM_cons, hfound]
      rfl
    have hwritable : unclosedFile.IsWritable (Path.ofText "out.md") :=
      ⟨["out.md"], by decide +kernel, by decide +kernel⟩
    obtain ⟨-, hloaded⟩ := run_isAtomic hparse rfl rfl "" unclosedFile
    obtain ⟨-, hprinted, -⟩ := (hloaded Settings.default rfl).2 [finding] hfindings
    obtain ⟨-, hreport⟩ := hprinted (by simp [finding])
    obtain ⟨hending, houtput, hwritten⟩ := (hreport "out.md" rfl).1 hwritable
    exact ⟨hending, houtput.trans (by decide +kernel), hwritten⟩

-- A deprecated name whose replacement is spelled as half of a surrogate pair.
def unpairedReplacement : Files :=
  ⟨[], [(["A.swift"], .file (Text.Utf8.encode "UIWebView\n".toList)
      (.node ⟨0, "source_file", 0, 10, true, false, false, []⟩
        [.node ⟨1, "simple_identifier", 0, 9, true, false, false, []⟩ []])),
    (["c.json"], .file (Text.Utf8.encode
      "\x7b\"deprecated_apis\": \x7b\"UIWebView\": \"\\ud800\"\x7d\x7d".toList) .unparsed)]⟩

-- The settings are loaded, the audit finds the name and the report has a place, but the run neither
-- prints the finding nor writes the report.
theorem run_unpairedReplacement_broken :
    let options : Options := { Options.none with
      source := some "A.swift", checks := ["deprecated_api"], report := some "out.md",
      config := some "c.json" }
    let arguments := ["A.swift", "--config", "c.json", "--check", "deprecated_api",
      "--report", "out.md"]
    let outcome := run "" arguments unpairedReplacement
    parse arguments = .ok options ∧
      (audit options (Path.ofText "A.swift") unpairedReplacement).result =
        .ok [⟨1, 1, .warning, Category.deprecatedApis,
          "'UIWebView' is deprecated. Use '" ++
            .broken "" ⟨0xD800, by decide⟩ "" ++ "' instead"⟩] ∧
      unpairedReplacement.IsWritable (Path.ofText "out.md") ∧
      outcome.ending = .error .unencodableText ∧ outcome.output = "" ∧
      outcome.files.lookup (Path.ofText "out.md") matches .missing := by
  intro options arguments outcome
  exact ⟨by decide +kernel, by decide +kernel,
    ⟨["out.md"], by decide +kernel, by decide +kernel⟩, by decide +kernel, by decide +kernel,
    by decide +kernel⟩

end SwiftAudit.CommandLine
