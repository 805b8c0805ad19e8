import SwiftAudit.CommandLine.Run

namespace SwiftAudit.CommandLine

-- How a run ended, without what it wrote to the error stream.
def Outcome.silenced (outcome : Outcome) : Outcome := { outcome with errors := "" }

-- What was logged, and how much of it is shown, only matters to the error stream.
theorem saveReport_silenced {a b : Options} (hreport : a.report = b.report) (path : Path)
    (logA logB : List LogEntry) (lines : List String) (report : Report) (files : Files) :
    (saveReport a path logA lines report files).silenced =
      (saveReport b path logB lines report files).silenced := by
  unfold saveReport
  rw [hreport]
  cases b.report with
  | none => rfl
  | some asked =>
      dsimp only
      split <;> rfl

theorem conclude_silenced {a b : Options} (hreport : a.report = b.report)
    (hlegacy : a.legacyCategories = b.legacyCategories) (path : Path) (date : String)
    (logA logB : List LogEntry) (findings : List Finding) (files : Files) :
    (conclude a path date logA findings files).silenced =
      (conclude b path date logB findings files).silenced := by
  unfold conclude
  rw [hlegacy]
  dsimp only
  split
  · rfl
  · exact saveReport_silenced hreport path logA logB _ _ files

-- Two runs whose audits come to the same end in the same way.
theorem runAudit_silenced {a b : Options} (hreport : a.report = b.report)
    (hlegacy : a.legacyCategories = b.legacyCategories) (path : Path) (date : String)
    (files : Files) (haudit : (audit a path files).result = (audit b path files).result) :
    (runAudit a path date files).silenced = (runAudit b path date files).silenced := by
  unfold runAudit
  dsimp only
  rw [haudit]
  cases (audit b path files).result with
  | ok findings => exact conclude_silenced hreport hlegacy path date _ _ findings files
  | error halt => cases halt <;> rfl

theorem runOptions_silenced {a b : Options} (hlist : a.listChecks = b.listChecks)
    (hsource : a.source = b.source) (hreport : a.report = b.report)
    (hlegacy : a.legacyCategories = b.legacyCategories) (date : String) (files : Files)
    (haudit : ∀ path, (audit a path files).result = (audit b path files).result) :
    (runOptions a date files).silenced = (runOptions b date files).silenced := by
  unfold runOptions
  rw [hlist, hsource]
  cases b.listChecks with
  | true => rfl
  | false =>
      cases b.source with
      | none => rfl
      | some source => exact runAudit_silenced hreport hlegacy _ date files (haudit _)

theorem run_of_parse {arguments : List String} {options : Options}
    (h : parse arguments = .ok options) (date : String) (files : Files) :
    run date arguments files = runOptions options date files := by
  rw [run, h]

-- Arguments that are taken as others but for a change of options, on which nothing depends
-- apart from the error stream.
theorem run_silenced {change : Options → Options} {asked arguments : List String} (date : String)
    (files : Files) (hparse : parse asked = (parse arguments).map change)
    (hchange : ∀ options, parse arguments = .ok options →
      (runOptions (change options) date files).silenced =
        (runOptions options date files).silenced) :
    (run date asked files).silenced = (run date arguments files).silenced := by
  unfold run
  rw [hparse]
  cases h : parse arguments with
  | error stop => cases stop <;> rfl
  | ok options => exact hchange options h

end SwiftAudit.CommandLine
