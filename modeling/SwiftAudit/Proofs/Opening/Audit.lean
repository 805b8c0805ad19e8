import SwiftAudit.Proofs.Encoding.Decode
import SwiftAudit.Proofs.Failure.Audit
import SwiftAudit.Proofs.Opening.Path

namespace SwiftAudit

theorem Source.intercalate_lines (source : Source) :
    List.intercalate ['\n'] source.lines = source.text.toList :=
  List.intercalate_splitOn '\n'

namespace Audit

theorem openFile_encode (path : Path) (text : List Char) (tree : Tree) :
    (openFile path (.file (Text.Utf8.encode text) tree)).result =
      .ok (.ofText path.text (String.ofList text) tree) := by
  rw [openFile, (Text.Utf8.decode_eq_ok_iff _ text).mpr rfl]
  exact opened_result path.text (String.ofList text) tree

-- A file with bytes is opened, or is not UTF-8. Nothing else can happen to it.
theorem openFile_eq_undecodable_iff (path : Path) (bytes : List UInt8) (tree : Tree)
    (fault : Text.Utf8.Fault) :
    (openFile path (.file bytes tree)).result = .error (.reported (.undecodable path.text fault)) ↔
      Text.Utf8.decode bytes = .error fault := by
  rw [openFile]
  cases Text.Utf8.decode bytes with
  | ok text => simp [opened_result]
  | error other => simp [Transcript.report]

theorem run_under (path : String) (source : Source) (settings : Settings) (checks : List Check) :
    (run (source.under path) settings checks).result = (run source settings checks).result := by
  simp only [run_result, Check.findings_under]

-- A text is audited in a file as it is in memory, whatever either of them is called.
theorem file_encode (settings : Settings) (path : Path) (text : List Char) (tree : Tree)
    (name other : String) :
    (file settings path (.file (Text.Utf8.encode text) tree) name).result =
      (Audit.text settings [name] other (String.ofList text) tree).result := by
  simp only [file, Audit.text, Transcript.result_bind, openFile_encode, opened_result, ok_bind]
  congr 1
  funext checks
  exact run_under path.text (.ofText (Path.ofText other).text (String.ofList text) tree) settings
    checks

-- A file is opened if and only if its bytes are well-formed. Its text then has the very bytes of
-- the file, with any byte order mark and carriage return, and is made of its lines; and a check
-- finds in the file what it finds in that text.
theorem openFile_isFaithful (path : Path) (bytes : List UInt8) (tree : Tree) :
    ((∃ fault, (openFile path (.file bytes tree)).result =
        .error (.reported (.undecodable path.text fault))) ↔ ¬Text.Utf8.IsWellFormed bytes) ∧
      (Text.Utf8.IsWellFormed bytes →
        ∃ source, (openFile path (.file bytes tree)).result = .ok source ∧
          source.path = path.text ∧ source.tree = tree ∧ source.bytes = bytes ∧
          Text.Utf8.encode source.text.toList = bytes ∧
          List.intercalate ['\n'] source.lines = source.text.toList ∧
          ∀ settings name other,
            (file settings path (.file bytes tree) name).result =
              (Audit.text settings [name] other source.text tree).result) := by
  constructor
  · simp only [openFile_eq_undecodable_iff, Text.Utf8.exists_decode_eq_error_iff]
  · intro h
    obtain ⟨text, rfl⟩ := (Text.Utf8.isWellFormed_iff bytes).mp h
    let source := Source.ofText path.text (String.ofList text) tree
    have hbytes : Text.Utf8.encode source.text.toList = Text.Utf8.encode text :=
      congrArg Text.Utf8.encode String.toList_ofList
    refine ⟨source, openFile_encode path text tree, rfl, rfl, ?_, hbytes, source.intercalate_lines,
      fun settings name other => file_encode settings path text tree name other⟩
    rw [source.bytes_eq, hbytes]

-- The tree of a call that is not closed, after a byte order mark and before a line end of two
-- characters.
def markedCall : Tree :=
  .node ⟨0, "source_file", 3, 7, true, false, true, []⟩
    [.node ⟨1, "simple_identifier", 3, 4, true, false, false, []⟩ [],
      .node ⟨2, "(", 4, 5, false, false, false, []⟩ [],
      .node ⟨3, ")", 5, 5, false, true, true, []⟩ []]

-- The mark and the carriage return are kept, and slashes in overlong form are refused.
theorem openFile_isFaithful_marked :
    let path := Path.ofText "f.swift"
    let bytes : List UInt8 := [0xEF, 0xBB, 0xBF, 0x66, 0x28, 0x0D, 0x0A]
    Text.Utf8.IsWellFormed bytes ∧
      (∃ source, (openFile path (.file bytes markedCall)).result = .ok source ∧
        Text.Utf8.encode source.text.toList = bytes ∧
        (file Settings.default path (.file bytes markedCall) "syntax").result =
          (Audit.text Settings.default ["syntax"] "<string>" source.text markedCall).result) ∧
      (file Settings.default path (.file bytes markedCall) "syntax").result.map
          (List.map Finding.text) = .ok ["2:1: error: Invalid syntax: expected ')'"] ∧
      ∃ fault, (openFile path (.file [0xC0, 0xAF] .unparsed)).result =
        .error (.reported (.undecodable path.text fault)) := by
  intro path bytes
  have hwellFormed : Text.Utf8.IsWellFormed bytes :=
    ⟨[[0xEF, 0xBB, 0xBF], [0x66], [0x28], [0x0D], [0x0A]], by decide, rfl⟩
  have hoverlong : ¬Text.Utf8.IsWellFormed [0xC0, 0xAF] :=
    (Text.Utf8.exists_decode_eq_error_iff _).mp ⟨_, rfl⟩
  obtain ⟨source, hopen, -, -, -, hencode, -, hfile⟩ :=
    (openFile_isFaithful path bytes markedCall).2 hwellFormed
  exact ⟨hwellFormed, ⟨source, hopen, hencode, hfile Settings.default "syntax" "<string>"⟩,
    by decide +kernel, (openFile_isFaithful path [0xC0, 0xAF] .unparsed).1.mpr hoverlong⟩

end Audit

end SwiftAudit
