import SwiftAudit.Proofs.Failure.Audit

namespace SwiftAudit

theorem Check.ofName?_eq_none_iff (name : String) :
    ofName? name = none ↔ name ∉ all.map Check.name := by
  simp [ofName?, List.find?_eq_none]

namespace Audit

-- Names that were looked up before one that is none do not matter, nor do those after it.
theorem resolve_unknown (before : List Check) (name : String) (after : List String)
    (h : name ∉ Check.all.map Check.name) :
    (resolve (before.map Check.name ++ name :: after)).result =
      .error (.reported (.unknownCheck name)) := by
  have hname := (Check.ofName?_eq_none_iff name).mpr h
  induction before with
  | nil =>
      rw [List.map_nil, List.nil_append, resolve, hname]
      rfl
  | cons check rest ih => simp [resolve, Check.ofName?_name, ih]

-- The names are looked up before the text is.
theorem text_unknown (settings : Settings) (before : List Check) (name : String)
    (after : List String) (path text : String) (tree : Tree)
    (h : name ∉ Check.all.map Check.name) :
    (Audit.text settings (before.map Check.name ++ name :: after) path text tree).result =
      .error (.reported (.unknownCheck name)) := by
  simp [Audit.text, resolve_unknown before name after h]

theorem text_append (settings : Settings) (a b : List Check) (path text : String) (tree : Tree) :
    (Audit.text settings ((a ++ b).map Check.name) path text tree).result = do
      let first ← (Audit.text settings (a.map Check.name) path text tree).result
      let second ← (Audit.text settings (b.map Check.name) path text tree).result
      return first ++ second := by
  rw [text_result, text_result, text_result, flatMapM_append]

theorem file_result (settings : Settings) (path : Path) (found : Lookup) (check : Check) :
    (file settings path found check.name).result =
      (openFile path found).result >>= fun source => (check.findings source settings).result := by
  have hresolve : (resolve [check.name]).result = .ok [check] := resolve_names [check]
  simp only [file, Transcript.result_bind, hresolve, ok_bind, run_result]
  cases (openFile path found).result with
  | error halt => rfl
  | ok source => cases h : (check.findings source settings).result <;> simp [h]

theorem wholeFile_result (settings : Settings) (path : Path) (found : Lookup) :
    (wholeFile settings path found).result =
      (openFile path found).result >>= fun source =>
        Check.all.flatMapM fun check => (check.findings source settings).result := by
  simp only [wholeFile, Transcript.result_bind, run_result]

-- A file that cannot be opened fails at the first check as it fails once and for all.
theorem wholeFile_eq_files (settings : Settings) (path : Path) (found : Lookup) :
    (wholeFile settings path found).result =
      (Check.all.map Check.name).flatMapM fun name => (file settings path found name).result := by
  have hnames := flatMapM_map (fun name => (file settings path found name).result) Check.name
    Check.all
  have hopen := bind_flatMapM (openFile path found).result
    (fun source check => (check.findings source settings).result) Check.all (by decide)
  rw [wholeFile_result, hnames, funext (file_result settings path found), hopen]

end Audit

end SwiftAudit
