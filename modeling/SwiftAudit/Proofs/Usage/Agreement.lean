import Mathlib.Data.List.Basic
import SwiftAudit.Proofs.Usage.Walks

namespace SwiftAudit

section Sentences

variable {opening closing other a b : String}

theorem eq_of_sentence_eq (h : opening ++ a ++ closing = opening ++ b ++ closing) : a = b := by
  simpa [String.append_assoc] using h

theorem sentence_ne_of_getElem? (place : Nat) {c d : Char}
    (hc : opening.toList[place]? = some c) (hd : other.toList[place]? = some d) (hne : c ≠ d) :
    opening ++ a ≠ other ++ b := by
  intro h
  have hplace := congrArg (·.toList[place]?) h
  obtain ⟨hlt, -⟩ := List.getElem?_eq_some_iff.mp hc
  obtain ⟨hlt', -⟩ := List.getElem?_eq_some_iff.mp hd
  simp only [String.toList_append, List.getElem?_append_left hlt, List.getElem?_append_left hlt',
    hc, hd, Option.some.injEq] at hplace
  exact hne hplace

theorem sentence_ne_of_getLast? {c d : Char} (hc : closing.toList.getLast? = some c)
    (hd : other.toList.getLast? = some d) (hne : c ≠ d) : a ++ closing ≠ b ++ other := by
  intro h
  have hlast := congrArg (·.toList.getLast?) h
  simp only [String.toList_append, List.getLast?_append, hc, hd, Option.some_or,
    Option.some.injEq] at hlast
  exact hne hlast

end Sentences

namespace Rule.UnusedVariable

-- A variable is reported under its name if it is declared and not in use.
theorem isReported_iff (source : Source) (name : String) :
    (∃ finding ∈ findings source,
      finding.description = s!"Variable '{name}' declared but never used") ↔
      name ∈ Assoc.keys (declared source) ∧ name ∉ used source := by
  constructor
  · rintro ⟨finding, hm, htext⟩
    obtain ⟨entry, he, rfl⟩ := List.mem_map.mp hm
    obtain ⟨hdeclared, hunused⟩ := List.mem_filter.mp he
    have hname : entry.1 = name := eq_of_sentence_eq (CodeText.plain.inj htext)
    subst hname
    exact ⟨List.mem_map_of_mem hdeclared, by simpa using hunused⟩
  · rintro ⟨hdeclared, hunused⟩
    obtain ⟨entry, he, rfl⟩ := List.mem_map.mp hdeclared
    refine ⟨_, List.mem_map_of_mem (List.mem_filter.mpr ⟨he, by simpa using hunused⟩), rfl⟩

end Rule.UnusedVariable

namespace Rule.SymbolUsage

-- What the last declaration of a name says.
def lastDeclaration? (source : Source) (name : String) : Option Declaration :=
  (source.nodes.flatMap (declarationsAt source)).reverse.lookup name

theorem lookup_declarations (source : Source) (name : String) :
    (declarations source).lookup name = lastDeclaration? source name := by
  rw [declarations, Assoc.ofList, Assoc.lookup_merge_last, List.lookup_nil, Option.or_none]
  rfl

theorem isSome_lastDeclaration? {source : Source} {name : String}
    (h : name ∈ Assoc.keys (UnusedVariable.declared source)) :
    ∃ d, lastDeclaration? source name = some d := by
  obtain ⟨binding, hm, rfl⟩ := List.mem_map.mp h
  obtain ⟨n, hn, hbinding⟩ := List.mem_flatMap.mp hm
  obtain ⟨hnodes, hkind⟩ := List.mem_filter.mp hn
  have hat : binding.1 ∈ Assoc.keys (declarationsAt source n) := by
    rw [declarationsAt, if_pos hkind, Assoc.keys, List.map_map]
    exact List.mem_map_of_mem hbinding
  have hall : binding.1 ∈ Assoc.keys (source.nodes.flatMap (declarationsAt source)).reverse := by
    obtain ⟨entry, he, hkey⟩ := List.mem_map.mp hat
    rw [← hkey]
    exact List.mem_map_of_mem (List.mem_reverse.mpr (List.mem_flatMap.mpr ⟨n, hnodes, he⟩))
  rw [← Option.isSome_iff_exists, Option.isSome_iff_ne_none, ne_eq, lastDeclaration?,
    Assoc.lookup_eq_none_iff]
  exact not_not_intro hall

theorem filter_report_self {finding : String → Declaration → Finding}
    {declarations : List (String × Declaration)} (hkeys : (Assoc.keys declarations).Nodup)
    {name : String} {d : Declaration} (hlookup : declarations.lookup name = some d)
    {text : String} (htext : ∀ other e, (finding other e).description = text ↔ other = name)
    (p : String → Declaration → Bool) :
    (report p finding declarations).filter (·.description == CodeText.plain text) =
      if p name d then [finding name d] else [] := by
  have hkey : ((fun found : Finding => found.description == CodeText.plain text) ∘
      fun (other, e) => finding other e) = fun entry => entry.1 == name := by
    funext entry
    rw [Bool.eq_iff_iff]
    simp [htext]
  rw [report, List.filter_map, hkey, List.filter_comm,
    Assoc.filter_key_of_lookup declarations hkeys hlookup, List.filter_cons, List.filter_nil]
  by_cases hp : p name d
  · rw [if_pos hp, if_pos hp]
    rfl
  · rw [if_neg hp, if_neg hp]
    rfl

theorem filter_report_of_ne {finding : String → Declaration → Finding} {text : String}
    (htext : ∀ other e, (finding other e).description ≠ text)
    (declarations : List (String × Declaration)) (p : String → Declaration → Bool) :
    (report p finding declarations).filter (·.description == CodeText.plain text) = [] := by
  rw [List.filter_eq_nil_iff]
  intro found hm
  obtain ⟨entry, -, rfl⟩ := List.mem_map.mp hm
  simpa using htext entry.1 entry.2

theorem description_unused_iff (source : Source) (name other : String) (e : Declaration) :
    (unused source other e).description =
      s!"Symbol '{name}' appears to be unused or only referenced in its declaration" ↔
      other = name := by
  constructor
  · intro h
    exact eq_of_sentence_eq (CodeText.plain.inj h)
  · rintro rfl
    rfl

theorem description_usedOnce_iff (source : Source) (name other : String) (e : Declaration) :
    (usedOnce source other e).description =
      s!"Symbol '{name}' is only referenced once - possible dead code" ↔ other = name := by
  constructor
  · intro h
    exact eq_of_sentence_eq (CodeText.plain.inj h)
  · rintro rfl
    rfl

theorem description_short_ne (source : Source) (name other closing : String) (e : Declaration) :
    (short source other e).description ≠ s!"Symbol '{name}{closing}" := by
  have hne : "Symbol name '" ++ (other ++ "' is too short and may not be descriptive enough") ≠
      "Symbol '" ++ (name ++ closing) :=
    sentence_ne_of_getElem? 7 rfl rfl (by decide)
  rw [← String.append_assoc, ← String.append_assoc] at hne
  exact fun h => hne (CodeText.plain.inj h)

theorem description_usedOnce_ne (source : Source) (name other : String) (e : Declaration) :
    (usedOnce source other e).description ≠
      s!"Symbol '{name}' appears to be unused or only referenced in its declaration" :=
  fun h => sentence_ne_of_getLast? rfl rfl (by decide) (CodeText.plain.inj h)

theorem description_unused_ne (source : Source) (name other : String) (e : Declaration) :
    (unused source other e).description ≠
      s!"Symbol '{name}' is only referenced once - possible dead code" :=
  fun h => sentence_ne_of_getLast? rfl rfl (by decide) (CodeText.plain.inj h)

-- Of a name that is nowhere in use only the first rule speaks, and once at most.
theorem filter_findings_of_notMem {source : Source} {settings : Settings}
    (hthreshold : 0 ≤ settings.number .unusedReferenceThreshold) {name : String}
    {d : Declaration} (hlookup : lastDeclaration? source name = some d)
    (hunused : name ∉ references source) :
    (findings source settings).filter (·.description == CodeText.plain
        s!"Symbol '{name}' appears to be unused or only referenced in its declaration") =
      (if d.exported then [] else [unused source name d]) ∧
    (findings source settings).filter (·.description == CodeText.plain
        s!"Symbol '{name}' is only referenced once - possible dead code") = [] := by
  rw [← lookup_declarations] at hlookup
  have hkeys := nodup_declarations source
  have hcount : (references source).count name = 0 := List.count_eq_zero.mpr hunused
  unfold findings
  dsimp only
  rw [List.filter_append, List.filter_append, List.filter_append, List.filter_append]
  constructor
  · rw [filter_report_self hkeys hlookup (description_unused_iff source name),
      filter_report_of_ne (description_short_ne source name · _ ·),
      filter_report_of_ne (description_usedOnce_ne source name)]
    simp only [isUnused, hcount, Int.ofNat_zero, hthreshold, decide_true, Bool.and_true]
    cases d.exported <;> rfl
  · rw [filter_report_self hkeys hlookup (description_usedOnce_iff source name),
      filter_report_of_ne (description_short_ne source name · _ ·),
      filter_report_of_ne (description_unused_ne source name)]
    simp [isUsedOnce, hcount]

end Rule.SymbolUsage

namespace Rule.DeprecatedApi

theorem filter_reportAt? {table : List (CodeText × Json)} {name : String} {replacement : Json}
    (hreplacement : replacement? table name = some replacement) (source : Source) (n : Node) :
    (reportAt? source table n).filter (·.name == name) =
      if Swift.usedName? source n == some name then some ⟨name, n, replacement⟩ else none := by
  unfold reportAt?
  obtain hsame | ⟨hused, hempty⟩ := usedName?_cases source n
  · rw [hsame]
    cases lookedUpName? source n with
    | none => rfl
    | some other =>
        by_cases hname : other = name
        · subst hname
          simp [hreplacement, Option.filter_some]
        · cases hother : replacement? table other <;> simp [hname, hother, Option.filter_some]
  · rw [hused, hempty]
    rfl

-- A name with a replacement is reported where it is recorded.
theorem filter_reports {table : List (CodeText × Json)} {name : String} {replacement : Json}
    (hreplacement : replacement? table name = some replacement) (source : Source) :
    (reports source table).filter (·.name == name) =
      ((SymbolUsage.walk source).recorded name).map fun n => ⟨name, n, replacement⟩ := by
  rw [reports, List.filter_filterMap, funext (filter_reportAt? hreplacement source),
    SymbolUsage.recorded_walk]
  induction source.nodes with
  | nil => rfl
  | cons n rest ih =>
      rw [List.filterMap_cons, List.filter_cons, ih]
      split <;> simp_all

theorem replacement?_of_lookup {table : List (CodeText × Json)} {name : String} {replacement : Json}
    (hname : name ≠ "") (hlookup : table.lookup (name : CodeText) = some replacement)
    (hnull : replacement ≠ .null) : replacement? table name = some replacement := by
  unfold replacement?
  rw [if_neg (by simpa using hname), hlookup]
  cases replacement <;> first | rfl | exact absurd rfl hnull

end Rule.DeprecatedApi

namespace Rule

-- Each of the three rules is a walk of its own over the file, and the walks agree on which names
-- are in use. A name with a replacement is reported at each node that is recorded as a reference,
-- and a variable that is never used is a symbol without references: it is reported as an unused
-- symbol, once, unless its last declaration is exported, and never as one that is used once.
theorem usages_agree (source : Source) (settings : Settings) :
    let scan := UnusedVariable.walk source
    let tables := SymbolUsage.walk source
    let reports := DeprecatedApi.reports source settings.deprecatedApis
    (UnusedVariable.findings source = scan.findings source ∧
      SymbolUsage.findings source settings = tables.findings source settings ∧
      DeprecatedApi.findings source settings = reports.mapM (DeprecatedApi.Report.finding source)) ∧
    (∀ name, name ∈ scan.used ↔ tables.recorded name ≠ []) ∧
    (∀ (name : String) replacement, name ≠ "" →
      settings.deprecatedApis.lookup (name : CodeText) = some replacement →
      replacement ≠ .null → reports.filter (·.name == name) =
        (tables.recorded name).map fun n => ⟨name, n, replacement⟩) ∧
    (0 ≤ settings.number .unusedReferenceThreshold → ∀ name,
      (∃ finding ∈ UnusedVariable.findings source,
        finding.description = s!"Variable '{name}' declared but never used") →
      ∃ last, SymbolUsage.lastDeclaration? source name = some last ∧
        (SymbolUsage.findings source settings).filter (·.description == CodeText.plain
            s!"Symbol '{name}' appears to be unused or only referenced in its declaration") =
          (if last.exported then [] else [SymbolUsage.unused source name last]) ∧
        (SymbolUsage.findings source settings).filter (·.description == CodeText.plain
            s!"Symbol '{name}' is only referenced once - possible dead code") = []) := by
  intro scan tables reports
  have hused : scan.used = SymbolUsage.references source :=
    congrArg UnusedVariable.Progress.used (UnusedVariable.walk_eq source)
  have hfindings : UnusedVariable.findings source = scan.findings source := by
    rw [show scan = _ from UnusedVariable.walk_eq source]
    rfl
  refine ⟨⟨hfindings, SymbolUsage.findings_eq_walk source settings,
    DeprecatedApi.findings_eq_reports source settings⟩, ?_, ?_, ?_⟩
  · intro name
    rw [hused, ← List.count_pos_iff, SymbolUsage.count_references, List.length_pos_iff]
  · intro name replacement hname hlookup hnull
    exact DeprecatedApi.filter_reports
      (DeprecatedApi.replacement?_of_lookup hname hlookup hnull) source
  · intro hthreshold name hreported
    obtain ⟨hdeclared, hunused⟩ := (UnusedVariable.isReported_iff source name).mp hreported
    obtain ⟨last, hlast⟩ := SymbolUsage.isSome_lastDeclaration? hdeclared
    exact ⟨last, hlast, SymbolUsage.filter_findings_of_notMem hthreshold hlast hunused⟩

-- A variable that is never used, and the member of another that has a replacement.
def constantAndMember : Source :=
  .ofText "f.swift" "let a; b.M_PI" <|
    .node ⟨0, "source_file", 0, 13, true, false, false, []⟩
      [.node ⟨1, "property_declaration", 0, 5, true, false, false, []⟩
        [.node ⟨2, "pattern", 4, 5, true, false, false, [.name]⟩
          [.node ⟨3, "simple_identifier", 4, 5, true, false, false, []⟩ []]],
        .node ⟨4, "navigation_expression", 7, 13, true, false, false, []⟩
          [.node ⟨5, "simple_identifier", 7, 8, true, false, false, []⟩ [],
            .node ⟨6, "navigation_suffix", 8, 13, true, false, false, [.suffix]⟩
              [.node ⟨7, "simple_identifier", 9, 13, true, false, false, [.suffix]⟩ []]]]

theorem usages_agree_member :
    ((DeprecatedApi.reports constantAndMember Settings.default.deprecatedApis).filter
      (·.name == "M_PI")).map (·.node.label.number) = [4] ∧
    "M_PI" ∈ (UnusedVariable.walk constantAndMember).used ∧
    ∃ last, SymbolUsage.lastDeclaration? constantAndMember "a" = some last ∧
      (SymbolUsage.findings constantAndMember Settings.default).filter (·.description ==
          CodeText.plain "Symbol 'a' appears to be unused or only referenced in its declaration") =
        [SymbolUsage.unused constantAndMember "a" last] := by
  obtain ⟨-, hused, hreports, hunused⟩ := usages_agree constantAndMember Settings.default
  have hrecorded : ((SymbolUsage.walk constantAndMember).recorded "M_PI").map (·.label.number) =
      [4] := by
    decide +kernel
  refine ⟨?_, (hused "M_PI").mpr ?_, ?_⟩
  · rw [hreports "M_PI" (.text "Double.pi") (by decide) rfl nofun, List.map_map]
    exact hrecorded
  · intro hnone
    rw [hnone] at hrecorded
    cases hrecorded
  · have hreported : ∃ finding ∈ UnusedVariable.findings constantAndMember,
        finding.description = "Variable 'a' declared but never used" := by
      decide +kernel
    obtain ⟨last, hlast, honce, -⟩ := hunused (by decide) "a" hreported
    refine ⟨last, hlast, ?_⟩
    have hexported : (SymbolUsage.lastDeclaration? constantAndMember "a").any (·.exported) =
        false := by
      decide +kernel
    rw [hlast] at hexported
    exact honce.trans (if_neg (by simpa using hexported))

end Rule

end SwiftAudit
