import SwiftAudit.Proofs.Assoc
import SwiftAudit.Proofs.Except
import SwiftAudit.Rule.DeprecatedApi
import SwiftAudit.Rule.SymbolUsage
import SwiftAudit.Rule.UnusedVariable

namespace SwiftAudit

-- The three rules on names as walks of their own. Each looks at the kinds of node in its own
-- order and keeps its own record of the names in use.

namespace Rule.UnusedVariable

structure Progress where
  declared : List (String × Node)
  used : List String

def step (source : Source) (progress : Progress) (n : Node) : Progress :=
  if n.kind == "property_declaration" then
    { progress with declared := progress.declared ++ Swift.bindings source n }
  else if n.kind == "navigation_expression" then
    match Swift.memberName? source n with
    | some name =>
      if name.isEmpty then progress else { progress with used := progress.used ++ [name] }
    | none => progress
  else if Swift.isReference n then
    { progress with used := progress.used ++ [source.textOf n] }
  else progress

def walk (source : Source) : Progress := source.nodes.foldl (step source) ⟨[], []⟩

-- The findings as they are read off at the end of the walk.
def Progress.findings (source : Source) (progress : Progress) : List Finding :=
  (progress.declared.filter (!progress.used.contains ·.1)).map fun (name, pattern) =>
    .onNode source pattern Category.unusedVariables s!"Variable '{name}' declared but never used"

end Rule.UnusedVariable

namespace Rule.SymbolUsage

-- Each name with its declaration, and with the nodes that refer to it.
structure Tables where
  declarations : List (String × Declaration)
  references : List (String × List Node)

namespace Tables

def declare (tables : Tables) (name : String) (declaration : Declaration) : Tables :=
  { tables with declarations := Assoc.put name declaration tables.declarations }

def record (tables : Tables) (name : String) (n : Node) : Tables :=
  { tables with references := Assoc.push name n tables.references }

-- The references to a name, in the order in which they were met.
def recorded (tables : Tables) (name : String) : List Node :=
  (tables.references.lookup name).getD []

end Tables

def step (source : Source) (tables : Tables) (n : Node) : Tables :=
  let exported := Swift.hasModifier source n ["public", "open"]
  if n.kind == "property_declaration" then
    (Swift.bindings source n).foldl
      (fun tables (name, pattern) => tables.declare name ⟨pattern, exported⟩) tables
  else if isNamedDeclaration source n then
    let name := source.textOf? (n.child? .name)
    if name.isEmpty then tables else tables.declare name ⟨n, exported⟩
  else if n.kind == "navigation_expression" then
    match Swift.memberName? source n with
    | some name => if name.isEmpty then tables else tables.record name n
    | none => tables
  else if Swift.isReference n then tables.record (source.textOf n) n
  else tables

def walk (source : Source) : Tables := source.nodes.foldl (step source) ⟨[], []⟩

-- The findings as they are read off the tables. What is reported as unused is remembered, and
-- is not reported as used once.
def Tables.findings (source : Source) (settings : Settings) (tables : Tables) : List Finding :=
  let count (name : String) : Nat := (tables.recorded name).length
  let isUnused (name : String) (d : Declaration) : Bool :=
    !d.exported && (count name : Int) ≤ settings.number .unusedReferenceThreshold
  let unusedNames := Assoc.keys (tables.declarations.filter fun (name, d) => isUnused name d)
  report isUnused (unused source) tables.declarations ++
    report (fun name _ => isShort (settings.set .shortNameWhitelist) name) (short source)
      tables.declarations ++
    report (fun name d => !(d.exported || unusedNames.contains name ||
        (settings.set .singleReferenceExemptions).hasText name) && count name == 1)
      (usedOnce source) tables.declarations

end Rule.SymbolUsage

namespace Rule.DeprecatedApi

-- The use of a name that has a replacement.
structure Report where
  name : String
  node : Node
  replacement : Json

def lookedUpName? (source : Source) (n : Node) : Option String :=
  if n.kind == "navigation_expression" then Swift.memberName? source n
  else if Swift.isReference n then some (source.textOf n)
  else none

def reportAt? (source : Source) (table : List (CodeText × Json)) (n : Node) : Option Report := do
  let name ← lookedUpName? source n
  let replacement ← replacement? table name
  return ⟨name, n, replacement⟩

def reports (source : Source) (table : List (CodeText × Json)) : List Report :=
  source.nodes.filterMap (reportAt? source table)

def Report.finding (source : Source) (report : Report) : Except Breakdown Finding :=
  match report.replacement.displayed? with
  | none => .error .overlongNumeral
  | some shown =>
    .ok (.onNodeWith source report.node Category.deprecatedApis
      (s!"'{report.name}' is deprecated. Use '" ++ shown ++ "' instead"))

end Rule.DeprecatedApi

namespace Swift

-- A node uses a name or declares names, but not both.
theorem usedName?_of_property {n : Node} (h : n.kind = "property_declaration") (source : Source) :
    usedName? source n = none := by
  simp [usedName?, isReference, h]

theorem usedName?_of_named {source : Source} {n : Node}
    (h : Rule.SymbolUsage.isNamedDeclaration source n) : usedName? source n = none := by
  simp only [Rule.SymbolUsage.isNamedDeclaration, typeKinds, Bool.or_eq_true, beq_iff_eq,
    Bool.and_eq_true, List.contains_iff_mem, List.mem_cons, List.not_mem_nil, or_false] at h
  rcases h with h | ⟨h | h, -⟩ <;> simp [usedName?, isReference, h]

end Swift

namespace Rule.UnusedVariable

theorem step_eq (source : Source) (progress : Progress) (n : Node) :
    step source progress n =
      ⟨progress.declared ++
        (if n.kind == "property_declaration" then Swift.bindings source n else []),
        progress.used ++ (Swift.usedName? source n).toList⟩ := by
  unfold step
  by_cases hproperty : n.kind = "property_declaration"
  · simp [hproperty, Swift.usedName?_of_property hproperty]
  · simp only [hproperty, beq_iff_eq, ↓reduceIte, List.append_nil, Swift.usedName?]
    split
    · cases Swift.memberName? source n with
      | none => simp
      | some name => by_cases hname : name.isEmpty <;> simp [hname, Option.filter_some]
    · split <;> simp

theorem foldl_step (source : Source) (nodes : List Node) (progress : Progress) :
    nodes.foldl (step source) progress =
      ⟨progress.declared ++
        (nodes.filter (·.kind == "property_declaration")).flatMap (Swift.bindings source),
        progress.used ++ nodes.filterMap (Swift.usedName? source)⟩ := by
  induction nodes generalizing progress with
  | nil => simp
  | cons n rest ih =>
      rw [List.foldl_cons, ih, step_eq, List.filter_cons, List.filterMap_cons]
      split <;> cases Swift.usedName? source n <;> simp

-- The rule and its walk see the same declarations and the same names in use.
theorem walk_eq (source : Source) : walk source = ⟨declared source, used source⟩ :=
  foldl_step source source.nodes ⟨[], []⟩

end Rule.UnusedVariable

namespace Rule.SymbolUsage

theorem foldl_declare (tables : Tables) (bindings : List (String × Node)) (exported : Bool) :
    bindings.foldl (fun tables (name, pattern) => tables.declare name ⟨pattern, exported⟩) tables =
      ⟨Assoc.merge tables.declarations
        (bindings.map fun (name, pattern) => (name, ⟨pattern, exported⟩)), tables.references⟩ := by
  induction bindings generalizing tables with
  | nil => rfl
  | cons binding rest ih => exact ih _

theorem declarations_step (source : Source) (tables : Tables) (n : Node) :
    (step source tables n).declarations =
      Assoc.merge tables.declarations (declarationsAt source n) := by
  unfold step declarationsAt
  dsimp only
  split
  · rw [foldl_declare]
  · split
    · split <;> rfl
    · split
      · split
        · split <;> rfl
        · rfl
      · split <;> rfl

theorem recorded_record (tables : Tables) (name other : String) (n : Node) :
    (tables.record name n).recorded other =
      tables.recorded other ++ (if name == other then [n] else []) :=
  Assoc.getD_lookup_push name other n tables.references

theorem recorded_declare (tables : Tables) (name other : String) (d : Declaration) :
    (tables.declare name d).recorded other = tables.recorded other := rfl

theorem recorded_step (source : Source) (tables : Tables) (n : Node) (name : String) :
    (step source tables n).recorded name =
      tables.recorded name ++ (if Swift.usedName? source n == some name then [n] else []) := by
  unfold step
  by_cases hproperty : n.kind = "property_declaration"
  · simp only [hproperty, beq_self_eq_true, if_true, foldl_declare,
      Swift.usedName?_of_property hproperty]
    simp [Tables.recorded]
  · simp only [hproperty, beq_iff_eq, ↓reduceIte]
    by_cases hnamed : isNamedDeclaration source n
    · simp only [hnamed, if_true, Swift.usedName?_of_named hnamed]
      split <;> simp [recorded_declare]
    · simp only [hnamed, Swift.usedName?, beq_iff_eq, Bool.false_eq_true, ↓reduceIte]
      split
      · cases Swift.memberName? source n with
        | none => simp
        | some member =>
            by_cases hm : member.isEmpty <;>
              simp [hm, Option.filter_some, recorded_record]
      · split <;> simp [recorded_record]

theorem declarations_foldl_step (source : Source) (nodes : List Node) (tables : Tables) :
    (nodes.foldl (step source) tables).declarations =
      Assoc.merge tables.declarations (nodes.flatMap (declarationsAt source)) := by
  induction nodes generalizing tables with
  | nil => rfl
  | cons n rest ih =>
      rw [List.foldl_cons, ih, declarations_step, List.flatMap_cons, Assoc.merge, Assoc.merge,
        Assoc.merge, List.foldl_append]

theorem recorded_foldl_step (source : Source) (nodes : List Node) (tables : Tables)
    (name : String) :
    (nodes.foldl (step source) tables).recorded name =
      tables.recorded name ++ nodes.filter (Swift.usedName? source · == some name) := by
  induction nodes generalizing tables with
  | nil => simp
  | cons n rest ih =>
      rw [List.foldl_cons, ih, recorded_step, List.filter_cons]
      split <;> simp

theorem declarations_walk (source : Source) : (walk source).declarations = declarations source :=
  declarations_foldl_step source source.nodes ⟨[], []⟩

theorem recorded_walk (source : Source) (name : String) :
    (walk source).recorded name =
      source.nodes.filter (Swift.usedName? source · == some name) := by
  rw [walk, recorded_foldl_step]
  rfl

theorem count_references (source : Source) (name : String) :
    (references source).count name = ((walk source).recorded name).length := by
  rw [recorded_walk, references, List.count, List.countP_filterMap, List.countP_eq_length_filter]
  congr 1
  apply List.filter_congr
  intro n _
  cases Swift.usedName? source n <;> rfl

theorem nodup_declarations (source : Source) : (Assoc.keys (declarations source)).Nodup :=
  Assoc.nodup_merge [] _ List.nodup_nil

theorem report_congr {p q : String → Declaration → Bool}
    {declarations : List (String × Declaration)}
    (h : ∀ entry ∈ declarations, p entry.1 entry.2 = q entry.1 entry.2)
    (finding : String → Declaration → Finding) :
    report p finding declarations = report q finding declarations :=
  congrArg (List.map _) (List.filter_congr h)

-- Names are declared under one key each, so that to be among the unused names is to be unused.
theorem findings_eq_walk (source : Source) (settings : Settings) :
    findings source settings = (walk source).findings source settings := by
  have hcount (name : String) : ((walk source).recorded name).length =
      (references source).count name := (count_references source name).symm
  simp only [findings, Tables.findings, declarations_walk, hcount]
  congr 1
  apply report_congr
  intro entry hm
  have hunused := Assoc.mem_keys_filter_iff _ (nodup_declarations source)
    (fun entry => !entry.2.exported && ((references source).count entry.1 : Int) ≤
      settings.number .unusedReferenceThreshold) hm
  rw [← List.contains_iff_mem, Bool.coe_iff_coe] at hunused
  rw [hunused]
  simp only [isUsedOnce, isUnused, Bool.not_or]

end Rule.SymbolUsage

namespace Rule.DeprecatedApi

-- Only an empty member is looked up without counting as used.
theorem usedName?_cases (source : Source) (n : Node) :
    Swift.usedName? source n = lookedUpName? source n ∨
      Swift.usedName? source n = none ∧ lookedUpName? source n = some "" := by
  unfold Swift.usedName? lookedUpName?
  split
  · cases Swift.memberName? source n with
    | none => exact .inl rfl
    | some name =>
        by_cases hname : name = ""
        · exact .inr (by simp [hname])
        · exact .inl (by simp [Option.filter_some, hname])
  · exact .inl rfl

theorem findingsAt_eq (source : Source) (table : List (CodeText × Json)) (n : Node) :
    findingsAt source table n =
      match reportAt? source table n with
      | none => .ok []
      | some report => (report.finding source).map fun finding => [finding] := by
  unfold findingsAt reportAt?
  obtain hsame | ⟨hused, hempty⟩ := usedName?_cases source n
  · rw [hsame]
    cases lookedUpName? source n with
    | none => rfl
    | some name =>
        cases hreplacement : replacement? table name with
        | none => simp [hreplacement]
        | some replacement =>
            simp only [hreplacement, Option.bind_eq_bind, Option.bind_some, Option.pure_def,
              Report.finding]
            cases replacement.displayed? <;> rfl
  · rw [hused, hempty]
    rfl

-- A name is reported once at each of its uses, or no report is made at all.
theorem findings_eq_reports (source : Source) (settings : Settings) :
    findings source settings =
      (reports source settings.deprecatedApis).mapM (Report.finding source) := by
  unfold findings reports
  induction source.nodes with
  | nil => rfl
  | cons n rest ih =>
      rw [List.flatMapM_cons, ih, findingsAt_eq, List.filterMap_cons]
      cases reportAt? source settings.deprecatedApis n with
      | none =>
          simp only [ok_bind]
          cases (rest.filterMap (reportAt? source settings.deprecatedApis)).mapM
            (Report.finding source) <;> rfl
      | some report =>
          simp only [List.mapM_cons]
          cases report.finding source with
          | error breakdown => rfl
          | ok finding =>
              cases (rest.filterMap (reportAt? source settings.deprecatedApis)).mapM
                (Report.finding source) <;> rfl

end Rule.DeprecatedApi

end SwiftAudit
