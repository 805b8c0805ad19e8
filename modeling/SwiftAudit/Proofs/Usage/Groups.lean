import SwiftAudit.Proofs.Tree.Ancestors
import SwiftAudit.Proofs.Usage.Agreement

namespace SwiftAudit.Rule.SymbolUsage

def isExported (source : Source) (n : Node) : Bool := Swift.hasModifier source n ["public", "open"]

-- What it takes for a node to declare a name.
inductive Declares (source : Source) (n : Node) : String → Declaration → Prop where
  | property {name : String} {pattern : Node} (hkind : n.kind = "property_declaration")
    (hbinding : (name, pattern) ∈ Swift.bindings source n) :
    Declares source n name ⟨pattern, isExported source n⟩
  | named {nameNode : Node} (hkind : n.kind = "function_declaration" ∨
      n.kind ∈ Swift.typeKinds ∧ Swift.typeWord source n ≠ "extension")
    (hname : n.child? .name = some nameNode) (hne : source.textOf nameNode ≠ "") :
    Declares source n (source.textOf nameNode) ⟨n, isExported source n⟩

-- The nodes that use a name: the navigations to a member of that name, and the identifiers that
-- refer to it.
def refersTo (source : Source) (name : String) (n : Node) : Bool :=
  (n.kind == "navigation_expression" && Swift.memberName? source n == some name && name != "") ||
    (Swift.isReference n && source.textOf n == name)

def referencesTo (source : Source) (name : String) : List Node :=
  source.root.preorder.filter (refersTo source name)

-- The names that a file declares, in the order in which they are first declared.
def declaredNames (source : Source) : List String :=
  (Assoc.keys (source.root.preorder.flatMap (declarationsAt source))).eraseDups

-- The last declaration of a name is not exported.
def isInternal (source : Source) (name : String) : Bool :=
  (lastDeclaration? source name).any (!·.exported)

def unusedNames (source : Source) (threshold : Int) : List String :=
  (declaredNames source).filter fun name =>
    isInternal source name && (referencesTo source name).length ≤ threshold

def shortNames (source : Source) (whitelist : ScalarSet) : List String :=
  (declaredNames source).filter fun name => name.length ≤ 1 && !whitelist.hasText name

def usedOnceNames (source : Source) (threshold : Int) (exempt : ScalarSet) : List String :=
  (declaredNames source).filter fun name =>
    isInternal source name && !exempt.hasText name && (referencesTo source name).length == 1 &&
      threshold < 1

section Names

variable (source : Source)

theorem isNamedDeclaration_iff (n : Node) :
    isNamedDeclaration source n ↔ n.kind = "function_declaration" ∨
      n.kind ∈ Swift.typeKinds ∧ Swift.typeWord source n ≠ "extension" := by
  simp [isNamedDeclaration, Swift.isExtension]

theorem mem_declarationsAt_iff (n : Node) (name : String) (d : Declaration) :
    (name, d) ∈ declarationsAt source n ↔ Declares source n name d := by
  unfold declarationsAt
  dsimp only
  constructor
  · intro h
    split at h
    · rename_i hkind
      obtain ⟨⟨name, pattern⟩, hbinding, hd⟩ := List.mem_map.mp h
      cases hd
      exact .property (eq_of_beq hkind) hbinding
    · split at h
      · rename_i hnamed
        cases hchild : n.child? .name with
        | none =>
            rw [hchild] at h
            cases h
        | some child =>
            rw [hchild] at h
            split at h
            · cases h
            · rename_i hempty
              cases List.mem_singleton.mp h
              exact .named ((isNamedDeclaration_iff source n).mp hnamed) hchild
                (by simpa [Source.textOf?] using hempty)
      · cases h
  · intro h
    cases h with
    | property hkind hbinding =>
        rw [if_pos (by simp [hkind])]
        exact List.mem_map_of_mem hbinding
    | named hkind hname hne =>
        have hproperty : n.kind ≠ "property_declaration" := by
          intro h
          rw [h] at hkind
          rcases hkind with hkind | ⟨hkind, -⟩ <;> revert hkind <;> decide
        rw [if_neg (by simpa using hproperty),
          if_pos ((isNamedDeclaration_iff source n).mpr hkind), hname]
        simp [Source.textOf?, hne, isExported]

theorem keys_declarations : Assoc.keys (declarations source) = declaredNames source := by
  rw [declarations, Assoc.keys_ofList, Source.nodes, Node.all_eq_preorder]
  rfl

theorem mem_declaredNames_iff (name : String) :
    name ∈ declaredNames source ↔ ∃ n ∈ source.root.preorder, ∃ d, Declares source n name d := by
  simp only [declaredNames, List.mem_eraseDups, Assoc.keys, List.mem_map, List.mem_flatMap,
    ← mem_declarationsAt_iff]
  constructor
  · rintro ⟨⟨_, d⟩, ⟨n, hn, hm⟩, rfl⟩
    exact ⟨n, hn, d, hm⟩
  · rintro ⟨n, hn, d, hm⟩
    exact ⟨(name, d), ⟨n, hn, hm⟩, rfl⟩

theorem exists_lastDeclaration? {name : String} (h : name ∈ declaredNames source) :
    ∃ d, lastDeclaration? source name = some d := by
  rw [← lookup_declarations, ← Option.isSome_iff_exists, Option.isSome_iff_ne_none, ne_eq,
    Assoc.lookup_eq_none_iff, keys_declarations]
  exact not_not_intro h

theorem usedName?_eq_some_iff (n : Node) (name : String) :
    Swift.usedName? source n == some name ↔ refersTo source name n := by
  unfold Swift.usedName? refersTo
  by_cases hkind : n.kind = "navigation_expression"
  · have hidentifier : Swift.isReference n = false := by simp [Swift.isReference, hkind]
    cases Swift.memberName? source n with
    | none => simp [hkind, hidentifier]
    | some member => by_cases hmember : member.isEmpty <;> simp_all
  · by_cases hidentifier : Swift.isReference n <;> simp [hkind, hidentifier]

theorem recorded_eq_referencesTo (name : String) :
    (walk source).recorded name = referencesTo source name := by
  rw [recorded_walk, Source.nodes, Node.all_eq_preorder, referencesTo]
  apply List.filter_congr
  intro n _
  exact Bool.eq_iff_iff.mpr (usedName?_eq_some_iff source n name)

theorem count_references_eq (name : String) :
    (references source).count name = (referencesTo source name).length := by
  rw [count_references, recorded_eq_referencesTo]

-- A report goes through the names with their last declarations.
theorem report_eq (p : String → Declaration → Bool) (finding : String → Declaration → Finding)
    (q : String → Bool) (h : ∀ name d, lastDeclaration? source name = some d → p name d = q name) :
    report p finding (declarations source) =
      ((declaredNames source).filter q).filterMap fun name =>
        (lastDeclaration? source name).map (finding name) := by
  have hreport : report p finding (declarations source) =
      (declarations source).filterMap fun entry =>
        if p entry.1 entry.2 then some (finding entry.1 entry.2) else none := by
    rw [report, ← List.filterMap_eq_map, List.filterMap_filter]
    rfl
  rw [hreport, ← Assoc.filterMap_keys (declarations source) (nodup_declarations source)
      (fun name d => if p name d then some (finding name d) else none),
    keys_declarations, List.filterMap_filter]
  apply List.filterMap_congr
  intro name _
  rw [lookup_declarations]
  cases hlast : lastDeclaration? source name with
  | none => simp
  | some d => rw [Option.bind_some, h name d hlast, Option.map_some]

variable {name : String} {d : Declaration}

theorem isUnused_eq (threshold : Int) (h : lastDeclaration? source name = some d) :
    isUnused threshold (references source) name d =
      (isInternal source name && decide ((referencesTo source name).length ≤ threshold)) := by
  rw [isUnused, isInternal, h, Option.any_some, count_references_eq]

-- A name that is used once is none of the unused ones if one use is too many for these.
theorem isUsedOnce_eq (threshold : Int) (exempt : ScalarSet)
    (h : lastDeclaration? source name = some d) :
    isUsedOnce threshold exempt (references source) name d =
      (isInternal source name && !exempt.hasText name && (referencesTo source name).length == 1 &&
        decide (threshold < 1)) := by
  rw [isUsedOnce, isUnused_eq source threshold h, isInternal, h, Option.any_some,
    count_references_eq]
  by_cases honce : (referencesTo source name).length = 1
  · have hfew : (!decide (((1 : Nat) : Int) ≤ threshold)) = decide (threshold < 1) := by
      rw [Bool.eq_iff_iff]
      simp
    rw [honce, Bool.not_and, hfew]
    cases d.exported <;> simp [Bool.and_comm]
  · simp [beq_false_of_ne honce]

end Names

-- One pass over a file with two tables, and three passes over the tables of which the last one
-- remembers the first, report what the names say by themselves. Each group has a name once, in
-- the order of the first declarations and with the last one. No name is both unused and used
-- once, and none is told to be used once unless the threshold is below one.
theorem findings_eq_groups (source : Source) (settings : Settings) :
    let threshold := settings.number .unusedReferenceThreshold
    let unusedGroup := unusedNames source threshold
    let shortGroup := shortNames source (settings.set .shortNameWhitelist)
    let usedOnceGroup := usedOnceNames source threshold (settings.set .singleReferenceExemptions)
    let reported (finding : String → Declaration → Finding) (names : List String) :=
      names.filterMap fun name => (lastDeclaration? source name).map (finding name)
    findings source settings = (walk source).findings source settings ∧
      findings source settings = reported (unused source) unusedGroup ++
        reported (short source) shortGroup ++ reported (usedOnce source) usedOnceGroup ∧
      (declaredNames source).Nodup ∧
      (∀ name, name ∈ declaredNames source ↔
        ∃ n ∈ source.root.preorder, ∃ d, Declares source n name d) ∧
      (∀ name ∈ declaredNames source, (lastDeclaration? source name).isSome) ∧
      (∀ name ∈ unusedGroup, name ∉ usedOnceGroup) ∧
      (1 ≤ threshold → usedOnceGroup = []) := by
  intro threshold unusedGroup shortGroup usedOnceGroup reported
  refine ⟨findings_eq_walk source settings, ?_, nodup_eraseDups _, mem_declaredNames_iff source,
    fun name hm => Option.isSome_iff_exists.mpr (exists_lastDeclaration? source hm), ?_, ?_⟩
  · have hunused := report_eq source (isUnused threshold (references source)) (unused source) _
      fun name d hlast => isUnused_eq source threshold hlast
    have hshort := report_eq source
      (fun name _ => isShort (settings.set .shortNameWhitelist) name) (short source) _
      fun name d _ => rfl
    have honce := report_eq source
      (isUsedOnce threshold (settings.set .singleReferenceExemptions) (references source))
      (usedOnce source) _ fun name d hlast => isUsedOnce_eq source threshold _ hlast
    unfold findings
    dsimp only
    rw [hunused, hshort, honce]
    rfl
  · intro name hunused honce
    simp only [unusedGroup, usedOnceGroup, unusedNames, usedOnceNames, List.mem_filter,
      Bool.and_eq_true, decide_eq_true_eq, beq_iff_eq] at hunused honce
    omega
  · intro hthreshold
    refine List.filter_eq_nil_iff.mpr fun name _ honce => ?_
    simp only [Bool.and_eq_true, decide_eq_true_eq] at honce
    omega

-- A constant that is declared twice, and a member of it.
def declaredTwice : Source :=
  .ofText "f.swift" "let a; let a; a.b" <|
    .node ⟨0, "source_file", 0, 17, true, false, false, []⟩
      [.node ⟨1, "property_declaration", 0, 5, true, false, false, []⟩
        [.node ⟨2, "pattern", 4, 5, true, false, false, [.name]⟩
          [.node ⟨3, "simple_identifier", 4, 5, true, false, false, []⟩ []]],
        .node ⟨4, "property_declaration", 7, 12, true, false, false, []⟩
          [.node ⟨5, "pattern", 11, 12, true, false, false, [.name]⟩
            [.node ⟨6, "simple_identifier", 11, 12, true, false, false, []⟩ []]],
        .node ⟨7, "navigation_expression", 14, 17, true, false, false, []⟩
          [.node ⟨8, "simple_identifier", 14, 15, true, false, false, []⟩ [],
            .node ⟨9, "navigation_suffix", 15, 17, true, false, false, [.suffix]⟩
              [.node ⟨10, "simple_identifier", 16, 17, true, false, false, [.suffix]⟩ []]]]

-- One use is too few for the default threshold, and is reported as such only below it.
theorem findings_eq_groups_declaredTwice :
    let strict := { Settings.default with number := fun _ => 0 }
    ∃ last, lastDeclaration? declaredTwice "a" = some last ∧ last.node.label.number = 5 ∧
      findings declaredTwice Settings.default =
        [unused declaredTwice "a" last, short declaredTwice "a" last] ∧
      findings declaredTwice strict =
        [short declaredTwice "a" last, usedOnce declaredTwice "a" last] := by
  intro strict
  obtain ⟨-, hdefault, -, -, hlast, -, honce⟩ := findings_eq_groups declaredTwice Settings.default
  obtain ⟨-, hstrict, -⟩ := findings_eq_groups declaredTwice strict
  obtain ⟨last, hlast⟩ := Option.isSome_iff_exists.mp (hlast "a" (by decide +kernel))
  have hnumber : (lastDeclaration? declaredTwice "a").map (·.node.label.number) = some 5 := by
    decide +kernel
  have hunused : unusedNames declaredTwice 1 = ["a"] := by decide +kernel
  have hshort : shortNames declaredTwice (Settings.default.set .shortNameWhitelist) = ["a"] := by
    decide +kernel
  have hnone : unusedNames declaredTwice 0 = [] := by decide +kernel
  have hstrictOnce : usedOnceNames declaredTwice 0
      (Settings.default.set .singleReferenceExemptions) = ["a"] := by
    decide +kernel
  refine ⟨last, hlast, ?_, ?_, ?_⟩
  · rw [hlast] at hnumber
    exact Option.some.inj hnumber
  · have hfew : usedOnceNames declaredTwice 1
        (Settings.default.set .singleReferenceExemptions) = [] := honce (by decide)
    refine hdefault.trans ?_
    rw [show Settings.default.number .unusedReferenceThreshold = 1 from rfl, hunused, hshort, hfew]
    simp [hlast]
  · refine hstrict.trans ?_
    rw [show strict.number .unusedReferenceThreshold = 0 from rfl, hnone,
      show strict.set = Settings.default.set from rfl, hshort, hstrictOnce]
    simp [hlast]

end SwiftAudit.Rule.SymbolUsage
