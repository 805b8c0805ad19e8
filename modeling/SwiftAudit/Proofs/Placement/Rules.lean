import SwiftAudit.Check
import SwiftAudit.Proofs.Except
import SwiftAudit.Proofs.Text.Code

namespace SwiftAudit

-- How a finding comes about: on a node of any kind, or on a line that the source has. It
-- always has a category, and a description without surrogates.
inductive Finding.MadeOn (source : Source) : Finding → Prop where
  | node (n : Node) (category description : String) (severity : Severity)
      (hc : category ≠ "") : MadeOn source (.onNode source n category description severity)
  | line (number : Nat) (category description : String) (hfirst : 1 ≤ number)
      (hlast : number ≤ source.lines.length) (hc : category ≠ "") :
      MadeOn source (.onLine number category description)

-- How a finding on a name with a replacement comes about. Its description shows the replacement,
-- with surrogates if it has some.
inductive Finding.Replaced (source : Source) (table : List (CodeText × Json)) : Finding → Prop where
  | node (n : Node) (name : String) (replacement : Json) (shown : CodeText)
      (hm : (.plain name, replacement) ∈ table) (hshown : replacement.displayed? = some shown) :
      Replaced source table (.onNodeWith source n Category.deprecatedApis
        (s!"'{name}' is deprecated. Use '" ++ shown ++ "' instead"))

-- A finding that is made only under a condition.
theorem Finding.MadeOn.of_mem_ite {source : Source} {condition : Prop} [Decidable condition]
    {made finding : Finding} (hmade : made.MadeOn source)
    (hm : finding ∈ if condition then [made] else []) : finding.MadeOn source := by
  split at hm
  · cases List.mem_singleton.mp hm
    exact hmade
  · cases hm

namespace Rule

variable {source : Source} {settings : Settings} {finding : Finding}

theorem ParseFault.madeOn (hm : finding ∈ findings source) : finding.MadeOn source := by
  obtain ⟨n, -, rfl⟩ := List.mem_map.mp hm
  exact .node n _ _ _ (by decide)

theorem UnusedVariable.madeOn (hm : finding ∈ findings source) : finding.MadeOn source := by
  obtain ⟨binding, -, rfl⟩ := List.mem_map.mp hm
  exact .node binding.2 _ _ _ (by decide)

theorem UnreachableCode.madeOn (hm : finding ∈ findings source) : finding.MadeOn source := by
  obtain ⟨n, -, rfl⟩ := List.mem_map.mp hm
  exact .node n _ _ _ (by decide)

theorem ForceUnwrap.madeOn (hm : finding ∈ findings source) : finding.MadeOn source := by
  obtain ⟨n, -, hn⟩ := List.mem_filterMap.mp hm
  obtain ⟨description, -, rfl⟩ := Option.map_eq_some_iff.mp hn
  exact .node n _ _ _ (by decide)

theorem GuardCandidate.madeOn (hm : finding ∈ findings source) : finding.MadeOn source := by
  obtain ⟨n, -, rfl⟩ := List.mem_map.mp hm
  exact .node n _ _ _ (by decide)

theorem EmptyCatch.madeOn (hm : finding ∈ findings source) : finding.MadeOn source := by
  obtain ⟨n, -, rfl⟩ := List.mem_map.mp hm
  exact .node n _ _ _ (by decide)

theorem RetainCycle.madeOn (hm : finding ∈ findings source) : finding.MadeOn source := by
  obtain ⟨n, -, rfl⟩ := List.mem_map.mp hm
  exact .node n _ _ _ (by decide)

theorem OptionalChain.madeOn (hm : finding ∈ findings source settings) :
    finding.MadeOn source := by
  obtain ⟨chain, -, rfl⟩ := List.mem_map.mp hm
  exact .node chain.node _ _ _ (by decide)

theorem LongFunction.madeOn (hm : finding ∈ findings source settings) :
    finding.MadeOn source := by
  obtain ⟨n, -, hn⟩ := List.mem_filterMap.mp hm
  obtain ⟨body, -, hbody⟩ := Option.bind_eq_some_iff.mp hn
  dsimp only at hbody
  split at hbody
  · cases hbody
    exact .node (Swift.nameNode n) _ _ _ (by decide)
  · cases hbody

theorem EmptyCollection.madeOn (hm : finding ∈ findings source) : finding.MadeOn source := by
  obtain ⟨n, -, hn⟩ := List.mem_filterMap.mp hm
  unfold finding? at hn
  split at hn
  · cases hn
  · obtain ⟨suggestion, -, hs⟩ := Option.bind_eq_some_iff.mp hn
    cases hs
    exact .node n _ _ _ (by decide)

theorem Localization.madeOn (hm : finding ∈ findings source settings) :
    finding.MadeOn source := by
  obtain ⟨n, -, hn⟩ := List.mem_filterMap.mp hm
  unfold finding? at hn
  dsimp only at hn
  split at hn
  · cases hn
    exact .node n _ _ _ (by decide)
  · cases hn

theorem OperatorPrecedence.madeOn (hm : finding ∈ findings source) : finding.MadeOn source := by
  obtain ⟨n, -, hn⟩ := List.mem_flatMap.mp hm
  unfold findingsAt at hn
  dsimp only at hn
  split at hn
  · cases hn
  · rcases List.mem_append.mp hn with hn | hn
    all_goals exact .of_mem_ite (.node n _ _ _ (by decide)) hn

namespace Naming

theorem madeOn_of_typeFindings {n : Node} (hm : finding ∈ typeFindings source n) :
    finding.MadeOn source := by
  unfold typeFindings at hm
  dsimp only at hm
  exact .of_mem_ite (.node n _ _ _ (by decide)) hm

theorem madeOn_of_functionFindings {n : Node} (hm : finding ∈ functionFindings source n) :
    finding.MadeOn source := by
  unfold functionFindings at hm
  split at hm
  · dsimp only at hm
    exact .of_mem_ite (.node _ _ _ _ (by decide)) hm
  · cases hm

theorem madeOn_of_propertyFindings {n : Node} (hm : finding ∈ propertyFindings source n) :
    finding.MadeOn source := by
  obtain ⟨binding, -, hb⟩ := List.mem_flatMap.mp hm
  rcases List.mem_append.mp hb with hb | hb
  all_goals exact .of_mem_ite (.node binding.2 _ _ _ (by decide)) hb

theorem madeOn (hm : finding ∈ findings source) : finding.MadeOn source := by
  obtain ⟨n, -, hn⟩ := List.mem_flatMap.mp hm
  unfold findingsAt at hn
  split at hn
  · exact madeOn_of_typeFindings hn
  · split at hn
    · exact madeOn_of_functionFindings hn
    · split at hn
      · exact madeOn_of_propertyFindings hn
      · cases hn

end Naming

namespace Complexity

-- Every step keeps the findings made so far and adds some that are made on a node.
theorem madeOn_step (threshold : Int) (progress : Progress) (event : Event)
    (h : ∀ found ∈ progress.findings, found.MadeOn source) :
    ∀ found ∈ (step source threshold progress event).findings, found.MadeOn source := by
  intro found hm
  cases event with
  | enter n =>
      simp only [step] at hm
      split at hm
      · exact h found hm
      · split at hm
        · exact h found hm
        · exact h found hm
  | leave n =>
      simp only [step] at hm
      split at hm
      · split at hm
        · exact h found hm
        · rcases List.mem_append.mp hm with hm | hm
          · exact h found hm
          · unfold Complexity.finding at hm
            exact .of_mem_ite (.node _ _ _ _ (by decide)) hm
      · exact h found hm

theorem madeOn_foldl (threshold : Int) (events : List Event) (progress : Progress)
    (h : ∀ found ∈ progress.findings, found.MadeOn source) :
    ∀ found ∈ (events.foldl (step source threshold) progress).findings, found.MadeOn source := by
  induction events generalizing progress with
  | nil => exact h
  | cons event rest ih => exact ih _ (madeOn_step threshold progress event h)

theorem madeOn (hm : finding ∈ findings source settings) : finding.MadeOn source :=
  madeOn_foldl _ source.root.events ⟨[], []⟩ nofun finding hm

end Complexity

namespace ConstantAssignment

theorem madeOn_step (progress next : Progress) (n : Node)
    (hstep : step source progress n = .ok next)
    (h : ∀ found ∈ progress.findings, found.MadeOn source) :
    ∀ found ∈ next.findings, found.MadeOn source := by
  intro found hm
  unfold step at hstep
  split at hstep
  · cases hword : Swift.mutability source n with
    | error e =>
        rw [hword] at hstep
        cases hstep
    | ok word =>
        rw [hword, ok_bind] at hstep
        split at hstep
        · cases hstep
          exact h found hm
        · cases hstep
          exact h found hm
  · split at hstep
    · split at hstep
      · split at hstep
        · cases hstep
          rcases List.mem_append.mp hm with hm | hm
          · exact h found hm
          · cases List.mem_singleton.mp hm
            exact .node n _ _ _ (by decide)
        · cases hstep
          exact h found hm
      · cases hstep
        exact h found hm
    · cases hstep
      exact h found hm

theorem madeOn {found : List Finding} (hok : findings source = .ok found)
    (hm : finding ∈ found) : finding.MadeOn source := by
  obtain ⟨last, hfold, hl⟩ := exists_of_bind_eq_ok hok
  cases hl
  have hstart : ∀ found ∈ ([] : List Finding), found.MadeOn source := nofun
  have hmade : ∀ found ∈ last.findings, found.MadeOn source := by
    refine foldlM_preserves (step source) (fun progress =>
      ∀ found ∈ progress.findings, found.MadeOn source) source.nodes ?_ hstart hfold
    intro progress next n _ h hstep
    exact madeOn_step progress next n hstep h
  exact hmade finding hm

end ConstantAssignment

theorem MagicNumber.madeOn {found : List Finding} (hok : findings source settings = .ok found)
    (hm : finding ∈ found) : finding.MadeOn source := by
  obtain ⟨n, -, part, hpart, hm⟩ := mem_of_flatMapM_eq_ok _ source.nodes found hok finding hm
  unfold findingsAt at hpart
  split at hpart
  · obtain ⟨shown, -, hs⟩ := exists_of_bind_eq_ok hpart
    cases hs
    obtain ⟨text, -, rfl⟩ := List.mem_map.mp hm
    exact .node _ _ _ _ (by decide)
  · cases hpart
    cases hm

theorem DeprecatedApi.mem_of_replacement? {table : List (CodeText × Json)} {name : String}
    {replacement : Json} (h : replacement? table name = some replacement) :
    (.plain name, replacement) ∈ table := by
  have hlookup : table.lookup (name : CodeText) = some replacement := by
    unfold replacement? at h
    split at h
    · cases h
    · split at h
      · cases h
      · exact h
  obtain ⟨before, after, htable, -⟩ := List.lookup_eq_some_iff.mp hlookup
  rw [htable]
  exact List.mem_append_right before List.mem_cons_self

theorem DeprecatedApi.replaced {found : List Finding} (hok : findings source settings = .ok found)
    (hm : finding ∈ found) : finding.Replaced source settings.deprecatedApis := by
  obtain ⟨n, -, part, hpart, hm⟩ := mem_of_flatMapM_eq_ok _ source.nodes found hok finding hm
  unfold findingsAt at hpart
  split at hpart
  · cases hpart
    cases hm
  · split at hpart
    · cases hpart
      cases hm
    · rename_i name _ _ replacement hreplacement
      split at hpart
      · cases hpart
      · rename_i shown hshown
        cases hpart
        cases List.mem_singleton.mp hm
        exact .node n name replacement shown (mem_of_replacement? hreplacement) hshown

theorem SymbolUsage.madeOn (hm : finding ∈ findings source settings) :
    finding.MadeOn source := by
  rcases List.mem_append.mp hm with hm | hm
  · rcases List.mem_append.mp hm with hm | hm
    all_goals
      obtain ⟨entry, -, rfl⟩ := List.mem_map.mp hm
      exact .node entry.2.node _ _ _ (by decide)
  · obtain ⟨entry, -, rfl⟩ := List.mem_map.mp hm
    exact .node entry.2.node _ _ _ (by decide)

namespace DuplicateFunction

theorem madeOn_of_pairFindings (threshold : Double) (functions : List FunctionBody)
    (hm : finding ∈ pairFindings source threshold functions) : finding.MadeOn source := by
  induction functions with
  | nil => cases hm
  | cons first rest ih =>
      rcases List.mem_append.mp hm with hm | hm
      · obtain ⟨second, -, hs⟩ := List.mem_filterMap.mp hm
        unfold finding? at hs
        split at hs
        · cases hs
        · dsimp only at hs
          split at hs
          · cases hs
            exact .node second.node _ _ _ (by decide)
          · cases hs
      · exact ih hm

theorem madeOn (hm : finding ∈ (findings source settings).2) : finding.MadeOn source := by
  obtain ⟨group, -, hg⟩ := List.mem_flatMap.mp hm
  exact madeOn_of_pairFindings _ _ hg

end DuplicateFunction

namespace Refactoring

theorem madeOn_of_repetitions (minLength : Int) (name : String) (statements : List Node)
    (seen : List Seen) (hm : finding ∈ repetitions source minLength name seen statements) :
    finding.MadeOn source := by
  induction statements generalizing seen with
  | nil => cases hm
  | cons statement rest ih =>
      unfold repetitions at hm
      dsimp only at hm
      split at hm
      · exact ih seen hm
      · split at hm
        · exact ih _ hm
        · rcases List.mem_append.mp hm with hm | hm
          · split at hm
            · cases hm
            · cases List.mem_singleton.mp hm
              exact .node statement _ _ _ (by decide)
          · exact ih _ hm

theorem madeOn_of_functionFindings (function : FunctionBody)
    (hm : finding ∈ functionFindings source settings function) : finding.MadeOn source := by
  rcases List.mem_append.mp hm with hm | hm
  · unfold largeFunction at hm
    dsimp only at hm
    exact .of_mem_ite (.node function.node _ _ _ (by decide)) hm
  · exact madeOn_of_repetitions _ _ _ _ hm

theorem madeOn_of_largeClass (limit : Int) (n : Node)
    (hm : finding ∈ largeClass source limit n) : finding.MadeOn source := by
  unfold largeClass at hm
  split at hm
  · split at hm
    · cases hm
    · dsimp only at hm
      exact .of_mem_ite (.node n _ _ _ (by decide)) hm
  · cases hm

theorem madeOn_of_manySupertypes (limit : Int) (n : Node) {found : List Finding}
    (hok : manySupertypes source limit n = .ok found) (hm : finding ∈ found) :
    finding.MadeOn source := by
  unfold manySupertypes at hok
  dsimp only at hok
  split at hok
  · split at hok
    · cases hok
    · cases hok
      cases List.mem_singleton.mp hm
      exact .node _ _ _ _ (by decide)
  · cases hok
    cases hm

theorem madeOn {found : List Finding} (hok : findings source settings = .ok found)
    (hm : finding ∈ found) : finding.MadeOn source := by
  obtain ⟨onTypes, htypes, hs⟩ := exists_of_bind_eq_ok hok
  cases hs
  rcases List.mem_append.mp hm with hm | hm
  · obtain ⟨function, -, hf⟩ := List.mem_flatMap.mp hm
    exact madeOn_of_functionFindings function hf
  · obtain ⟨n, -, part, hpart, hm⟩ := mem_of_flatMapM_eq_ok _ _ onTypes htypes finding hm
    obtain ⟨inherited, hinherited, hp⟩ := exists_of_bind_eq_ok hpart
    cases hp
    rcases List.mem_append.mp hm with hm | hm
    · exact madeOn_of_largeClass _ n hm
    · exact madeOn_of_manySupertypes _ n hinherited hm

end Refactoring

theorem Attribute.madeOn {standard : ScalarSet} {n : Node}
    (hm : finding ∈ findingsAt source standard n) : finding.MadeOn source := by
  have hfinding (severity : Severity) (description : String) :
      (Attribute.finding source n severity description).MadeOn source :=
    .node n _ _ _ (by decide)
  unfold findingsAt at hm
  dsimp only at hm
  split at hm
  · unfold available at hm
    split at hm
    · cases List.mem_singleton.mp hm
      exact hfinding _ _
    · exact .of_mem_ite (hfinding _ _) hm
  all_goals
    first | unfold objc at hm | unfold actor at hm | unfold discardableResult at hm |
      unfold custom at hm
    exact .of_mem_ite (hfinding _ _) hm

theorem Directive.madeOn {standard : ScalarSet} {n : Node}
    (hf : finding? source standard n = some finding) : finding.MadeOn source := by
  obtain ⟨directive, -, hf⟩ := Option.bind_eq_some_iff.mp hf
  obtain ⟨fault, -, hf⟩ := Option.bind_eq_some_iff.mp hf
  cases hf
  exact .node n _ _ _ (by decide)

theorem AttributeUsage.madeOn_of_scan (nodes : List Node) (seen : List Position)
    (hm : finding ∈ scan source settings seen nodes) : finding.MadeOn source := by
  induction nodes generalizing seen with
  | nil => cases hm
  | cons n rest ih =>
      unfold scan at hm
      split at hm
      · rcases List.mem_append.mp hm with hm | hm
        · exact Attribute.madeOn hm
        · exact ih seen hm
      · split at hm
        · cases hf : Directive.finding? source (settings.set .standardMacros) n with
          | none =>
              rw [hf] at hm
              exact ih seen hm
          | some found =>
              rw [hf] at hm
              rcases List.mem_cons.mp hm with rfl | hm
              · exact Directive.madeOn hf
              · exact ih _ hm
        · exact ih seen hm

-- The number of a line is never behind the last line that is still to be gone through.
theorem Indentation.madeOn_of_scan (allowed : ScalarSet) (lines : List (List Char))
    (number previous : Nat) (hfirst : 1 ≤ number)
    (hlast : number + lines.length = source.lines.length + 1)
    (hm : finding ∈ scan allowed number previous lines) : finding.MadeOn source := by
  induction lines generalizing number previous with
  | nil => cases hm
  | cons line rest ih =>
      rw [List.length_cons] at hlast
      have hnext : number + 1 + rest.length = source.lines.length + 1 := by omega
      unfold scan at hm
      split at hm
      · exact ih _ _ (by omega) hnext hm
      · rcases List.mem_append.mp hm with hm | hm
        · exact .of_mem_ite (.line number _ _ hfirst (by omega) (by decide)) hm
        · exact ih _ _ (by omega) hnext hm

theorem BlankLines.madeOn_of_scan (limit : Int) (every : Bool) (lines : List (List Char))
    (number : Nat) (progress : Progress) (hfirst : 1 ≤ number)
    (hlast : number + lines.length = source.lines.length + 1)
    (hm : finding ∈ scan limit every number progress lines) : finding.MadeOn source := by
  induction lines generalizing number progress with
  | nil => cases hm
  | cons line rest ih =>
      rw [List.length_cons] at hlast
      have hnext : number + 1 + rest.length = source.lines.length + 1 := by omega
      unfold scan at hm
      rcases List.mem_append.mp hm with hm | hm
      · exact .of_mem_ite (.line number _ _ hfirst (by omega) (by decide)) hm
      · exact ih _ _ (by omega) hnext hm

end Rule

end SwiftAudit
