import SwiftAudit.Check
import SwiftAudit.Proofs.Except
import SwiftAudit.Proofs.Failure.Reading

namespace SwiftAudit

namespace Rule.ConstantAssignment

-- The first binding keyword of a property declaration has no word in it.
def HasBlankKeyword (source : Source) (n : Node) : Prop :=
  n.kind = "property_declaration" ∧ ∃ keyword,
    n.children.find? (·.kind == "value_binding_pattern") = some keyword ∧
      Text.isBlankText (source.chars keyword.label)

theorem mutability_eq_error_iff (source : Source) (n : Node) (e : Breakdown) :
    Swift.mutability source n = .error e ↔
      e = .blankBinding ∧ ∃ keyword,
        n.children.find? (·.kind == "value_binding_pattern") = some keyword ∧
          Text.isBlankText (source.chars keyword.label) := by
  unfold Swift.mutability
  cases n.children.find? (·.kind == "value_binding_pattern") with
  | none => simp only [reduceCtorEq, false_and, exists_false, and_false, iff_false]; split <;> nofun
  | some keyword =>
      simp only [Option.some.injEq, exists_eq_left', ← Text.words_eq_nil_iff,
        ← List.getLast?_eq_none_iff]
      cases (Text.words (source.chars keyword.label)).getLast? <;> simp [eq_comm]

-- Only the step at a declaration can fail, and what was gathered before plays no part.
theorem step_eq_error_iff (source : Source) (progress : Progress) (n : Node) (e : Breakdown) :
    step source progress n = .error e ↔ e = .blankBinding ∧ HasBlankKeyword source n := by
  unfold step HasBlankKeyword
  by_cases hp : n.kind = "property_declaration"
  · simp only [hp, beq_self_eq_true, ite_true, true_and, bind_eq_error_iff,
      mutability_eq_error_iff, or_iff_left_iff_imp]
    rintro ⟨word, -, h⟩
    split at h <;> cases h
  · simp only [hp, beq_eq_false_iff_ne.mpr hp, false_and, and_false, iff_false]
    intro h
    by_cases ha : n.kind = "assignment"
    · cases hn : assignedName? source n with
      | none => simp [ha, hn] at h
      | some name =>
          by_cases hc : name ∈ progress.constants <;> simp [ha, hn, hc] at h
    · simp [ha] at h

theorem findings_eq_error_iff (source : Source) (e : Breakdown) :
    findings source = .error e ↔
      e = .blankBinding ∧ ∃ n ∈ source.nodes, HasBlankKeyword source n := by
  rw [← foldlM_fails_iff (step source) (HasBlankKeyword source) .blankBinding
    (step_eq_error_iff source) source.nodes ⟨[], []⟩ e]
  unfold findings
  cases source.nodes.foldlM (step source) ⟨[], []⟩ <;> simp [Except.map]

end Rule.ConstantAssignment

namespace Rule.MagicNumber

-- A literal outside property declarations whose value, with its sign, is neither exempt nor
-- short enough to be shown. Decimal literals of that length are not read as numbers.
def IsOverlong (source : Source) (exempt : ScalarSet) (n : Node) : Prop :=
  ∃ base magnitude,
    (n.kind, base) ∈ [("hex_literal", 16), ("oct_literal", 8), ("bin_literal", 2)] ∧
      ¬n.isInside ["property_declaration"] ∧
      Text.literalValue? base (source.chars n.label) = some magnitude ∧
      Nat.pow 10 Text.decimalDigitLimit ≤ magnitude.natAbs ∧
      ¬exempt.hasInt (if (negation? source n).isSome then -magnitude else magnitude)

theorem shownInteger?_eq_error_iff (exempt : ScalarSet) (negative : Bool) (base : Nat)
    (text : List Char) (e : Breakdown) :
    shownInteger? exempt negative base text = .error e ↔
      e = .overlongNumeral ∧ ∃ magnitude, Text.literalValue? base text = some magnitude ∧
        Nat.pow 10 Text.decimalDigitLimit ≤ magnitude.natAbs ∧
        ¬exempt.hasInt (if negative then -magnitude else magnitude) := by
  unfold shownInteger?
  cases Text.literalValue? base text with
  | none => simp
  | some magnitude =>
      have habs : magnitude.natAbs = (if negative then -magnitude else magnitude).natAbs := by
        split <;> simp
      simp only [Option.some.injEq, exists_eq_left']
      rw [habs, ← Text.decimalText?_eq_none_iff]
      generalize (if negative then -magnitude else magnitude) = value
      by_cases hx : exempt.hasInt value
      · simp [hx]
      · cases Text.decimalText? value <;> simp [hx, eq_comm]

theorem integerBase?_eq_some_iff (kind : String) (base : Nat) :
    integerBase? kind = some base ↔ (kind, base) = ("integer_literal", 10) ∨
      (kind, base) ∈ [("hex_literal", 16), ("oct_literal", 8), ("bin_literal", 2)] := by
  constructor
  · intro h
    unfold integerBase? at h
    repeat' split at h
    all_goals simp_all
  · intro h
    simp only [List.mem_cons, List.not_mem_nil, or_false, Prod.mk.injEq] at h
    obtain ⟨rfl, rfl⟩ | ⟨rfl, rfl⟩ | ⟨rfl, rfl⟩ | ⟨rfl, rfl⟩ := h <;> rfl

theorem shown?_eq_error_iff (source : Source) (exempt : ScalarSet) (n : Node) (negative : Bool)
    (e : Breakdown) :
    shown? source exempt n negative = .error e ↔
      e = .overlongNumeral ∧ ∃ base magnitude,
        (n.kind, base) ∈ [("hex_literal", 16), ("oct_literal", 8), ("bin_literal", 2)] ∧
          Text.literalValue? base (source.chars n.label) = some magnitude ∧
          Nat.pow 10 Text.decimalDigitLimit ≤ magnitude.natAbs ∧
          ¬exempt.hasInt (if negative then -magnitude else magnitude) := by
  cases hb : integerBase? n.kind with
  | none =>
      simp only [shown?, hb, reduceCtorEq, false_iff]
      rintro ⟨-, base, _, hk, -⟩
      simp [(integerBase?_eq_some_iff n.kind base).mpr (.inr hk)] at hb
  | some base =>
      simp only [shown?, hb, shownInteger?_eq_error_iff]
      refine and_congr_right fun _ => ⟨?_, ?_⟩
      · rintro ⟨magnitude, hv, hsize, hx⟩
        obtain hk | hk := (integerBase?_eq_some_iff _ _).mp hb
        · obtain ⟨-, rfl⟩ := Prod.mk.inj hk
          exact absurd (Text.literalValue?_decimal_lt hv) (Nat.not_lt.mpr hsize)
        · exact ⟨base, magnitude, hk, hv, hsize, hx⟩
      · rintro ⟨base', magnitude, hk, hv, hsize, hx⟩
        have hb' := (integerBase?_eq_some_iff _ _).mpr (.inr hk)
        obtain rfl : base = base' := Option.some.inj (hb.symm.trans hb')
        exact ⟨magnitude, hv, hsize, hx⟩

theorem isNumber_of_mem {n : Node} {base : Nat}
    (hk : (n.kind, base) ∈ [("hex_literal", 16), ("oct_literal", 8), ("bin_literal", 2)]) :
    isNumber n := by
  simp [isNumber, (integerBase?_eq_some_iff n.kind base).mpr (.inr hk)]

theorem findingsAt_eq_error_iff (source : Source) (exempt : ScalarSet) (n : Node)
    (e : Breakdown) :
    findingsAt source exempt n = .error e ↔ e = .overlongNumeral ∧ IsOverlong source exempt n := by
  unfold findingsAt IsOverlong
  by_cases hn : isNumber n && !n.isInside ["property_declaration"]
  · rw [if_pos hn, bind_eq_error_iff, shown?_eq_error_iff]
    have hout : ¬n.isInside ["property_declaration"] := by simp_all
    simp only [hout, Bool.false_eq_true, not_false_eq_true, true_and, or_iff_left_iff_imp]
    rintro ⟨shown, -, h⟩
    cases h
  · rw [if_neg hn]
    simp only [reduceCtorEq, false_iff]
    rintro ⟨-, base, magnitude, hk, hout, -⟩
    exact hn (by simpa [isNumber_of_mem hk] using hout)

theorem findings_eq_error_iff (source : Source) (settings : Settings) (e : Breakdown) :
    findings source settings = .error e ↔ e = .overlongNumeral ∧
      ∃ n ∈ source.nodes, IsOverlong source (settings.set .magicNumberExemptions) n :=
  flatMapM_fails_iff _ _ _ (findingsAt_eq_error_iff source _) source.nodes e

end Rule.MagicNumber

namespace Rule.DeprecatedApi

-- A used name whose replacement is no text and holds an integer too long to be shown.
def IsUnshowable (source : Source) (table : List (CodeText × Json)) (n : Node) : Prop :=
  ∃ name replacement, Swift.usedName? source n = some name ∧ name ≠ "" ∧
    table.lookup (name : CodeText) = some replacement ∧ replacement.HoldsOverlong

theorem replacement?_holdsOverlong_iff (table : List (CodeText × Json)) (name : String) :
    (∃ replacement, replacement? table name = some replacement ∧ replacement.HoldsOverlong) ↔
      name ≠ "" ∧ ∃ replacement, table.lookup (name : CodeText) = some replacement ∧
        replacement.HoldsOverlong := by
  unfold replacement?
  by_cases hn : name = ""
  · simp [hn]
  · simp only [String.isEmpty_iff, hn, ite_false, ne_eq, not_false_eq_true, true_and]
    split
    · rename_i h
      rw [h]
      constructor
      · rintro ⟨_, hnone, _⟩
        cases hnone
      · rintro ⟨_, heq, hlong⟩
        cases heq
        cases hlong
    · rfl

theorem findingsAt_eq_error_iff (source : Source) (table : List (CodeText × Json)) (n : Node)
    (e : Breakdown) :
    findingsAt source table n = .error e ↔ e = .overlongNumeral ∧ IsUnshowable source table n := by
  unfold findingsAt IsUnshowable
  cases Swift.usedName? source n with
  | none => simp
  | some name =>
      have h := replacement?_holdsOverlong_iff table name
      simp only [Option.some.injEq, exists_and_left, exists_eq_left', ← h]
      cases replacement? table name with
      | none => simp
      | some replacement =>
          simp only [Option.some.injEq, exists_eq_left', ← Json.displayed?_eq_none_iff]
          cases replacement.displayed? <;> simp [eq_comm]

theorem findings_eq_error_iff (source : Source) (settings : Settings) (e : Breakdown) :
    findings source settings = .error e ↔ e = .overlongNumeral ∧
      ∃ n ∈ source.nodes, IsUnshowable source settings.deprecatedApis n :=
  flatMapM_fails_iff _ _ _ (findingsAt_eq_error_iff source _) source.nodes e

end Rule.DeprecatedApi

namespace Rule.Refactoring

-- A type without supertypes, of which a negative limit says that they are too many.
def LacksSupertype (limit : Int) (n : Node) : Prop :=
  limit < 0 ∧ n.kind ∈ Swift.typeKinds ∧
    ∀ child ∈ n.namedChildren, child.kind ≠ "inheritance_specifier"

theorem manySupertypes_eq_error_iff (source : Source) (limit : Int) (n : Node) (e : Breakdown) :
    manySupertypes source limit n = .error e ↔ e = .noSupertype ∧ limit < 0 ∧
      ∀ child ∈ n.namedChildren, child.kind ≠ "inheritance_specifier" := by
  unfold manySupertypes
  cases hs : n.namedChildren.filter (·.kind == "inheritance_specifier") with
  | nil =>
      have hnone : ∀ child ∈ n.namedChildren, child.kind ≠ "inheritance_specifier" := by
        simpa using List.filter_eq_nil_iff.mp hs
      by_cases hl : limit < 0
      · simp only [List.length_nil, Int.ofNat_zero, gt_iff_lt, hl, ite_true, Except.error.injEq,
          true_and]
        exact ⟨fun he => ⟨he.symm, hnone⟩, fun h => h.1.symm⟩
      · simp [hl]
  | cons first rest =>
      have hm : first ∈ n.namedChildren.filter (·.kind == "inheritance_specifier") := by simp [hs]
      obtain ⟨hm, hk⟩ := List.mem_filter.mp hm
      dsimp only
      split
      all_goals
        simp only [reduceCtorEq, false_iff]
        rintro ⟨-, -, h⟩
        exact h first hm (by simpa using hk)

theorem typeFindings_eq_error_iff (source : Source) (settings : Settings) (n : Node)
    (e : Breakdown) :
    typeFindings source settings n = .error e ↔ e = .noSupertype ∧
      settings.number .maxInheritedTypes < 0 ∧
        ∀ child ∈ n.namedChildren, child.kind ≠ "inheritance_specifier" := by
  unfold typeFindings
  rw [bind_eq_error_iff, manySupertypes_eq_error_iff, or_iff_left_iff_imp]
  rintro ⟨found, -, h⟩
  cases h

theorem findings_eq_error_iff (source : Source) (settings : Settings) (e : Breakdown) :
    findings source settings = .error e ↔ e = .noSupertype ∧
      ∃ n ∈ source.nodes, LacksSupertype (settings.number .maxInheritedTypes) n := by
  unfold findings
  rw [bind_eq_error_iff, flatMapM_fails_iff _ _ _ (typeFindings_eq_error_iff source settings)]
  constructor
  · rintro (⟨he, n, hm, hl, hn⟩ | ⟨found, -, h⟩)
    · obtain ⟨hm, hk⟩ := List.mem_filter.mp hm
      exact ⟨he, n, hm, hl, by simpa using hk, hn⟩
    · cases h
  · rintro ⟨he, n, hm, hl, hk, hn⟩
    exact .inl ⟨he, n, List.mem_filter.mpr ⟨hm, by simpa using hk⟩, hl, hn⟩

end Rule.Refactoring

namespace Check

-- How the checks fail. All of the others give their findings on every tree.
inductive Fails (source : Source) (settings : Settings) : Check → Breakdown → Prop where
  | blankKeyword (n : Node) (hm : n ∈ source.nodes)
      (h : Rule.ConstantAssignment.HasBlankKeyword source n) :
      Fails source settings constantAssignments .blankBinding
  | overlongLiteral (n : Node) (hm : n ∈ source.nodes)
      (h : Rule.MagicNumber.IsOverlong source (settings.set .magicNumberExemptions) n) :
      Fails source settings magicNumbers .overlongNumeral
  | unshowable (n : Node) (hm : n ∈ source.nodes)
      (h : Rule.DeprecatedApi.IsUnshowable source settings.deprecatedApis n) :
      Fails source settings deprecatedApis .overlongNumeral
  | lacksSupertype (n : Node) (hm : n ∈ source.nodes)
      (h : Rule.Refactoring.LacksSupertype (settings.number .maxInheritedTypes) n) :
      Fails source settings refactoring .noSupertype

theorem ofExcept_eq_error_iff {α : Type} (x : Except Breakdown α) (halt : Halt) :
    (Transcript.ofExcept x).result = .error halt ↔
      ∃ breakdown, x = .error breakdown ∧ halt = .broken breakdown := by
  cases x with
  | ok a => simp
  | error breakdown => simp [eq_comm]

theorem findings_eq_error_iff (source : Source) (settings : Settings) (check : Check)
    (halt : Halt) :
    (check.findings source settings).result = .error halt ↔
      ∃ breakdown, check.Fails source settings breakdown ∧ halt = .broken breakdown := by
  cases check
  case constantAssignments =>
    simp only [findings, ofExcept_eq_error_iff, Rule.ConstantAssignment.findings_eq_error_iff]
    constructor
    · rintro ⟨_, ⟨rfl, n, hm, h⟩, he⟩
      exact ⟨_, .blankKeyword n hm h, he⟩
    · rintro ⟨_, hf, he⟩
      cases hf with
      | blankKeyword n hm h => exact ⟨_, ⟨rfl, n, hm, h⟩, he⟩
  case magicNumbers =>
    simp only [findings, ofExcept_eq_error_iff, Rule.MagicNumber.findings_eq_error_iff]
    constructor
    · rintro ⟨_, ⟨rfl, n, hm, h⟩, he⟩
      exact ⟨_, .overlongLiteral n hm h, he⟩
    · rintro ⟨_, hf, he⟩
      cases hf with
      | overlongLiteral n hm h => exact ⟨_, ⟨rfl, n, hm, h⟩, he⟩
  case deprecatedApis =>
    simp only [findings, ofExcept_eq_error_iff, Rule.DeprecatedApi.findings_eq_error_iff]
    constructor
    · rintro ⟨_, ⟨rfl, n, hm, h⟩, he⟩
      exact ⟨_, .unshowable n hm h, he⟩
    · rintro ⟨_, hf, he⟩
      cases hf with
      | unshowable n hm h => exact ⟨_, ⟨rfl, n, hm, h⟩, he⟩
  case refactoring =>
    simp only [findings, ofExcept_eq_error_iff, Rule.Refactoring.findings_eq_error_iff]
    constructor
    · rintro ⟨_, ⟨rfl, n, hm, h⟩, he⟩
      exact ⟨_, .lacksSupertype n hm h, he⟩
    · rintro ⟨_, hf, he⟩
      cases hf with
      | lacksSupertype n hm h => exact ⟨_, ⟨rfl, n, hm, h⟩, he⟩
  all_goals exact ⟨nofun, fun ⟨_, h, _⟩ => nomatch h⟩

end Check

end SwiftAudit
