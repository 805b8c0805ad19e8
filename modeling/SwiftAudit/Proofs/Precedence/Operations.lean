import SwiftAudit.Proofs.Precedence.Operands

namespace SwiftAudit.Rule.OperatorPrecedence

variable (source : Source)

namespace Operation

theorem ofChildren_eq_map (trees : List Tree) :
    ofChildren source trees = trees.map fun tree => (tree.label, ofTree source tree) := by
  induction trees with
  | nil => rfl
  | cons tree rest ih => rw [ofChildren, ih, List.map_cons]

theorem ofTree_eq (tree : Tree) :
    ofTree source tree =
      if Swift.isBinary tree.label.kind then
        .binary tree.label.kind (Swift.operatorText source (tree.children.map (·.label)))
          ((Swift.operandsAmong (·.1) (ofChildren source tree.children)).map (·.2))
      else .operand := by
  cases tree
  rfl

theorem operatorsOf_eq_flatMap (operands : List Operation) :
    operatorsOf operands = operands.flatMap operators := by
  induction operands with
  | nil => rfl
  | cons operation rest ih => rw [operatorsOf, ih, List.flatMap_cons]

theorem nestsKindOf_eq_any (operands : List Operation) :
    nestsKindOf operands = operands.any nestsKind := by
  induction operands with
  | nil => rfl
  | cons operation rest ih => rw [nestsKindOf, ih, List.any_cons]

end Operation

def operation (n : Node) : Operation := .ofTree source n.tree

theorem operation_eq (n : Node) :
    operation source n =
      if isOperation n then
        .binary n.kind (Swift.binaryOperator source n) ((Swift.operands n).map (operation source))
      else .operand := by
  have hchildren : Operation.ofChildren source n.tree.children =
      n.children.map fun child => (child.label, operation source child) := by
    rw [← Node.map_tree_children, Operation.ofChildren_eq_map, List.map_map]
    rfl
  rw [operation, Operation.ofTree_eq, hchildren, Swift.operandsAmong_map, List.map_map]
  rfl

theorem operation_of_not {n : Node} (h : ¬isOperation n) : operation source n = .operand := by
  rw [operation_eq, if_neg h]

theorem operators_operation {n : Node} (h : isOperation n) :
    (operation source n).operators = Swift.binaryOperator source n ::
      (Swift.operands n).flatMap fun operand => (operation source operand).operators := by
  rw [operation_eq, if_pos h, Operation.operators, Operation.operatorsOf_eq_flatMap,
    List.flatMap_map]

theorem operators_perm {n : Node} (h : IsBinary n) :
    (operation source n).operators.Perm ((cluster n).map (Swift.binaryOperator source)) := by
  induction n using Node.childInduction with
  | node n ih =>
      by_cases hn : isOperation n
      · have hoperands := (h.hasTwoOperands hn).flatMap_perm
          (f := fun operand => (operation source operand).operators) fun child hchild => by
            rw [operation_of_not source hchild, Operation.operators]
        have hchildren := List.Perm.flatMap_left n.children fun child hchild =>
          ih child hchild (h.child hchild)
        rw [operators_operation source hn, cluster_eq, if_pos hn, List.map_cons, List.map_flatMap]
        exact (hoperands.trans hchildren).cons _
      · rw [operation_of_not source hn, cluster_eq, if_neg hn]
        exact .nil

-- Between two operands stands one operator, and so it does between all the operands below them.
theorem elements_eq {n : Node} (h : IsBinary n) :
    (operation source n).elements = 2 * (operation source n).operators.length + 1 := by
  induction n using Node.childInduction with
  | node n ih =>
      by_cases hn : isOperation n
      · obtain ⟨left, right, hoperands⟩ := List.length_eq_two.mp (h.hasTwoOperands hn).two
        have hbelow : ∀ operand ∈ Swift.operands n, (operation source operand).elements =
            2 * (operation source operand).operators.length + 1 := by
          intro operand hoperand
          have hchild := Swift.mem_children_of_mem_operands hoperand
          exact ih operand hchild (h.child hchild)
        have hleft := hbelow left (by simp [hoperands])
        have hright := hbelow right (by simp [hoperands])
        rw [operators_operation source hn, operation_eq, if_pos hn, hoperands]
        simp only [Operation.elements, Operation.elementsOf, List.map_cons, List.map_nil,
          List.flatMap_cons, List.flatMap_nil, List.length_cons, List.length_append,
          List.length_nil]
        omega
      · rw [operation_of_not source hn]
        rfl

theorem kind?_operation_eq_some {operand : Node} {kind : String} :
    (operation source operand).kind? = some kind ↔ isOperation operand ∧ operand.kind = kind := by
  rw [operation_eq]
  split
  · rename_i hoperand
    rw [Operation.kind?, Option.some_inj]
    exact (and_iff_right hoperand).symm
  · rename_i hoperand
    simp [Operation.kind?, hoperand]

-- An operand that is an operation of the same kind, without parentheses around it.
def NestsKind (d : Node) : Prop :=
  ∃ operand ∈ Swift.operands d, isOperation operand ∧ operand.kind = d.kind

instance (d : Node) : Decidable (NestsKind d) :=
  inferInstanceAs (Decidable (∃ operand ∈ Swift.operands d, _))

theorem nestsKind_iff {n : Node} (h : IsBinary n) (hn : isOperation n) :
    (operation source n).nestsKind ↔ ∃ d ∈ cluster n, NestsKind d := by
  induction n using Node.childInduction with
  | node n ih =>
      have hbelow : ∀ operand ∈ Swift.operands n,
          ((operation source operand).nestsKind ↔ ∃ d ∈ cluster operand, NestsKind d) := by
        intro operand hoperand
        have hchild := Swift.mem_children_of_mem_operands hoperand
        by_cases hoperation : isOperation operand
        · exact ih operand hchild (h.child hchild) hoperation
        · rw [operation_of_not source hoperation, cluster_eq, if_neg hoperation]
          simp [Operation.nestsKind]
      rw [operation_eq, if_pos hn, Operation.nestsKind, Operation.nestsKindOf_eq_any,
        Bool.or_eq_true, List.any_map, List.any_map, List.any_eq_true, List.any_eq_true]
      simp only [Function.comp_apply, beq_iff_eq, kind?_operation_eq_some]
      constructor
      · rintro (hnests | ⟨operand, hoperand, hnests⟩)
        · exact ⟨n, mem_cluster_self hn, hnests⟩
        · obtain ⟨d, hd, hnests⟩ := (hbelow operand hoperand).mp hnests
          exact ⟨d, (mem_cluster_operands h hn).mpr (.inr ⟨operand, hoperand, hd⟩), hnests⟩
      · rintro ⟨d, hd, hnests⟩
        obtain rfl | ⟨operand, hoperand, hd⟩ := (mem_cluster_operands h hn).mp hd
        · exact .inl hnests
        · exact .inr ⟨operand, hoperand, (hbelow operand hoperand).mpr ⟨d, hd, hnests⟩⟩

theorem any_operators_iff {n : Node} (h : IsBinary n) (texts : List String) :
    (operation source n).operators.any texts.contains ↔
      ∃ d ∈ cluster n, Swift.binaryOperator source d ∈ texts := by
  rw [List.any_eq_true]
  simp only [(operators_perm source h).mem_iff, List.mem_map, List.contains_iff_mem]
  constructor
  · rintro ⟨_, ⟨d, hd, rfl⟩, htext⟩
    exact ⟨d, hd, htext⟩
  · rintro ⟨d, hd, htext⟩
    exact ⟨_, ⟨d, hd, rfl⟩, htext⟩

-- With up to three elements there is one operation alone.
theorem cluster_of_elements_le {n : Node} (h : IsBinary n) (hn : isOperation n)
    (hshort : (operation source n).elements ≤ 3) : cluster n = [n] := by
  have hlength := (operators_perm source h).length_eq
  rw [elements_eq source h, hlength, List.length_map, cluster_eq, if_pos hn, List.length_cons]
    at hshort
  have hbelow : n.children.flatMap cluster = [] := List.length_eq_zero_iff.mp (by omega)
  rw [cluster_eq, if_pos hn, hbelow]

theorem not_nestsKind_of_cluster {n : Node} (h : IsBinary n) (hn : isOperation n)
    (honly : cluster n = [n]) : ¬∃ d ∈ cluster n, NestsKind d := by
  rintro ⟨d, hd, operand, hoperand, hoperation, -⟩
  have hself : d = n := by simpa [honly] using hd
  rw [hself] at hoperand
  have hm : operand ∈ cluster n :=
    (mem_cluster_operands h hn).mpr (.inr ⟨operand, hoperand, mem_cluster_self hoperation⟩)
  have hchild := Swift.mem_children_of_mem_operands hoperand
  have hne := Node.ne_of_mem_child hchild (Node.self_mem_preorder operand)
  exact hne (by simpa [honly] using hm)

theorem not_mixes_of_cluster {n : Node} (h : IsBinary n) (honly : cluster n = [n]) :
    ¬mixes (operation source n).operators := by
  rw [mixes, Bool.and_eq_true, any_operators_iff source h, any_operators_iff source h, honly]
  simp only [List.mem_singleton, exists_eq_left]
  rintro ⟨hlogical, harithmetic⟩
  have hapart : ∀ text ∈ logicalOperators, text ∉ arithmeticOperators := by decide
  exact hapart _ hlogical harithmetic

def parentheses (n : Node) : Finding :=
  .onNode source n Category.operatorPrecedence
    "Consider adding explicit parentheses to clarify operator precedence"

def mixed (n : Node) : Finding :=
  .onNode source n Category.operatorPrecedence
    "Mixed logical and arithmetic operators - use parentheses to clarify precedence"

-- The limit on the elements hides no finding.
theorem findingsAt_eq {n : Node} (h : IsBinary n) (hn : isOperation n) :
    findingsAt source n =
      (if (operation source n).nestsKind then [parentheses source n] else []) ++
        if mixes (operation source n).operators then [mixed source n] else [] := by
  have hmixed : Finding.onNode source n Category.operatorPrecedence
      ("Mixed logical and arithmetic operators - " ++ "use parentheses to clarify precedence") =
        mixed source n := by
    rw [mixed]
    congr 1
  have hunfold : findingsAt source n =
      if (operation source n).elements ≤ 3 then []
      else (if (operation source n).nestsKind then [parentheses source n] else []) ++
        if mixes (operation source n).operators then [mixed source n] else [] := by
    rw [← hmixed]
    rfl
  rw [hunfold]
  split
  · rename_i hshort
    have honly := cluster_of_elements_le source h hn hshort
    have hnested : ¬(operation source n).nestsKind := by
      rw [nestsKind_iff source h hn]
      exact not_nestsKind_of_cluster h hn honly
    rw [if_neg hnested, if_neg (not_mixes_of_cluster source h honly), List.append_nil]
  · rfl

theorem parentheses_ne_mixed (n : Node) : parentheses source n ≠ mixed source n := by
  intro heq
  have hdescription := congrArg Finding.description heq
  simp [parentheses, mixed, Finding.onNode, Finding.onNodeWith] at hdescription

theorem findingsAt_sublist {n : Node} (h : IsBinary n) (hn : isOperation n) :
    (findingsAt source n).Sublist [parentheses source n, mixed source n] := by
  have hone : ∀ (p : Bool) (finding : Finding),
      (if p then [finding] else []).Sublist [finding] := by
    intro p finding
    split
    · exact .refl _
    · exact List.nil_sublist _
  rw [findingsAt_eq source h hn]
  exact (hone _ (parentheses source n)).append (hone _ (mixed source n))

theorem mem_findingsAt_iff {n : Node} (h : IsBinary n) (hn : isOperation n) (finding : Finding) :
    finding ∈ findingsAt source n ↔
      (operation source n).nestsKind ∧ finding = parentheses source n ∨
        mixes (operation source n).operators ∧ finding = mixed source n := by
  rw [findingsAt_eq source h hn, List.mem_append, List.mem_ite_nil_right, List.mem_ite_nil_right,
    List.mem_singleton, List.mem_singleton]

theorem parentheses_mem_findingsAt {n : Node} (h : IsBinary n) (hn : isOperation n) :
    parentheses source n ∈ findingsAt source n ↔ ∃ d, HasOperation n d ∧ NestsKind d := by
  simp only [← mem_cluster_iff h hn]
  rw [mem_findingsAt_iff source h hn, ← nestsKind_iff source h hn, and_iff_left rfl,
    or_iff_left fun hmixed => parentheses_ne_mixed source n hmixed.2]

theorem mixed_mem_findingsAt {n : Node} (h : IsBinary n) (hn : isOperation n) :
    mixed source n ∈ findingsAt source n ↔
      (∃ d, HasOperation n d ∧ Swift.binaryOperator source d ∈ logicalOperators) ∧
        ∃ d, HasOperation n d ∧ Swift.binaryOperator source d ∈ arithmeticOperators := by
  simp only [← mem_cluster_iff h hn]
  rw [mem_findingsAt_iff source h hn, ← any_operators_iff source h, ← any_operators_iff source h,
    ← Bool.and_eq_true, ← mixes, and_iff_left rfl,
    or_iff_right fun hnests => parentheses_ne_mixed source n hnests.2.symm]

-- Each operation belongs to the operands of one maximal operation, which is where its operator is
-- collected, and a maximal operation is reported for just what is among its operands.
theorem operations_covered (h : IsBinary source.root) :
    let operations := source.root.preorder.filter isOperation
    let maximal := source.root.preorder.filter isMaximal
    (∀ d ∈ operations, ∃! n, n ∈ maximal ∧ HasOperation n d) ∧
      (maximal.flatMap fun n => (operation source n).operators).Perm
        (operations.map (Swift.binaryOperator source)) ∧
      findings source = maximal.flatMap (findingsAt source) ∧
      ∀ n ∈ maximal,
        (operation source n).elements = 2 * (operation source n).operators.length + 1 ∧
        (findingsAt source n).Sublist [parentheses source n, mixed source n] ∧
        (parentheses source n ∈ findingsAt source n ↔ ∃ d, HasOperation n d ∧ NestsKind d) ∧
        (mixed source n ∈ findingsAt source n ↔
          (∃ d, HasOperation n d ∧ Swift.binaryOperator source d ∈ ["&&", "||"]) ∧
            ∃ d, HasOperation n d ∧
              Swift.binaryOperator source d ∈ ["+", "-", "*", "/", "%"]) ∧
        ((operation source n).operators.length = 1 → findingsAt source n = []) := by
  intro operations maximal
  refine ⟨fun d hd => existsUnique_maximal h hd, ?_, ?_, ?_⟩
  · have hclusters : (maximal.flatMap fun n => (operation source n).operators).Perm
        (maximal.flatMap fun n => (cluster n).map (Swift.binaryOperator source)) := by
      apply List.Perm.flatMap_left
      intro n hn
      exact operators_perm source (h.below (List.mem_filter.mp hn).1)
    rw [← List.map_flatMap] at hclusters
    exact hclusters.trans ((operations_perm_root source.tree).symm.map _)
  · rw [findings, Source.nodes, Node.all_eq_preorder]
  · intro n hn
    obtain ⟨hbelow, hmaximal⟩ := List.mem_filter.mp hn
    have hbinary := h.below hbelow
    have hoperation := isOperation_of_isMaximal hmaximal
    have helements := elements_eq source hbinary
    refine ⟨helements, findingsAt_sublist source hbinary hoperation,
      parentheses_mem_findingsAt source hbinary hoperation,
      mixed_mem_findingsAt source hbinary hoperation, ?_⟩
    intro hone
    have hshort : (operation source n).elements ≤ 3 := by omega
    rw [operation] at hshort
    rw [findingsAt, if_pos hshort]

-- Two sums without parentheses as a condition, and another condition.
def conditions : Source :=
  .ofText "f.swift" "a + b + c && d" <|
    .node ⟨0, "source_file", 0, 14, true, false, false, []⟩
      [.node ⟨1, "conjunction_expression", 0, 14, true, false, false, []⟩
        [.node ⟨2, "additive_expression", 0, 9, true, false, false, [.lhs]⟩
          [.node ⟨3, "additive_expression", 0, 5, true, false, false, [.lhs]⟩
            [.node ⟨4, "simple_identifier", 0, 1, true, false, false, [.lhs]⟩ [],
              .node ⟨5, "+", 2, 3, false, false, false, [.op]⟩ [],
              .node ⟨6, "simple_identifier", 4, 5, true, false, false, [.rhs]⟩ []],
            .node ⟨7, "+", 6, 7, false, false, false, [.op]⟩ [],
            .node ⟨8, "simple_identifier", 8, 9, true, false, false, [.rhs]⟩ []],
          .node ⟨9, "&&", 10, 12, false, false, false, [.op]⟩ [],
          .node ⟨10, "simple_identifier", 13, 14, true, false, false, [.rhs]⟩ []]]

theorem operations_covered_conditions :
    IsBinary conditions.root ∧ ∃ n ∈ conditions.root.preorder, isMaximal n ∧
      parentheses conditions n ∈ findings conditions ∧ mixed conditions n ∈ findings conditions := by
  have hbinary : IsBinary conditions.root := by decide +kernel
  obtain ⟨-, -, hfindings, hmaximal⟩ := operations_covered conditions hbinary
  obtain ⟨n, hn, hmax, hlogical, sum, hsum, hoperation, hnests, harithmetic⟩ :
      ∃ n ∈ conditions.root.preorder, isMaximal n ∧
        Swift.binaryOperator conditions n ∈ ["&&", "||"] ∧
        ∃ sum ∈ Swift.operands n, isOperation sum ∧ NestsKind sum ∧
          Swift.binaryOperator conditions sum ∈ ["+", "-", "*", "/", "%"] := by
    decide +kernel
  have hm : n ∈ conditions.root.preorder.filter isMaximal := List.mem_filter.mpr ⟨hn, hmax⟩
  have hway : HasOperation n sum := .single ⟨hsum, hoperation⟩
  obtain ⟨-, -, hparentheses, hmixed, -⟩ := hmaximal n hm
  refine ⟨hbinary, n, hn, hmax, ?_, ?_⟩
  · rw [hfindings]
    exact List.mem_flatMap.mpr ⟨n, hm, hparentheses.mpr ⟨sum, hway, hnests⟩⟩
  · rw [hfindings]
    exact List.mem_flatMap.mpr
      ⟨n, hm, hmixed.mpr ⟨⟨n, .refl, hlogical⟩, sum, hway, harithmetic⟩⟩

end SwiftAudit.Rule.OperatorPrecedence
