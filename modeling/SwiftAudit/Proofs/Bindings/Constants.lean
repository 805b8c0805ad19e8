import SwiftAudit.Proofs.Failure.Check
import SwiftAudit.Proofs.Lists
import SwiftAudit.Proofs.Tree.Ancestors

namespace SwiftAudit.Rule.ConstantAssignment

def isConstantDeclaration (source : Source) (n : Node) : Bool :=
  n.kind == "property_declaration" && (Swift.mutability source n).toOption == some "let"

-- A declaration that binds a name by `let`.
def declares (source : Source) (name : String) (n : Node) : Bool :=
  isConstantDeclaration source n && ((Swift.bindings source n).map (·.1)).contains name

def constantsOf (source : Source) (n : Node) : List String :=
  if isConstantDeclaration source n then (Swift.bindings source n).map (·.1) else []

-- Where an assignment writes to: the child in that role, or else its first child with a name.
def target? (n : Node) : Option Node := n.child? .target <|> n.namedChildren.head?

-- An assignment writes to a name where its target is an identifier, or the place of one and of
-- nothing else. Members and subscripts are no identifiers.
inductive WritesTo (source : Source) (n : Node) : String → Prop where
  | identifier {target : Node} (htarget : target? n = some target)
      (hkind : target.kind = "simple_identifier") : WritesTo source n (source.textOf target)
  | place {target only : Node} (htarget : target? n = some target)
      (hkind : target.kind = "directly_assignable_expression")
      (honly : target.namedChildren = [only]) (hidentifier : only.kind = "simple_identifier") :
      WritesTo source n (source.textOf only)

theorem assignedName?_eq_some_iff {source : Source} {n : Node} {name : String} :
    assignedName? source n = some name ↔ WritesTo source n name := by
  have hname : assignedName? source n = (target? n).bind fun target =>
      (bareTarget? target).bind fun bare =>
        if bare.kind == "simple_identifier" then some (source.textOf bare) else none := rfl
  rw [hname]
  constructor
  · intro h
    obtain ⟨target, htarget, h⟩ := Option.bind_eq_some_iff.mp h
    obtain ⟨bare, hbare, h⟩ := Option.bind_eq_some_iff.mp h
    obtain ⟨hkind, htext⟩ := Option.ite_none_right_eq_some.mp h
    cases Option.some.inj htext
    rw [bareTarget?] at hbare
    split at hbare
    · rename_i hplace
      split at hbare
      · rename_i only honly
        cases hbare
        exact .place htarget (beq_iff_eq.mp hplace) honly (beq_iff_eq.mp hkind)
      · cases hbare
    · cases hbare
      exact .identifier htarget (beq_iff_eq.mp hkind)
  · rintro (⟨htarget, hkind⟩ | ⟨htarget, hkind, honly, hidentifier⟩)
    · simp [htarget, bareTarget?, hkind]
    · simp [htarget, bareTarget?, hkind, honly, hidentifier]

-- An assignment to a bare identifier, with the name that it writes to.
def write? (source : Source) (n : Node) : Option (Node × String) :=
  if n.kind == "assignment" then (assignedName? source n).map (n, ·) else none

def writes (source : Source) : List (Node × String) :=
  source.root.preorder.filterMap (write? source)

def report (source : Source) (write : Node × String) : Finding :=
  finding source write.1 write.2

theorem write?_eq_some_iff {source : Source} {n : Node} {write : Node × String} :
    write? source n = some write ↔
      n = write.1 ∧ n.kind = "assignment" ∧ WritesTo source n write.2 := by
  rw [write?, Option.ite_none_right_eq_some, Option.map_eq_some_iff, beq_iff_eq]
  constructor
  · rintro ⟨hkind, name, hname, rfl⟩
    exact ⟨rfl, hkind, assignedName?_eq_some_iff.mp hname⟩
  · rintro ⟨rfl, hkind, hwrites⟩
    exact ⟨hkind, write.2, assignedName?_eq_some_iff.mpr hwrites, rfl⟩

theorem mem_writes_iff {source : Source} {write : Node × String} :
    write ∈ writes source ↔ write.1 ∈ source.root.preorder ∧ write.1.kind = "assignment" ∧
      WritesTo source write.1 write.2 := by
  rw [writes, List.mem_filterMap]
  constructor
  · rintro ⟨n, hn, hwrite⟩
    obtain ⟨rfl, hkind, hwrites⟩ := write?_eq_some_iff.mp hwrite
    exact ⟨hn, hkind, hwrites⟩
  · rintro ⟨hn, hkind, hwrites⟩
    exact ⟨write.1, hn, write?_eq_some_iff.mpr ⟨rfl, hkind, hwrites⟩⟩

-- The nodes that come before a node.
def before (source : Source) (n : Node) : List Node :=
  source.root.preorder.takeWhile (· ≠ n)

def isDeclaredBefore (source : Source) (write : Node × String) : Bool :=
  (before source write.1).any (declares source write.2)

def isDeclared (source : Source) (write : Node × String) : Bool :=
  source.root.preorder.any (declares source write.2)

theorem mem_constantsOf_iff {source : Source} {name : String} {n : Node} :
    name ∈ constantsOf source n ↔ declares source name n := by
  rw [declares, Bool.and_eq_true, List.contains_iff_mem, constantsOf]
  by_cases h : isConstantDeclaration source n
  · rw [if_pos h]
    exact (and_iff_right h).symm
  · rw [if_neg h]
    exact iff_of_false List.not_mem_nil (fun hboth => h hboth.1)

theorem contains_flatMap_constantsOf (source : Source) (nodes : List Node) (name : String) :
    (nodes.flatMap (constantsOf source)).contains name = nodes.any (declares source name) := by
  rw [Bool.eq_iff_iff, List.contains_iff_mem, List.mem_flatMap, List.any_eq_true]
  simp only [mem_constantsOf_iff]

-- What a node adds: the constants that it declares, or the report of a write to one of those
-- declared so far.
theorem step_eq (source : Source) (progress : Progress) {n : Node}
    (h : ¬HasBlankKeyword source n) :
    step source progress n = .ok ⟨progress.constants ++ constantsOf source n,
      progress.findings ++ (((write? source n).toList).filter
        (progress.constants.contains ·.2)).map (report source)⟩ := by
  by_cases hproperty : n.kind = "property_declaration"
  · have hwrite : write? source n = none := by
      rw [write?, hproperty]
      rfl
    cases hword : Swift.mutability source n with
    | error e =>
        obtain ⟨-, hblank⟩ := (mutability_eq_error_iff source n e).mp hword
        exact absurd ⟨hproperty, hblank⟩ h
    | ok word =>
        have hconstant : isConstantDeclaration source n = (word == "let") := by
          simp [isConstantDeclaration, hproperty, hword, Except.toOption]
        rw [step, if_pos (beq_iff_eq.mpr hproperty), hword, ok_bind, hwrite, constantsOf, hconstant]
        by_cases hlet : word == "let"
        · simp [hlet]
        · simp [hlet]
  · have hconstants : constantsOf source n = [] := by
      simp [constantsOf, isConstantDeclaration, hproperty]
    rw [step, if_neg (mt beq_iff_eq.mp hproperty), hconstants, write?]
    by_cases hassignment : n.kind = "assignment"
    · rw [if_pos (beq_iff_eq.mpr hassignment), if_pos (beq_iff_eq.mpr hassignment)]
      cases assignedName? source n with
      | none => simp
      | some name =>
          by_cases hdeclared : name ∈ progress.constants
          · simp [hdeclared, report]
          · simp [hdeclared]
    · rw [if_neg (mt beq_iff_eq.mp hassignment), if_neg (mt beq_iff_eq.mp hassignment)]
      simp

theorem before_eq {source : Source} {front rest : List Node} {n : Node}
    (h : source.root.preorder = front ++ n :: rest) : before source n = front := by
  have hnodup := Node.nodup_preorder source.root
  rw [h] at hnodup
  have hnew : n ∉ front := fun hm =>
    (List.nodup_cons.mp (List.nodup_middle.mp hnodup)).1 (List.mem_append_left _ hm)
  rw [before, h, List.takeWhile_append_of_pos, List.takeWhile_cons_of_neg (by simp),
    List.append_nil]
  intro m hm
  have hne : m ≠ n := by
    rintro rfl
    exact hnew hm
  simpa using hne

-- After some of the nodes the walk knows the constants that these declare.
theorem foldlM_step (source : Source) {front rest : List Node}
    (h : source.root.preorder = front ++ rest) (hkeywords : ∀ n ∈ rest, ¬HasBlankKeyword source n)
    (found : List Finding) :
    rest.foldlM (step source) ⟨front.flatMap (constantsOf source), found⟩ =
      .ok ⟨(front ++ rest).flatMap (constantsOf source),
        found ++ ((rest.filterMap (write? source)).filter (isDeclaredBefore source)).map
          (report source)⟩ := by
  induction rest generalizing front found with
  | nil => simp
  | cons n rest ih =>
      obtain ⟨hn, hrest⟩ := List.forall_mem_cons.mp hkeywords
      have hsplit : source.root.preorder = (front ++ [n]) ++ rest := by
        rw [h, List.append_assoc, List.singleton_append]
      have hconstants : front.flatMap (constantsOf source) ++ constantsOf source n =
          (front ++ [n]).flatMap (constantsOf source) := by
        rw [List.flatMap_append, List.flatMap_singleton]
      have hwrites : (write? source n).toList.filter
            ((front.flatMap (constantsOf source)).contains ·.2) =
          (write? source n).toList.filter (isDeclaredBefore source) := by
        apply List.filter_congr
        intro write hm
        rw [Option.mem_toList] at hm
        obtain ⟨rfl, -, -⟩ := write?_eq_some_iff.mp hm
        rw [contains_flatMap_constantsOf, isDeclaredBefore, before_eq h]
      rw [List.foldlM_cons, step_eq source _ hn, ok_bind, hconstants, hwrites, ih hsplit hrest]
      congr 2
      · rw [List.append_assoc, List.singleton_append]
      · rw [List.append_assoc, ← List.map_append, ← List.filter_append]
        cases hwrite : write? source n with
        | none => rw [List.filterMap_cons_none hwrite]; rfl
        | some write => rw [List.filterMap_cons_some hwrite]; rfl

theorem findings_eq {source : Source}
    (h : ∀ n ∈ source.root.preorder, ¬HasBlankKeyword source n) :
    findings source =
      .ok (((writes source).filter (isDeclaredBefore source)).map (report source)) := by
  have hstart : source.root.preorder = [] ++ source.root.preorder := rfl
  have hwalk := foldlM_step source hstart h []
  rw [List.flatMap_nil] at hwalk
  rw [findings, Source.nodes, Node.all_eq_preorder, hwalk]
  rfl

theorem isDeclared_of_isDeclaredBefore {source : Source} {write : Node × String}
    (h : isDeclaredBefore source write) : isDeclared source write := by
  rw [isDeclaredBefore, List.any_eq_true] at h
  rw [isDeclared, List.any_eq_true]
  obtain ⟨n, hn, hdeclares⟩ := h
  exact ⟨n, (List.takeWhile_sublist _).subset hn, hdeclares⟩

-- A write to a bare identifier is reported where a `let` with that name comes before it, one error
-- for each write in their order. These are all writes to constants of the file exactly if none
-- comes before the first declaration of its constant.
theorem findings_eq_lateWrites (source : Source)
    (hkeywords : ∀ n ∈ source.root.preorder, ¬HasBlankKeyword source n) :
    let late := (writes source).filter (isDeclaredBefore source)
    let fileWide := (writes source).filter (isDeclared source)
    findings source = .ok (late.map (report source)) ∧ late.Sublist fileWide ∧
      (findings source = .ok (fileWide.map (report source)) ↔
        ∀ write ∈ writes source, isDeclared source write → isDeclaredBefore source write) ∧
      (∀ write, write ∈ writes source ↔ write.1 ∈ source.root.preorder ∧
        write.1.kind = "assignment" ∧ WritesTo source write.1 write.2) ∧
      ∀ write ∈ late, ∃ n ∈ before source write.1, declares source write.2 n := by
  intro late fileWide
  have hfindings : findings source = .ok (late.map (report source)) := findings_eq hkeywords
  have hlate : fileWide.filter (isDeclaredBefore source) = late := by
    rw [List.filter_filter]
    apply List.filter_congr
    intro write _
    cases hbefore : isDeclaredBefore source write with
    | false => rfl
    | true => rw [isDeclared_of_isDeclaredBefore hbefore]; rfl
  have hsublist : late.Sublist fileWide := hlate ▸ List.filter_sublist
  refine ⟨hfindings, hsublist, ?_, fun write => mem_writes_iff, ?_⟩
  · rw [hfindings, ← hlate, Except.ok.injEq, map_filter_eq_map_iff]
    constructor
    · intro hbefore write hm hdeclared
      exact hbefore write (List.mem_filter.mpr ⟨hm, hdeclared⟩)
    · intro hbefore write hm
      exact hbefore write (List.mem_filter.mp hm).1 (List.mem_filter.mp hm).2
  · intro write hm
    exact List.any_eq_true.mp (List.mem_filter.mp hm).2

-- A declaration of the form `let a = 1`.
def letTree (number start : Nat) : Tree :=
  .node ⟨number, "property_declaration", start, start + 9, true, false, false, []⟩
    [.node ⟨number + 1, "value_binding_pattern", start, start + 3, true, false, false, []⟩
      [.node ⟨number + 2, "let", start, start + 3, false, false, false, []⟩ []],
      .node ⟨number + 3, "pattern", start + 4, start + 5, true, false, false, [.name]⟩
        [.node ⟨number + 4, "simple_identifier", start + 4, start + 5, true, false, false, []⟩ []],
      .node ⟨number + 5, "=", start + 6, start + 7, false, false, false, []⟩ [],
      .node ⟨number + 6, "integer_literal", start + 8, start + 9, true, false, false, []⟩ []]

-- An assignment of the form `a = 1`.
def writeTree (number start : Nat) : Tree :=
  .node ⟨number, "assignment", start, start + 5, true, false, false, []⟩
    [.node ⟨number + 1, "directly_assignable_expression", start, start + 1, true, false, false,
        [.target]⟩
      [.node ⟨number + 2, "simple_identifier", start, start + 1, true, false, false, []⟩ []],
      .node ⟨number + 3, "=", start + 2, start + 3, false, false, false, []⟩ [],
      .node ⟨number + 4, "integer_literal", start + 4, start + 5, true, false, false, [.result]⟩ []]

-- A class with a method that writes to two constants, one of them declared below the method.
def twoConstants : Source :=
  .ofText "A.swift" "class A \x7b\nlet b = 0\nfunc f() \x7b\nb = 1\na = 2\n\x7d\nlet a = 3\n\x7d\n" <|
    .node ⟨0, "source_file", 0, 57, true, false, false, []⟩
      [.node ⟨1, "class_declaration", 0, 56, true, false, false, []⟩
        [.node ⟨2, "class", 0, 5, false, false, false, [.declarationKind]⟩ [],
          .node ⟨3, "type_identifier", 6, 7, true, false, false, [.name]⟩ [],
          .node ⟨4, "class_body", 8, 56, true, false, false, [.body]⟩
            [.node ⟨5, "\x7b", 8, 9, false, false, false, []⟩ [],
              letTree 6 10,
              .node ⟨13, "function_declaration", 20, 44, true, false, false, []⟩
                [.node ⟨14, "func", 20, 24, false, false, false, []⟩ [],
                  .node ⟨15, "simple_identifier", 25, 26, true, false, false, [.name]⟩ [],
                  .node ⟨16, "(", 26, 27, false, false, false, []⟩ [],
                  .node ⟨17, ")", 27, 28, false, false, false, []⟩ [],
                  .node ⟨18, "function_body", 29, 44, true, false, false, [.body]⟩
                    [.node ⟨19, "\x7b", 29, 30, false, false, false, []⟩ [],
                      .node ⟨20, "statements", 31, 43, true, false, false, []⟩
                        [writeTree 21 31, writeTree 26 37],
                      .node ⟨31, "\x7d", 43, 44, false, false, false, []⟩ []]],
              letTree 32 45,
              .node ⟨39, "\x7d", 55, 56, false, false, false, []⟩ []]]]

theorem findings_twoConstants :
    (findings twoConstants).map (List.map Finding.text) =
      .ok ["4:1: error: Cannot assign to value: 'b' is a 'let' constant"] := by
  decide +kernel

theorem not_hasBlankKeyword_twoConstants :
    ∀ n ∈ twoConstants.root.preorder, ¬HasBlankKeyword twoConstants n := by
  intro n hn hblank
  rw [← Node.all_eq_preorder] at hn
  have herror := (findings_eq_error_iff twoConstants .blankBinding).mpr ⟨rfl, n, hn, hblank⟩
  have hfindings := findings_twoConstants
  rw [herror] at hfindings
  cases hfindings

theorem findings_eq_lateWrites_twoConstants :
    (writes twoConstants).map (·.2) = ["b", "a"] ∧
      ((writes twoConstants).filter (isDeclaredBefore twoConstants)).map (·.2) = ["b"] ∧
      findings twoConstants = .ok (((writes twoConstants).filter
        (isDeclaredBefore twoConstants)).map (report twoConstants)) :=
  ⟨by decide +kernel, by decide +kernel,
    (findings_eq_lateWrites twoConstants not_hasBlankKeyword_twoConstants).1⟩

-- The write to the constant that is declared below is missed.
theorem findings_twoConstants_ne_fileWide :
    (∀ n ∈ twoConstants.root.preorder, ¬HasBlankKeyword twoConstants n) ∧
      ((writes twoConstants).filter (isDeclared twoConstants)).map (·.2) = ["b", "a"] ∧
      findings twoConstants ≠ .ok (((writes twoConstants).filter
        (isDeclared twoConstants)).map (report twoConstants)) := by
  refine ⟨not_hasBlankKeyword_twoConstants, by decide +kernel, ?_⟩
  intro heq
  have hfindings := findings_twoConstants
  rw [heq] at hfindings
  exact absurd hfindings (by decide +kernel)

end SwiftAudit.Rule.ConstantAssignment
