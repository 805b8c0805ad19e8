import SwiftAudit.Proofs.Tree.Ancestors
import SwiftAudit.Rule.ParseFault

namespace SwiftAudit.Rule.ParseFault

-- The search for faults goes on below a node that is marked, and that is no fault itself.
def isPassed (n : Node) : Bool := n.label.hasError && !isFault n.label

-- A fault that is in no other one, and to which the marks lead.
def isOutermost (n : Node) : Bool := isFault n.label && n.ancestors.all isPassed

-- A parser marks every node that is a fault or holds one.
def MarksFaults (n : Node) : Prop :=
  ∀ m ∈ n.preorder, ∀ d ∈ m.preorder, isFault d.label → m.label.hasError

instance (n : Node) : Decidable (MarksFaults n) :=
  inferInstanceAs (Decidable (∀ m ∈ n.preorder, _))

def report (source : Source) (n : Node) : Finding :=
  .onNode source n Category.parsing (describe source n) .error

theorem MarksFaults.child {n child : Node} (h : MarksFaults n) (hchild : child ∈ n.children) :
    MarksFaults child :=
  fun m hm => h m (Node.mem_preorder_of_child hchild hm)

theorem faultsAmong_eq (parent : Tree) (places : List Place) (trees : List Tree) :
    faultsAmong parent places trees =
      (Node.placed parent places trees).flatMap fun n => faults n.places n.tree := by
  induction trees with
  | nil => rfl
  | cons tree later ih => rw [faultsAmong, ih, Node.placed, List.flatMap_cons]

theorem faults_eq (n : Node) :
    faults n.places n.tree =
      if isFault n.label then [n]
      else if n.label.hasError then n.children.flatMap fun child => faults child.places child.tree
      else [] := by
  obtain ⟨⟨label, children⟩, places⟩ := n
  rw [faults, faultsAmong_eq]
  rfl

theorem isOutermost_iff {n : Node} :
    isOutermost n ↔ isFault n.label ∧ n.ancestors.all isPassed := by
  rw [isOutermost, Bool.and_eq_true]

theorem not_isOutermost_of_below {n d : Node} (hn : ¬isPassed n) (hd : d ∈ n.preorder)
    (hne : d ≠ n) : ¬isOutermost d := by
  intro houter
  have hpassed := List.all_eq_true.mp (isOutermost_iff.mp houter).2
  exact hn (hpassed n (Node.mem_ancestors_of_below hd hne))

-- Below a node where the search ends nothing is outermost.
theorem filter_isOutermost_children {n : Node} (hn : ¬isPassed n) :
    (n.children.flatMap Node.preorder).filter isOutermost = [] := by
  apply List.filter_eq_nil_iff.mpr
  intro d hd
  obtain ⟨child, hchild, hd⟩ := List.mem_flatMap.mp hd
  exact not_isOutermost_of_below hn (Node.mem_preorder_of_child hchild hd)
    (Node.ne_of_mem_child hchild hd)

theorem all_isPassed_child {n child : Node} (h : n.ancestors.all isPassed) (hn : isPassed n)
    (hchild : child ∈ n.children) : child.ancestors.all isPassed := by
  rw [Node.ancestors_child hchild, List.all_cons, hn, h]
  rfl

-- By induction on the tree, if the search has come to it: a fault ends the search, and so does a
-- node without the mark.
theorem faults_eq_filter {n : Node} (h : n.ancestors.all isPassed) :
    faults n.places n.tree = n.preorder.filter isOutermost := by
  induction n using Node.childInduction with
  | node n ih =>
      rw [faults_eq, Node.preorder_eq]
      by_cases hfault : isFault n.label
      · have hn : ¬isPassed n := by simp [isPassed, hfault]
        rw [if_pos hfault, List.filter_cons_of_pos (isOutermost_iff.mpr ⟨hfault, h⟩), filter_isOutermost_children hn]
      · have houter : ¬isOutermost n := by simp [isOutermost, hfault]
        rw [if_neg hfault, List.filter_cons_of_neg houter]
        by_cases hmarked : n.label.hasError
        · have hn : isPassed n := by simp [isPassed, hfault, hmarked]
          rw [if_pos hmarked, List.filter_flatMap]
          apply List.flatMap_congr
          intro child hchild
          exact ih child hchild (all_isPassed_child h hn hchild)
        · have hn : ¬isPassed n := by simp [isPassed, hmarked]
          rw [if_neg hmarked, filter_isOutermost_children hn]

-- One outermost fault is not inside of another one.
theorem eq_of_isOutermost {a b : Node} (ha : isOutermost a) (hb : isOutermost b)
    (h : b ∈ a.preorder) : b = a := by
  have hfault := (isOutermost_iff.mp ha).1
  by_contra hne
  exact not_isOutermost_of_below (by simp [isPassed, hfault]) h hne hb

-- Where the marks are right they lead to every fault, or to one around it.
theorem exists_isOutermost {n d : Node} (h : n.ancestors.all isPassed) (hmarks : MarksFaults n)
    (hd : d ∈ n.preorder) (hfault : isFault d.label) :
    ∃ a ∈ n.preorder, isOutermost a ∧ d ∈ a.preorder := by
  induction n using Node.childInduction with
  | node n ih =>
      by_cases hn : isFault n.label
      · exact ⟨n, Node.self_mem_preorder n, isOutermost_iff.mpr ⟨hn, h⟩, hd⟩
      · have hmarked := hmarks n (Node.self_mem_preorder n) d hd hfault
        have hpassed : isPassed n := by simp [isPassed, hn, hmarked]
        rcases Node.mem_preorder_iff.mp hd with rfl | ⟨child, hchild, hd⟩
        · exact absurd hfault hn
        · obtain ⟨a, ha, houter, hda⟩ :=
            ih child hchild (all_isPassed_child h hpassed hchild) (hmarks.child hchild) hd
          exact ⟨a, Node.mem_preorder_of_child hchild ha, houter, hda⟩

-- What is reported are the faults in no other fault to which the marks lead from the root, in the
-- order of the text, and nothing if the root is not marked. None of them is inside of another one.
-- Where every node that is or holds a fault is marked, no fault is lost: each is reported, or is
-- inside of one that is, so that nothing is reported only of a tree without faults.
theorem findings_eq_outermost (source : Source) :
    let outermost := source.root.preorder.filter isOutermost
    let reported := if source.root.label.hasError then outermost else []
    findings source = reported.map (report source) ∧ reported.Nodup ∧
      (∀ a ∈ reported, ∀ b ∈ reported, b ∈ a.preorder → b = a) ∧
      (MarksFaults source.root →
        (∀ d ∈ source.root.preorder, isFault d.label → ∃ a ∈ reported, d ∈ a.preorder) ∧
          (findings source = [] ↔ ∀ d ∈ source.root.preorder, ¬isFault d.label)) := by
  intro outermost reported
  have hfindings : findings source = reported.map (report source) := by
    have hfaults : faults [] source.tree = outermost := faults_eq_filter (n := source.root) rfl
    rw [findings, faultNodes, hfaults]
    rfl
  have hreported : reported.Sublist outermost := by
    by_cases hmarked : source.root.label.hasError
    · simp [reported, hmarked]
    · simp [reported, hmarked]
  have hnodup : outermost.Nodup := (Node.nodup_preorder _).sublist List.filter_sublist
  have houter : ∀ a ∈ reported, isOutermost a :=
    fun a ha => (List.mem_filter.mp (hreported.subset ha)).2
  refine ⟨hfindings, hnodup.sublist hreported, ?_, ?_⟩
  · intro a ha b hb hba
    exact eq_of_isOutermost (houter a ha) (houter b hb) hba
  · intro hmarks
    have hfound : ∀ d ∈ source.root.preorder, isFault d.label → ∃ a ∈ reported, d ∈ a.preorder := by
      intro d hd hfault
      have hmarked := hmarks _ (Node.self_mem_preorder source.root) d hd hfault
      obtain ⟨a, ha, hisOuter, hda⟩ := exists_isOutermost rfl hmarks hd hfault
      refine ⟨a, ?_, hda⟩
      have hall : reported = outermost := if_pos hmarked
      rw [hall]
      exact List.mem_filter.mpr ⟨ha, hisOuter⟩
    refine ⟨hfound, ?_⟩
    rw [hfindings, List.map_eq_nil_iff]
    constructor
    · intro hnone d hd hfault
      obtain ⟨a, ha, -⟩ := hfound d hd hfault
      rw [hnone] at ha
      cases ha
    · intro hnone
      apply List.eq_nil_iff_forall_not_mem.mpr
      intro a ha
      have hm := (List.mem_filter.mp (hreported.subset ha)).1
      exact hnone a hm (isOutermost_iff.mp (houter a ha)).1

-- A call without its closing parenthesis, and a part that nobody can read with another one in it.
def brokenCall : Source :=
  .ofText "f.swift" "f(\n@ #" <|
    .node ⟨0, "source_file", 0, 6, true, false, true, []⟩
      [.node ⟨1, "call_expression", 0, 2, true, false, true, []⟩
        [.node ⟨2, "simple_identifier", 0, 1, true, false, false, []⟩ [],
          .node ⟨3, "(", 1, 2, false, false, false, []⟩ [],
          .node ⟨4, ")", 2, 2, false, true, true, []⟩ []],
        .node ⟨5, "ERROR", 3, 6, true, false, true, []⟩
          [.node ⟨6, "ERROR", 5, 6, true, false, true, []⟩ []]]

theorem findings_eq_outermost_brokenCall :
    MarksFaults brokenCall.root ∧
      (brokenCall.root.preorder.filter (isFault ·.label)).map (·.label.number) = [4, 5, 6] ∧
      (findings brokenCall).length = 2 ∧
      ∀ d ∈ brokenCall.root.preorder, isFault d.label →
        ∃ a ∈ brokenCall.root.preorder.filter isOutermost, d ∈ a.preorder := by
  have hmarks : MarksFaults brokenCall.root := by decide +kernel
  have hmarked : brokenCall.root.label.hasError := by decide +kernel
  obtain ⟨hfindings, -, -, hcomplete⟩ := findings_eq_outermost brokenCall
  obtain ⟨hfound, -⟩ := hcomplete hmarks
  rw [if_pos hmarked] at hfindings hfound
  refine ⟨hmarks, by decide +kernel, ?_, hfound⟩
  rw [hfindings, List.length_map]
  decide +kernel

end SwiftAudit.Rule.ParseFault
