import Mathlib.Data.List.Flatten
import SwiftAudit.Proofs.Text.Trim
import SwiftAudit.Proofs.Tree.Ancestors
import SwiftAudit.Rule.AttributeUsage

namespace SwiftAudit.Rule

namespace Attribute

-- Each rule for attributes says at most one thing.
theorem length_findingsAt_le (source : Source) (standard : ScalarSet) (n : Node) :
    (findingsAt source standard n).length ≤ 1 := by
  have hone (condition : Bool) (finding : Finding) :
      (if condition then [finding] else []).length ≤ 1 := by
    cases condition <;> simp
  unfold findingsAt
  dsimp only
  split
  · unfold available
    split
    · exact Nat.le_refl _
    · exact hone _ _
  · exact hone _ _
  · exact hone _ _
  · exact hone _ _
  · exact hone _ _
  · exact hone _ _

end Attribute

namespace Directive

-- Directives, diagnostics and macros, and what nobody can read if it starts with the sign of one.
def IsHashForm (source : Source) (n : Node) : Prop :=
  n.kind ∈ ["directive", "diagnostic", "macro_invocation"] ∨
    n.kind = "ERROR" ∧ ∃ blanks rest, source.chars n.label = blanks ++ ['#'] ++ rest ∧
      Text.isBlankText blanks

theorem isCandidate_iff {source : Source} {n : Node} :
    isCandidate source n ↔ IsHashForm source n := by
  have hhash : (Text.trimLeft (source.chars n.label)).head? = some '#' ↔
      ∃ blanks rest, source.chars n.label = blanks ++ ['#'] ++ rest ∧ Text.isBlankText blanks := by
    have hmark : ∀ c ∈ ['#'], ¬Text.isBlank c := List.forall_mem_singleton.mpr (by decide)
    rw [← Text.prefix_trimLeft_iff ['#'] (List.cons_ne_nil _ _) hmark, List.head?_eq_some_iff]
    exact exists_congr fun rest => eq_comm
  simp only [isCandidate, Bool.or_eq_true, Bool.and_eq_true, beq_iff_eq, hhash, IsHashForm,
    List.mem_cons, List.not_mem_nil, or_false, or_assoc]

instance (source : Source) (n : Node) : Decidable (IsHashForm source n) :=
  decidable_of_iff _ isCandidate_iff

theorem not_isHashForm_of_attribute {source : Source} {n : Node} (h : n.kind = "attribute") :
    ¬IsHashForm source n := by
  rw [IsHashForm, h]
  simp

-- A hash form that something is wrong with.
def isFaulty (source : Source) (standard : ScalarSet) (n : Node) : Bool :=
  decide (IsHashForm source n) && (finding? source standard n).isSome

theorem isFaulty_iff {source : Source} {standard : ScalarSet} {n : Node} :
    isFaulty source standard n ↔
      isCandidate source n ∧ ∃ finding, finding? source standard n = some finding := by
  rw [isFaulty, Bool.and_eq_true, decide_eq_true_eq, isCandidate_iff, Option.isSome_iff_exists]

theorem position_finding? {source : Source} {standard : ScalarSet} {n : Node} {finding : Finding}
    (h : finding? source standard n = some finding) :
    finding.line = (source.position n).line ∧ finding.column = (source.position n).column := by
  simp only [finding?, Option.bind_eq_bind, Option.bind_eq_some_iff] at h
  obtain ⟨-, -, ⟨severity, description⟩, -, h⟩ := h
  cases h
  exact ⟨rfl, rfl⟩

end Directive

namespace AttributeUsage

variable (source : Source) (settings : Settings)

-- What one node gives to a run that reports certain hash forms.
def share (reported : List Node) (n : Node) : List Finding :=
  if n.kind = "attribute" then Attribute.findingsAt source (settings.set .standardAttributes) n
  else if n ∈ reported then (Directive.finding? source (settings.set .standardMacros) n).toList
  else []

def faulty (nodes : List Node) : List Node :=
  nodes.filter (Directive.isFaulty source (settings.set .standardMacros))

-- The first faulty hash form at each position that was not seen before.
def unseen (seen : List Position) (nodes : List Node) : List Node :=
  (firsts source.position (faulty source settings nodes)).filter
    fun n => !seen.contains (source.position n)

variable {source settings}

theorem notMem_faulty {n : Node} {nodes : List Node} (h : n ∉ nodes) :
    n ∉ faulty source settings nodes :=
  fun hm => h (List.mem_of_mem_filter hm)

theorem notMem_unseen {seen : List Position} {n : Node} {nodes : List Node} (h : n ∉ nodes) :
    n ∉ unseen source settings seen nodes :=
  fun hm => notMem_faulty h (List.mem_of_mem_filter (List.mem_of_mem_filter hm))

theorem unseen_of_sound {seen : List Position} {n : Node} {rest : List Node}
    (h : ¬Directive.isFaulty source (settings.set .standardMacros) n) :
    unseen source settings seen (n :: rest) = unseen source settings seen rest := by
  rw [unseen, faulty, List.filter_cons_of_neg h]
  rfl

theorem unseen_of_seen {seen : List Position} {n : Node} {rest : List Node} (hnew : n ∉ rest)
    (hfaulty : Directive.isFaulty source (settings.set .standardMacros) n)
    (hseen : seen.contains (source.position n)) :
    unseen source settings seen (n :: rest) = unseen source settings seen rest := by
  rw [unseen, faulty, List.filter_cons_of_pos hfaulty]
  exact filter_firsts_of_seen source.position (notMem_faulty hnew) hseen

theorem unseen_of_new {seen : List Position} {n : Node} {rest : List Node} (hnew : n ∉ rest)
    (hfaulty : Directive.isFaulty source (settings.set .standardMacros) n)
    (hseen : ¬seen.contains (source.position n)) :
    unseen source settings seen (n :: rest) =
      n :: unseen source settings (source.position n :: seen) rest := by
  rw [unseen, faulty, List.filter_cons_of_pos hfaulty]
  exact filter_firsts_of_new source.position (notMem_faulty hnew) hseen

theorem share_of_notMem {reported : List Node} {n : Node} (hkind : n.kind ≠ "attribute")
    (h : n ∉ reported) : share source settings reported n = [] := by
  rw [share, if_neg hkind, if_neg h]

theorem share_cons_of_ne {reported : List Node} {m n : Node} (h : m ≠ n) :
    share source settings (n :: reported) m = share source settings reported m := by
  simp only [share, List.mem_cons, h, false_or]

theorem scan_of_attribute (seen : List Position) {n : Node} (rest : List Node)
    (h : n.kind = "attribute") :
    scan source settings seen (n :: rest) =
      Attribute.findingsAt source (settings.set .standardAttributes) n ++
        scan source settings seen rest := by
  rw [scan, if_pos (by simpa using h)]

theorem scan_of_new {seen : List Position} {n : Node} (rest : List Node) {finding : Finding}
    (hkind : n.kind ≠ "attribute") (hcandidate : Directive.isCandidate source n)
    (hfinding : Directive.finding? source (settings.set .standardMacros) n = some finding)
    (hseen : ¬seen.contains (source.position n)) :
    scan source settings seen (n :: rest) =
      finding :: scan source settings (source.position n :: seen) rest := by
  rw [scan, if_neg (by simpa using hkind), hcandidate, Bool.true_and,
    if_pos (by simpa using hseen), hfinding]

-- Nothing comes of a node that is not faulty, or that stands where something was reported.
theorem scan_of_silent {seen : List Position} {n : Node} (rest : List Node)
    (hkind : n.kind ≠ "attribute")
    (h : Directive.isFaulty source (settings.set .standardMacros) n →
      seen.contains (source.position n)) :
    scan source settings seen (n :: rest) = scan source settings seen rest := by
  rw [scan, if_neg (by simpa using hkind)]
  split
  · rename_i hcandidate
    obtain ⟨hcandidate, hseen⟩ := Bool.and_eq_true_iff.mp hcandidate
    cases hfinding : Directive.finding? source (settings.set .standardMacros) n with
    | none => rfl
    | some finding =>
        rw [h (Directive.isFaulty_iff.mpr ⟨hcandidate, finding, hfinding⟩)] at hseen
        cases hseen
  · rfl

-- By induction on the nodes, with any positions seen before: only a hash form that is reported
-- adds its position to them.
theorem scan_eq_flatMap (seen : List Position) {nodes : List Node} (h : nodes.Nodup) :
    scan source settings seen nodes =
      nodes.flatMap (share source settings (unseen source settings seen nodes)) := by
  induction nodes generalizing seen with
  | nil => rfl
  | cons n rest ih =>
      obtain ⟨hnew, hrest⟩ := List.nodup_cons.mp h
      have hsilent : n ∉ unseen source settings seen rest := notMem_unseen hnew
      rw [List.flatMap_cons]
      by_cases hattribute : n.kind = "attribute"
      · have hsound : ¬Directive.isFaulty source (settings.set .standardMacros) n := by
          simp [Directive.isFaulty, Directive.not_isHashForm_of_attribute hattribute]
        rw [scan_of_attribute seen rest hattribute, unseen_of_sound hsound, ih seen hrest, share,
          if_pos hattribute]
      · by_cases hfaulty : Directive.isFaulty source (settings.set .standardMacros) n
        · by_cases hseen : seen.contains (source.position n)
          · rw [scan_of_silent rest hattribute fun _ => hseen, unseen_of_seen hnew hfaulty hseen,
              share_of_notMem hattribute hsilent, List.nil_append, ih seen hrest]
          · obtain ⟨hcandidate, finding, hfinding⟩ := Directive.isFaulty_iff.mp hfaulty
            rw [scan_of_new rest hattribute hcandidate hfinding hseen,
              unseen_of_new hnew hfaulty hseen, ih _ hrest, share, if_neg hattribute,
              if_pos List.mem_cons_self, hfinding]
            refine congrArg (finding :: ·) (List.flatMap_congr fun m hm => ?_)
            have hne : m ≠ n := fun heq => hnew (heq ▸ hm)
            exact (share_cons_of_ne hne).symm
        · rw [scan_of_silent rest hattribute fun h => absurd h hfaulty, unseen_of_sound hfaulty,
            share_of_notMem hattribute hsilent, List.nil_append, ih seen hrest]

theorem exists_share_of_mem {reported : List Node} {n : Node} (h : n ∈ reported)
    (hfaulty : Directive.isFaulty source (settings.set .standardMacros) n) :
    ∃ finding, Directive.finding? source (settings.set .standardMacros) n = some finding ∧
      share source settings reported n = [finding] := by
  obtain ⟨hcandidate, finding, hfinding⟩ := Directive.isFaulty_iff.mp hfaulty
  have hkind : n.kind ≠ "attribute" := fun hkind =>
    Directive.not_isHashForm_of_attribute hkind (Directive.isCandidate_iff.mp hcandidate)
  refine ⟨finding, hfinding, ?_⟩
  rw [share, if_neg hkind, if_pos h, hfinding]
  rfl

theorem findings_eq_flatMap (source : Source) (settings : Settings) :
    findings source settings = source.root.preorder.flatMap (share source settings
      (firsts source.position (faulty source settings source.root.preorder))) := by
  have hunseen : unseen source settings [] source.root.preorder =
      firsts source.position (faulty source settings source.root.preorder) := by
    simp [unseen]
  rw [findings, Source.nodes, Node.all_eq_preorder, scan_eq_flatMap [] (Node.nodup_preorder _),
    hunseen]

theorem findingsAt_sublist {n : Node} (hn : n ∈ source.root.preorder)
    (hkind : n.kind = "attribute") :
    (Attribute.findingsAt source (settings.set .standardAttributes) n).Sublist
      (findings source settings) := by
  rw [findings_eq_flatMap]
  have hshare := (List.singleton_sublist.mpr hn).flatMap (share source settings
    (firsts source.position (faulty source settings source.root.preorder)))
  rwa [List.flatMap_singleton, share, if_pos hkind] at hshare

-- Every attribute gives its own finding, if any. Of the hash forms the first faulty one at each
-- position gives its finding there, and no other one does. All findings come in the order of the
-- nodes.
theorem findings_eq_shares (source : Source) (settings : Settings) :
    let macros := settings.set .standardMacros
    let forms := source.root.preorder.filter (Directive.isFaulty source macros)
    let reported := firsts source.position forms
    findings source settings = source.root.preorder.flatMap (share source settings reported) ∧
      (∀ position, reported.filter (source.position · = position) =
        (forms.find? (source.position · = position)).toList) ∧
      (∀ n ∈ reported, ∃ finding, Directive.finding? source macros n = some finding ∧
        share source settings reported n = [finding] ∧
        finding.line = (source.position n).line ∧ finding.column = (source.position n).column) ∧
      ∀ n, (Attribute.findingsAt source (settings.set .standardAttributes) n).length ≤ 1 := by
  intro macros forms reported
  have hnodup : source.root.preorder.Nodup := Node.nodup_preorder _
  refine ⟨findings_eq_flatMap source settings,
    filter_firsts source.position (hnodup.sublist List.filter_sublist), ?_,
    Attribute.length_findingsAt_le source _⟩
  intro n hn
  have hfaulty := (List.mem_filter.mp (List.mem_of_mem_filter hn)).2
  obtain ⟨finding, hfinding, hshare⟩ := exists_share_of_mem hn hfaulty
  exact ⟨finding, hfinding, hshare, Directive.position_finding? hfinding⟩

-- A condition that nobody can read is no fault itself, but its directive ends too early, and so
-- does a part of that. They start at one place, and an attribute with them.
def brokenCondition : Source :=
  .ofText "f.swift" "#if x" <|
    .node ⟨0, "source_file", 0, 5, true, false, true, []⟩
      [.node ⟨1, "ERROR", 0, 5, true, false, true, []⟩
        [.node ⟨2, "attribute", 0, 5, true, false, false, []⟩ [],
          .node ⟨3, "directive", 0, 3, true, false, false, []⟩
            [.node ⟨4, "diagnostic", 0, 3, true, false, false, []⟩ []]]]

theorem findings_eq_shares_brokenCondition :
    (brokenCondition.root.preorder.filter (Directive.IsHashForm brokenCondition ·)).map
        (·.label.number) = [1, 3, 4] ∧
      (findings brokenCondition Settings.default).map (·.description) =
        ["Custom macro '@#if x' might require arguments",
          "Conditional compilation macro requires a condition"] ∧
      ∃ n ∈ brokenCondition.root.preorder, ∃ finding, n.label.number = 3 ∧
        Directive.finding? brokenCondition (Settings.default.set .standardMacros) n =
          some finding ∧ finding.line = 1 ∧ finding.column = 1 := by
  obtain ⟨hfindings, -, hreported, -⟩ := findings_eq_shares brokenCondition Settings.default
  refine ⟨by decide +kernel, ?_, ?_⟩
  · rw [hfindings]
    decide +kernel
  · obtain ⟨n, hn, hnumber, hplace, hfirst⟩ : ∃ n ∈ brokenCondition.root.preorder,
        n.label.number = 3 ∧ brokenCondition.position n = ⟨1, 1⟩ ∧
          n ∈ firsts brokenCondition.position (brokenCondition.root.preorder.filter
            (Directive.isFaulty brokenCondition (Settings.default.set .standardMacros))) := by
      decide +kernel
    obtain ⟨finding, hfinding, -, hline, hcolumn⟩ := hreported n hfirst
    rw [hplace] at hline hcolumn
    exact ⟨n, hn, finding, hnumber, hfinding, hline, hcolumn⟩

end AttributeUsage

end SwiftAudit.Rule
