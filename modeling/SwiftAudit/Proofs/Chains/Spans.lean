import Mathlib.Data.List.Infix
import SwiftAudit.Proofs.Lists
import SwiftAudit.Proofs.Tree.Ancestors
import SwiftAudit.Rule.OptionalChain

namespace SwiftAudit

namespace Rule.OptionalChain

-- How often `?.` stands in a text. It cannot overlap itself, so that every place counts.
def links (text : List Char) : Nat := text.tails.countP (['?', '.'].isPrefixOf ·)

theorem links_cons (c : Char) (rest : List Char) :
    links (c :: rest) = links rest + if ['?', '.'].isPrefixOf (c :: rest) then 1 else 0 := by
  rw [links, List.tails_cons, List.countP_cons, links]

theorem chainLinks_eq_links (text : List Char) : chainLinks text = links text := by
  fun_induction chainLinks text with
  | case1 rest ih =>
      have hdot : ['?', '.'].isPrefixOf ('.' :: rest) = false := rfl
      have hboth : ['?', '.'].isPrefixOf ('?' :: '.' :: rest) = true := rfl
      rw [links_cons, links_cons, hdot, hboth, ih]
      rfl
  | case2 c rest hother ih =>
      have hhead : ¬['?', '.'].isPrefixOf (c :: rest) := by
        rw [List.isPrefixOf_iff_prefix]
        rintro ⟨after, htext⟩
        obtain ⟨hc, hrest⟩ := List.cons.inj htext
        exact hother after hc.symm hrest.symm
      rw [links_cons, if_neg hhead, ih]
      rfl
  | case3 => rfl

theorem links_pos_iff (text : List Char) : 0 < links text ↔ ['?', '.'] <:+: text := by
  rw [links, List.countP_pos_iff, List.infix_iff_prefix_suffix]
  simp only [List.mem_tails, List.isPrefixOf_iff_prefix, and_comm]

-- The whole of a navigation: the last node on the way up from it before a boundary.
def outermost (n : Node) : Node := (n.ancestors.takeWhile (!isBoundary ·.kind)).getLastD n

theorem wholeExpression_eq_outermost (n : Node) : wholeExpression n = outermost n :=
  Node.climb_eq isBoundary n.tree n.places

def span (n : Node) : Nat × Nat := ((outermost n).label.start, (outermost n).label.stop)

def depth (source : Source) (n : Node) : Nat := links (source.chars (outermost n).label)

-- A navigation that has an optional link itself, in a whole with more of them than the limit.
def isDeepChain (source : Source) (limit : Int) (n : Node) : Bool :=
  n.kind == "navigation_expression" && decide (['?', '.'] <:+: source.chars n.label) &&
    decide (limit < depth source n)

def report (source : Source) (n : Node) : Finding :=
  .onNode source n Category.optionalChaining
    (s!"Excessive optional chaining depth ({depth source n}). " ++
      "Consider unwrapping optionals or using guard/if let")

def chainOf (source : Source) (n : Node) : Chain :=
  ⟨n, (span n).1, (span n).2, depth source n⟩

theorem chain?_eq (source : Source) (limit : Int) (n : Node) :
    chain? source limit n =
      if isDeepChain source limit n then some (chainOf source n) else none := by
  have hown : chainLinks (source.chars n.label) > 0 ↔ ['?', '.'] <:+: source.chars n.label := by
    rw [chainLinks_eq_links]
    exact links_pos_iff _
  have hdepth : chainLinks (source.chars (outermost n).label) = depth source n :=
    chainLinks_eq_links _
  rw [chain?, decide_eq_decide.mpr hown, wholeExpression_eq_outermost, isDeepChain]
  by_cases hoptional : (n.kind == "navigation_expression" &&
      decide (['?', '.'] <:+: source.chars n.label)) = true
  · rw [if_pos hoptional, hoptional, Bool.true_and]
    simp only [hdepth, gt_iff_lt, decide_eq_true_eq]
    rfl
  · rw [if_neg hoptional, if_neg (by simp [hoptional])]

-- A chain is kept unless its span was seen before: among the chains that come, or before them.
theorem firstOfSpan_eq_firsts (source : Source) (seen : List (Nat × Nat)) {nodes : List Node}
    (h : nodes.Nodup) :
    firstOfSpan seen (nodes.map (chainOf source)) =
      ((firsts span nodes).filter fun n => !seen.contains (span n)).map (chainOf source) := by
  induction nodes generalizing seen with
  | nil => rfl
  | cons n rest ih =>
      obtain ⟨hnew, hrest⟩ := List.nodup_cons.mp h
      have hspan : ((chainOf source n).start, (chainOf source n).stop) = span n := rfl
      rw [List.map_cons, firstOfSpan, hspan, ih seen hrest, ih (span n :: seen) hrest]
      by_cases hseen : seen.contains (span n)
      · rw [if_pos hseen, filter_firsts_of_seen span hnew hseen]
      · rw [if_neg hseen, filter_firsts_of_new span hnew hseen, List.map_cons]

-- Without the flag each navigation with an optional link is reported by itself if the whole
-- that it is part of has too many of them. With the flag only the first report for each span of
-- a whole stays: no span is lost, and none is reported twice.
theorem findings_eq_firsts (source : Source) (settings : Settings) :
    let limit := settings.number .maxOptionalChainDepth
    let deep := source.root.preorder.filter (isDeepChain source limit)
    let reported := if settings.flag .dedupeOptionalChains then firsts span deep else deep
    findings source settings = reported.map (report source) ∧ deep.Nodup ∧
      (firsts span deep).Sublist deep ∧ ((firsts span deep).map span).Nodup ∧
      ∀ whole, whole ∈ (firsts span deep).map span ↔ whole ∈ deep.map span := by
  intro limit deep reported
  have hnodup : deep.Nodup := (Node.nodup_preorder _).sublist List.filter_sublist
  refine ⟨?_, hnodup, List.filter_sublist, nodup_map_firsts span hnodup,
    mem_map_firsts_iff span deep⟩
  have hchains : source.nodes.filterMap (chain? source limit) = deep.map (chainOf source) := by
    rw [funext (chain?_eq source limit), Source.nodes, Node.all_eq_preorder,
      ← List.filterMap_eq_map, List.filterMap_filter]
    rfl
  have hfirsts : firstOfSpan [] (deep.map (chainOf source)) =
      (firsts span deep).map (chainOf source) := by
    rw [firstOfSpan_eq_firsts source [] hnodup]
    simp
  have hreport : finding source ∘ chainOf source = report source := rfl
  have hflag : findings source settings =
      (if settings.flag .dedupeOptionalChains then firstOfSpan [] (deep.map (chainOf source))
        else deep.map (chainOf source)).map (finding source) := by
    rw [← hchains]
    rfl
  rw [hflag, hfirsts]
  by_cases hdedupe : settings.flag .dedupeOptionalChains
  · simp only [reported, hdedupe, if_true, List.map_map, hreport]
  · simp only [reported, hdedupe, if_false, List.map_map, hreport, Bool.false_eq_true]

end Rule.OptionalChain

end SwiftAudit
