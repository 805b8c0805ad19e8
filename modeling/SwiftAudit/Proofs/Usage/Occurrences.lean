import SwiftAudit.Proofs.Usage.Groups

namespace SwiftAudit

namespace Swift

-- The part of a navigation that the member is looked for in.
def memberSuffix? (n : Node) : Option Node :=
  n.child? .suffix <|> n.children.find? (·.kind == "navigation_suffix")

def nameIn? (suffix : Node) : Option Node := suffix.child? .suffix <|> lastNamedChild? suffix

theorem memberNode?_eq (n : Node) : memberNode? n = (memberSuffix? n).bind nameIn? := rfl

theorem mem_children_of_memberSuffix? {n suffix : Node} (h : memberSuffix? n = some suffix) :
    suffix ∈ n.children := by
  rw [memberSuffix?, Option.orElse_eq_orElse, Option.orElse_eq_or, Option.or_eq_some_iff] at h
  rcases h with h | ⟨-, h⟩
  · exact List.mem_of_find?_eq_some h
  · exact List.mem_of_find?_eq_some h

theorem mem_children_of_nameIn? {suffix m : Node} (h : nameIn? suffix = some m) :
    m ∈ suffix.children := by
  rw [nameIn?, Option.orElse_eq_orElse, Option.orElse_eq_or, Option.or_eq_some_iff] at h
  rcases h with h | ⟨-, h⟩
  · exact List.mem_of_find?_eq_some h
  · exact List.mem_of_mem_filter (List.mem_of_getLast? h)

-- The member of a navigation is two steps below it.
theorem exists_suffix_of_memberNode? {n m : Node} (h : memberNode? n = some m) :
    ∃ suffix, memberSuffix? n = some suffix ∧ suffix ∈ n.children ∧ m ∈ suffix.children := by
  rw [memberNode?_eq] at h
  obtain ⟨suffix, hsuffix, hname⟩ := Option.bind_eq_some_iff.mp h
  exact ⟨suffix, hsuffix, mem_children_of_memberSuffix? hsuffix, mem_children_of_nameIn? hname⟩

-- A node is the member of no more than one navigation, as it has one parent.
theorem eq_of_memberNode? {a b m : Node} (ha : memberNode? a = some m)
    (hb : memberNode? b = some m) : a = b := by
  obtain ⟨suffix, -, hchild, hm⟩ := exists_suffix_of_memberNode? ha
  obtain ⟨suffix', -, hchild', hm'⟩ := exists_suffix_of_memberNode? hb
  have hsuffix := Node.parent?_child hm
  rw [Node.parent?_child hm'] at hsuffix
  cases hsuffix
  have hparent := Node.parent?_child hchild
  rw [Node.parent?_child hchild'] at hparent
  exact (Option.some.inj hparent).symm

theorem mem_preorder_of_memberNode? {n a m : Node} (ha : a ∈ n.preorder)
    (h : memberNode? a = some m) : m ∈ n.preorder := by
  obtain ⟨suffix, -, hchild, hm⟩ := exists_suffix_of_memberNode? h
  have hbelow : m ∈ a.preorder :=
    Node.mem_preorder_of_child hchild (Node.mem_preorder_of_child hm (Node.self_mem_preorder m))
  exact (Node.preorder_sublist ha).subset hbelow

-- A navigation as it is commonly written: its member is looked for in a navigation suffix.
def HasPlainSuffix (n : Node) : Prop :=
  ∀ suffix ∈ memberSuffix? n, suffix.kind = "navigation_suffix"

instance (n : Node) : Decidable (HasPlainSuffix n) :=
  inferInstanceAs (Decidable (∀ suffix ∈ memberSuffix? n, _))

-- Under a navigation suffix an identifier names something.
theorem not_isReference_of_memberNode? {n m : Node} (hplain : HasPlainSuffix n)
    (h : memberNode? n = some m) : ¬isReference m := by
  obtain ⟨suffix, hsuffix, -, hm⟩ := exists_suffix_of_memberNode? h
  have hkind : m.parentKind? = some "navigation_suffix" := by
    rw [Node.parentKind?, Node.parent?_child hm, Option.map_some, hplain suffix hsuffix]
  simp [isReference, hkind, namingKinds]

end Swift

namespace Rule.SymbolUsage

open Swift (memberNode? isReference HasPlainSuffix)

-- The nodes that name what is used: the member of a navigation, and an identifier that refers to
-- something by itself.
inductive Uses (n : Node) : Node → Prop where
  | member {m : Node} (hkind : n.kind = "navigation_expression")
      (hmember : memberNode? n = some m) : Uses n m
  | reference (hreference : isReference n) : Uses n n

-- A member is no reference of its own, so that it is used by its navigation alone.
theorem Uses.inj {a b m : Node} (ha : Uses a m) (hb : Uses b m)
    (hplain : a.kind = "navigation_expression" → HasPlainSuffix a)
    (hplain' : b.kind = "navigation_expression" → HasPlainSuffix b) : a = b := by
  cases ha with
  | member hkind hmember =>
      cases hb with
      | member hkind' hmember' => exact Swift.eq_of_memberNode? hmember hmember'
      | reference hreference =>
          exact absurd hreference (Swift.not_isReference_of_memberNode? (hplain hkind) hmember)
  | reference hreference =>
      cases hb with
      | member hkind hmember =>
          exact absurd hreference (Swift.not_isReference_of_memberNode? (hplain' hkind) hmember)
      | reference => rfl

-- The node whose text is the name that a node uses.
def usedNode (n : Node) : Node :=
  if n.kind == "navigation_expression" then (memberNode? n).getD n else n

theorem Uses.usedNode_eq {n m : Node} (h : Uses n m) : usedNode n = m := by
  cases h with
  | member hkind hmember => rw [usedNode, if_pos (beq_iff_eq.mpr hkind), hmember, Option.getD_some]
  | reference hreference =>
      have hkind : n.kind ≠ "navigation_expression" := by
        intro hkind
        simp [isReference, hkind] at hreference
      rw [usedNode, if_neg (mt beq_iff_eq.mp hkind)]

-- A node that is recorded under a name uses a node of which the name is the text.
theorem uses_usedNode {source : Source} {name : String} {n : Node} (h : refersTo source name n) :
    Uses n (usedNode n) ∧ source.textOf (usedNode n) = name := by
  rw [refersTo, Bool.or_eq_true, Bool.and_eq_true, Bool.and_eq_true, Bool.and_eq_true] at h
  rcases h with ⟨⟨hkind, hmember⟩, -⟩ | ⟨hreference, htext⟩
  · obtain ⟨m, hm, htext⟩ := Option.map_eq_some_iff.mp (beq_iff_eq.mp hmember)
    have huses : Uses n m := .member (beq_iff_eq.mp hkind) hm
    rw [huses.usedNode_eq]
    exact ⟨huses, htext⟩
  · have huses : Uses n n := .reference hreference
    rw [huses.usedNode_eq]
    exact ⟨huses, beq_iff_eq.mp htext⟩

theorem Uses.mem_preorder {root n m : Node} (h : Uses n m) (hn : n ∈ root.preorder) :
    m ∈ root.preorder := by
  cases h with
  | member _ hmember => exact Swift.mem_preorder_of_memberNode? hn hmember
  | reference => exact hn

def navigations (source : Source) : List Node :=
  source.root.preorder.filter (·.kind == "navigation_expression")

-- The nodes of a file that have a name as their text.
def bearers (source : Source) (name : String) : List Node :=
  source.root.preorder.filter (source.textOf · == name)

-- Of the nodes that are recorded under a name each one uses another bearer of the name.
theorem nodup_usedNodes {source : Source}
    (hplain : ∀ n ∈ navigations source, HasPlainSuffix n) (name : String) :
    ((referencesTo source name).map usedNode).Nodup := by
  have hreferences : (referencesTo source name).Nodup :=
    (Node.nodup_preorder source.root).sublist List.filter_sublist
  refine List.Nodup.map_on ?_ hreferences
  intro a ha b hb hsame
  obtain ⟨hroot, ha⟩ := List.mem_filter.mp ha
  obtain ⟨hroot', hb⟩ := List.mem_filter.mp hb
  obtain ⟨huses, -⟩ := uses_usedNode ha
  obtain ⟨huses', -⟩ := uses_usedNode hb
  rw [← hsame] at huses'
  exact huses.inj huses'
    (fun hkind => hplain a (List.mem_filter.mpr ⟨hroot, beq_iff_eq.mpr hkind⟩))
    (fun hkind => hplain b (List.mem_filter.mpr ⟨hroot', beq_iff_eq.mpr hkind⟩))

theorem usedNode_mem_bearers {source : Source} {name : String} {n : Node}
    (h : n ∈ referencesTo source name) : usedNode n ∈ bearers source name := by
  obtain ⟨hroot, hrefers⟩ := List.mem_filter.mp h
  obtain ⟨huses, htext⟩ := uses_usedNode hrefers
  exact List.mem_filter.mpr ⟨huses.mem_preorder hroot, beq_iff_eq.mpr htext⟩

-- Members are named by other nodes than what refers by itself, and each by its own one. So no
-- bearer of a name is counted twice among the references to it, whichever of the two ways a node
-- refers, and there are no more references than bearers.
theorem uses_areDistinct (source : Source)
    (hplain : ∀ n ∈ navigations source, HasPlainSuffix n) :
    (∀ a ∈ navigations source, ∀ b ∈ navigations source, ∀ m,
      memberNode? a = some m → memberNode? b = some m → a = b) ∧
    (∀ a ∈ navigations source, ∀ m, memberNode? a = some m → ¬isReference m) ∧
    ∀ name,
      let recorded := (walk source).recorded name
      (∀ n ∈ recorded, Uses n (usedNode n) ∧ usedNode n ∈ bearers source name) ∧
      (recorded.map usedNode).Nodup ∧
      (references source).count name = recorded.length ∧
      recorded.length ≤ (bearers source name).length := by
  refine ⟨fun a _ b _ m ha hb => Swift.eq_of_memberNode? ha hb,
    fun a hm m ha => Swift.not_isReference_of_memberNode? (hplain a hm) ha, fun name => ?_⟩
  intro recorded
  have hrecorded : recorded = referencesTo source name := recorded_eq_referencesTo source name
  have hmem : ∀ n ∈ recorded, usedNode n ∈ bearers source name := by
    rw [hrecorded]
    exact fun n hm => usedNode_mem_bearers hm
  have hnodup : (recorded.map usedNode).Nodup := by
    rw [hrecorded]
    exact nodup_usedNodes hplain name
  refine ⟨?_, hnodup, count_references source name, ?_⟩
  · intro n hm
    refine ⟨?_, hmem n hm⟩
    rw [hrecorded] at hm
    exact (uses_usedNode (List.mem_filter.mp hm).2).1
  · have hsubset : recorded.map usedNode ⊆ bearers source name := by
      intro m hm
      obtain ⟨n, hn, rfl⟩ := List.mem_map.mp hm
      exact hmem n hn
    rw [← List.length_map usedNode]
    exact (List.subperm_of_subset hnodup hsubset).length_le

-- A member, and a reference to something else of the same name.
def memberAndNamesake : Source :=
  .ofText "f.swift" "a.b; b" <|
    .node ⟨0, "source_file", 0, 6, true, false, false, []⟩
      [.node ⟨1, "navigation_expression", 0, 3, true, false, false, []⟩
        [.node ⟨2, "simple_identifier", 0, 1, true, false, false, [.target]⟩ [],
          .node ⟨3, "navigation_suffix", 1, 3, true, false, false, [.suffix]⟩
            [.node ⟨4, "simple_identifier", 2, 3, true, false, false, [.suffix]⟩ []]],
        .node ⟨5, "simple_identifier", 5, 6, true, false, false, []⟩ []]

theorem uses_areDistinct_namesake :
    (∀ n ∈ navigations memberAndNamesake, HasPlainSuffix n) ∧
    ((walk memberAndNamesake).recorded "b").map (·.label.number) = [1, 5] ∧
    ((walk memberAndNamesake).recorded "b").map (fun n => (usedNode n).label.number) = [4, 5] ∧
    (references memberAndNamesake).count "b" ≤ (bearers memberAndNamesake "b").length := by
  have hplain : ∀ n ∈ navigations memberAndNamesake, HasPlainSuffix n := by decide +kernel
  obtain ⟨-, -, hname⟩ := uses_areDistinct memberAndNamesake hplain
  obtain ⟨-, -, hcount, hle⟩ := hname "b"
  exact ⟨hplain, by decide +kernel, by decide +kernel, hcount ▸ hle⟩

end Rule.SymbolUsage

end SwiftAudit
