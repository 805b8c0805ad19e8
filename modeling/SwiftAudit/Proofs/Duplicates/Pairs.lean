import Mathlib.Data.List.Nodup
import SwiftAudit.Proofs.Assoc
import SwiftAudit.Proofs.Tree.Ancestors
import SwiftAudit.Rule.DuplicateFunction

namespace SwiftAudit.Rule.DuplicateFunction

section Pairs

variable {α β : Type}

-- Each item with each item at a later place, where places are counted from `start`.
def pairsFrom (start : Nat) (items : List α) : List (α × α) :=
  (items.zipIdx start).flatMap fun first =>
    ((items.zipIdx start).filter fun second => first.2 < second.2).map fun second =>
      (first.1, second.1)

def pairs (items : List α) : List (α × α) := pairsFrom 0 items

theorem pairsFrom_cons (start : Nat) (item : α) (rest : List α) :
    pairsFrom start (item :: rest) = rest.map (item, ·) ++ pairsFrom (start + 1) rest := by
  have hlater : ∀ second ∈ rest.zipIdx (start + 1), start < second.2 :=
    fun second hm => List.le_snd_of_mem_zipIdx hm
  have hfirst : (rest.zipIdx (start + 1)).map (fun second => (item, second.1)) =
      rest.map (item, ·) := by
    have hitems := congrArg (List.map (item, ·)) (List.zipIdx_map_fst (start + 1) rest)
    rwa [List.map_map] at hitems
  rw [pairsFrom, List.zipIdx_cons, List.flatMap_cons]
  congr 1
  · rw [List.filter_cons, if_neg (by simp), List.filter_eq_self.mpr (by simpa using hlater)]
    exact hfirst
  · apply List.flatMap_congr
    intro first hm
    have hfirst := hlater first hm
    rw [List.filter_cons, if_neg (by simp; omega)]

theorem mem_pairsFrom_iff (start : Nat) (items : List α) (a b : α) :
    (a, b) ∈ pairsFrom start items ↔ [a, b].Sublist items := by
  induction items generalizing start with
  | nil => simp [pairsFrom]
  | cons item rest ih =>
      rw [pairsFrom_cons, List.mem_append, ih, List.sublist_cons_iff, or_comm]
      refine or_congr_right ?_
      constructor
      · intro hm
        obtain ⟨second, hsecond, hpair⟩ := List.mem_map.mp hm
        cases hpair
        exact ⟨[b], rfl, List.singleton_sublist.mpr hsecond⟩
      · rintro ⟨later, heq, hlater⟩
        cases heq
        exact List.mem_map_of_mem (List.singleton_sublist.mp hlater)

theorem nodup_pairsFrom (start : Nat) {items : List α} (h : items.Nodup) :
    (pairsFrom start items).Nodup := by
  induction items generalizing start with
  | nil => exact List.nodup_nil
  | cons item rest ih =>
      obtain ⟨hnew, hrest⟩ := List.nodup_cons.mp h
      rw [pairsFrom_cons]
      refine List.nodup_append.mpr ⟨hrest.map ?_, ih _ hrest, ?_⟩
      · intro a b hab
        exact (Prod.mk.inj hab).2
      · intro pair hm other hother heq
        obtain ⟨b, -, rfl⟩ := List.mem_map.mp hm
        subst heq
        have hpair := (mem_pairsFrom_iff _ rest item b).mp hother
        exact hnew (hpair.subset List.mem_cons_self)

theorem pairsFrom_map (start : Nat) (f : α → β) (items : List α) :
    pairsFrom start (items.map f) = (pairsFrom start items).map (Prod.map f f) := by
  induction items generalizing start with
  | nil => rfl
  | cons item rest ih =>
      rw [List.map_cons, pairsFrom_cons, pairsFrom_cons, ih, List.map_append, List.map_map,
        List.map_map]
      rfl

end Pairs

-- The body of a function that has one.
def bodyNode (n : Node) : Node := (n.child? .body).getD n

def statementCount (n : Node) : Nat := (Swift.statements (bodyNode n)).length

-- A function that is compared with others: it has a name, and a body with a statement in it.
def isComparable (n : Node) : Bool :=
  n.kind == "function_declaration" && (n.child? .body).isSome && (n.child? .name).isSome &&
    statementCount n != 0

def nameOf (source : Source) (n : Node) : String := source.textOf? (n.child? .name)

def bodySimilarity (source : Source) (f g : Node) : Double :=
  Similarity.similarity (source.chars (bodyNode f).label) (source.chars (bodyNode g).label)

def isDuplicate (source : Source) (threshold : Double) (f g : Node) : Bool :=
  nameOf source f != nameOf source g && threshold.le (bodySimilarity source f g)

def duplicate (source : Source) (f g : Node) : Finding :=
  .onNode source g Category.refactoring
    (s!"Function '{nameOf source g}' is very similar to '{nameOf source f}' " ++
      s!"({Similarity.percent (bodySimilarity source f g)}% similar) - consider refactoring")

def truncation (source : Source) (bound : Int) (count : Nat) (bucket : List Node) : LogEntry :=
  ⟨.warning, s!"{source.path}: {bucket.length} functions with {count} statements, " ++
    s!"comparing only the first {bound}"⟩

-- Where a slice from the start ends. A negative bound is counted from the end.
def sliceEnd (bound : Int) (length : Nat) : Nat :=
  (if bound < 0 then length + bound else bound).toNat

-- What is compared of a bucket.
def kept (bound : Int) (bucket : List Node) : List Node :=
  if bound < bucket.length then bucket.take (sliceEnd bound bucket.length) else bucket

-- Functions with one count of statements.
def bucket (functions : List Node) (count : Nat) : List Node :=
  functions.filter (statementCount · == count)

-- The pairs that are compared among functions in buckets.
def bucketPairs (bound : Int) (functions : List Node) : List (Node × Node) :=
  (functions.map statementCount).eraseDups.flatMap fun count =>
    pairs (kept bound (bucket functions count))

section Described

variable (source : Source)

-- A node as the rule sees it.
def described (n : Node) : FunctionBody :=
  ⟨nameOf source n, n, bodyNode n, Swift.statements (bodyNode n)⟩

theorem filter_ofNode? (n : Node) :
    (FunctionBody.ofNode? source n).filter (!·.statements.isEmpty) =
      if isComparable n then some (described source n) else none := by
  unfold FunctionBody.ofNode? isComparable described statementCount bodyNode nameOf
  by_cases hkind : n.kind = "function_declaration"
  · cases n.child? .body with
    | none => simp [hkind]
    | some body =>
        cases n.child? .name with
        | none => simp [hkind]
        | some name => simp [hkind, Option.filter_some, Source.textOf?]
  · simp [hkind]

theorem comparable_allIn :
    (FunctionBody.allIn source).filter (!·.statements.isEmpty) =
      (source.root.preorder.filter isComparable).map (described source) := by
  rw [FunctionBody.allIn, Source.nodes, Node.all_eq_preorder, List.filter_filterMap,
    funext (filter_ofNode? source), ← List.filterMap_eq_map, List.filterMap_filter]
  rfl

theorem groups_eq :
    let functions := source.root.preorder.filter isComparable
    groups (FunctionBody.allIn source) =
      (functions.map statementCount).eraseDups.map fun count =>
        (count, (bucket functions count).map (described source)) := by
  intro functions
  rw [groups, comparable_allIn, Assoc.foldl_push, List.map_map]
  apply List.map_congr_left
  intro count _
  rw [List.filter_map]
  rfl

theorem keep_eq {α : Type} (bound : Int) (items : List α) :
    keep bound items = items.take (sliceEnd bound items.length) := by
  unfold keep sliceEnd
  split
  · rw [if_neg (by omega)]
  · rw [if_pos (by omega)]
    congr 1
    omega

theorem compared_described (bound : Int) (bucket : List Node) :
    compared bound (bucket.map (described source)) =
      (kept bound bucket).map (described source) := by
  unfold compared kept isTruncated
  rw [keep_eq, List.length_map, ← List.map_take]
  split <;> split <;> simp_all

theorem warning_described (bound : Int) (count : Nat) (bucket : List Node) :
    warning source bound (count, bucket.map (described source)) =
      if bound < bucket.length then [truncation source bound count bucket] else [] := by
  unfold warning isTruncated truncation
  simp

theorem finding?_described (threshold : Double) (f g : Node) :
    finding? source threshold (described source f) (described source g) =
      if isDuplicate source threshold f g then some (duplicate source f g) else none := by
  have hbne : (nameOf source f != nameOf source g) =
      !((described source f).name == (described source g).name) := rfl
  unfold finding? isDuplicate
  rw [hbne]
  cases (described source f).name == (described source g).name <;> rfl

theorem pairFindings_eq (threshold : Double) (start : Nat) (functions : List FunctionBody) :
    pairFindings source threshold functions =
      (pairsFrom start functions).filterMap fun pair => finding? source threshold pair.1 pair.2 := by
  induction functions generalizing start with
  | nil => rfl
  | cons first rest ih =>
      rw [pairFindings, pairsFrom_cons, List.filterMap_append, List.filterMap_map, ← ih]
      rfl

theorem pairFindings_described (threshold : Double) (nodes : List Node) :
    pairFindings source threshold (nodes.map (described source)) =
      ((pairs nodes).filter fun pair => isDuplicate source threshold pair.1 pair.2).map
        fun pair => duplicate source pair.1 pair.2 := by
  rw [pairFindings_eq source threshold 0, pairsFrom_map, List.filterMap_map, pairs,
    ← List.filterMap_eq_map, List.filterMap_filter]
  congr 1
  funext pair
  exact finding?_described source threshold pair.1 pair.2

end Described

section Buckets

variable (bound : Int) (functions : List Node)

theorem kept_sublist (items : List Node) : (kept bound items).Sublist items := by
  unfold kept
  split
  · exact List.take_sublist _ _
  · exact .refl _

theorem statementCount_of_mem_kept {count : Nat} {f : Node}
    (h : f ∈ kept bound (bucket functions count)) : f ∈ functions ∧ statementCount f = count := by
  have hm := (kept_sublist bound _).subset h
  simpa [bucket] using hm

theorem mem_bucketPairs_iff (f g : Node) :
    (f, g) ∈ bucketPairs bound functions ↔ statementCount f = statementCount g ∧
      [f, g].Sublist (kept bound (bucket functions (statementCount f))) := by
  have hsame {count : Nat} (h : [f, g].Sublist (kept bound (bucket functions count))) :
      (f ∈ functions ∧ statementCount f = count) ∧ statementCount g = count :=
    ⟨statementCount_of_mem_kept bound functions (h.subset (by simp)),
      (statementCount_of_mem_kept bound functions (h.subset (by simp))).2⟩
  simp only [bucketPairs, List.mem_flatMap, pairs, mem_pairsFrom_iff, List.mem_eraseDups]
  constructor
  · rintro ⟨count, -, h⟩
    obtain ⟨⟨-, hf⟩, hg⟩ := hsame h
    rw [hf, hg]
    exact ⟨rfl, h⟩
  · rintro ⟨-, h⟩
    exact ⟨_, List.mem_map_of_mem (hsame h).1.1, h⟩

theorem nodup_bucketPairs (h : functions.Nodup) : (bucketPairs bound functions).Nodup := by
  refine List.nodup_flatMap.mpr ⟨?_, ?_⟩
  · intro count _
    exact nodup_pairsFrom 0 (h.sublist ((kept_sublist bound _).trans List.filter_sublist))
  · refine (nodup_eraseDups _).imp ?_
    intro one other hne pair hone hother
    have hfirst := ((mem_pairsFrom_iff 0 _ _ _).mp hone).subset List.mem_cons_self
    have hsecond := ((mem_pairsFrom_iff 0 _ _ _).mp hother).subset List.mem_cons_self
    apply hne
    rw [← (statementCount_of_mem_kept bound functions hfirst).2,
      (statementCount_of_mem_kept bound functions hsecond).2]

end Buckets

-- The nested loops over buckets report the pairs of functions that are alike, one finding for
-- each. Buckets come in the order of their first functions, the pairs of a bucket in that of
-- their functions. Functions that are compared are in one bucket, none is compared twice with
-- another, and a bucket with too many is cut and told once, with all that it has.
theorem findings_eq_pairs (source : Source) (settings : Settings) :
    let bound := settings.number .maxDuplicateBucket
    let functions := source.root.preorder.filter isComparable
    let cut := (functions.map statementCount).eraseDups.filter fun count =>
      decide (bound < (bucket functions count).length)
    let similar := (bucketPairs bound functions).filter fun pair =>
      isDuplicate source settings.similarityThreshold pair.1 pair.2
    findings source settings =
        (cut.map fun count => truncation source bound count (bucket functions count),
          similar.map fun pair => duplicate source pair.1 pair.2) ∧
      functions.Nodup ∧ (bucketPairs bound functions).Nodup ∧
      ∀ f g, (f, g) ∈ bucketPairs bound functions ↔ statementCount f = statementCount g ∧
        [f, g].Sublist (kept bound (bucket functions (statementCount f))) := by
  intro bound functions cut similar
  have hnodup : functions.Nodup := (Node.nodup_preorder source.root).sublist List.filter_sublist
  refine ⟨?_, hnodup, nodup_bucketPairs bound functions hnodup,
    mem_bucketPairs_iff bound functions⟩
  unfold findings
  dsimp only
  rw [groups_eq, List.flatMap_map, List.flatMap_map]
  congr 1
  · have hcut := flatMap_ite_singleton
      (fun count => decide (bound < (bucket functions count).length))
      (fun count => truncation source bound count (bucket functions count))
      (functions.map statementCount).eraseDups
    refine Eq.trans (List.flatMap_congr fun count _ => ?_) hcut
    rw [warning_described]
    simp [bound, functions]
  · have hsimilar : similar.map (fun pair => duplicate source pair.1 pair.2) =
        (functions.map statementCount).eraseDups.flatMap fun count =>
          ((pairs (kept bound (bucket functions count))).filter fun pair =>
            isDuplicate source settings.similarityThreshold pair.1 pair.2).map
              fun pair => duplicate source pair.1 pair.2 := by
      rw [← List.map_flatMap, ← List.filter_flatMap]
      rfl
    rw [hsimilar]
    apply List.flatMap_congr
    intro count _
    rw [compared_described, pairFindings_described]

end SwiftAudit.Rule.DuplicateFunction
