import SwiftAudit.Check
import SwiftAudit.Proofs.Relaxation.Thinned

namespace SwiftAudit

-- Whatever is found in the first set is found in the second.
def ScalarSet.Within (a b : ScalarSet) : Prop := ∀ key, key ≠ .nan → a.contains key → b.contains key

namespace ScalarSet

theorem Within.hasInt {a b : ScalarSet} (h : a.Within b) {n : Int} (hn : a.hasInt n) :
    b.hasInt n :=
  h (.number n) nofun hn

-- What is not exempt among more was not exempt before.
theorem Within.not_hasInt {a b : ScalarSet} (h : a.Within b) {n : Int} (hn : !b.hasInt n) :
    !a.hasInt n := by
  rw [Bool.not_eq_true', ← Bool.not_eq_true] at hn ⊢
  exact mt h.hasInt hn

theorem Within.not_hasText {a b : ScalarSet} (h : a.Within b) {s : String}
    (hs : !b.hasText s) : !a.hasText s := by
  rw [Bool.not_eq_true', ← Bool.not_eq_true] at hs ⊢
  exact mt (h (.text s) nofun) hs

end ScalarSet

namespace Rule

namespace BlankLines

theorem isExcess_of_isExcess {limit relaxed : Int} {every : Bool}
    (h : relaxed = limit ∨ every ∧ limit ≤ relaxed) {after : Progress}
    (hexcess : isExcess relaxed every after) : isExcess limit every after := by
  obtain rfl | ⟨rfl, hle⟩ := h
  · exact hexcess
  · simp only [isExcess, Bool.true_or, Bool.and_true, Bool.and_eq_true,
      decide_eq_true_eq] at hexcess ⊢
    exact ⟨hexcess.1, by omega⟩

-- The limit has no part in how the scan goes on.
theorem scan_thinned {limit relaxed : Int} {every : Bool}
    (h : relaxed = limit ∨ every ∧ limit ≤ relaxed) (number : Nat) (progress : Progress)
    (lines : List (List Char)) :
    Thinned (scan relaxed every number progress lines)
      (scan limit every number progress lines) := by
  induction lines generalizing number progress with
  | nil => exact .nil _
  | cons line rest ih => exact (Thinned.ite (isExcess_of_isExcess h) (.refl _)).append (ih _ _)

end BlankLines

namespace Indentation

theorem scan_thinned {allowed relaxed : ScalarSet} (h : allowed.Within relaxed)
    (number previous : Nat) (lines : List (List Char)) :
    Thinned (scan relaxed number previous lines) (scan allowed number previous lines) := by
  induction lines generalizing number previous with
  | nil => exact .nil _
  | cons line rest ih =>
      simp only [scan]
      split
      · exact ih _ _
      · refine Thinned.append (Thinned.ite ?_ (.refl _)) (ih _ _)
        intro hfound
        simp only [Bool.and_eq_true] at hfound ⊢
        exact ⟨hfound.1, h.not_hasInt hfound.2⟩

end Indentation

namespace Localization

theorem finding?_thinned {minLength relaxed : Int} (h : minLength ≤ relaxed) (source : Source)
    (n : Node) :
    Thinned (finding? source relaxed n).toList (finding? source minLength n).toList := by
  simp only [finding?, apply_ite Option.toList, Option.toList_some, Option.toList_none]
  refine Thinned.ite ?_ (.refl _)
  simp only [isSentence, Bool.and_eq_true, decide_eq_true_eq]
  rintro ⟨⟨⟨hformat, hlength⟩, hspace⟩, hletter⟩
  exact ⟨⟨⟨hformat, Int.le_trans h hlength⟩, hspace⟩, hletter⟩

end Localization

namespace LongFunction

theorem finding?_thinned {threshold relaxed : Int} (h : threshold ≤ relaxed) (source : Source)
    (n : Node) :
    Thinned (finding? source relaxed n).toList (finding? source threshold n).toList := by
  unfold finding?
  cases n.child? .body with
  | none => exact .nil _
  | some body =>
      simp only [Option.bind_eq_bind, Option.bind_some, apply_ite Option.toList, Option.pure_def,
        Option.toList_some, Option.toList_none]
      exact Thinned.ite (fun hlong => Int.lt_of_le_of_lt h hlong) (.singleton rfl)

end LongFunction

namespace MagicNumber

theorem shownInteger?_cases {exempt relaxed : ScalarSet} (h : exempt.Within relaxed)
    (negative : Bool) (base : Nat) (text : List Char) :
    shownInteger? relaxed negative base text = .ok none ∨
      shownInteger? relaxed negative base text = shownInteger? exempt negative base text := by
  unfold shownInteger?
  cases Text.literalValue? base text with
  | none => exact .inl rfl
  | some magnitude =>
      dsimp only
      by_cases hrelaxed : relaxed.hasInt (if negative then -magnitude else magnitude)
      · exact .inl (if_pos hrelaxed)
      · have hexempt := mt h.hasInt hrelaxed
        exact .inr (by rw [if_neg hrelaxed, if_neg hexempt])

-- A literal that one more exemption spares is not even shown, so that it cannot be too long.
theorem findingsAt_eased {exempt relaxed : ScalarSet} (h : exempt.Within relaxed)
    (source : Source) (n : Node) :
    Eased (findingsAt source relaxed n) (findingsAt source exempt n) := by
  have hshown (negative : Bool) :
      shown? source relaxed n negative = .ok none ∨
        shown? source relaxed n negative = shown? source exempt n negative := by
    unfold shown?
    cases integerBase? n.kind with
    | none => exact .inr rfl
    | some base => exact shownInteger?_cases h negative base _
  unfold findingsAt
  dsimp only
  split
  · obtain hnone | hsame := hshown (negation? source n).isSome
    · intro more _
      rw [hnone]
      exact ⟨[], rfl, .nil more⟩
    · rw [hsame]
      exact .refl _
  · exact .refl _

end MagicNumber

namespace Complexity

-- The functions that are open do not depend on the threshold.
theorem step_thinned {threshold relaxed : Int} (h : threshold ≤ relaxed) (source : Source)
    {a b : Progress} (hframes : a.frames = b.frames) (hfindings : Thinned a.findings b.findings)
    (event : Event) :
    (step source relaxed a event).frames = (step source threshold b event).frames ∧
      Thinned (step source relaxed a event).findings (step source threshold b event).findings := by
  cases event with
  | enter n =>
      simp only [step, hframes]
      split
      · exact ⟨rfl, hfindings⟩
      · split
        · exact ⟨rfl, hfindings⟩
        · exact ⟨hframes, hfindings⟩
  | leave n =>
      simp only [step, hframes]
      split
      · split
        · exact ⟨hframes, hfindings⟩
        · refine ⟨rfl, hfindings.append (Thinned.ite ?_ (.singleton rfl))⟩
          exact fun hcomplex => Int.lt_of_le_of_lt h hcomplex
      · exact ⟨hframes, hfindings⟩

theorem walk_thinned {threshold relaxed : Int} (h : threshold ≤ relaxed) (source : Source)
    (events : List Event) {a b : Progress} (hframes : a.frames = b.frames)
    (hfindings : Thinned a.findings b.findings) :
    Thinned (events.foldl (step source relaxed) a).findings
      (events.foldl (step source threshold) b).findings := by
  induction events generalizing a b with
  | nil => exact hfindings
  | cons event rest ih =>
      obtain ⟨hframes, hfindings⟩ := step_thinned h source hframes hfindings event
      exact ih hframes hfindings

end Complexity

namespace OptionalChain

def Chain.span (chain : Chain) : Nat × Nat := (chain.start, chain.stop)

-- How deep a chain is can be read off its span.
def isDeep (source : Source) (limit : Int) (span : Nat × Nat) : Bool :=
  (chainLinks (Text.Utf8.decodeLossy
    ((source.bytes.drop span.1).take (span.2 - span.1))) : Int) > limit

-- Under a higher limit the chains are those that are above it.
theorem chain?_of_le {limit relaxed : Int} (h : limit ≤ relaxed) (source : Source) (n : Node) :
    chain? source relaxed n =
      (chain? source limit n).filter fun chain => isDeep source relaxed chain.span := by
  have hdeep (whole : Node) (depth : Nat) :
      isDeep source relaxed (Chain.span ⟨n, whole.label.start, whole.label.stop, depth⟩) ↔
        (chainLinks (source.chars whole.label) : Int) > relaxed :=
    decide_eq_true_iff
  unfold chain?
  split
  · dsimp only
    split
    · rename_i habove
      rw [if_pos (Int.lt_of_le_of_lt h habove), Option.filter_some, if_pos ((hdeep _ _).mpr habove)]
    · rename_i hbelow
      split
      · rw [Option.filter_some, if_neg (mt (hdeep _ _).mp hbelow)]
      · rfl
  · rfl

-- Chains are told apart by their spans, and so is whether a chain stays: no chain that is left
-- out is remembered in place of one that stays.
theorem firstOfSpan_filter (p : Nat × Nat → Bool) (chains : List Chain)
    (seen seen' : List (Nat × Nat))
    (hseen : ∀ span, p span → seen'.contains span = seen.contains span) :
    firstOfSpan seen' (chains.filter fun chain => p chain.span) =
      (firstOfSpan seen chains).filter fun chain => p chain.span := by
  induction chains generalizing seen seen' with
  | nil => rfl
  | cons chain rest ih =>
      have hfirst (known : List (Nat × Nat)) (others : List Chain) :
          firstOfSpan known (chain :: others) =
            if known.contains chain.span then firstOfSpan known others
            else chain :: firstOfSpan (chain.span :: known) others := rfl
      rw [List.filter_cons, hfirst]
      by_cases hp : p chain.span
      · rw [if_pos hp, hfirst, hseen _ hp]
        split
        · exact ih seen seen' hseen
        · have hinsert (span) (hspan : p span) :
              (chain.span :: seen').contains span = (chain.span :: seen).contains span := by
            rw [List.contains_cons, List.contains_cons, hseen span hspan]
          rw [List.filter_cons, if_pos hp, ih _ _ hinsert]
      · rw [if_neg hp]
        split
        · exact ih seen seen' hseen
        · have hskip (span) (hspan : p span) :
              seen'.contains span = (chain.span :: seen).contains span := by
            have hne : span ≠ chain.span := by
              rintro rfl
              exact hp hspan
            rw [hseen span hspan, List.contains_cons, beq_false_of_ne hne, Bool.false_or]
          rw [List.filter_cons, if_neg hp, ih _ _ hskip]

theorem findings_thinned {source : Source} {strict relaxed : Settings}
    (hlimit : strict.number .maxOptionalChainDepth ≤ relaxed.number .maxOptionalChainDepth)
    (hflag : relaxed.flag .dedupeOptionalChains = strict.flag .dedupeOptionalChains) :
    Thinned (findings source relaxed) (findings source strict) := by
  apply Thinned.of_sublist
  simp only [findings, hflag]
  rw [funext (chain?_of_le hlimit source), ← List.filter_filterMap]
  refine List.Sublist.map _ ?_
  split
  · rw [firstOfSpan_filter (isDeep source _) _ [] [] fun _ _ => rfl]
    exact List.filter_sublist
  · exact List.filter_sublist

end OptionalChain

namespace SymbolUsage

theorem report_thinned {p q : String → Declaration → Bool} (h : ∀ name d, q name d → p name d)
    (finding : String → Declaration → Finding) (declarations : List (String × Declaration)) :
    Thinned (report q finding declarations) (report p finding declarations) :=
  .of_sublist ((List.monotone_filter_right declarations fun entry => h entry.1 entry.2).map _)

-- Whether a symbol is unused does not depend on what is exempt.
theorem findings_thinned {source : Source} {strict relaxed : Settings}
    (hthreshold : relaxed.number .unusedReferenceThreshold =
      strict.number .unusedReferenceThreshold)
    (hshort : (strict.set .shortNameWhitelist).Within (relaxed.set .shortNameWhitelist))
    (honce : (strict.set .singleReferenceExemptions).Within
      (relaxed.set .singleReferenceExemptions)) :
    Thinned (findings source relaxed) (findings source strict) := by
  simp only [findings, hthreshold]
  refine ((Thinned.refl _).append (report_thinned ?_ _ _)).append (report_thinned ?_ _ _)
  · intro name d hfound
    simp only [isShort, Bool.and_eq_true] at hfound ⊢
    exact ⟨hfound.1, hshort.not_hasText hfound.2⟩
  · intro name d hfound
    simp only [isUsedOnce, Bool.and_eq_true] at hfound ⊢
    exact ⟨⟨hfound.1.1, honce.not_hasText hfound.1.2⟩, hfound.2⟩

end SymbolUsage

namespace Attribute

theorem findingsAt_thinned {standard relaxed : ScalarSet} (h : standard.Within relaxed)
    (source : Source) (n : Node) :
    Thinned (findingsAt source relaxed n) (findingsAt source standard n) := by
  unfold findingsAt
  dsimp only
  split
  · exact .refl _
  · exact .refl _
  · exact .refl _
  · exact .refl _
  · exact .refl _
  · refine Thinned.ite ?_ (.refl _)
    simp only [Bool.and_eq_true]
    exact fun hfound => ⟨hfound.1, h.not_hasText hfound.2⟩

end Attribute

namespace AttributeUsage

-- Only findings on directives hide later ones, and they do not depend on the attributes.
theorem scan_thinned {source : Source} {strict relaxed : Settings}
    (hattributes : (strict.set .standardAttributes).Within (relaxed.set .standardAttributes))
    (hmacros : relaxed.set .standardMacros = strict.set .standardMacros) (seen : List Position)
    (nodes : List Node) :
    Thinned (scan source relaxed seen nodes) (scan source strict seen nodes) := by
  induction nodes generalizing seen with
  | nil => exact .nil _
  | cons n rest ih =>
      simp only [scan, hmacros]
      split
      · exact (Attribute.findingsAt_thinned hattributes source n).append (ih _)
      · split
        · split
          · exact (Thinned.refl [_]).append (ih _)
          · exact ih _
        · exact ih _

end AttributeUsage

end Rule

end SwiftAudit
