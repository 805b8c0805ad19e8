import SwiftAudit.Check
import SwiftAudit.Proofs.Duplicates.Repetitions
import SwiftAudit.Proofs.Number.Order
import SwiftAudit.Proofs.Relaxation.Thinned

namespace SwiftAudit

namespace Rule

namespace DuplicateFunction

theorem finding?_thinned {threshold relaxed : Double}
    (h : relaxed = threshold ∨ threshold.le relaxed) (source : Source)
    (first second : FunctionBody) :
    Thinned (finding? source relaxed first second).toList
      (finding? source threshold first second).toList := by
  unfold finding?
  split
  · exact .refl _
  · simp only [apply_ite Option.toList, Option.toList_some, Option.toList_none]
    refine Thinned.ite ?_ (.refl _)
    intro hsimilar
    obtain rfl | hle := h
    · exact hsimilar
    · exact Double.le_trans hle hsimilar

theorem pairFindings_thinned {threshold relaxed : Double}
    (h : relaxed = threshold ∨ threshold.le relaxed) (source : Source)
    (functions : List FunctionBody) :
    Thinned (pairFindings source relaxed functions) (pairFindings source threshold functions) := by
  induction functions with
  | nil => exact .nil _
  | cons first rest ih =>
      have hfirst := Thinned.filterMap rest fun second _ => finding?_thinned h source first second
      exact hfirst.append ih

-- Functions that are left out take their pairs with them.
theorem pairFindings_sublist {fewer more : List FunctionBody} (h : fewer.Sublist more)
    (source : Source) (threshold : Double) :
    (pairFindings source threshold fewer).Sublist (pairFindings source threshold more) := by
  induction h with
  | slnil => exact .refl _
  | cons first _ ih => exact ih.trans (List.sublist_append_right _ _)
  | cons_cons first hrest ih => exact (hrest.filterMap _).append ih

theorem compared_of_nonneg {bound : Int} (h : 0 ≤ bound) (functions : List FunctionBody) :
    compared bound functions = functions.take bound.toNat := by
  unfold compared keep
  rw [if_pos h]
  split
  · rfl
  · rename_i hall
    have hlength : functions.length ≤ bound.toNat := by
      simp only [isTruncated, decide_eq_true_eq] at hall
      omega
    exact (List.take_of_length_le hlength).symm

theorem compared_sublist {bound relaxed : Int}
    (h : relaxed = bound ∨ 0 ≤ relaxed ∧ relaxed ≤ bound) (functions : List FunctionBody) :
    (compared relaxed functions).Sublist (compared bound functions) := by
  obtain rfl | ⟨hnonneg, hle⟩ := h
  · exact .refl _
  · rw [compared_of_nonneg hnonneg, compared_of_nonneg (Int.le_trans hnonneg hle)]
    exact (List.take_prefix_take_left (Int.toNat_le_toNat hle)).sublist

theorem findings_thinned {source : Source} {strict relaxed : Settings}
    (hbucket : relaxed.number .maxDuplicateBucket = strict.number .maxDuplicateBucket ∨
      0 ≤ relaxed.number .maxDuplicateBucket ∧
        relaxed.number .maxDuplicateBucket ≤ strict.number .maxDuplicateBucket)
    (hsimilarity : relaxed.similarityThreshold = strict.similarityThreshold ∨
      strict.similarityThreshold.le relaxed.similarityThreshold) :
    Thinned (findings source relaxed).2 (findings source strict).2 := by
  refine Thinned.flatMap _ ?_
  intro group _
  have hfewer := pairFindings_sublist (compared_sublist hbucket group.2) source
    relaxed.similarityThreshold
  exact (hfewer.map Finding.mark).trans (pairFindings_thinned hsimilarity source _)

end DuplicateFunction

namespace Refactoring

theorem largeFunction_thinned {limit relaxed : Int} (h : limit ≤ relaxed) (source : Source)
    (function : FunctionBody) :
    Thinned (largeFunction source relaxed function) (largeFunction source limit function) :=
  Thinned.ite (fun hlarge => Int.lt_of_le_of_lt h hlarge) (.refl _)

theorem largeClass_thinned {limit relaxed : Int} (h : limit ≤ relaxed) (source : Source)
    (n : Node) : Thinned (largeClass source relaxed n) (largeClass source limit n) := by
  unfold largeClass
  split
  · split
    · exact .nil _
    · exact Thinned.ite (fun hlarge => Int.lt_of_le_of_lt h hlarge) (.refl _)
  · exact .nil _

theorem manySupertypes_eased {limit relaxed : Int} (h : limit ≤ relaxed) (source : Source)
    (n : Node) : Eased (manySupertypes source relaxed n) (manySupertypes source limit n) := by
  unfold manySupertypes
  dsimp only
  split
  · rename_i hmany
    rw [if_pos (Int.lt_of_le_of_lt h hmany)]
    exact .refl _
  · exact fun more _ => ⟨[], rfl, .nil more⟩

-- Texts that are too short under the higher limit are never looked up there. What is
-- remembered of the others is the same.
theorem repetitions_thinned {minLength relaxed : Int} (h : minLength ≤ relaxed) (source : Source)
    (name : String) (statements : List Node) (seen seen' : List Seen)
    (hseen : ∀ text : List Char, relaxed < text.length →
      seen'.find? (·.text == text) = seen.find? (·.text == text)) :
    Thinned (repetitions source relaxed name seen' statements)
      (repetitions source minLength name seen statements) := by
  induction statements generalizing seen seen' with
  | nil => exact .nil _
  | cons statement rest ih =>
      by_cases hshort : ((statementText source statement).length : Int) ≤ minLength
      · rw [repetitions_of_short hshort, repetitions_of_short (Int.le_trans hshort h)]
        exact ih seen seen' hseen
      · rw [repetitions_of_long hshort]
        by_cases hrelaxed : ((statementText source statement).length : Int) ≤ relaxed
        · rw [repetitions_of_short hrelaxed]
          refine .append_left _ (ih _ _ ?_)
          intro text hlong
          have hne : (entryAfter source statement
              (seen.find? (·.text == statementText source statement))).text ≠ text := by
            rw [text_entryAfter]
            rintro rfl
            omega
          rw [List.find?_cons_of_neg (by simpa using hne), hseen text hlong]
        · rw [repetitions_of_long hrelaxed, hseen _ (by omega)]
          refine (Thinned.refl _).append (ih _ _ ?_)
          intro text hlong
          rw [List.find?_cons, List.find?_cons, hseen text hlong]

theorem functionFindings_thinned {strict relaxed : Settings}
    (hlarge : strict.number .largeFunctionStatements ≤ relaxed.number .largeFunctionStatements)
    (hlength : strict.number .repeatedStatementMinLength ≤
      relaxed.number .repeatedStatementMinLength) (source : Source) (function : FunctionBody) :
    Thinned (functionFindings source relaxed function) (functionFindings source strict function) :=
  (largeFunction_thinned hlarge source function).append
    (repetitions_thinned hlength source function.name function.statements [] [] fun _ _ => rfl)

theorem typeFindings_eased {strict relaxed : Settings}
    (hmembers : strict.number .largeTypeMembers ≤ relaxed.number .largeTypeMembers)
    (hinherited : strict.number .maxInheritedTypes ≤ relaxed.number .maxInheritedTypes)
    (source : Source) (n : Node) :
    Eased (typeFindings source relaxed n) (typeFindings source strict n) :=
  (manySupertypes_eased hinherited source n).map fun _ _ hthinned =>
    (largeClass_thinned hmembers source n).append hthinned

theorem findings_eased {source : Source} {strict relaxed : Settings}
    (hlarge : strict.number .largeFunctionStatements ≤ relaxed.number .largeFunctionStatements)
    (hlength : strict.number .repeatedStatementMinLength ≤
      relaxed.number .repeatedStatementMinLength)
    (hmembers : strict.number .largeTypeMembers ≤ relaxed.number .largeTypeMembers)
    (hinherited : strict.number .maxInheritedTypes ≤ relaxed.number .maxInheritedTypes) :
    Eased (findings source relaxed) (findings source strict) :=
  (Eased.flatMapM _ fun n _ => typeFindings_eased hmembers hinherited source n).map
    fun _ _ hthinned => (Thinned.flatMap _ fun function _ =>
      functionFindings_thinned hlarge hlength source function).append hthinned

end Refactoring

end Rule

end SwiftAudit
