import SwiftAudit.Proofs.Swift.Statements
import SwiftAudit.Rule.Refactoring

namespace SwiftAudit.Rule.Refactoring

def statementText (source : Source) (statement : Node) : List Char :=
  Text.trim (source.chars statement.label)

-- What is remembered of the text of a statement, and what is found at the statement, from what
-- was remembered before.
def entryAfter (source : Source) (statement : Node) : Option Seen → Seen
  | none => ⟨statementText source statement, (source.position statement).line, false⟩
  | some before => { before with reported := true }

def foundAt (source : Source) (name : String) (statement : Node) : Option Seen → List Finding
  | none => []
  | some before => if before.reported then [] else [repetition source name statement before.line]

theorem repetitions_of_short {source : Source} {minLength : Int} {statement : Node}
    (h : ((statementText source statement).length : Int) ≤ minLength) (name : String)
    (seen : List Seen) (rest : List Node) :
    repetitions source minLength name seen (statement :: rest) =
      repetitions source minLength name seen rest :=
  if_pos h

theorem repetitions_of_long {source : Source} {minLength : Int} {statement : Node}
    (h : ¬((statementText source statement).length : Int) ≤ minLength) (name : String)
    (seen : List Seen) (rest : List Node) :
    let before := seen.find? (·.text == statementText source statement)
    repetitions source minLength name seen (statement :: rest) =
      foundAt source name statement before ++
        repetitions source minLength name (entryAfter source statement before :: seen) rest := by
  intro before
  refine (if_neg h).trans ?_
  change (match before with | none => _ | some before => _) = _
  cases before <;> rfl

theorem text_entryAfter (source : Source) (statement : Node) (seen : List Seen) :
    (entryAfter source statement
      (seen.find? (·.text == statementText source statement))).text =
      statementText source statement := by
  cases h : seen.find? (·.text == statementText source statement) with
  | none => rfl
  | some before =>
      have hfound := List.find?_some h
      exact eq_of_beq hfound

-- The statements with some text.
def occurrences (source : Source) (text : List Char) (statements : List Node) : List Node :=
  statements.filter (statementText source · == text)

-- A statement that is the second one with its text, behind the first one.
def repeated? (source : Source) (statements : List Node) (n : Node) : Option (Node × Node) :=
  match occurrences source (statementText source n) statements with
  | first :: second :: _ => if second = n then some (first, n) else none
  | _ => none

-- The repeated statements with texts longer than a limit.
def repeats (source : Source) (minLength : Int) (statements : List Node) : List (Node × Node) :=
  (statements.filter fun n => minLength < (statementText source n).length).filterMap
    (repeated? source statements)

-- What is remembered of a text after its occurrences.
def remembered (source : Source) (text : List Char) : List Node → Option Seen
  | [] => none
  | [first] => some ⟨text, (source.position first).line, false⟩
  | first :: _ :: _ => some ⟨text, (source.position first).line, true⟩

def Remembers (source : Source) (minLength : Int) (before : List Node) (seen : List Seen) : Prop :=
  ∀ text : List Char, minLength < text.length →
    seen.find? (·.text == text) = remembered source text (occurrences source text before)

section Occurrences

variable {source : Source} {minLength : Int} {before after statements : List Node} {n : Node}

@[simp] theorem occurrences_nil (text : List Char) : occurrences source text [] = [] := rfl

theorem occurrences_append (text : List Char) :
    occurrences source text (before ++ after) =
      occurrences source text before ++ occurrences source text after :=
  List.filter_append ..

theorem occurrences_self (after : List Node) :
    occurrences source (statementText source n) (n :: after) =
      n :: occurrences source (statementText source n) after :=
  List.filter_cons_of_pos (beq_self_eq_true _)

theorem occurrences_of_ne {text : List Char} (h : statementText source n ≠ text) :
    occurrences source text (n :: after) = occurrences source text after :=
  List.filter_cons_of_neg (by simpa using h)

theorem repeated?_eq_some_iff {pair : Node × Node} :
    repeated? source statements n = some pair ↔ pair.2 = n ∧ ∃ rest,
      occurrences source (statementText source n) statements = pair.1 :: n :: rest := by
  obtain ⟨first, second⟩ := pair
  unfold repeated?
  split
  · rename_i first' second' rest hoccurrences
    constructor
    · intro h
      split at h
      · rename_i hsecond
        cases h
        exact ⟨rfl, rest, by rw [hoccurrences, hsecond]⟩
      · cases h
    · rintro ⟨rfl, rest', hrest⟩
      rw [hoccurrences] at hrest
      cases hrest
      rw [if_pos rfl]
  · rename_i hshort
    simp only [reduceCtorEq, false_iff]
    rintro ⟨-, rest, hrest⟩
    exact hshort _ _ _ hrest

-- Whether a statement is the second one with its text shows before it.
theorem repeated?_of_append (h : (before ++ n :: after).Nodup) :
    repeated? source (before ++ n :: after) n =
      match occurrences source (statementText source n) before with
      | [first] => some (first, n)
      | _ => none := by
  obtain ⟨hnew, -⟩ := List.nodup_cons.mp (List.nodup_middle.mp h)
  rw [List.mem_append, not_or] at hnew
  rw [repeated?, occurrences_append, occurrences_self]
  match hbefore : occurrences source (statementText source n) before with
  | [] =>
      match hafter : occurrences source (statementText source n) after with
      | [] => rfl
      | second :: rest =>
          have hm : second ∈ after := List.mem_of_mem_filter (hafter ▸ List.mem_cons_self)
          have hne : second ≠ n := by
            rintro rfl
            exact hnew.2 hm
          exact if_neg hne
  | [first] => exact if_pos rfl
  | first :: second :: rest =>
      have hm : second ∈ before :=
        List.mem_of_mem_filter (hbefore ▸ List.mem_cons_of_mem _ List.mem_cons_self)
      have hne : second ≠ n := by
        rintro rfl
        exact hnew.1 hm
      exact if_neg hne

theorem remembered_append (occurrences : List Node) :
    remembered source (statementText source n) (occurrences ++ [n]) =
      some (entryAfter source n (remembered source (statementText source n) occurrences)) := by
  rcases occurrences with _ | ⟨first, _ | ⟨second, rest⟩⟩ <;> rfl

theorem foundAt_remembered (name : String) (text : List Char) (occurrences : List Node) :
    foundAt source name n (remembered source text occurrences) =
      match occurrences with
      | [first] => [repetition source name n (source.position first).line]
      | _ => [] := by
  rcases occurrences with _ | ⟨first, _ | ⟨second, rest⟩⟩ <;> rfl

theorem Remembers.of_short {seen : List Seen} (h : Remembers source minLength before seen)
    (hshort : ((statementText source n).length : Int) ≤ minLength) :
    Remembers source minLength (before ++ [n]) seen := by
  intro text hlong
  have hne : statementText source n ≠ text := by
    rintro rfl
    omega
  rw [h text hlong, occurrences_append, occurrences_of_ne hne, occurrences_nil, List.append_nil]

theorem Remembers.of_long {seen : List Seen} (h : Remembers source minLength before seen)
    (hlong : minLength < (statementText source n).length) :
    Remembers source minLength (before ++ [n])
      (entryAfter source n (seen.find? (·.text == statementText source n)) :: seen) := by
  intro text htext
  rw [occurrences_append]
  by_cases heq : statementText source n = text
  · subst heq
    have hfound := text_entryAfter source n seen
    rw [List.find?_cons_of_pos (by simpa using hfound), h _ hlong, occurrences_self,
      occurrences_nil, remembered_append]
  · have hother : (entryAfter source n
        (seen.find? (·.text == statementText source n))).text ≠ text := by
      rwa [text_entryAfter]
    rw [List.find?_cons_of_neg (by simpa using hother), h text htext, occurrences_of_ne heq,
      occurrences_nil, List.append_nil]

-- The walk over the statements that are left, behind those that were remembered.
theorem repetitions_of_remembers (name : String) {rest : List Node} {seen : List Seen}
    (hnodup : (before ++ rest).Nodup) (h : Remembers source minLength before seen) :
    repetitions source minLength name seen rest =
      ((rest.filter fun n => minLength < (statementText source n).length).filterMap
        (repeated? source (before ++ rest))).map fun (first, second) =>
          repetition source name second (source.position first).line := by
  induction rest generalizing before seen with
  | nil => rfl
  | cons n rest ih =>
      have hsplit : before ++ n :: rest = before ++ [n] ++ rest := by
        rw [List.append_assoc, List.singleton_append]
      by_cases hshort : ((statementText source n).length : Int) ≤ minLength
      · rw [repetitions_of_short hshort, List.filter_cons_of_neg (by simpa using hshort), hsplit]
        exact ih (hsplit ▸ hnodup) (h.of_short hshort)
      · have hlong := Int.lt_of_not_ge hshort
        rw [repetitions_of_long hshort, List.filter_cons_of_pos (by simpa using hlong),
          List.filterMap_cons, repeated?_of_append hnodup, h _ hlong, foundAt_remembered,
          ← h _ hlong, ih (hsplit ▸ hnodup) (h.of_long hlong), ← hsplit]
        rcases occurrences source (statementText source n) before with _ | ⟨first, _ | _⟩ <;> rfl

theorem remembers_nil (source : Source) (minLength : Int) : Remembers source minLength [] [] :=
  fun _ _ => rfl

theorem repetitions_eq (name : String) (hnodup : statements.Nodup) :
    repetitions source minLength name [] statements =
      (repeats source minLength statements).map fun (first, second) =>
        repetition source name second (source.position first).line := by
  have hall : ([] ++ statements).Nodup := hnodup
  exact repetitions_of_remembers name hall (remembers_nil source minLength)

theorem mem_repeats_iff {first second : Node} :
    (first, second) ∈ repeats source minLength statements ↔
      minLength < (statementText source second).length ∧ ∃ rest,
        occurrences source (statementText source second) statements = first :: second :: rest := by
  rw [repeats, List.mem_filterMap]
  constructor
  · rintro ⟨n, hn, hpair⟩
    obtain ⟨rfl, hrest⟩ := repeated?_eq_some_iff.mp hpair
    rw [List.mem_filter, decide_eq_true_iff] at hn
    exact ⟨hn.2, hrest⟩
  · rintro ⟨hlong, rest, hrest⟩
    have hm : second ∈ statements :=
      List.mem_of_mem_filter (hrest ▸ List.mem_cons_of_mem _ List.mem_cons_self)
    exact ⟨second, List.mem_filter.mpr ⟨hm, decide_eq_true hlong⟩,
      repeated?_eq_some_iff.mpr ⟨rfl, rest, hrest⟩⟩

-- The repeated statements stand in the order of the statements.
theorem map_snd_repeats_sublist (source : Source) (minLength : Int) (statements : List Node) :
    ((repeats source minLength statements).map (·.2)).Sublist statements := by
  have hpart (items : List Node) :
      ((items.filterMap (repeated? source statements)).map (·.2)).Sublist items := by
    induction items with
    | nil => exact .slnil
    | cons n rest ih =>
        rw [List.filterMap_cons]
        cases hn : repeated? source statements n with
        | none => exact ih.cons n
        | some pair =>
            rw [List.map_cons, (repeated?_eq_some_iff.mp hn).1]
            exact ih.cons_cons n
  exact (hpart _).trans List.filter_sublist

theorem mem_filter_repeats_iff {text : List Char} {first second : Node} :
    (first, second) ∈
        (repeats source minLength statements).filter (statementText source ·.2 == text) ↔
      minLength < text.length ∧ ∃ rest,
        occurrences source text statements = first :: second :: rest := by
  rw [List.mem_filter, mem_repeats_iff, beq_iff_eq]
  constructor
  · rintro ⟨h, rfl⟩
    exact h
  · rintro ⟨hlong, rest, hrest⟩
    have hsecond : second ∈ occurrences source text statements :=
      hrest ▸ List.mem_cons_of_mem _ List.mem_cons_self
    have htext := beq_iff_eq.mp (List.mem_filter.mp hsecond).2
    exact ⟨htext ▸ ⟨hlong, rest, hrest⟩, htext⟩

theorem nodup_repeats (source : Source) (minLength : Int) (hnodup : statements.Nodup) :
    (repeats source minLength statements).Nodup :=
  (hnodup.sublist (map_snd_repeats_sublist source minLength statements)).of_map _

-- A text has one repeated statement if it is long enough and occurs twice or more, else none.
theorem countP_repeats (hnodup : statements.Nodup) (text : List Char) :
    (repeats source minLength statements).countP (statementText source ·.2 == text) =
      if minLength < text.length ∧ 2 ≤ (occurrences source text statements).length then 1
      else 0 := by
  have hofText := (nodup_repeats source minLength hnodup).filter (statementText source ·.2 == text)
  rw [List.countP_eq_length_filter]
  by_cases hrepeated : minLength < text.length ∧ ∃ first second rest,
      occurrences source text statements = first :: second :: rest
  · obtain ⟨hlong, first, second, rest, hrest⟩ := hrepeated
    have hone : ((repeats source minLength statements).filter
        (statementText source ·.2 == text)).Perm [(first, second)] := by
      refine (List.perm_ext_iff_of_nodup hofText (List.nodup_singleton _)).mpr ?_
      rintro ⟨first', second'⟩
      rw [mem_filter_repeats_iff, hrest, List.mem_singleton]
      simp only [List.cons.injEq, Prod.mk.injEq, hlong, true_and]
      exact ⟨fun ⟨_, hfirst, hsecond, _⟩ => ⟨hfirst.symm, hsecond.symm⟩,
        fun ⟨hfirst, hsecond⟩ => ⟨rest, hfirst.symm, hsecond.symm, rfl⟩⟩
    rw [hone.length_eq, if_pos ⟨hlong, by rw [hrest]; exact Nat.le_add_left 2 rest.length⟩]
    rfl
  · have hnone : (repeats source minLength statements).filter
        (statementText source ·.2 == text) = [] := by
      rw [List.eq_nil_iff_forall_not_mem]
      rintro ⟨first, second⟩ hm
      obtain ⟨hlong, hrest⟩ := mem_filter_repeats_iff.mp hm
      exact hrepeated ⟨hlong, first, second, hrest⟩
    rw [hnone, if_neg]
    · rfl
    · rintro ⟨hlong, htwice⟩
      match hoccurrences : occurrences source text statements with
      | [] => simp [hoccurrences] at htwice
      | [_] => simp [hoccurrences] at htwice
      | first :: second :: rest => exact hrepeated ⟨hlong, first, second, rest, hoccurrences⟩

end Occurrences

theorem statements_of_mem_allIn {source : Source} {function : FunctionBody}
    (h : function ∈ FunctionBody.allIn source) :
    function.statements = Swift.statements function.body := by
  obtain ⟨n, -, hfunction⟩ := List.mem_filterMap.mp h
  by_cases hkind : n.kind = "function_declaration"
  · cases hbody : n.child? .body with
    | none => simp [FunctionBody.ofNode?, hkind, hbody] at hfunction
    | some body =>
        cases hname : n.child? .name with
        | none => simp [FunctionBody.ofNode?, hkind, hbody, hname] at hfunction
        | some name =>
            simp only [FunctionBody.ofNode?, hkind, hbody, hname, bne_self_eq_false] at hfunction
            cases hfunction
            rfl
  · simp [FunctionBody.ofNode?, hkind] at hfunction

-- Of the statements of a function the second one with each text is reported, and no other.
theorem repetitions_eq_seconds (source : Source) (minLength : Int) {function : FunctionBody}
    (h : function ∈ FunctionBody.allIn source) :
    function.statements =
        ((Swift.block? function.body).elim [] Node.namedChildren).filter (!·.isComment) ∧
      function.statements.Nodup ∧
      ∃ repeated : List (Node × Node),
        repetitions source minLength function.name [] function.statements =
          (repeated.map fun (first, second) =>
            repetition source function.name second (source.position first).line) ∧
        (repeated.map (·.2)).Sublist function.statements ∧
        (∀ first second, (first, second) ∈ repeated ↔
          minLength < (statementText source second).length ∧ ∃ rest,
            function.statements.filter (statementText source · == statementText source second) =
              first :: second :: rest) ∧
        ∀ text : List Char, repeated.countP (statementText source ·.2 == text) =
          if minLength < text.length ∧
            2 ≤ function.statements.countP (statementText source · == text) then 1 else 0 := by
  have hstatements : function.statements =
      ((Swift.block? function.body).elim [] Node.namedChildren).filter (!·.isComment) := by
    rw [statements_of_mem_allIn h, Swift.statements]
    cases Swift.block? function.body <;> rfl
  have hnodup : function.statements.Nodup := by
    rw [statements_of_mem_allIn h, Swift.statements]
    cases Swift.block? function.body with
    | none => exact List.nodup_nil
    | some block => exact Swift.nodup_statementsIn block
  refine ⟨hstatements, hnodup, repeats source minLength function.statements,
    repetitions_eq function.name hnodup, map_snd_repeats_sublist source minLength _,
    fun first second => mem_repeats_iff, ?_⟩
  intro text
  rw [countP_repeats hnodup, occurrences, ← List.countP_eq_length_filter]

-- A function with three copies of one statement and two of a shorter one.
def threeCopies : Source :=
  .ofText "f.swift" "func f() \x7b\nabc\nxy\nabc\nabc\nxy\n\x7d\n" <|
    .node ⟨0, "source_file", 0, 31, true, false, false, []⟩
      [.node ⟨1, "function_declaration", 0, 30, true, false, false, []⟩
        [.node ⟨2, "func", 0, 4, false, false, false, []⟩ [],
          .node ⟨3, "simple_identifier", 5, 6, true, false, false, [.name]⟩ [],
          .node ⟨4, "(", 6, 7, false, false, false, []⟩ [],
          .node ⟨5, ")", 7, 8, false, false, false, []⟩ [],
          .node ⟨6, "function_body", 9, 30, true, false, false, [.body]⟩
            [.node ⟨7, "\x7b", 9, 10, false, false, false, []⟩ [],
              .node ⟨8, "statements", 11, 28, true, false, false, []⟩
                [.node ⟨9, "simple_identifier", 11, 14, true, false, false, []⟩ [],
                  .node ⟨10, "simple_identifier", 15, 17, true, false, false, []⟩ [],
                  .node ⟨11, "simple_identifier", 18, 21, true, false, false, []⟩ [],
                  .node ⟨12, "simple_identifier", 22, 25, true, false, false, []⟩ [],
                  .node ⟨13, "simple_identifier", 26, 28, true, false, false, []⟩ []],
              .node ⟨14, "\x7d", 29, 30, false, false, false, []⟩ []]]]

theorem repetitions_eq_seconds_threeCopies :
    ∃ function ∈ FunctionBody.allIn threeCopies,
      (repetitions threeCopies 2 function.name [] function.statements).map Finding.text =
          ["4:1: warning: Repeated code block in function 'f' (first seen at line 2)"] ∧
        function.statements.countP (statementText threeCopies · == ['a', 'b', 'c']) = 3 ∧
        function.statements.countP (statementText threeCopies · == ['x', 'y']) = 2 ∧
        ∃ repeated : List (Node × Node),
          repetitions threeCopies 2 function.name [] function.statements =
            (repeated.map fun (first, second) =>
              repetition threeCopies function.name second (threeCopies.position first).line) ∧
          repeated.countP (statementText threeCopies ·.2 == ['a', 'b', 'c']) = 1 ∧
          repeated.countP (statementText threeCopies ·.2 == ['x', 'y']) = 0 := by
  obtain ⟨function, h, hfindings, hlong, hshort⟩ : ∃ function ∈ FunctionBody.allIn threeCopies,
      (repetitions threeCopies 2 function.name [] function.statements).map Finding.text =
          ["4:1: warning: Repeated code block in function 'f' (first seen at line 2)"] ∧
        function.statements.countP (statementText threeCopies · == ['a', 'b', 'c']) = 3 ∧
        function.statements.countP (statementText threeCopies · == ['x', 'y']) = 2 := by
    decide +kernel
  obtain ⟨-, -, repeated, hrepeated, -, -, hcount⟩ := repetitions_eq_seconds threeCopies 2 h
  refine ⟨function, h, hfindings, hlong, hshort, repeated, hrepeated, ?_, ?_⟩
  · rw [hcount, hlong]
    rfl
  · rw [hcount, hshort]
    rfl

end SwiftAudit.Rule.Refactoring
