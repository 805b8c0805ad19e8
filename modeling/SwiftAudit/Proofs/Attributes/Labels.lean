import Mathlib.Data.List.Infix
import Mathlib.Data.List.TakeWhile
import SwiftAudit.Proofs.Lists
import SwiftAudit.Proofs.Text.Trim
import SwiftAudit.Swift.Attribute

namespace SwiftAudit.Swift

-- A text in quotes, with blanks around them.
structure QuotedText where
  lead : List Char
  inside : List Char
  trail : List Char
  blankLead : Text.isBlankText lead
  blankTrail : Text.isBlankText trail
  noQuote : '"' ∉ inside

def QuotedText.text (string : QuotedText) : List Char :=
  string.lead ++ '"' :: (string.inside ++ '"' :: string.trail)

-- What may stand behind the colon of an argument: a text without commas, or a string.
inductive ArgumentValue where
  | plain (text : List Char) (noComma : ',' ∉ text)
  | quoted (string : QuotedText)

def ArgumentValue.text : ArgumentValue → List Char
  | plain text _ => text
  | quoted string => string.text

-- An argument of an attribute: a label, and behind a colon its value if it has one.
structure Argument where
  label : List Char
  value? : Option ArgumentValue
  isFree : ∀ c ∈ label, c ≠ ',' ∧ c ≠ ':' ∧ c ≠ '"'

namespace Argument

def name (argument : Argument) : List Char := Text.trim argument.label

-- The value with its colon.
def tail (argument : Argument) : List Char :=
  match argument.value? with
  | none => []
  | some value => ':' :: value.text

def text (argument : Argument) : List Char := argument.label ++ argument.tail

-- Arguments are written with commas between them.
def written (arguments : List Argument) : List Char := [','].intercalate (arguments.map text)

end Argument

-- A word that stands in a string between a comma and the next comma or colon.
def StandsApart (word inside : List Char) : Prop :=
  ∃ before piece mark after, inside = before ++ ',' :: (piece ++ mark :: after) ∧
    (mark = ',' ∨ mark = ':') ∧ (∀ c ∈ piece, c ≠ ',' ∧ c ≠ ':') ∧ Text.trim piece = word

-- A word in a string that is taken for a label.
def Argument.Strays (word : List Char) (argument : Argument) : Prop :=
  ∃ string, argument.value? = some (.quoted string) ∧ StandsApart word string.inside

def IsNamed (arguments : List Argument) (word : List Char) : Prop :=
  ∃ argument ∈ arguments, argument.name = word

def HasStray (arguments : List Argument) (word : List Char) : Prop :=
  ∃ argument ∈ arguments, argument.Strays word

instance (arguments : List Argument) (word : List Char) : Decidable (IsNamed arguments word) :=
  inferInstanceAs (Decidable (∃ argument ∈ arguments, argument.name = word))

-- The label that is read at a place: what stands there before the next comma or colon.
def labelAt (rest : List Char) : List Char :=
  Text.trim (rest.takeWhile fun c => c != ':' && c != ',')

-- Labels are read at the front and behind each comma.
theorem mem_argumentLabels_iff {word text : List Char} :
    word ∈ argumentLabels text ↔
      word ≠ [] ∧ ∃ rest, ',' :: rest <:+ ',' :: text ∧ labelAt rest = word := by
  have hlabel (rest : List Char) :
      Text.trim ((rest.takeWhile (· != ',')).takeWhile (· != ':')) = labelAt rest := by
    simp only [labelAt, List.takeWhile_takeWhile, Bool.decide_and, Bool.decide_eq_true]
  simp only [argumentLabels, List.mem_filter, List.mem_map, mem_splitOn_iff]
  rw [and_comm]
  refine and_congr (by simp) ?_
  constructor
  · rintro ⟨part, ⟨rest, hrest, rfl⟩, rfl⟩
    exact ⟨rest, hrest, (hlabel rest).symm⟩
  · rintro ⟨rest, hrest, rfl⟩
    exact ⟨_, ⟨rest, hrest, rfl⟩, hlabel rest⟩

theorem argumentLabels_append (before after : List Char) :
    argumentLabels (before ++ ',' :: after) = argumentLabels before ++ argumentLabels after := by
  rw [argumentLabels, List.splitOn_append_cons_self, List.map_append, List.filter_append]
  rfl

theorem argumentLabels_of_blank {text : List Char} (h : Text.isBlankText text) :
    argumentLabels text = [] := by
  apply List.eq_nil_iff_forall_not_mem.mpr
  intro word hm
  obtain ⟨hne, rest, hrest, rfl⟩ := mem_argumentLabels_iff.mp hm
  have hblank : Text.isBlankText (rest.takeWhile fun c => c != ':' && c != ',') := by
    apply Text.isBlankText_iff.mpr
    intro c hc
    have hsuffix : rest <:+ text := by
      rcases List.suffix_cons_iff.mp hrest with heq | hsuffix
      · rw [(List.cons.inj heq).2]
      · exact (List.suffix_cons _ _).trans hsuffix
    exact Text.isBlankText_iff.mp h c (hsuffix.subset ((List.takeWhile_sublist _).subset hc))
  rw [← Text.isEmpty_trim, List.isEmpty_iff] at hblank
  exact hne hblank

theorem argumentLabels_written (arguments : List Argument) :
    argumentLabels (Argument.written arguments) =
      arguments.flatMap fun argument => argumentLabels argument.text := by
  induction arguments with
  | nil => rfl
  | cons argument rest ih =>
      cases rest with
      | nil => simp [Argument.written]
      | cons next rest =>
          rw [Argument.written, List.map_cons, List.map_cons, List.intercalate_cons_cons,
            List.append_assoc, List.singleton_append, argumentLabels_append, List.flatMap_cons,
            ← ih]
          rfl

theorem takeWhile_separators {piece : List Char} (h : ∀ c ∈ piece, c ≠ ',' ∧ c ≠ ':')
    (rest : List Char) :
    (piece ++ rest).takeWhile (fun c => c != ':' && c != ',') =
      piece ++ rest.takeWhile fun c => c != ':' && c != ',' := by
  apply List.takeWhile_append_of_pos
  intro c hc
  simp [h c hc]

theorem labelAt_append_mark {piece : List Char} (h : ∀ c ∈ piece, c ≠ ',' ∧ c ≠ ':') {mark : Char}
    (hmark : mark = ',' ∨ mark = ':') (after : List Char) :
    labelAt (piece ++ mark :: after) = Text.trim piece := by
  rw [labelAt, takeWhile_separators h, List.takeWhile_cons_of_neg, List.append_nil]
  rcases hmark with rfl | rfl <;> simp

-- Any text is free of commas and colons, or has a first one.
theorem exists_separator (text : List Char) :
    (∀ c ∈ text, c ≠ ',' ∧ c ≠ ':') ∨
      ∃ piece mark after, text = piece ++ mark :: after ∧ (mark = ',' ∨ mark = ':') ∧
        ∀ c ∈ piece, c ≠ ',' ∧ c ≠ ':' := by
  induction text with
  | nil => exact .inl (List.forall_mem_nil _)
  | cons c text ih =>
      by_cases hc : c = ',' ∨ c = ':'
      · exact .inr ⟨[], c, text, rfl, hc, List.forall_mem_nil _⟩
      · rw [not_or] at hc
        rcases ih with h | ⟨piece, mark, after, rfl, hmark, hpiece⟩
        · exact .inl (List.forall_mem_cons.mpr ⟨hc, h⟩)
        · exact .inr ⟨c :: piece, mark, after, rfl, hmark, List.forall_mem_cons.mpr ⟨hc, hpiece⟩⟩

-- Behind the last comma of a string the closing quote is read with the rest, unless a colon stands
-- before it.
theorem labelAt_quoted_iff {word inner trail : List Char} (hword : '"' ∉ word) :
    labelAt (inner ++ '"' :: trail) = word ↔
      ∃ piece mark after, inner = piece ++ mark :: after ∧ (mark = ',' ∨ mark = ':') ∧
        (∀ c ∈ piece, c ≠ ',' ∧ c ≠ ':') ∧ Text.trim piece = word := by
  constructor
  · rintro rfl
    rcases exists_separator inner with h | ⟨piece, mark, after, rfl, hmark, hpiece⟩
    · have hquote : labelAt (inner ++ '"' :: trail) = Text.trim (inner ++ ['"'] ++
          trail.takeWhile fun c => c != ':' && c != ',') := by
        rw [labelAt, takeWhile_separators h, List.takeWhile_cons_of_pos (by decide),
          List.append_assoc, List.singleton_append]
      have hmark : ∀ c ∈ ['"'], ¬Text.isBlank c := List.forall_mem_singleton.mpr (by decide)
      rw [hquote, Text.trim_append_mark ['"'] (List.cons_ne_nil _ _) hmark] at hword
      simp at hword
    · refine ⟨piece, mark, after, rfl, hmark, hpiece, ?_⟩
      rw [List.append_assoc, List.cons_append, labelAt_append_mark hpiece hmark]
  · rintro ⟨piece, mark, after, rfl, hmark, hpiece, rfl⟩
    rw [List.append_assoc, List.cons_append, labelAt_append_mark hpiece hmark]

namespace Argument

theorem labelAt_text (argument : Argument) : labelAt argument.text = argument.name := by
  have hlabel : ∀ c ∈ argument.label, c ≠ ',' ∧ c ≠ ':' := fun c hc =>
    ⟨(argument.isFree c hc).1, (argument.isFree c hc).2.1⟩
  rw [text, tail]
  split
  · rw [labelAt, takeWhile_separators hlabel, List.takeWhile_nil, List.append_nil, name]
  · exact labelAt_append_mark hlabel (.inr rfl) _

theorem comma_suffix_text_iff (argument : Argument) (rest : List Char) :
    ',' :: rest <:+ argument.text ↔ ∃ string, argument.value? = some (.quoted string) ∧
      ∃ inner, rest = inner ++ '"' :: string.trail ∧ ',' :: inner <:+ string.inside := by
  have hlabel : ',' ∉ argument.label := fun hm => (argument.isFree ',' hm).1 rfl
  have hblank {text : List Char} (h : Text.isBlankText text) : ',' ∉ text := fun hm =>
    absurd (Text.isBlankText_iff.mp h ',' hm) (by decide)
  rw [text, cons_suffix_append_iff hlabel, tail]
  cases argument.value? with
  | none => simp
  | some value =>
      cases value with
      | plain text noComma =>
          have hnone : ¬ (',' :: rest <:+ ':' :: text) := by
            intro hsuffix
            have hcomma : ',' ∈ ':' :: text := hsuffix.subset List.mem_cons_self
            simp [noComma] at hcomma
          simp [ArgumentValue.text, hnone]
      | quoted string =>
          have hlead : ',' ∉ ':' :: string.lead ++ ['"'] := by simp [hblank string.blankLead]
          have htrail : ',' ∉ '"' :: string.trail := by simp [hblank string.blankTrail]
          have hsplit : ':' :: string.text =
              (':' :: string.lead ++ ['"']) ++ (string.inside ++ '"' :: string.trail) := by
            simp [QuotedText.text]
          dsimp only [ArgumentValue.text]
          rw [hsplit, cons_suffix_append_iff hlead, cons_suffix_append_right htrail]
          simp

-- The labels that are read in an argument are its own one and the words that stray from a string.
theorem mem_argumentLabels_text_iff {word : List Char} (hne : word ≠ []) (hword : '"' ∉ word)
    (argument : Argument) :
    word ∈ argumentLabels argument.text ↔ argument.name = word ∨ argument.Strays word := by
  rw [mem_argumentLabels_iff, and_iff_right hne]
  simp only [List.suffix_cons_iff, List.cons.injEq, true_and, or_and_right, exists_or,
    exists_eq_left, labelAt_text, comma_suffix_text_iff]
  refine or_congr_right ?_
  constructor
  · rintro ⟨-, ⟨string, hvalue, inner, rfl, before, hinside⟩, hlabel⟩
    obtain ⟨piece, mark, after, rfl, hmark, hpiece, hspelt⟩ := (labelAt_quoted_iff hword).mp hlabel
    exact ⟨string, hvalue, before, piece, mark, after, hinside.symm, hmark, hpiece, hspelt⟩
  · rintro ⟨string, hvalue, before, piece, mark, after, hinside, hmark, hpiece, hspelt⟩
    exact ⟨_, ⟨string, hvalue, _, rfl, before, hinside.symm⟩,
      (labelAt_quoted_iff hword).mpr ⟨piece, mark, after, rfl, hmark, hpiece, hspelt⟩⟩

end Argument

-- Nothing strays from strings without commas.
theorem not_hasStray {arguments : List Argument} (word : List Char)
    (h : ∀ argument ∈ arguments, ∀ string, argument.value? = some (.quoted string) →
      ',' ∉ string.inside) :
    ¬HasStray arguments word := by
  rintro ⟨argument, hm, string, hvalue, before, piece, mark, after, hinside, -⟩
  apply h argument hm string hvalue
  simp [hinside]

theorem mem_argumentLabels_written_iff {word : List Char} (hne : word ≠ []) (hword : '"' ∉ word)
    (arguments : List Argument) :
    word ∈ argumentLabels (Argument.written arguments) ↔
      IsNamed arguments word ∨ HasStray arguments word := by
  simp only [argumentLabels_written, List.mem_flatMap,
    Argument.mem_argumentLabels_text_iff hne hword, and_or_left, exists_or, IsNamed, HasStray]

end SwiftAudit.Swift
