import SwiftAudit.Check
import SwiftAudit.CommandLine.Arguments
import SwiftAudit.Proofs.Except

namespace SwiftAudit.CommandLine

-- A change of options that comes to the same before and after whatever an argument sets.
structure Options.Commutes (change : Options → Options) : Prop where
  source (o : Options) (text : String) :
    change { o with source := some text } = { change o with source := some text }
  check (o : Options) (name : String) :
    change { o with checks := o.checks ++ [name] } =
      { change o with checks := (change o).checks ++ [name] }
  listChecks (o : Options) :
    change { o with listChecks := true } = { change o with listChecks := true }
  report (o : Options) (path : String) :
    change { o with report := some path } = { change o with report := some path }
  legacyCategories (o : Options) :
    change { o with legacyCategories := true } = { change o with legacyCategories := true }
  config (o : Options) (path : String) :
    change { o with config := some path } = { change o with config := some path }
  verbose (o : Options) : change { o with verbose := true } = { change o with verbose := true }
  quiet (o : Options) : change { o with quiet := true } = { change o with quiet := true }

def Options.speakUp (options : Options) : Options := { options with verbose := true }

def Options.hush (options : Options) : Options := { options with quiet := true }

-- Checks that are asked for before all others.
def Options.withChecks (names : List String) (options : Options) : Options :=
  { options with checks := names ++ options.checks }

theorem Options.commutes_speakUp : Commutes speakUp := by
  constructor <;> intros <;> rfl

theorem Options.commutes_hush : Commutes hush := by
  constructor <;> intros <;> rfl

theorem Options.commutes_withChecks (names : List String) : Commutes (withChecks names) := by
  constructor
  case check =>
    intro o name
    simp only [withChecks, List.append_assoc]
  all_goals
    intros
    rfl

namespace Progress

def revise (change : Options → Options) (progress : Progress) : Progress :=
  { progress with options := change progress.options }

variable {change : Options → Options}

theorem addSurplus_revise (progress : Progress) :
    (progress.revise change).addSurplus = progress.addSurplus.revise change := rfl

theorem addWord_revise (h : Options.Commutes change) (progress : Progress) (text : String) :
    (progress.revise change).addWord text = (progress.addWord text).revise change := by
  obtain ⟨options, passed, surplus⟩ := progress
  cases passed with
  | true => rfl
  | false => exact congrArg (Progress.mk · true surplus) (h.source options text).symm

theorem addSeparator_revise (progress : Progress) :
    (progress.revise change).addSeparator = progress.addSeparator.revise change := by
  obtain ⟨options, passed, surplus⟩ := progress
  cases passed <;> rfl

theorem addSwitch_revise (h : Options.Commutes change) (progress : Progress) (switch : Switch) :
    (progress.revise change).addSwitch switch =
      (progress.addSwitch switch).map (Progress.revise change) := by
  cases switch <;>
    simp only [addSwitch, Progress.revise, map_ok, map_error, h.listChecks, h.report,
      h.legacyCategories, h.verbose, h.quiet]

theorem addValue_revise (h : Options.Commutes change) (progress : Progress) (value : String)
    (switch : Switch) :
    (progress.revise change).addValue value switch =
      (progress.addValue value switch).map (Progress.revise change) := by
  cases switch <;>
    simp only [addValue, Progress.revise, map_ok, map_error, h.check, h.config, h.report]

theorem addSwitches_revise (h : Options.Commutes change) (progress : Progress)
    (switches : List Switch) :
    switches.foldlM addSwitch (progress.revise change) =
      (switches.foldlM addSwitch progress).map (Progress.revise change) := by
  induction switches generalizing progress with
  | nil => rfl
  | cons switch rest ih =>
      rw [List.foldlM_cons, List.foldlM_cons, addSwitch_revise h]
      cases progress.addSwitch switch with
      | error stop => rfl
      | ok next => exact ih next

theorem addCluster_revise (h : Options.Commutes change) (progress : Progress) (switch : Switch)
    (letters : List Char) :
    (progress.revise change).addCluster switch letters =
      (progress.addCluster switch letters).map (Progress.revise change) := by
  unfold addCluster
  cases cluster switch letters with
  | error stop => rfl
  | ok found =>
      obtain ⟨switches, surplus⟩ := found
      simp only [ok_bind, addSwitches_revise h]
      cases switches.foldlM addSwitch progress with
      | error stop => rfl
      | ok next => cases surplus <;> rfl

end Progress

-- What arguments do is the same whether options are changed before or after.
theorem consume_revise {change : Options → Options} (h : Options.Commutes change)
    (progress : Progress) (items : List Item) :
    consume (progress.revise change) items =
      (consume progress items).map (Progress.revise change) := by
  have hbind (step : Except Stop Progress) (rest : List Item)
      (ih : ∀ next : Progress, consume (next.revise change) rest =
        (consume next rest).map (Progress.revise change)) :
      (step.map (Progress.revise change) >>= fun next => consume next rest) =
        (step >>= fun next => consume next rest).map (Progress.revise change) := by
    cases step with
    | error stop => rfl
    | ok next => exact ih next
  fun_induction consume progress items with
  | case1 => rfl
  | case2 progress text rest ih => rw [consume, Progress.addWord_revise h, ih]
  | case3 progress text rest hnext ih =>
      rw [consume, Progress.addWord_revise h, ih]
      exact hnext
  | case4 progress text rest ih => rw [consume, Progress.addWord_revise h, ih]
  | case5 progress rest hnext ih =>
      rw [consume, Progress.addSeparator_revise, ih]
      exact hnext
  | case6 progress rest ih => rw [consume, Progress.addSurplus_revise, ih]
  | case7 progress switch letters rest ih =>
      rw [consume, Progress.addCluster_revise h, hbind _ _ ih]
  | case8 progress switch value rest ih => rw [consume, Progress.addValue_revise h, hbind _ _ ih]
  | case9 progress switch text rest htakes ih =>
      rw [consume, if_pos htakes, Progress.addValue_revise h, hbind _ _ ih]
  | case10 progress switch text rest htakes ih =>
      rw [consume, if_neg htakes, Progress.addSwitch_revise h, hbind _ _ ih]
  | case11 progress switch rest hnext ih =>
      rw [consume, Progress.addSwitch_revise h, hbind _ _ ih]
      exact hnext

-- Arguments that do nothing but to change the options, put before all others.
theorem parse_of_items {change : Options → Options} (h : Options.Commutes change)
    (first : List String) (leading : List Item) (arguments : List String)
    (hitems : items (first ++ arguments) = (items arguments).map (leading ++ ·))
    (hleading : ∀ rest, consume ⟨Options.none, false, false⟩ (leading ++ rest) =
      consume (Progress.revise change ⟨Options.none, false, false⟩) rest) :
    parse (first ++ arguments) = (parse arguments).map change := by
  unfold parse
  rw [hitems]
  cases items arguments with
  | error stop => rfl
  | ok rest =>
      simp only [map_ok, ok_bind, hleading, consume_revise h]
      cases consume ⟨Options.none, false, false⟩ rest with
      | error stop => rfl
      | ok progress =>
          obtain ⟨options, passed, surplus⟩ := progress
          cases surplus <;> rfl

-- An argument that is no separator is an item of its own.
theorem items_cons {argument : String} {leading : Item} (h : item argument = .ok leading)
    (hne : argument ≠ "--") (rest : List String) :
    items (argument :: rest) = (items rest).map (leading :: ·) := by
  rw [items, h]
  · cases items rest <;> rfl
  · exact hne

theorem parse_verbose (arguments : List String) :
    parse ("-v" :: arguments) = (parse arguments).map Options.speakUp :=
  parse_of_items Options.commutes_speakUp ["-v"] [.letters .verbose []] arguments
    (items_cons rfl (by decide) arguments) (fun _ => rfl)

theorem parse_quiet (arguments : List String) :
    parse ("-q" :: arguments) = (parse arguments).map Options.hush :=
  parse_of_items Options.commutes_hush ["-q"] [.letters .quiet []] arguments
    (items_cons rfl (by decide) arguments) (fun _ => rfl)

-- The arguments that ask for checks.
def asking (checks : List Check) : List String :=
  checks.flatMap fun check => ["--check", check.name]

theorem item_name (check : Check) : item check.name = .ok (.word check.name) := by
  cases check <;> rfl

theorem name_ne_separator (check : Check) : check.name ≠ "--" := by
  cases check <;> decide

theorem parse_asking (checks : List Check) (arguments : List String) :
    parse (asking checks ++ arguments) =
      (parse arguments).map (Options.withChecks (checks.map Check.name)) := by
  induction checks with
  | nil => cases h : parse arguments <;> simp [asking, h, Options.withChecks]
  | cons check rest ih =>
      have hitems (later : List String) :
          items (["--check", check.name] ++ later) =
            (items later).map ([.long .check none, .word check.name] ++ ·) := by
        rw [List.cons_append, List.singleton_append, items_cons rfl (by decide),
          items_cons (item_name check) (name_ne_separator check)]
        cases items later <;> rfl
      have hfirst := parse_of_items (Options.commutes_withChecks [check.name])
        ["--check", check.name] [.long .check none, .word check.name]
        (asking rest ++ arguments) (hitems _) (fun _ => rfl)
      rw [asking, List.flatMap_cons, List.append_assoc, ← asking, hfirst, ih]
      cases parse arguments with
      | error stop => rfl
      | ok options => rfl

-- A switch takes nothing from what stands before it, so arguments can be cut there.
theorem consume_append (progress : Progress) (before after : List Item) (switch : Switch)
    (value : Option String) :
    consume progress (before ++ .long switch value :: after) =
      consume progress before >>= fun next => consume next (.long switch value :: after) := by
  have hbind (step : Except Stop Progress) (rest : List Item)
      (ih : ∀ next, consume next (rest ++ .long switch value :: after) =
        consume next rest >>= fun last => consume last (.long switch value :: after)) :
      (step >>= fun next => consume next (rest ++ .long switch value :: after)) =
        (step >>= fun next => consume next rest) >>=
          fun last => consume last (.long switch value :: after) := by
    cases step with
    | error stop => rfl
    | ok next => exact ih next
  fun_induction consume progress before with
  | case1 => rfl
  | case2 progress text rest ih => exact ih
  | case3 progress text rest hnext ih =>
      cases rest with
      | nil => rfl
      | cons item rest =>
          cases item with
          | separator => exact absurd rfl (hnext rest)
          | _ => exact ih
  | case4 progress text rest ih => exact ih
  | case5 progress rest hnext ih =>
      cases rest with
      | nil => rfl
      | cons item rest =>
          cases item with
          | word text => exact absurd rfl (hnext text rest)
          | _ => exact ih
  | case6 progress rest ih => exact ih
  | case7 progress first letters rest ih => exact hbind _ _ ih
  | case8 progress first text rest ih => exact hbind _ _ ih
  | case9 progress first text rest htakes ih =>
      rw [List.cons_append, List.cons_append, consume, if_pos htakes, hbind _ _ ih]
  | case10 progress first text rest htakes ih =>
      rw [List.cons_append, List.cons_append, consume, if_neg htakes]
      exact hbind _ _ ih
  | case11 progress first rest hnext ih =>
      cases rest with
      | nil => cases h : progress.addSwitch first <;> simp [consume, h]
      | cons item rest =>
          cases item with
          | word text => exact absurd rfl (hnext text rest)
          | _ =>
              rw [List.cons_append, List.cons_append, consume]
              · exact hbind _ _ ih
              · nofun

theorem items_append (before after : List String) (h : "--" ∉ before) :
    items (before ++ after) = do
      let first ← items before
      let second ← items after
      return first ++ second := by
  induction before with
  | nil => cases hafter : items after <;> simp [items, hafter]
  | cons argument rest ih =>
      have hne : argument ≠ "--" := fun heq => h (heq ▸ List.mem_cons_self)
      rw [List.cons_append, items, items, ih fun hm => h (List.mem_cons_of_mem _ hm)]
      · cases item argument with
        | error stop => rfl
        | ok found => cases items rest <;> cases items after <;> rfl
      · exact hne
      · exact hne

-- Checks that are asked for after all others.
def Options.andChecks (names : List String) (options : Options) : Options :=
  { options with checks := options.checks ++ names }

theorem parse_append_check (arguments : List String) (check : Check) (h : "--" ∉ arguments) :
    parse (arguments ++ ["--check", check.name]) =
      (parse arguments).map (Options.andChecks [check.name]) := by
  have hitems : items ["--check", check.name] = .ok [.long .check none, .word check.name] := by
    rw [items_cons rfl (by decide), items_cons (item_name check) (name_ne_separator check)]
    rfl
  unfold parse
  rw [items_append arguments _ h, hitems]
  cases items arguments with
  | error stop => rfl
  | ok found =>
      simp only [ok_bind, pure_eq_ok, consume_append]
      cases consume ⟨Options.none, false, false⟩ found with
      | error stop => rfl
      | ok progress =>
          obtain ⟨options, passed, surplus⟩ := progress
          cases surplus <;> rfl

-- What is asked for at the end is done at the end, unless a separator makes words of it.
theorem parse_append_asking (checks : List Check) (arguments : List String)
    (h : "--" ∉ arguments) :
    parse (arguments ++ asking checks) =
      (parse arguments).map (Options.andChecks (checks.map Check.name)) := by
  induction checks generalizing arguments with
  | nil => cases hparse : parse arguments <;> simp [asking, hparse, Options.andChecks]
  | cons check rest ih =>
      have hseparator : "--" ∉ arguments ++ ["--check", check.name] := by
        simp [h, (name_ne_separator check).symm]
      rw [asking, List.flatMap_cons, ← List.append_assoc, ← asking, ih _ hseparator,
        parse_append_check arguments check h]
      cases parse arguments with
      | error stop => rfl
      | ok options => simp [Options.andChecks]

end SwiftAudit.CommandLine
