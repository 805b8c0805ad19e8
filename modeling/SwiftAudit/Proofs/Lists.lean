import Mathlib.Data.List.Forall2
import Mathlib.Data.List.Nodup
import Mathlib.Data.List.Pairwise
import Mathlib.Data.List.TakeDrop
import Mathlib.Data.List.TakeWhile

-- Facts on lists that several rules share.
namespace SwiftAudit

section Lists

variable {α β : Type}

theorem flatMap_ite_singleton (p : α → Bool) (f : α → β) (items : List α) :
    (items.flatMap fun a => if p a then [f a] else []) = (items.filter p).map f := by
  induction items with
  | nil => rfl
  | cons a rest ih =>
      rw [List.flatMap_cons, ih, List.filter_cons]
      cases p a <;> rfl

theorem countP_add_countP (p q : α → Bool) (items : List α)
    (h : ∀ a, ¬(p a ∧ q a)) :
    items.countP p + items.countP q = items.countP fun a => p a || q a := by
  induction items with
  | nil => rfl
  | cons a rest ih =>
      rw [List.countP_cons, List.countP_cons, List.countP_cons, ← ih]
      have hone := h a
      cases hp : p a <;> cases hq : q a <;> simp_all <;> omega

-- Of a list without repetitions only the part that holds what is counted matters.
theorem countP_of_infix {part items : List α} {p : α → Bool} (h : part <:+: items)
    (hnodup : items.Nodup) (hp : ∀ a ∈ items, p a → a ∈ part) :
    items.countP p = part.countP p := by
  obtain ⟨before, after, rfl⟩ := h
  obtain ⟨hfront, -, hafter⟩ := List.nodup_append.mp hnodup
  obtain ⟨-, -, hbefore⟩ := List.nodup_append.mp hfront
  have hzeroBefore : before.countP p = 0 := by
    rw [List.countP_eq_zero]
    intro a ha hpa
    exact hbefore a ha a (hp a (by simp [ha]) hpa) rfl
  have hzeroAfter : after.countP p = 0 := by
    rw [List.countP_eq_zero]
    intro a ha hpa
    exact hafter a (by simp [hp a (by simp [ha]) hpa]) a ha rfl
  rw [List.countP_append, List.countP_append, hzeroBefore, hzeroAfter, Nat.zero_add, Nat.add_zero]

-- Nothing is missing from what is left exactly if nothing was left out.
theorem map_filter_eq_map_iff {p : α → Bool} {f : α → β} {items : List α} :
    (items.filter p).map f = items.map f ↔ ∀ a ∈ items, p a := by
  constructor
  · intro heq
    have hlength := congrArg List.length heq
    rwa [List.length_map, List.length_map, List.length_filter_eq_length_iff] at hlength
  · intro hall
    rw [List.filter_eq_self.mpr hall]

-- What has nothing to give may as well be left out.
theorem flatMap_filter_of_nil {p : α → Bool} {f : α → List β} {items : List α}
    (h : ∀ a ∈ items, ¬p a → f a = []) : (items.filter p).flatMap f = items.flatMap f := by
  induction items with
  | nil => rfl
  | cons a rest ih =>
      obtain ⟨ha, hrest⟩ := List.forall_mem_cons.mp h
      by_cases hp : p a
      · rw [List.filter_cons_of_pos hp, List.flatMap_cons, List.flatMap_cons, ih hrest]
      · rw [List.filter_cons_of_neg hp, List.flatMap_cons, ha hp, ih hrest, List.nil_append]

-- Where the lists that come of different items have nothing in common.
theorem eq_of_mem_flatMap {f : α → List β} {items : List α} (h : (items.flatMap f).Nodup)
    {a b : α} {c : β} (ha : a ∈ items) (hb : b ∈ items) (hca : c ∈ f a) (hcb : c ∈ f b) :
    a = b := by
  by_contra hne
  have hdisjoint := (List.nodup_flatMap.mp h).2
  have hsymm : Std.Symm (Function.onFun List.Disjoint f) := ⟨fun _ _ h _ hd hd' => h hd' hd⟩
  exact hdisjoint.forall ha hb hne hca hcb

-- Lists that become equal under a map are related item by item.
theorem forall₂_of_map_eq {γ : Type} {R : α → β → Prop} {f : α → γ} {g : β → γ}
    {as : List α} {bs : List β} (h : as.map f = bs.map g)
    (hR : ∀ a ∈ as, ∀ b ∈ bs, f a = g b → R a b) : List.Forall₂ R as bs := by
  induction as generalizing bs with
  | nil =>
      rw [List.map_nil] at h
      rw [List.map_eq_nil_iff.mp h.symm]
      exact .nil
  | cons a as ih =>
      obtain ⟨b, rest, rfl, hb, hrest⟩ := List.map_eq_cons_iff.mp h.symm
      refine .cons (hR a List.mem_cons_self b List.mem_cons_self hb.symm) (ih hrest.symm ?_)
      intro a' ha b' hb'
      exact hR a' (List.mem_cons_of_mem _ ha) b' (List.mem_cons_of_mem _ hb')

section Neighbours

-- An item stands at one place only.
theorem append_cons_inj_of_nodup {a : α} {before after before' after' : List α}
    (h : (before ++ a :: after).Nodup) (heq : before ++ a :: after = before' ++ a :: after') :
    before = before' ∧ after = after' := by
  obtain ⟨hnew, -⟩ := List.nodup_cons.mp (List.nodup_middle.mp h)
  rw [List.mem_append, not_or] at hnew
  obtain ⟨hbefore, -, hafter⟩ := (List.append_cons_inj_of_notMem hnew.1 hnew.2).mp heq
  exact ⟨hbefore, hafter⟩

theorem pair_infix_iff {a b : α} {before after : List α} (h : (before ++ a :: after).Nodup) :
    [a, b] <:+: before ++ a :: after ↔ after.head? = some b := by
  constructor
  · rintro ⟨front, back, hitems⟩
    rw [List.append_assoc, List.cons_append, List.singleton_append] at hitems
    obtain ⟨-, rfl⟩ := append_cons_inj_of_nodup h hitems.symm
    rfl
  · intro hhead
    obtain ⟨rest, rfl⟩ := List.head?_eq_some_iff.mp hhead
    exact ⟨before, rest, by simp⟩

-- What stands just before an item is determined by it.
theorem eq_of_pair_infix {a a' b : α} {items : List α} (hitems : items.Nodup)
    (h : [a, b] <:+: items) (h' : [a', b] <:+: items) : a = a' := by
  obtain ⟨front, back, rfl⟩ := h
  obtain ⟨front', back', heq⟩ := h'
  have hsplit : front ++ [a] ++ b :: back = front' ++ [a'] ++ b :: back' := by simpa using heq.symm
  have hnodup : (front ++ [a] ++ b :: back).Nodup := by simpa using hitems
  obtain ⟨hbefore, -⟩ := append_cons_inj_of_nodup hnodup hsplit
  exact List.singleton_injective (List.append_inj_right' hbefore rfl)

end Neighbours

section Met

variable [BEq α] [LawfulBEq α]

-- What was met so far with one item more, which counts only when it is met first.
def meet (met : List α) (a : α) : List α := if a ∈ met then met else met ++ [a]

theorem nodup_meet {met : List α} (h : met.Nodup) (a : α) : (meet met a).Nodup := by
  unfold meet
  split
  · exact h
  · rename_i hnew
    refine List.nodup_append.mpr ⟨h, by simp, ?_⟩
    rintro other hm _ ha rfl
    rw [List.mem_singleton.mp ha] at hm
    exact hnew hm

theorem nodup_foldl_meet {met : List α} (h : met.Nodup) (rest : List α) :
    (rest.foldl meet met).Nodup := by
  induction rest generalizing met with
  | nil => exact h
  | cons a rest ih => exact ih (nodup_meet h a)

theorem eraseDups_meet (met rest : List α) (a : α) :
    (meet met a ++ rest).eraseDups = (met ++ a :: rest).eraseDups := by
  unfold meet
  split
  · rename_i hm
    rw [List.eraseDups_append, List.eraseDups_append, List.removeAll, List.removeAll,
      List.filter_cons, if_neg (by simpa using hm)]
  · rw [List.append_assoc, List.singleton_append]

theorem eraseDups_of_nodup {items : List α} (h : items.Nodup) : items.eraseDups = items := by
  induction items with
  | nil => rfl
  | cons a rest ih =>
      obtain ⟨hnew, hrest⟩ := List.nodup_cons.mp h
      have hkept : rest.filter (fun other => !other == a) = rest := by
        apply List.filter_eq_self.mpr
        intro other hm
        have hne : other ≠ a := fun heq => hnew (heq ▸ hm)
        simpa using hne
      rw [List.eraseDups_cons, hkept, ih hrest]

-- One after the other, items come in the order in which they are first met.
theorem foldl_meet {met : List α} (h : met.Nodup) (rest : List α) :
    rest.foldl meet met = (met ++ rest).eraseDups := by
  induction rest generalizing met with
  | nil => rw [List.append_nil, eraseDups_of_nodup h, List.foldl_nil]
  | cons a rest ih => rw [List.foldl_cons, ih (nodup_meet h a), eraseDups_meet]

theorem nodup_eraseDups (items : List α) : items.eraseDups.Nodup := by
  have hmet := nodup_foldl_meet List.nodup_nil items
  rwa [foldl_meet List.nodup_nil, List.nil_append] at hmet

end Met

section Marks

variable [BEq α] [LawfulBEq α]

-- A property of all lists that those without a mark have, and that goes from what stands behind
-- the first mark to the whole.
@[elab_as_elim]
theorem markInduction (mark : α) {motive : List α → Prop} (last : ∀ part, mark ∉ part → motive part)
    (more : ∀ part rest, mark ∉ part → motive rest → motive (part ++ mark :: rest))
    (items : List α) : motive items := by
  by_cases hmark : mark ∈ items
  · obtain ⟨part, rest, hitems, hpart⟩ := List.eq_append_cons_of_mem hmark
    have hshorter : rest.length < items.length := by
      rw [hitems, List.length_append, List.length_cons]
      omega
    rw [hitems]
    exact more part rest hpart (markInduction mark last more rest)
  · exact last items hmark
termination_by items.length

variable {mark : α}

omit [BEq α] [LawfulBEq α] in
theorem cons_suffix_append_iff {before rest items : List α} (h : mark ∉ before) :
    mark :: rest <:+ before ++ items ↔ mark :: rest <:+ items := by
  induction before with
  | nil => rfl
  | cons b before ih =>
      rw [List.mem_cons, not_or] at h
      rw [List.cons_append, List.suffix_cons_iff, ih h.2, or_iff_right]
      intro heq
      exact h.1 (List.cons.inj heq).1

omit [BEq α] [LawfulBEq α] in
theorem cons_suffix_append_right {after rest items : List α} (h : mark ∉ after) :
    mark :: rest <:+ items ++ after ↔
      ∃ inner, rest = inner ++ after ∧ mark :: inner <:+ items := by
  constructor
  · rintro ⟨front, heq⟩
    rcases List.append_eq_append_iff.mp heq with ⟨inner, rfl, hinner⟩ | ⟨inner, rfl, hinner⟩
    · cases inner with
      | nil =>
          have hmark : mark ∈ [] ++ after := hinner ▸ List.mem_cons_self
          exact absurd hmark h
      | cons head inner =>
          obtain ⟨rfl, rfl⟩ := List.cons.inj hinner
          exact ⟨inner, rfl, List.suffix_append _ _⟩
    · exact absurd (hinner ▸ List.mem_append_right _ List.mem_cons_self) h
  · rintro ⟨inner, rfl, front, rfl⟩
    exact ⟨front, by rw [List.append_assoc, List.cons_append]⟩

theorem takeWhile_bne_of_notMem {part : List α} (h : mark ∉ part) (rest : List α) :
    (part ++ rest).takeWhile (· != mark) = part ++ rest.takeWhile (· != mark) := by
  apply List.takeWhile_append_of_pos
  intro a ha
  exact bne_iff_ne.mpr fun heq => h (heq ▸ ha)

-- The parts of a list between marks start at its front and behind each mark.
theorem mem_splitOn_iff {part items : List α} :
    part ∈ items.splitOn mark ↔
      ∃ rest, mark :: rest <:+ mark :: items ∧ rest.takeWhile (· != mark) = part := by
  induction items using markInduction mark with
  | last only h =>
      have hnone {rest : List α} : ¬mark :: rest <:+ only :=
        fun hsuffix => h (hsuffix.subset List.mem_cons_self)
      have hall := takeWhile_bne_of_notMem h []
      rw [List.append_nil, List.takeWhile_nil, List.append_nil] at hall
      rw [List.splitOn_eq_singleton h, List.mem_singleton, eq_comm]
      simp only [List.suffix_cons_iff, hnone, or_false, List.cons.injEq, true_and,
        exists_eq_left, hall]
  | more first rest h ih =>
      have hfirst := takeWhile_bne_of_notMem h (mark :: rest)
      rw [List.takeWhile_cons_of_neg (by simp), List.append_nil] at hfirst
      have hcons {after : List α} : mark :: after <:+ mark :: (first ++ mark :: rest) ↔
          after = first ++ mark :: rest ∨ mark :: after <:+ mark :: rest := by
        rw [List.suffix_cons_iff, cons_suffix_append_iff h, List.cons.injEq, and_iff_right rfl]
      rw [List.splitOn_append_cons_self_of_not_mem h, List.mem_cons, ih, eq_comm]
      simp only [hcons, or_and_right, exists_or, exists_eq_left, hfirst]

end Marks

section Runs

-- A list is cut behind its longest front with a property: where the front has it, and what comes
-- next does not.
theorem span_eq_iff {p : α → Bool} {items run rest : List α} :
    items.span p = (run, rest) ↔
      items = run ++ rest ∧ (∀ a ∈ run, p a) ∧ ∀ a ∈ rest.head?, ¬p a := by
  rw [List.span_eq_takeWhile_dropWhile, Prod.mk.injEq]
  constructor
  · rintro ⟨rfl, rfl⟩
    refine ⟨List.takeWhile_append_dropWhile.symm, fun a ha => List.mem_takeWhile_imp ha, ?_⟩
    intro a ha hp
    have hnot := List.head?_dropWhile_not p items
    rw [Option.mem_def.mp ha] at hnot
    simp [hp] at hnot
  · rintro ⟨rfl, hrun, hrest⟩
    rw [List.takeWhile_append_of_pos hrun, List.dropWhile_append_of_pos hrun]
    cases rest with
    | nil => exact ⟨List.append_nil run, rfl⟩
    | cons a rest =>
        have ha : ¬p a := hrest a rfl
        rw [List.takeWhile_cons_of_neg ha, List.dropWhile_cons_of_neg ha]
        exact ⟨List.append_nil run, rfl⟩

theorem dropWhile_eq_iff {p : α → Bool} {items rest : List α} :
    items.dropWhile p = rest ↔
      ∃ run, items = run ++ rest ∧ (∀ a ∈ run, p a) ∧ ∀ a ∈ rest.head?, ¬p a := by
  simp only [← span_eq_iff, List.span_eq_takeWhile_dropWhile, Prod.mk.injEq, exists_eq_left']

end Runs

section Firsts

variable {κ : Type} [DecidableEq κ] (key : α → κ)

-- What stands behind an item is the first one with its key if the key is another one than that
-- item has.
theorem find?_cons_eq_some_iff {a b : α} {items : List α} (hne : b ≠ a) :
    (a :: items).find? (key · = key b) = some b ↔
      key a ≠ key b ∧ items.find? (key · = key b) = some b := by
  by_cases hkey : key a = key b
  · rw [List.find?_cons_of_pos (by simpa using hkey)]
    constructor
    · intro h
      exact absurd (Option.some.inj h).symm hne
    · intro h
      exact absurd hkey h.1
  · rw [List.find?_cons_of_neg (by simpa using hkey)]
    exact (and_iff_right hkey).symm

-- In ascending order what stands behind the item that is found ranks above it.
theorem eq_or_rank_lt_of_find? {rank : α → Nat} {p : α → Bool} {items : List α}
    (h : items.Pairwise fun a b => rank a < rank b) {a b : α} (ha : items.find? p = some a)
    (hb : b ∈ items) (hp : p b) : b = a ∨ rank a < rank b := by
  obtain ⟨-, before, after, rfl, hbefore⟩ := List.find?_eq_some_iff_append.mp ha
  rcases List.mem_append.mp hb with hb | hb
  · have hnot := hbefore b hb
    rw [hp] at hnot
    cases hnot
  · rcases List.mem_cons.mp hb with rfl | hb
    · exact .inl rfl
    · exact .inr ((List.pairwise_cons.mp (List.pairwise_append.mp h).2.1).1 b hb)

-- In ascending order the first item with a key is the lowest one.
theorem find?_eq_some_iff_of_ascending {rank : α → Nat} {items : List α}
    (h : items.Pairwise fun a b => rank a < rank b) {a : α} (ha : a ∈ items) :
    items.find? (key · = key a) = some a ↔ ∀ b ∈ items, key b = key a → rank a ≤ rank b := by
  constructor
  · intro hfind b hb hkey
    rcases eq_or_rank_lt_of_find? h hfind hb (decide_eq_true hkey) with rfl | hlt
    · exact Nat.le_refl _
    · exact Nat.le_of_lt hlt
  · intro hlowest
    have hfound : (items.find? (key · = key a)).isSome :=
      List.find?_isSome.mpr ⟨a, ha, decide_eq_true rfl⟩
    obtain ⟨first, hfirst⟩ := Option.isSome_iff_exists.mp hfound
    have hkey : key first = key a := by simpa using List.find?_some hfirst
    have hle := hlowest first (List.mem_of_find?_eq_some hfirst) hkey
    rcases eq_or_rank_lt_of_find? h hfirst ha (decide_eq_true rfl) with heq | hlt
    · rw [hfirst, heq]
    · exact absurd hlt (Nat.not_lt.mpr hle)

variable [DecidableEq α]

-- Of items that differ, those that are the first ones with their key.
def firsts (items : List α) : List α :=
  items.filter fun a => items.find? (key · = key a) = some a

theorem firsts_cons {a : α} {items : List α} (h : a ∉ items) :
    firsts key (a :: items) = a :: (firsts key items).filter fun b => key a ≠ key b := by
  rw [firsts, List.filter_cons_of_pos (by simp), firsts, List.filter_filter]
  congr 1
  apply List.filter_congr
  intro b hb
  have hne : b ≠ a := by
    rintro rfl
    exact h hb
  rw [← Bool.decide_and]
  exact decide_eq_decide.mpr (find?_cons_eq_some_iff key hne)

section Seen

variable [BEq κ] [LawfulBEq κ]

-- An item whose key was seen before leaves nothing out that is not left out anyway.
theorem filter_firsts_of_seen {a : α} {items : List α} {seen : List κ} (h : a ∉ items)
    (hseen : seen.contains (key a)) :
    (firsts key (a :: items)).filter (fun b => !seen.contains (key b)) =
      (firsts key items).filter (fun b => !seen.contains (key b)) := by
  rw [firsts_cons key h, List.filter_cons_of_neg (by simpa using hseen), List.filter_filter]
  apply List.filter_congr
  intro b _
  by_cases hsame : key a = key b
  · simp only [← hsame, hseen, Bool.not_true, Bool.false_and]
  · simp [hsame]

theorem filter_firsts_of_new {a : α} {items : List α} {seen : List κ} (h : a ∉ items)
    (hnew : ¬seen.contains (key a)) :
    (firsts key (a :: items)).filter (fun b => !seen.contains (key b)) =
      a :: (firsts key items).filter (fun b => !(key a :: seen).contains (key b)) := by
  rw [firsts_cons key h, List.filter_cons_of_pos (by simpa using hnew), List.filter_filter]
  congr 1
  apply List.filter_congr
  intro b _
  rw [List.contains_cons, Bool.not_or, Bool.and_comm]
  congr 1
  by_cases hsame : key a = key b
  · simp [hsame]
  · simp [hsame, Ne.symm hsame]

end Seen

-- Of the items with one key the first is kept, and no other one.
theorem filter_firsts {items : List α} (h : items.Nodup) (k : κ) :
    (firsts key items).filter (key · = k) = (items.find? (key · = k)).toList := by
  induction items with
  | nil => rfl
  | cons a items ih =>
      obtain ⟨hnew, hitems⟩ := List.nodup_cons.mp h
      rw [firsts_cons key hnew]
      by_cases hkey : key a = k
      · rw [List.filter_cons_of_pos (by simpa using hkey),
          List.find?_cons_of_pos (by simpa using hkey), List.filter_filter,
          List.filter_eq_nil_iff.mpr]
        · rfl
        · intro b _
          simp [hkey, eq_comm]
      · rw [List.filter_cons_of_neg (by simpa using hkey),
          List.find?_cons_of_neg (by simpa using hkey), ← ih hitems, List.filter_filter]
        apply List.filter_congr
        intro b _
        by_cases hb : key b = k
        · simp [hb, hkey]
        · simp [hb]

theorem mem_map_firsts_iff (items : List α) (k : κ) :
    k ∈ (firsts key items).map key ↔ k ∈ items.map key := by
  constructor
  · intro hm
    exact (List.filter_sublist.map key).subset hm
  · intro hm
    obtain ⟨a, ha, rfl⟩ := List.mem_map.mp hm
    have hfound : (items.find? (key · = key a)).isSome :=
      List.find?_isSome.mpr ⟨a, ha, decide_eq_true rfl⟩
    obtain ⟨first, hfirst⟩ := Option.isSome_iff_exists.mp hfound
    have hkey : key first = key a := by simpa using List.find?_some hfirst
    have hmem := List.mem_of_find?_eq_some hfirst
    refine List.mem_map.mpr ⟨first, List.mem_filter.mpr ⟨hmem, ?_⟩, hkey⟩
    rw [hkey, hfirst]
    exact decide_eq_true rfl

theorem nodup_map_firsts {items : List α} (h : items.Nodup) :
    ((firsts key items).map key).Nodup := by
  have hfirsts : (firsts key items).Nodup := h.sublist List.filter_sublist
  rw [List.Nodup, List.pairwise_map]
  refine hfirsts.imp_of_mem ?_
  intro a b ha hb hne hkey
  have hfirst := of_decide_eq_true (List.mem_filter.mp ha).2
  have hfirst' := of_decide_eq_true (List.mem_filter.mp hb).2
  rw [hkey, hfirst'] at hfirst
  exact hne (Option.some.inj hfirst).symm

end Firsts

end Lists

end SwiftAudit
