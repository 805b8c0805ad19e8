import SwiftAudit.Transcript

namespace SwiftAudit

section Except

variable {ε α β σ : Type}

@[simp] theorem pure_eq_ok (a : α) : (pure a : Except ε α) = .ok a := rfl

@[simp] theorem ok_bind (a : α) (next : α → Except ε β) : (.ok a >>= next) = next a := rfl

@[simp] theorem error_bind (e : ε) (next : α → Except ε β) :
    (.error e >>= next) = .error e := rfl

@[simp] theorem map_ok (f : α → β) (a : α) : (.ok a : Except ε α).map f = .ok (f a) := rfl

@[simp] theorem map_error (f : α → β) (e : ε) :
    (.error e : Except ε α).map f = .error e := rfl

theorem bind_eq_error_iff (first : Except ε α) (next : α → Except ε β) (e : ε) :
    (first >>= next) = .error e ↔ first = .error e ∨ ∃ a, first = .ok a ∧ next a = .error e := by
  cases first <;> simp

theorem exists_of_bind_eq_ok {first : Except ε α} {next : α → Except ε β} {b : β}
    (h : (first >>= next) = .ok b) : ∃ a, first = .ok a ∧ next a = .ok b := by
  cases first with
  | error e => cases h
  | ok a => exact ⟨a, rfl, h⟩

theorem exists_ok_iff (x : Except ε α) : (∃ a, x = .ok a) ↔ ∀ e, x ≠ .error e := by
  cases x <;> simp

theorem flatMapM_append (f : α → Except ε (List β)) (a b : List α) :
    (a ++ b).flatMapM f = do
      let first ← a.flatMapM f
      let second ← b.flatMapM f
      return first ++ second := by
  induction a with
  | nil => cases h : b.flatMapM f <;> simp [h]
  | cons head tail ih =>
      rw [List.cons_append, List.flatMapM_cons, List.flatMapM_cons, ih]
      cases f head <;> cases tail.flatMapM f <;> cases b.flatMapM f <;> simp

theorem flatMapM_map (f : α → Except ε (List β)) (g : σ → α) (items : List σ) :
    (items.map g).flatMapM f = items.flatMapM fun item => f (g item) := by
  induction items with
  | nil => rfl
  | cons head tail ih => rw [List.map_cons, List.flatMapM_cons, List.flatMapM_cons, ih]

-- What comes before all elements may as well come before each, if there are any.
theorem bind_flatMapM (first : Except ε σ) (f : σ → α → Except ε (List β)) (items : List α)
    (h : items ≠ []) :
    (first >>= fun s => items.flatMapM (f s)) = items.flatMapM fun item => first >>= (f · item) := by
  cases first with
  | ok s => rfl
  | error e =>
      cases items with
      | nil => exact absurd rfl h
      | cons head tail => rw [List.flatMapM_cons, error_bind, error_bind, error_bind]

-- The first element that fails decides; what stands behind it is not looked at.
theorem flatMapM_eq_error_iff (f : α → Except ε (List β)) (items : List α) (e : ε) :
    items.flatMapM f = .error e ↔
      ∃ before item after, items = before ++ item :: after ∧
        (∀ other ∈ before, ∀ e, f other ≠ .error e) ∧ f item = .error e := by
  induction items with
  | nil => simp
  | cons head tail ih =>
      rw [List.flatMapM_cons, bind_eq_error_iff]
      constructor
      · rintro (h | ⟨found, hf, h⟩)
        · exact ⟨[], head, tail, rfl, by simp, h⟩
        · obtain ht | ⟨rest, -, hr⟩ := (bind_eq_error_iff _ _ _).mp h
          · obtain ⟨before, item, after, rfl, hb, hi⟩ := ih.mp ht
            refine ⟨head :: before, item, after, rfl, ?_, hi⟩
            simpa [hf] using hb
          · cases hr
      · rintro ⟨before, item, after, heq, hb, hi⟩
        cases before with
        | nil =>
            obtain ⟨rfl, rfl⟩ := List.cons.inj heq
            exact .inl hi
        | cons first before =>
            obtain ⟨rfl, rfl⟩ := List.cons.inj heq
            obtain ⟨found, hf⟩ := (exists_ok_iff (f head)).mpr (hb head (by simp))
            refine .inr ⟨found, hf, (bind_eq_error_iff _ _ _).mpr (.inl (ih.mpr ?_))⟩
            exact ⟨before, item, after, rfl, fun other ho => hb other (by simp [ho]), hi⟩

theorem exists_flatMapM_eq_ok_iff (f : α → Except ε (List β)) (items : List α) :
    (∃ found, items.flatMapM f = .ok found) ↔ ∀ item ∈ items, ∃ found, f item = .ok found := by
  induction items with
  | nil => simp
  | cons head tail ih =>
      rw [List.flatMapM_cons, List.forall_mem_cons, ← ih]
      cases f head <;> cases tail.flatMapM f <;> simp

theorem mem_of_flatMapM_eq_ok (f : α → Except ε (List β)) (items : List α) (found : List β)
    (h : items.flatMapM f = .ok found) (b : β) (hm : b ∈ found) :
    ∃ item ∈ items, ∃ part, f item = .ok part ∧ b ∈ part := by
  induction items generalizing found with
  | nil =>
      cases h
      cases hm
  | cons head tail ih =>
      rw [List.flatMapM_cons] at h
      obtain ⟨part, hpart, h⟩ := exists_of_bind_eq_ok h
      obtain ⟨rest, hrest, h⟩ := exists_of_bind_eq_ok h
      cases h
      rcases List.mem_append.mp hm with hm | hm
      · exact ⟨head, List.mem_cons_self, part, hpart, hm⟩
      · obtain ⟨item, hi, hitem⟩ := ih rest hrest hm
        exact ⟨item, List.mem_cons_of_mem _ hi, hitem⟩

-- What is found among changed elements is what is found among the elements, changed.
theorem flatMapM_map_of (f : α → Except ε (List β)) (f' : σ → Except ε (List β)) (change : α → σ)
    (changeFound : β → β) (items : List α)
    (hf : ∀ item ∈ items, f' (change item) = (f item).map (List.map changeFound)) :
    (items.map change).flatMapM f' = (items.flatMapM f).map (List.map changeFound) := by
  induction items with
  | nil => rfl
  | cons head tail ih =>
      have htail := ih fun item hm => hf item (List.mem_cons_of_mem _ hm)
      rw [List.map_cons, List.flatMapM_cons, List.flatMapM_cons, hf head List.mem_cons_self,
        htail]
      cases f head with
      | error e => rfl
      | ok found => cases tail.flatMapM f <;> simp

-- Where the elements fail in one way only, it does not matter which of them comes first.
theorem flatMapM_fails_iff (f : α → Except ε (List β)) (p : α → Prop) (e₀ : ε)
    (hf : ∀ item e, f item = .error e ↔ e = e₀ ∧ p item) (items : List α) (e : ε) :
    items.flatMapM f = .error e ↔ e = e₀ ∧ ∃ item ∈ items, p item := by
  induction items with
  | nil => simp
  | cons head tail ih =>
      rw [List.flatMapM_cons, bind_eq_error_iff, hf]
      constructor
      · rintro (⟨he, hp⟩ | ⟨found, -, h⟩)
        · exact ⟨he, head, by simp, hp⟩
        · obtain ht | ⟨rest, -, hr⟩ := (bind_eq_error_iff _ _ _).mp h
          · obtain ⟨he, item, hm, hp⟩ := ih.mp ht
            exact ⟨he, item, by simp [hm], hp⟩
          · cases hr
      · rintro ⟨he, item, hm, hp⟩
        cases hh : f head with
        | error e' => exact .inl ⟨he, ((hf head e').mp hh).2⟩
        | ok found =>
            have hne : item ≠ head := by
              rintro rfl
              simp [(hf item e₀).mpr ⟨rfl, hp⟩] at hh
            have ht := ih.mpr ⟨he, item, (List.mem_cons.mp hm).resolve_left hne, hp⟩
            exact .inr ⟨found, rfl, (bind_eq_error_iff _ _ _).mpr (.inl ht)⟩

-- What every step that succeeds keeps, a fold that succeeds keeps.
theorem foldlM_preserves (step : σ → α → Except ε σ) (p : σ → Prop) (items : List α)
    (hstep : ∀ state next, ∀ item ∈ items, p state → step state item = .ok next → p next)
    {state last : σ} (hstate : p state) (h : items.foldlM step state = .ok last) : p last := by
  induction items generalizing state with
  | nil =>
      cases h
      exact hstate
  | cons head tail ih =>
      rw [List.foldlM_cons] at h
      obtain ⟨next, hnext, h⟩ := exists_of_bind_eq_ok h
      have hp := hstep state next head List.mem_cons_self hstate hnext
      exact ih (fun state next item hm => hstep state next item (List.mem_cons_of_mem _ hm)) hp h

-- Where a step fails by its element alone, the first element that fails decides.
theorem foldlM_eq_error_iff (step : σ → α → Except ε σ) (fails : α → ε → Prop) (items : List α)
    (hstep : ∀ state, ∀ item ∈ items, ∀ e, step state item = .error e ↔ fails item e)
    (state : σ) (e : ε) :
    items.foldlM step state = .error e ↔
      ∃ before item after, items = before ++ item :: after ∧
        (∀ other ∈ before, ∀ e, ¬fails other e) ∧ fails item e := by
  induction items generalizing state with
  | nil => simp
  | cons head tail ih =>
      have hhead := fun state => hstep state head List.mem_cons_self
      have htail := ih fun state item hm => hstep state item (List.mem_cons_of_mem _ hm)
      rw [List.foldlM_cons, bind_eq_error_iff]
      constructor
      · rintro (h | ⟨next, hnext, h⟩)
        · exact ⟨[], head, tail, rfl, nofun, (hhead state e).mp h⟩
        · obtain ⟨before, item, after, rfl, hb, hi⟩ := (htail next).mp h
          refine ⟨head :: before, item, after, rfl, List.forall_mem_cons.mpr ⟨?_, hb⟩, hi⟩
          intro e hfails
          rw [(hhead state e).mpr hfails] at hnext
          cases hnext
      · rintro ⟨before, item, after, heq, hb, hi⟩
        cases before with
        | nil =>
            obtain ⟨rfl, rfl⟩ := List.cons.inj heq
            exact .inl ((hhead state e).mpr hi)
        | cons first before =>
            obtain ⟨rfl, rfl⟩ := List.cons.inj heq
            obtain ⟨hfirst, hb⟩ := List.forall_mem_cons.mp hb
            obtain ⟨next, hnext⟩ := (exists_ok_iff (step state head)).mpr fun e h =>
              hfirst e ((hhead state e).mp h)
            exact .inr ⟨next, hnext, (htail next).mpr ⟨before, item, after, rfl, hb, hi⟩⟩

-- A fold whose steps fail by their element alone, whatever was gathered before.
theorem foldlM_fails_iff (step : σ → α → Except ε σ) (p : α → Prop) (e₀ : ε)
    (hstep : ∀ state item e, step state item = .error e ↔ e = e₀ ∧ p item)
    (items : List α) (state : σ) (e : ε) :
    items.foldlM step state = .error e ↔ e = e₀ ∧ ∃ item ∈ items, p item := by
  induction items generalizing state with
  | nil => simp
  | cons head tail ih =>
      rw [List.foldlM_cons, bind_eq_error_iff, hstep]
      constructor
      · rintro (⟨he, hp⟩ | ⟨next, -, h⟩)
        · exact ⟨he, head, by simp, hp⟩
        · obtain ⟨he, item, hm, hp⟩ := (ih next).mp h
          exact ⟨he, item, by simp [hm], hp⟩
      · rintro ⟨he, item, hm, hp⟩
        cases hh : step state head with
        | error e' => exact .inl ⟨he, ((hstep state head e').mp hh).2⟩
        | ok next =>
            have hne : item ≠ head := by
              rintro rfl
              simp [(hstep state item e₀).mpr ⟨rfl, hp⟩] at hh
            exact .inr ⟨next, rfl, (ih next).mpr
              ⟨he, item, (List.mem_cons.mp hm).resolve_left hne, hp⟩⟩

end Except

end SwiftAudit
