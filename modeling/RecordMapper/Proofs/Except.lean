import Mathlib.Data.List.Forall2

namespace RecordMapper

theorem except_bind_eq_ok {ε α β : Type} {x : Except ε α} {f : α → Except ε β} {b : β}
    (h : (x >>= f) = .ok b) : ∃ a, x = .ok a ∧ f a = .ok b := by
  cases x with
  | error e => contradiction
  | ok a => exact ⟨a, rfl, h⟩

theorem except_bind_eq_error {ε α β : Type} {x : Except ε α} {f : α → Except ε β} {e : ε}
    (h : (x >>= f) = .error e) : x = .error e ∨ ∃ a, x = .ok a ∧ f a = .error e := by
  cases x with
  | error e' =>
    cases h
    exact .inl rfl
  | ok a => exact .inr ⟨a, rfl, h⟩

theorem except_map_eq_ok {ε α β : Type} {x : Except ε α} {f : α → β} {b : β}
    (h : x.map f = .ok b) : ∃ a, x = .ok a ∧ f a = b := by
  cases x with
  | error e => contradiction
  | ok a =>
    cases h
    exact ⟨a, rfl, rfl⟩

theorem except_map_eq_error {ε α β : Type} {x : Except ε α} {f : α → β} {e : ε}
    (h : x.map f = .error e) : x = .error e := by
  cases x with
  | error e' =>
    cases h
    rfl
  | ok a => contradiction

theorem ok_of_toOption {ε α : Type} {x : Except ε α} {a : α} (h : x.toOption = some a) :
    x = .ok a := by
  cases x with
  | error e => contradiction
  | ok a' =>
    cases h
    rfl

theorem mapM_eq_ok {ε α β γ : Type} {f : α → Except ε β} {g : α → γ} {R : β → γ → Prop}
    {as : List α} (h : ∀ a ∈ as, ∃ b, f a = .ok b ∧ R b (g a)) :
    ∃ bs, as.mapM f = .ok bs ∧ List.Forall₂ R bs (as.map g) := by
  induction as with
  | nil => exact ⟨[], rfl, .nil⟩
  | cons a as ih =>
    obtain ⟨b, hb, hab⟩ := h a (List.mem_cons_self ..)
    obtain ⟨bs, hbs, hall⟩ := ih fun x hx => h x (List.mem_cons_of_mem a hx)
    refine ⟨b :: bs, ?_, .cons hab hall⟩
    rw [List.mapM_cons, hb, hbs]
    rfl

theorem mapM_eq_map {ε α β : Type} {f : α → Except ε β} {g : α → β} {as : List α}
    (h : ∀ a ∈ as, f a = .ok (g a)) : as.mapM f = .ok (as.map g) := by
  induction as with
  | nil => rfl
  | cons a as ih =>
    rw [List.mapM_cons, h a (List.mem_cons_self ..),
      ih fun x hx => h x (List.mem_cons_of_mem a hx)]
    rfl

theorem forall₂_of_mapM {ε α β : Type} {f : α → Except ε β} {as : List α} {bs : List β}
    (h : as.mapM f = .ok bs) : List.Forall₂ (fun a b => f a = .ok b) as bs := by
  induction as generalizing bs with
  | nil =>
    cases h
    exact .nil
  | cons a as ih =>
    rw [List.mapM_cons] at h
    obtain ⟨b, hb, h⟩ := except_bind_eq_ok h
    obtain ⟨rest, hrest, h⟩ := except_bind_eq_ok h
    cases h
    exact .cons hb (ih hrest)

theorem mapM_of_forall₂ {ε α β : Type} {f : α → Except ε β} {as : List α} {bs : List β}
    (h : List.Forall₂ (fun a b => f a = .ok b) as bs) : as.mapM f = .ok bs := by
  induction h with
  | nil => rfl
  | cons hab _ ih =>
    rw [List.mapM_cons, hab, ih]
    rfl

theorem mapM_eq_error_iff {ε α β : Type} {f : α → Except ε β} {as : List α} {e : ε} :
    as.mapM f = .error e ↔
      ∃ (i : Nat) (a : α), as[i]? = some a ∧ f a = .error e ∧
        ∀ j < i, ∀ x, as[j]? = some x → ∃ b, f x = .ok b := by
  induction as with
  | nil => exact ⟨nofun, fun ⟨_, _, ha, _⟩ => nomatch ha⟩
  | cons a as ih =>
    rw [List.mapM_cons]
    constructor
    · intro h
      rcases except_bind_eq_error h with h | ⟨b, hb, h⟩
      · exact ⟨0, a, rfl, h, nofun⟩
      rcases except_bind_eq_error h with h | ⟨bs, _, h⟩
      · obtain ⟨i, x, hx, hfails, hbefore⟩ := ih.1 h
        refine ⟨i + 1, x, hx, hfails, fun j hj y hy => ?_⟩
        cases j with
        | zero =>
          cases hy
          exact ⟨b, hb⟩
        | succ j => exact hbefore j (Nat.lt_of_succ_lt_succ hj) y hy
      · contradiction
    · rintro ⟨i, x, hx, hfails, hbefore⟩
      cases i with
      | zero =>
        cases hx
        rw [hfails]
        rfl
      | succ i =>
        obtain ⟨b, hb⟩ := hbefore 0 (Nat.zero_lt_succ i) a rfl
        rw [hb, ih.2 ⟨i, x, hx, hfails, fun j hj => hbefore (j + 1) (Nat.succ_lt_succ hj)⟩]
        rfl

theorem mapM_eq_error {ε α β : Type} {f : α → Except ε β} {as : List α} {e : ε}
    (h : as.mapM f = .error e) : ∃ a ∈ as, f a = .error e := by
  obtain ⟨i, a, ha, hfails, -⟩ := mapM_eq_error_iff.1 h
  exact ⟨a, List.mem_of_getElem? ha, hfails⟩

theorem exists_mapM_eq_error {ε α β : Type} {f : α → Except ε β} {as : List α} {a : α} {e : ε}
    (ha : a ∈ as) (h : f a = .error e) : ∃ e', as.mapM f = .error e' := by
  cases hall : as.mapM f with
  | error e' => exact ⟨e', rfl⟩
  | ok bs =>
    -- a list that is gone through to its end has no element that fails
    induction as generalizing bs with
    | nil => contradiction
    | cons first rest ih =>
      rw [List.mapM_cons] at hall
      obtain ⟨b, hb, hall⟩ := except_bind_eq_ok hall
      obtain ⟨bs, hbs, _⟩ := except_bind_eq_ok hall
      rcases List.mem_cons.1 ha with rfl | ha
      · rw [h] at hb
        contradiction
      · obtain ⟨_, habsurd⟩ := ih ha bs hbs
        contradiction

theorem ok_of_mapM {ε α β : Type} {f : α → Except ε β} {as : List α} {bs : List β}
    (h : as.mapM f = .ok bs) {a : α} (ha : a ∈ as) : ∃ b, f a = .ok b := by
  cases hfa : f a with
  | ok b => exact ⟨b, rfl⟩
  | error e =>
    obtain ⟨e', herror⟩ := exists_mapM_eq_error ha hfa
    cases h.symm.trans herror

theorem exists_between {α β γ : Type} {R : α → γ → Prop} {S : β → γ → Prop} {as : List α}
    {bs : List β} (h : List.Forall₂ (fun a b => ∃ c, R a c ∧ S b c) as bs) :
    ∃ cs, List.Forall₂ R as cs ∧ List.Forall₂ S bs cs := by
  induction h with
  | nil => exact ⟨[], .nil, .nil⟩
  | cons hab _ ih =>
    obtain ⟨c, hr, hs⟩ := hab
    obtain ⟨cs, hrs, hss⟩ := ih
    exact ⟨c :: cs, .cons hr hrs, .cons hs hss⟩

end RecordMapper
