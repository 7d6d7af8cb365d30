import Mathlib.Data.List.Infix
import RecordMapper.Text.Split

namespace RecordMapper.Text

variable {separator cs front back : List Char}

theorem prefix_of_after (h : after? separator cs = some back) : separator <+: cs :=
  ⟨back, (eq_append_of_after h).symm⟩

theorem after_eq_none : after? separator cs = none ↔ ¬ separator <+: cs := by
  constructor
  · rintro h ⟨rest, rfl⟩
    rw [after_append] at h
    contradiction
  · intro h
    cases hrest : after? separator cs with
    | none => rfl
    | some rest => exact absurd (prefix_of_after hrest) h

theorem splitFirst_of_prefix (hseparator : separator ≠ []) (rest : List Char) :
    splitFirst? separator (separator ++ rest) = some ([], rest) := by
  have hafter := after_append separator rest
  obtain ⟨c, cs, rfl⟩ := List.exists_cons_of_ne_nil hseparator
  rw [List.cons_append] at hafter ⊢
  rw [splitFirst?, hafter]

theorem splitFirst_cons {c : Char} (h : ¬ separator <+: c :: cs) :
    splitFirst? separator (c :: cs) = (splitFirst? separator cs).map fun r => (c :: r.1, r.2) := by
  rw [splitFirst?, after_eq_none.2 h]

/-- Whether a separator stands behind a text for the first time. -/
def FirstBehind (separator front : List Char) : Prop := ¬ separator <:+: front ++ separator.dropLast

theorem firstBehind_nil (hseparator : separator ≠ []) : FirstBehind separator [] := by
  intro h
  have := List.length_pos_of_ne_nil hseparator
  have := h.length_le
  simp at this
  omega

theorem firstBehind_cons {c : Char} :
    FirstBehind separator (c :: front) ↔
      ¬ separator <+: c :: (front ++ separator ++ back) ∧ FirstBehind separator front := by
  have hleads : c :: (front ++ separator.dropLast) <+: c :: (front ++ separator ++ back) := by
    rw [List.append_assoc, List.cons_prefix_cons, List.prefix_append_right_inj]
    exact ⟨rfl, (List.dropLast_prefix separator).trans (List.prefix_append separator back)⟩
  have hlength : separator.length ≤ (c :: (front ++ separator.dropLast)).length := by
    simp
    omega
  rw [FirstBehind, FirstBehind, List.cons_append, List.infix_cons_iff, not_or]
  refine and_congr_left' (not_congr ⟨fun h => h.trans hleads, fun h => ?_⟩)
  exact List.prefix_of_prefix_length_le h hleads hlength

theorem splitFirst_eq_some (hseparator : separator ≠ []) :
    splitFirst? separator cs = some (front, back) ↔
      cs = front ++ separator ++ back ∧ FirstBehind separator front := by
  constructor
  · intro h
    induction cs generalizing front with
    | nil =>
      obtain ⟨c, separator, rfl⟩ := List.exists_cons_of_ne_nil hseparator
      simp [splitFirst?, after?] at h
    | cons c cs ih =>
      by_cases hleads : separator <+: c :: cs
      · obtain ⟨rest, hrest⟩ := hleads
        rw [← hrest, splitFirst_of_prefix hseparator, Option.some.injEq, Prod.mk.injEq] at h
        obtain ⟨rfl, rfl⟩ := h
        exact ⟨hrest.symm, firstBehind_nil hseparator⟩
      · rw [splitFirst_cons hleads] at h
        obtain ⟨⟨front, back⟩, hsplit, h⟩ := Option.map_eq_some_iff.1 h
        obtain ⟨rfl, rfl⟩ := Prod.mk.inj h
        obtain ⟨rfl, hfirst⟩ := ih hsplit
        exact ⟨rfl, firstBehind_cons.2 ⟨hleads, hfirst⟩⟩
  · rintro ⟨rfl, hfirst⟩
    induction front with
    | nil => exact splitFirst_of_prefix hseparator back
    | cons c front ih =>
      obtain ⟨hleads, hfirst⟩ := firstBehind_cons.1 hfirst
      rw [List.cons_append, List.cons_append, splitFirst_cons hleads, ih hfirst]
      rfl

theorem splitFirst_isSome (hseparator : separator ≠ []) :
    (splitFirst? separator cs).isSome = true ↔ separator <:+: cs := by
  induction cs with
  | nil =>
    obtain ⟨c, separator, rfl⟩ := List.exists_cons_of_ne_nil hseparator
    simp [splitFirst?, after?]
  | cons c cs ih =>
    rw [List.infix_cons_iff, ← ih]
    by_cases h : separator <+: c :: cs
    · obtain ⟨rest, hrest⟩ := h
      rw [← hrest, splitFirst_of_prefix hseparator]
      simp
    · rw [splitFirst_cons h, Option.isSome_map]
      simp [h]

theorem splitFirst_separator (c : Char) (rest back : List Char) {front : List Char}
    (h : c ∉ front) :
    splitFirst? (c :: rest) (front ++ (c :: rest ++ back)) = some (front, back) := by
  induction front with
  | nil =>
    have hafter := after_append (c :: rest) back
    rw [List.cons_append] at hafter
    simp [splitFirst?, hafter]
  | cons f fs ih =>
    simp only [List.mem_cons, not_or] at h
    simp only [List.cons_append] at ih
    simp [splitFirst?, after?, h.1, ih h.2]

theorem splitFirst_of_not_mem (rest : List Char) {c : Char} {cs : List Char} (h : c ∉ cs) :
    splitFirst? (c :: rest) cs = none := by
  induction cs with
  | nil => rfl
  | cons d ds ih =>
    simp only [List.mem_cons, not_or] at h
    simp [splitFirst?, after?, h.1, ih h.2]

theorem splitFirst_char_eq_some {c : Char} :
    splitFirst? [c] cs = some (front, back) ↔ cs = front ++ c :: back ∧ c ∉ front := by
  refine ⟨fun h => ?_, fun ⟨hcs, hc⟩ => hcs ▸ splitFirst_append c front back hc⟩
  obtain ⟨hcs, hfirst⟩ := (splitFirst_eq_some (List.cons_ne_nil c [])).1 h
  refine ⟨by simpa using hcs, fun hc => hfirst ?_⟩
  obtain ⟨before, behind, rfl⟩ := List.append_of_mem hc
  exact ⟨before, behind, by simp⟩

end RecordMapper.Text
