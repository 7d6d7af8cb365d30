import Mathlib.Data.List.Nodup

namespace RecordMapper

variable {α κ : Type} [DecidableEq κ] {key : α → κ} {l l' : List α}

/-- Whether two lists hold the same elements, those with one key in the same order. -/
def Reordered (key : α → κ) (l l' : List α) : Prop :=
  ∀ k, l.filter (fun a => key a = k) = l'.filter fun a => key a = k

namespace Reordered

theorem perm (h : Reordered key l l') : l.Perm l' := by
  classical
  have hcount (l : List α) (a : α) : (l.filter fun b => key b = key a).count a = l.count a :=
    List.count_filter (p := fun b => key b = key a) (decide_eq_true rfl)
  refine List.perm_iff_count.2 fun a => ?_
  rw [← hcount l, h (key a), hcount l']

theorem of_perm (h : l.Perm l') (hkeys : (l.map key).Nodup) : Reordered key l l' := by
  induction h with
  | nil => exact fun _ => rfl
  | cons a _ ih =>
    intro k
    rw [List.filter_cons, List.filter_cons, ih (List.nodup_cons.1 hkeys).2 k]
  | swap a b l =>
    intro k
    have hne : key b ≠ key a := by
      have := (List.nodup_cons.1 hkeys).1
      simp only [List.map_cons, List.mem_cons, not_or] at this
      exact this.1
    by_cases ha : key a = k
    · simp [ha, ha ▸ hne]
    · simp [List.filter_cons, ha]
  | trans h _ ih ih' =>
    exact fun k => (ih hkeys k).trans (ih' ((h.map key).nodup_iff.1 hkeys) k)

theorem last (h : Reordered key l l') (k : κ) :
    l.reverse.find? (fun a => key a = k) = l'.reverse.find? fun a => key a = k := by
  rw [← List.head?_filter, ← List.head?_filter, List.filter_reverse, List.filter_reverse, h k]

end Reordered

end RecordMapper
