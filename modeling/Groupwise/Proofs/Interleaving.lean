import Mathlib

/-!
# Interleavings

An interleaving of several lists takes the next element from any of them, again and again, until
all of them are used up. Every element occurs in it exactly as often as in the lists together
(`Interleaving.perm`), and the order inside each list is kept (`Interleaving.sublist`).
-/

namespace Groupwise

variable {α : Type}

/-- The elements of all lists `ls`, each list in its own order. -/
inductive Interleaving : List (List α) → List α → Prop
  /-- Nothing is left. -/
  | done {ls : List (List α)} (h : ∀ l ∈ ls, l = []) : Interleaving ls []
  /-- The next element comes from list number `i`. -/
  | take {ls : List (List α)} {i : Nat} {a : α} {l out : List α} (h : ls[i]? = some (a :: l))
      (rest : Interleaving (ls.set i l) out) : Interleaving ls (a :: out)

namespace Interleaving

lemma flatten_set_perm {ls : List (List α)} {i : Nat} {a : α} {l : List α}
    (h : ls[i]? = some (a :: l)) : ls.flatten.Perm (a :: (ls.set i l).flatten) := by
  induction ls generalizing i with
  | nil => simp at h
  | cons k ls ih =>
    cases i with
    | zero =>
      obtain rfl : k = a :: l := by simpa using h
      simp
    | succ i =>
      have hi : ls[i]? = some (a :: l) := by simpa using h
      simpa using ((ih hi).append_left k).trans List.perm_middle

/-- No element is lost and none is repeated. -/
theorem perm {ls : List (List α)} {out : List α} (h : Interleaving ls out) :
    out.Perm ls.flatten := by
  induction h with
  | done h => rw [List.flatten_eq_nil_iff.2 h]
  | take h _ ih => exact (ih.cons _).trans (flatten_set_perm h).symm

/-- Each list keeps its order. -/
theorem sublist {ls : List (List α)} {out : List α} (h : Interleaving ls out) :
    ∀ l ∈ ls, l.Sublist out := by
  induction h with
  | done h =>
    intro l hl
    rw [h l hl]
  | @take ls i a k out h _ ih =>
    intro l hl
    obtain ⟨j, hj, rfl⟩ := List.mem_iff_getElem.1 hl
    by_cases hij : i = j
    · subst hij
      obtain ⟨hi, heq⟩ := List.getElem?_eq_some_iff.1 h
      rw [heq]
      exact (ih k (List.mem_set hi k)).cons_cons a
    · refine (ih _ ?_).cons a
      exact List.mem_iff_getElem.2 ⟨j, by simpa using hj, by simp [hij]⟩

/-- The next few elements may come from one list. -/
lemma take_append {done l : List α} {i : Nat} {ls : List (List α)} {out : List α}
    (h : ls[i]? = some (done ++ l)) (rest : Interleaving (ls.set i l) out) :
    Interleaving ls (done ++ out) := by
  obtain ⟨hi, hget⟩ := List.getElem?_eq_some_iff.1 h
  induction done generalizing ls with
  | nil =>
    obtain rfl : ls[i] = l := hget
    rwa [List.set_getElem_self] at rest
  | cons a done ih =>
    have hi' : i < (ls.set i (done ++ l)).length := by rwa [List.length_set]
    refine .take h (ih (List.getElem?_set_self hi) ?_ hi' (List.getElem_set_self hi'))
    rwa [List.set_set]

lemma nil_cons {ls : List (List α)} {out : List α} (h : Interleaving ls out) :
    Interleaving ([] :: ls) out := by
  induction h with
  | done h => exact .done (by simpa using h)
  | @take ls i a l out h _ ih => exact .take (i := i + 1) (by simpa using h) ih

/-- One list after the other. -/
theorem flatten (ls : List (List α)) : Interleaving ls ls.flatten := by
  induction ls with
  | nil => exact .done (by simp)
  | cons l ls ih =>
    exact take_append (i := 0) (l := []) (by simp) ih.nil_cons

end Interleaving

end Groupwise
