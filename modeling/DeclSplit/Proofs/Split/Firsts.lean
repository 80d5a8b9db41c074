import Mathlib.Data.List.Nodup
import Mathlib.Tactic.Lemma
import Mathlib.Tactic.Tauto

/-! Lists without repeats.  A list is gone through with what has been seen, and what comes first is kept. -/

namespace DeclSplit

variable {α : Type} [BEq α] [LawfulBEq α]

/-- What stands at the places of a list where nothing like it stands before. -/
def firsts (l : List α) : List α := (l.zipIdx.filter fun entry => entry.1 ∉ l.take entry.2).map Prod.fst

lemma eraseDups_loop (l seen : List α) : List.eraseDupsBy.loop (· == ·) l seen =
    seen.reverse ++
      (l.zipIdx.filter fun entry => entry.1 ∉ seen ∧ entry.1 ∉ l.take entry.2).map Prod.fst := by
  induction l generalizing seen with
  | nil => simp [List.eraseDupsBy.loop]
  | cons a l ih =>
    -- Behind the first entry every place counts one more, and has the first before it.
    have hshift : (l.zipIdx 1).filter (fun entry => entry.1 ∉ seen ∧ entry.1 ∉ (a :: l).take entry.2) =
        (l.zipIdx.filter fun entry => entry.1 ∉ a :: seen ∧ entry.1 ∉ l.take entry.2).map
          fun entry => (entry.1, entry.2 + 1) := by
      rw [List.zipIdx_succ, List.filter_map]
      congr 1
      apply List.filter_congr
      rintro ⟨b, i⟩ _
      apply decide_eq_decide.mpr
      simp only [List.take_succ_cons, List.mem_cons]
      tauto
    rw [List.eraseDupsBy.loop, List.zipIdx_cons, List.filter_cons, hshift]
    by_cases ha : a ∈ seen
    · have hany : (seen.any fun b => a == b) = true := by simpa using ha
      have hseen : ∀ b, b ∉ a :: seen ↔ b ∉ seen := by
        intro b
        simp only [List.mem_cons, not_or, and_iff_right_iff_imp]
        rintro hb rfl
        exact hb ha
      simp only [hany, ih, hseen]
      simp [ha, Function.comp_def]
    · have hany : (seen.any fun b => a == b) = false := by
        rw [List.any_eq_false]
        rintro b hb he
        exact ha (eq_of_beq he ▸ hb)
      simp only [hany, ih]
      simp [ha, Function.comp_def]

lemma eraseDups_eq_firsts (l : List α) : l.eraseDups = firsts l := by
  rw [List.eraseDups, List.eraseDupsBy, eraseDups_loop]
  simp [firsts]

lemma eraseDups_filter (p : α → Bool) : ∀ l : List α, (l.filter p).eraseDups = l.eraseDups.filter p
  | [] => rfl
  | a :: l => by
    have ih := eraseDups_filter p (l.filter fun b => !b == a)
    rw [List.eraseDups_cons, List.filter_cons, List.filter_cons, ← ih, List.filter_filter]
    cases hp : p a with
    | true =>
      simp only [if_true, List.eraseDups_cons, List.filter_filter]
      congr 3
      funext b
      exact Bool.and_comm _ _
    | false =>
      have hkept : l.filter (fun b => p b && !b == a) = l.filter p := by
        apply List.filter_congr
        intro b _
        by_cases hb : b = a <;> simp [hb, hp]
      simp [hkept]
termination_by l => l.length
decreasing_by exact Nat.lt_succ_of_le (List.length_filter_le _ _)

lemma eraseDups_cons_eq (a : α) (l : List α) : (a :: l).eraseDups = a :: l.eraseDups.filter fun b => !b == a := by
  rw [List.eraseDups_cons, eraseDups_filter]

lemma eraseDups_sublist (l : List α) : l.eraseDups.Sublist l := by
  induction l with
  | nil => exact List.Sublist.refl _
  | cons a l ih =>
    rw [eraseDups_cons_eq]
    exact (List.filter_sublist.trans ih).cons_cons a

lemma nodup_eraseDups (l : List α) : l.eraseDups.Nodup := by
  induction l with
  | nil => exact List.nodup_nil
  | cons a l ih =>
    rw [eraseDups_cons_eq]
    exact List.nodup_cons.mpr ⟨by simp, ih.filter _⟩

lemma eraseDups_of_nodup {l : List α} (h : l.Nodup) : l.eraseDups = l := by
  induction l with
  | nil => rfl
  | cons a l ih =>
    obtain ⟨ha, hl⟩ := List.nodup_cons.mp h
    rw [eraseDups_cons_eq, ih hl, List.filter_eq_self.mpr]
    intro b hb
    have hne : b ≠ a := by
      rintro rfl
      exact ha hb
    simpa using hne

lemma length_eraseDups_eq_iff {l : List α} : l.eraseDups.length = l.length ↔ l.Nodup := by
  rw [(eraseDups_sublist l).length_eq]
  exact ⟨fun h => h ▸ nodup_eraseDups l, eraseDups_of_nodup⟩

lemma eraseDups_pairwise_idxOf (l : List α) : l.eraseDups.Pairwise fun a b => l.idxOf a < l.idxOf b := by
  induction l with
  | nil => exact List.Pairwise.nil
  | cons a l ih =>
    rw [eraseDups_cons_eq, List.pairwise_cons]
    constructor
    · intro b hb
      have hne : b ≠ a := by simpa using (List.mem_filter.mp hb).2
      simp [hne.symm]
    · refine (ih.filter _).imp_of_mem ?_
      intro b c hb hc hlt
      have hbne : b ≠ a := by simpa using (List.mem_filter.mp hb).2
      have hcne : c ≠ a := by simpa using (List.mem_filter.mp hc).2
      simpa [List.idxOf_cons, hbne.symm, hcne.symm] using hlt

lemma eraseDups_perm {l l' : List α} (h : l.Perm l') : l.eraseDups.Perm l'.eraseDups := by
  rw [List.perm_ext_iff_of_nodup (nodup_eraseDups l) (nodup_eraseDups l')]
  intro a
  rw [List.mem_eraseDups, List.mem_eraseDups, h.mem_iff]

end DeclSplit
