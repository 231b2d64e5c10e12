import Mathlib.Data.List.Basic
import Mathlib.Order.Lattice

/-!
# Rearrangements

The items of a list fall into classes, and some are in no class. A rearrangement has the same
items and keeps the order of those that are in one class; items without a class may go anywhere.
Sorting by a key is the rearrangement that keeps the order within each key, so there is only one
sorted list among the rearrangements of this kind.
-/
namespace PolicyAgent

variable {α κ : Type}

/-- The same items, and those of one class in the same order. -/
structure Rearranges [DecidableEq κ] (classOf : α → Option κ) (xs ys : List α) : Prop where
  perm : xs.Perm ys
  filter_eq : ∀ k, xs.filter (classOf · = some k) = ys.filter (classOf · = some k)

/-- Lists that agree on each class and on what is in no class have the same items. -/
theorem perm_of_filter_perm [DecidableEq κ] (classOf : α → Option κ) {xs ys : List α}
    (h : ∀ k, (xs.filter (classOf · = k)).Perm (ys.filter (classOf · = k))) : xs.Perm ys := by
  classical
  rw [List.perm_iff_count]
  intro a
  have hcount (zs : List α) : zs.count a = (zs.filter (classOf · = classOf a)).count a :=
    (List.count_filter (by simp)).symm
  rw [hcount xs, hcount ys, (h (classOf a)).count_eq]

section

variable [LinearOrder κ] (f : α → κ)

def isAtMost (a b : α) : Bool := decide (f a ≤ f b)

theorem isAtMost_trans (a b c : α) (hab : isAtMost f a b = true) (hbc : isAtMost f b c = true) :
    isAtMost f a c = true :=
  decide_eq_true (le_trans (of_decide_eq_true hab) (of_decide_eq_true hbc))

theorem isAtMost_total (a b : α) : (isAtMost f a b || isAtMost f b a) = true := by
  simpa [isAtMost] using le_total (f a) (f b)

theorem pairwise_mergeSort (xs : List α) :
    (xs.mergeSort (isAtMost f)).Pairwise fun a b => f a ≤ f b :=
  (List.pairwise_mergeSort (isAtMost_trans f) (isAtMost_total f) xs).imp of_decide_eq_true

end

namespace Rearranges

section

variable [DecidableEq κ] {classOf : α → Option κ} {xs ys zs : List α} {a b : α}

theorem symm (h : Rearranges classOf xs ys) : Rearranges classOf ys xs :=
  ⟨h.perm.symm, fun k => (h.filter_eq k).symm⟩

theorem trans (h : Rearranges classOf xs ys) (h' : Rearranges classOf ys zs) :
    Rearranges classOf xs zs :=
  ⟨h.perm.trans h'.perm, fun k => (h.filter_eq k).trans (h'.filter_eq k)⟩

theorem cons (a : α) (h : Rearranges classOf xs ys) : Rearranges classOf (a :: xs) (a :: ys) := by
  refine ⟨h.perm.cons a, fun k => ?_⟩
  simp only [List.filter_cons, h.filter_eq k]

theorem filter (p : α → Bool) (h : Rearranges classOf xs ys) :
    Rearranges classOf (xs.filter p) (ys.filter p) := by
  refine ⟨h.perm.filter p, fun k => ?_⟩
  rw [List.filter_comm, h.filter_eq k, List.filter_comm]

theorem swap (h : classOf a ≠ classOf b) (xs : List α) :
    Rearranges classOf (a :: b :: xs) (b :: a :: xs) := by
  refine ⟨.swap b a xs, fun k => ?_⟩
  by_cases ha : classOf a = some k
  · have hb : classOf b ≠ some k := fun hb => h (ha.trans hb.symm)
    simp [ha, hb]
  · simp [List.filter_cons, ha]

end

section

variable [LinearOrder κ] {f : α → κ} {xs ys : List α}

theorem eq_of_sorted (h : Rearranges (fun a => some (f a)) xs ys)
    (hxs : xs.Pairwise fun a b => f a ≤ f b) (hys : ys.Pairwise fun a b => f a ≤ f b) :
    xs = ys := by
  induction xs generalizing ys with
  | nil => exact (List.nil_perm.1 h.perm).symm
  | cons a xs ih =>
    cases ys with
    | nil => exact absurd h.perm.length_eq (by simp)
    | cons b ys =>
      have hle {a b : α} {xs ys : List α} (hperm : (a :: xs).Perm (b :: ys))
          (hsorted : (a :: xs).Pairwise fun a b => f a ≤ f b) : f a ≤ f b := by
        rcases List.mem_cons.1 (hperm.mem_iff.2 List.mem_cons_self) with rfl | hmem
        · exact le_rfl
        · exact List.rel_of_pairwise_cons hsorted hmem
      have hkey : f a = f b := le_antisymm (hle h.perm hxs) (hle h.perm.symm hys)
      have hhead := h.filter_eq (f a)
      simp only [List.filter_cons, hkey, decide_true, if_true, List.cons.injEq] at hhead
      obtain ⟨rfl, -⟩ := hhead
      refine congrArg (a :: ·) (ih ⟨h.perm.cons_inv, ?_⟩ hxs.of_cons hys.of_cons)
      intro k
      have hfilter := h.filter_eq k
      by_cases hk : f a = k
      · simpa [List.filter_cons, hk] using hfilter
      · simpa [List.filter_cons, hk] using hfilter

/-- Merge sort keeps the order of the items that have one key. -/
theorem mergeSort (f : α → κ) (xs : List α) :
    Rearranges (fun a => some (f a)) xs (xs.mergeSort (isAtMost f)) := by
  refine ⟨(List.mergeSort_perm xs _).symm, ?_⟩
  intro k
  -- Items of one key are sorted as they stand, so sorting keeps them as a sublist.
  let hasKey (a : α) : Bool := some (f a) = some k
  have hsorted : (xs.filter hasKey).Pairwise fun a b => isAtMost f a b = true := by
    apply List.pairwise_of_forall_mem_list
    intro a ha b hb
    have hka : f a = k := by simpa [hasKey] using List.of_mem_filter ha
    have hkb : f b = k := by simpa [hasKey] using List.of_mem_filter hb
    exact decide_eq_true (le_of_eq (hka.trans hkb.symm))
  have hsublist := (List.sublist_mergeSort (isAtMost_trans f) (isAtMost_total f) hsorted
    List.filter_sublist).filter hasKey
  have hself : (xs.filter hasKey).filter hasKey = xs.filter hasKey :=
    List.filter_eq_self.2 fun a ha => List.of_mem_filter ha
  rw [hself] at hsublist
  exact hsublist.eq_of_length ((List.mergeSort_perm xs _).filter hasKey).length_eq.symm

/-- It makes no difference whether items are left out before sorting or after it. -/
theorem filter_mergeSort (f : α → κ) (p : α → Bool) (xs : List α) :
    (xs.mergeSort (isAtMost f)).filter p = (xs.filter p).mergeSort (isAtMost f) :=
  eq_of_sorted (((mergeSort f xs).symm.filter p).trans (mergeSort f (xs.filter p)))
    ((pairwise_mergeSort f xs).filter p) (pairwise_mergeSort f (xs.filter p))

end

end Rearranges

end PolicyAgent
