import Mathlib.Data.List.Basic
import SqlDialect.Calendar.Layout
import SqlDialect.Proofs.Results

/-!
# What the items of a layout leave of a text

Every item takes something off the front of a text, and a number takes a digit last, however it is
signed and padded. A text that fits a layout with a number at its end therefore ends in a digit, and
it fits the layout with a fraction of a second after it as well.
-/

namespace SqlDialect
namespace Calendar

variable {fields fields' : Fields} {items : List Item} {cs rest : List Char}

/-- Whether a digit stands right before the rest of a text. -/
def FollowsDigit (cs rest : List Char) : Prop :=
  ∃ front d, d.isDigit = true ∧ cs = front ++ d :: rest

theorem FollowsDigit.isSuffix (h : FollowsDigit cs rest) : rest <:+ cs := by
  obtain ⟨front, d, -, rfl⟩ := h
  exact (List.suffix_cons d rest).trans (List.suffix_append front (d :: rest))

theorem FollowsDigit.of_isSuffix {cs' : List Char} (h : FollowsDigit cs' rest) (hcs : cs' <:+ cs) :
    FollowsDigit cs rest := by
  obtain ⟨front, d, hd, rfl⟩ := h
  obtain ⟨front', rfl⟩ := hcs
  exact ⟨front' ++ front, d, hd, by rw [List.append_assoc]⟩

theorem followsDigit_append {ds : List Char} (hne : ds ≠ [])
    (hds : ∀ d ∈ ds, d.isDigit = true) (rest : List Char) : FollowsDigit (ds ++ rest) rest := by
  refine ⟨ds.dropLast, ds.getLast hne, hds _ (List.getLast_mem hne), ?_⟩
  rw [← List.singleton_append, ← List.append_assoc, List.dropLast_append_getLast]

theorem followsDigit_of_readDigits {width : Option Nat} (hwidth : width ≠ some 0) {n : Nat}
    (h : readDigits width cs = .ok (n, rest)) : FollowsDigit cs rest := by
  cases cs with
  | nil => cases h
  | cons c tail =>
    by_cases hc : c.isDigit = true
    · simp only [readDigits, hc, if_true, Except.ok.injEq, Prod.mk.injEq] at h
      obtain ⟨-, rfl⟩ := h
      generalize hds : ((c :: tail).take (width.getD (c :: tail).length)).takeWhile Char.isDigit = ds
      have hprefix : ds <+: c :: tail := by
        rw [← hds]
        exact (List.takeWhile_prefix _).trans (List.take_prefix _ _)
      have hdigit : ∀ d ∈ ds, d.isDigit = true := by
        rw [← hds]
        exact List.all_eq_true.1 List.all_takeWhile
      have hne : ds ≠ [] := by
        -- at least one character may be taken, and the first one is a digit
        obtain ⟨k, hk⟩ : ∃ k, width.getD (c :: tail).length = k + 1 := by
          cases width with
          | none => exact ⟨tail.length, rfl⟩
          | some w =>
            have hw : w ≠ 0 := fun hzero => hwidth (by rw [hzero])
            exact ⟨w - 1, (Nat.succ_pred_eq_of_ne_zero hw).symm⟩
        rw [← hds, hk, List.take_succ_cons, List.takeWhile_cons_of_pos hc]
        exact List.cons_ne_nil _ _
      have hfollows := followsDigit_append hne hdigit ((c :: tail).drop ds.length)
      rwa [List.prefix_iff_eq_append.1 hprefix] at hfollows
    · simp [readDigits, hc] at h

theorem followsDigit_of_readYear {n : Int} (h : readYear cs = .ok (n, rest)) :
    FollowsDigit cs rest := by
  unfold readYear at h
  split at h
  · obtain ⟨⟨m, rest'⟩, hdigits, heq⟩ := map_eq_ok_iff.1 h
    cases heq
    exact (followsDigit_of_readDigits (by simp) hdigits).of_isSuffix (List.suffix_cons _ _)
  · obtain ⟨⟨m, rest'⟩, hdigits, heq⟩ := map_eq_ok_iff.1 h
    cases heq
    exact (followsDigit_of_readDigits (by simp) hdigits).of_isSuffix (List.suffix_cons _ _)
  · obtain ⟨⟨m, rest'⟩, hdigits, heq⟩ := map_eq_ok_iff.1 h
    cases heq
    exact followsDigit_of_readDigits (by simp) hdigits

theorem followsDigit_of_readField {field : Field} {n : Int}
    (h : readField field cs = .ok (n, rest)) : FollowsDigit cs rest := by
  have hblanks : Text.trimStart cs <:+ cs := List.dropWhile_suffix _
  unfold readField at h
  by_cases hyear : field = .year
  · rw [if_pos hyear] at h
    exact (followsDigit_of_readYear h).of_isSuffix hblanks
  · rw [if_neg hyear] at h
    obtain ⟨⟨m, rest'⟩, hdigits, heq⟩ := map_eq_ok_iff.1 h
    cases heq
    exact (followsDigit_of_readDigits (by simp) hdigits).of_isSuffix hblanks

/-- An item only takes characters off the front. -/
theorem isSuffix_of_read {item : Item} (h : item.read fields cs = .ok (fields', rest)) :
    rest <:+ cs := by
  cases item with
  | number field =>
    obtain ⟨⟨n, rest'⟩, hfield, h⟩ := bind_eq_ok_iff.1 h
    obtain ⟨fields'', -, heq⟩ := bind_eq_ok_iff.1 h
    obtain ⟨-, rfl⟩ := Prod.mk.inj (Except.ok.inj heq)
    exact (followsDigit_of_readField hfield).isSuffix
  | exactly c =>
    cases cs with
    | nil => cases h
    | cons d tail =>
      by_cases hd : d = c
      · simp only [Item.read, hd, if_true, Except.ok.injEq, Prod.mk.injEq] at h
        rw [← h.2]
        exact List.suffix_cons d tail
      · simp [Item.read, hd] at h
  | blanks =>
    obtain ⟨-, rfl⟩ := Prod.mk.inj (Except.ok.inj h)
    exact List.dropWhile_suffix _
  | fraction =>
    simp only [Item.read] at h
    split at h
    · obtain ⟨⟨n, rest'⟩, hdigits, heq⟩ := bind_eq_ok_iff.1 h
      obtain ⟨-, rfl⟩ := Prod.mk.inj (Except.ok.inj heq)
      exact (followsDigit_of_readDigits (by simp) hdigits).isSuffix.trans (List.suffix_cons _ _)
    · obtain ⟨-, rfl⟩ := Prod.mk.inj (Except.ok.inj h)
      exact List.suffix_refl _

theorem followsDigit_of_readItems {field : Field}
    (h : readItems fields (items ++ [.number field]) cs = .ok fields') : FollowsDigit cs [] := by
  induction items generalizing fields cs with
  | nil =>
    obtain ⟨⟨fields'', rest⟩, hitem, hend⟩ := bind_eq_ok_iff.1 h
    obtain ⟨⟨n, rest'⟩, hfield, hset⟩ := bind_eq_ok_iff.1 hitem
    obtain ⟨stored, -, heq⟩ := bind_eq_ok_iff.1 hset
    cases heq
    cases rest with
    | nil => exact followsDigit_of_readField hfield
    | cons c rest => cases hend
  | cons item items ih =>
    obtain ⟨⟨fields'', rest⟩, hitem, hitems⟩ := bind_eq_ok_iff.1 h
    exact (ih hitems).of_isSuffix (isSuffix_of_read hitem)

/-- Nothing is a fraction too. -/
theorem readItems_append_fraction (h : readItems fields items cs = .ok fields') :
    readItems fields (items ++ [.fraction]) cs = .ok fields' := by
  induction items generalizing fields cs with
  | nil =>
    cases cs with
    | nil => exact h
    | cons c cs => cases h
  | cons item items ih =>
    obtain ⟨⟨fields'', rest⟩, hitem, hitems⟩ := bind_eq_ok_iff.1 h
    exact bind_eq_ok_iff.2 ⟨(fields'', rest), hitem, ih hitems⟩

theorem read_append_fraction {t : DateTime} (h : read items cs = .ok t) :
    read (items ++ [.fraction]) cs = .ok t := by
  obtain ⟨fields, hitems, hfields⟩ := bind_eq_ok_iff.1 h
  exact bind_eq_ok_iff.2 ⟨fields, readItems_append_fraction hitems, hfields⟩

theorem followsDigit_of_read {field : Field} {t : DateTime}
    (h : read (items ++ [.number field]) cs = .ok t) : FollowsDigit cs [] := by
  obtain ⟨fields, hitems, -⟩ := bind_eq_ok_iff.1 h
  exact followsDigit_of_readItems hitems

end Calendar
end SqlDialect
