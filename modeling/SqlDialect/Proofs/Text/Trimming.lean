import SqlDialect.Text.Blank
import SqlDialect.Text.Pieces

/-!
# Blanks around a text

Cutting the blanks off both ends of a text leaves what stands between them: a text is some blanks,
what is left of it, and some blanks again, and it is the only one that can be left.
-/

namespace SqlDialect.Text

theorem trimStart_append {blanks cs : List Char} (hblanks : blanks.all isBlank = true)
    (hcs : ∀ c ∈ cs.head?, isBlank c = false) : trimStart (blanks ++ cs) = cs :=
  (takeWhile_append_of_head hblanks hcs).2

theorem trimEnd_append {cs blanks : List Char} (hcs : ∀ c ∈ cs.getLast?, isBlank c = false)
    (hblanks : blanks.all isBlank = true) : trimEnd (cs ++ blanks) = cs := by
  have hreverse : blanks.reverse.all isBlank = true := by
    rw [List.all_reverse]
    exact hblanks
  have hhead : ∀ c ∈ cs.reverse.head?, isBlank c = false := by
    rw [List.head?_reverse]
    exact hcs
  unfold trimEnd
  rw [List.reverse_append, (takeWhile_append_of_head hreverse hhead).2, List.reverse_reverse]

theorem trim_eq_self {cs : List Char} (hhead : ∀ c ∈ cs.head?, isBlank c = false)
    (hlast : ∀ c ∈ cs.getLast?, isBlank c = false) : trim cs = cs := by
  have hstart : trimStart cs = cs := trimStart_append (List.all_nil) hhead
  have hend : trimEnd cs = cs := by
    have h := trimEnd_append hlast (List.all_nil)
    rwa [List.append_nil] at h
  rw [trim, hstart, hend]

/-- Blanks around a text that neither starts nor ends with one are cut off. -/
theorem trim_append {before cs after : List Char} (hbefore : before.all isBlank = true)
    (hne : cs ≠ []) (hhead : ∀ c ∈ cs.head?, isBlank c = false)
    (hlast : ∀ c ∈ cs.getLast?, isBlank c = false) (hafter : after.all isBlank = true) :
    trim (before ++ cs ++ after) = cs := by
  have hhead' : ∀ c ∈ (cs ++ after).head?, isBlank c = false := by
    obtain ⟨c, cs', rfl⟩ := List.exists_cons_of_ne_nil hne
    exact hhead
  rw [trim, List.append_assoc, trimStart_append hbefore hhead', trimEnd_append hlast hafter]

/-- A text from one visible character to another. -/
structure IsTight (cs : List Char) : Prop where
  ne_nil : cs ≠ []
  head : ∀ c ∈ cs.head?, isBlank c = false
  last : ∀ c ∈ cs.getLast?, isBlank c = false

theorem IsTight.trim_append {before cs after : List Char} (h : IsTight cs)
    (hbefore : before.all isBlank = true) (hafter : after.all isBlank = true) :
    trim (before ++ cs ++ after) = cs :=
  Text.trim_append hbefore h.ne_nil h.head h.last hafter

theorem isTight_of_isDigit {cs : List Char} (hne : cs ≠ []) (h : ∀ c ∈ cs, c.isDigit = true) :
    IsTight cs where
  ne_nil := hne
  head c hc := isBlank_eq_false_of_isDigit (h c (List.mem_of_mem_head? hc))
  last c hc := isBlank_eq_false_of_isDigit (h c (List.mem_of_getLast? hc))

theorem IsTight.append_cons {cs ds : List Char} {c : Char} (hcs : IsTight cs) (hds : IsTight ds) :
    IsTight (cs ++ c :: ds) where
  ne_nil := List.append_ne_nil_of_left_ne_nil hcs.ne_nil _
  head := by
    obtain ⟨d, cs', rfl⟩ := List.exists_cons_of_ne_nil hcs.ne_nil
    exact hcs.head
  last := by
    obtain ⟨d, ds', rfl⟩ := List.exists_cons_of_ne_nil hds.ne_nil
    rw [List.getLast?_append, List.getLast?_cons_cons, Option.or_of_isSome (by simp)]
    exact hds.last

/-- What is left does not start with a blank. -/
theorem isBlank_eq_false_of_mem_head?_trim {cs : List Char} {c : Char}
    (h : c ∈ (trim cs).head?) : isBlank c = false := by
  have hprefix : trim cs <+: trimStart cs := by
    have hsuffix : (trimStart cs).reverse.dropWhile isBlank <:+ (trimStart cs).reverse :=
      List.dropWhile_suffix _
    rw [← List.reverse_prefix, List.reverse_reverse] at hsuffix
    exact hsuffix
  obtain ⟨after, hafter⟩ := hprefix
  have hhead : (trimStart cs).head? = some c := by
    rw [← hafter, List.head?_append, Option.mem_def.1 h]
    rfl
  have hnot := List.head?_dropWhile_not isBlank cs
  rw [← trimStart, hhead] at hnot
  exact hnot

/-- Only blanks are cut off. -/
theorem exists_blanks_trim (cs : List Char) :
    ∃ before after : List Char, before.all isBlank = true ∧ after.all isBlank = true ∧
      cs = before ++ trim cs ++ after := by
  have hstart : cs = cs.takeWhile isBlank ++ trimStart cs :=
    List.takeWhile_append_dropWhile.symm
  have hend : trimStart cs = trim cs ++ ((trimStart cs).reverse.takeWhile isBlank).reverse := by
    unfold trim trimEnd
    rw [← List.reverse_append, List.takeWhile_append_dropWhile, List.reverse_reverse]
  refine ⟨cs.takeWhile isBlank, ((trimStart cs).reverse.takeWhile isBlank).reverse, ?_, ?_, ?_⟩
  · exact List.all_takeWhile
  · rw [List.all_reverse]
    exact List.all_takeWhile
  · rw [List.append_assoc, ← hend]
    exact hstart

end SqlDialect.Text
