import Mathlib.Data.List.DropRight
import SqlDialect.KeyedMap

/-!
# Histories

Something that is asked again and again answers from what was put into it before. A history is the
list of what happened so far, the oldest first. Main statement: a map that was filled entry by entry
holds under each key the value that was put in last.
-/

namespace SqlDialect

section Reset

variable {α : Type} {isReset : α → Bool} {history : List α} {x : α}

/-- What happened after the last reset. -/
def sinceLast (isReset : α → Bool) (history : List α) : List α :=
  history.rtakeWhile fun x => !isReset x

theorem sinceLast_concat_of_reset (h : isReset x = true) :
    sinceLast isReset (history ++ [x]) = [] := by
  refine List.rtakeWhile_concat_neg _ _ x ?_
  rw [h]
  exact Bool.false_ne_true

theorem sinceLast_concat_of_not_reset (h : isReset x = false) :
    sinceLast isReset (history ++ [x]) = sinceLast isReset history ++ [x] := by
  refine List.rtakeWhile_concat_pos _ _ x ?_
  rw [h]
  rfl

end Reset

section Entries

variable {α : Type}

theorem getLast?_filter_concat (p : α → Bool) (history : List α) (x : α) :
    ((history ++ [x]).filter p).getLast? =
      if p x = true then some x else (history.filter p).getLast? := by
  by_cases hx : p x = true
  · simp [hx]
  · simp [hx]

/-- The value that was put in last under a key. -/
def lastUnder? (key : String) (entries : List (String × α)) : Option α :=
  (entries.filter fun entry => entry.1 = key).getLast?.map Prod.snd

theorem lastUnder?_concat (key : String) (entries : List (String × α)) (entry : String × α) :
    lastUnder? key (entries ++ [entry]) =
      if entry.1 = key then some entry.2 else lastUnder? key entries := by
  simp only [lastUnder?, getLast?_filter_concat, decide_eq_true_eq]
  exact apply_ite (Option.map Prod.snd) _ _ _

theorem KeyedMap.ofList_concat (entries : List (String × α)) (entry : String × α) :
    ofList (entries ++ [entry]) = (ofList entries).insert entry.1 entry.2 := by
  rw [ofList, List.foldl_append]
  rfl

theorem filterMap_concat {β : Type} (read? : α → Option β) (history : List α) (x : α) :
    (history ++ [x]).filterMap read? =
      (read? x).elim (history.filterMap read?) fun b => history.filterMap read? ++ [b] := by
  rw [List.filterMap_append, List.filterMap_cons, List.filterMap_nil]
  cases read? x with
  | none => exact List.append_nil _
  | some b => rfl

/-- Of what happened last, a map takes at most one entry. -/
theorem KeyedMap.ofList_filterMap_concat {β : Type} (put? : α → Option (String × β))
    (history : List α) (x : α) :
    ofList ((history ++ [x]).filterMap put?) =
      (put? x).elim (ofList (history.filterMap put?)) fun entry =>
        (ofList (history.filterMap put?)).insert entry.1 entry.2 := by
  rw [filterMap_concat]
  cases put? x with
  | none => rfl
  | some entry => exact ofList_concat _ entry

theorem KeyedMap.find?_ofList_eq_lastUnder? (entries : List (String × α)) (key : String) :
    (ofList entries).find? key = lastUnder? key entries := by
  induction entries using List.reverseRecOn with
  | nil => rfl
  | append_singleton entries entry ih =>
    rw [ofList_concat, find?_insert, lastUnder?_concat, ih]

end Entries

/-- The answers to what happens next, each from the history before it. -/
def answersAfter {α β : Type} (answer : List α → α → β) : List α → List α → List β
  | _, [] => []
  | history, x :: rest => answer history x :: answersAfter answer (history ++ [x]) rest

end SqlDialect
