import Mathlib.Data.List.Basic
import SqlDialect.Text.Digits

/-!
# Texts cut at bytes

Texts are held in UTF-8, and some readers cut them after a number of bytes. Such a cut is a fault
unless the bytes before it are those of some characters of the text.
-/

namespace SqlDialect.Text

/-- A cut outside of a text or inside one of its characters. -/
structure CutFault where
  text : String
  byte : Nat

/-- What stands before and after a number of bytes. -/
def cutAtByte (byte : Nat) (text : String) : Except CutFault (String × String) :=
  if h : (String.Pos.Raw.mk byte).IsValid text then
    .ok ((text.sliceTo ⟨⟨byte⟩, h⟩).copy, (text.sliceFrom ⟨⟨byte⟩, h⟩).copy)
  else .error ⟨text, byte⟩

theorem cutAtByte_eq_ok_iff {byte : Nat} {text before after : String} :
    cutAtByte byte text = .ok (before, after) ↔
      text = before ++ after ∧ before.utf8ByteSize = byte := by
  unfold cutAtByte
  constructor
  · intro h
    split at h
    · next hvalid =>
      obtain ⟨rfl, rfl⟩ := Prod.mk.inj (Except.ok.inj h)
      have hsplits := String.Pos.splits (⟨⟨byte⟩, hvalid⟩ : text.Pos)
      exact ⟨hsplits.eq_append, (congrArg String.Pos.Raw.byteIdx hsplits.offset_eq_rawEndPos).symm⟩
    · cases h
  · rintro ⟨rfl, rfl⟩
    have hvalid : (String.Pos.Raw.mk before.utf8ByteSize).IsValid (before ++ after) :=
      String.Pos.Raw.isValid_iff_exists_append.2 ⟨before, after, rfl, rfl⟩
    have hsplits := String.Pos.splits (⟨_, hvalid⟩ : (before ++ after).Pos)
    obtain ⟨hbefore, hafter⟩ := hsplits.eq ⟨rfl, rfl⟩
    rw [dif_pos hvalid, hbefore, hafter]

theorem utf8ByteSize_of_isDigit {cs : List Char} (h : ∀ c ∈ cs, c.isDigit = true) :
    (String.ofList cs).utf8ByteSize = cs.length := by
  induction cs with
  | nil => rfl
  | cons c cs ih =>
    have hc : c.utf8Size = 1 := by
      have hcode := Char.isDigit_iff_toNat.1 (h c List.mem_cons_self)
      rw [Char.utf8Size_eq_one_iff, UInt32.le_iff_toNat_le]
      exact Nat.le_trans hcode.2 (by decide)
    have hsplit : String.ofList (c :: cs) = String.singleton c ++ String.ofList cs := by
      rw [String.singleton_eq_ofList, ← String.ofList_append, List.singleton_append]
    rw [hsplit, String.utf8ByteSize_append, String.utf8ByteSize_singleton, hc,
      ih fun d hd => h d (List.mem_cons_of_mem c hd), List.length_cons, Nat.add_comm]

end SqlDialect.Text
