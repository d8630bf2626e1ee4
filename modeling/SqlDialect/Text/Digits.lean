/-!
# Digits

Whole numbers written in decimal, read and printed, and the values of hexadecimal digits. Only ASCII
characters count as digits.
-/

namespace SqlDialect.Text

/-- The digits of a whole number, without leading zeros; zero is the one digit `0`. -/
def digits (n : Nat) : List Char :=
  Nat.toDigits 10 n

/-- The digits of an integer, after a minus sign when it is negative. -/
def signedDigits (i : Int) : List Char :=
  if i < 0 then '-' :: digits i.natAbs else digits i.natAbs

/-- The whole number that a row of digits denotes, the first digit being the highest. -/
def digitsValue (ds : List Char) : Nat :=
  Nat.ofDigitChars 10 ds 0

/-- The digits with zeros in front, so that there are at least `width` of them. -/
def padded (width n : Nat) : List Char :=
  List.replicate (width - (digits n).length) '0' ++ digits n

/-- The number that a text of one or more digits denotes; nothing for any other text. -/
def wholeNumber? (cs : List Char) : Option Nat :=
  if cs ≠ [] ∧ cs.all Char.isDigit then some (digitsValue cs) else none

/-- The integer that a text denotes: an optional sign, then one or more digits. -/
def integer? : List Char → Option Int
  | '-' :: cs => (wholeNumber? cs).map fun n => -(n : Int)
  | '+' :: cs => (wholeNumber? cs).map fun n => (n : Int)
  | cs => (wholeNumber? cs).map fun n => (n : Int)

/-- Takes exactly `width` digits off the front of a text and returns the number that they denote
with the rest. -/
def fixedDigits? (width : Nat) (cs : List Char) : Option (Nat × List Char) :=
  let ds := cs.take width
  if ds.length = width ∧ ds.all Char.isDigit then some (digitsValue ds, cs.drop width) else none

/-- The value of a hexadecimal digit, in either case. -/
def hexDigit? (c : Char) : Option Nat :=
  if '0' ≤ c ∧ c ≤ '9' then some (c.toNat - '0'.toNat)
  else if 'a' ≤ c ∧ c ≤ 'f' then some (c.toNat - 'a'.toNat + 10)
  else if 'A' ≤ c ∧ c ≤ 'F' then some (c.toNat - 'A'.toNat + 10)
  else none

/-- The number that hexadecimal digits denote in a base of at most 16. -/
def valueInBase? (base : Nat) (ds : List Char) : Option Nat :=
  ds.foldlM (fun n d => (hexDigit? d).map (base * n + ·)) 0

/-- Takes exactly `width` hexadecimal digits off the front of a text and returns the number that
they denote with the rest. -/
def fixedHexDigits? (width : Nat) (cs : List Char) : Option (Nat × List Char) :=
  let ds := cs.take width
  if ds.length = width then (valueInBase? 16 ds).map fun n => (n, cs.drop width) else none

/-- The character of a code point, if it is a Unicode scalar value. -/
def charOfCode? (n : Nat) : Option Char :=
  if n.isValidChar then some (Char.ofNat n) else none

/-! ## Laws -/

/-- Printing and reading a whole number gives it back. -/
@[simp] theorem digitsValue_digits (n : Nat) : digitsValue (digits n) = n :=
  Nat.ofDigitChars_ten_toDigits

theorem digits_ne_nil (n : Nat) : digits n ≠ [] :=
  Nat.toDigits_ne_nil

theorem isDigit_of_mem_digits {n : Nat} {c : Char} (h : c ∈ digits n) : c.isDigit = true :=
  Nat.isDigit_of_mem_toDigits (by decide) (by decide) h

theorem not_mem_digits {c : Char} (h : c.isDigit = false) (n : Nat) : c ∉ digits n := by
  intro hmem
  rw [isDigit_of_mem_digits hmem] at h
  exact Bool.noConfusion h

/-- Leading zeros do not change the number. -/
@[simp] theorem digitsValue_padded (width n : Nat) : digitsValue (padded width n) = n := by
  simp [digitsValue, padded, digits, Nat.ofDigitChars_append, Nat.ofDigitChars_replicate_zero,
    Nat.ofDigitChars_ten_toDigits]

theorem isDigit_of_mem_padded {width n : Nat} {c : Char} (h : c ∈ padded width n) :
    c.isDigit = true := by
  rcases List.mem_append.1 h with h | h
  · rw [(List.mem_replicate.1 h).2]; decide
  · exact isDigit_of_mem_digits h

theorem wholeNumber?_eq_some_iff {cs : List Char} {n : Nat} :
    wholeNumber? cs = some n ↔
      cs ≠ [] ∧ (∀ c ∈ cs, c.isDigit = true) ∧ digitsValue cs = n := by
  unfold wholeNumber?
  rw [Option.ite_none_right_eq_some, List.all_eq_true, Option.some.injEq, and_assoc]

/-- The text of a whole number reads back. -/
@[simp] theorem wholeNumber?_digits (n : Nat) : wholeNumber? (digits n) = some n := by
  have h : (digits n).all Char.isDigit = true :=
    List.all_eq_true.2 fun _ hc => isDigit_of_mem_digits hc
  simp [wholeNumber?, digits_ne_nil, h]

theorem isDigit_minus : '-'.isDigit = false := by decide

theorem isDigit_plus : '+'.isDigit = false := by decide

theorem integer?_of_isDigit {ds : List Char} (hne : ds ≠ []) (h : ∀ c ∈ ds, c.isDigit = true) :
    integer? ds = some (digitsValue ds : Int) := by
  have hwhole : wholeNumber? ds = some (digitsValue ds) :=
    wholeNumber?_eq_some_iff.2 ⟨hne, h, rfl⟩
  unfold integer?
  split
  · exact absurd (h '-' List.mem_cons_self) (by decide)
  · exact absurd (h '+' List.mem_cons_self) (by decide)
  · rw [hwhole]
    rfl

/-- The text of an integer reads back. -/
@[simp] theorem integer?_signedDigits (i : Int) : integer? (signedDigits i) = some i := by
  unfold signedDigits
  split
  · next hneg =>
    have hi : -(i.natAbs : Int) = i := by omega
    rw [integer?, wholeNumber?_digits]
    exact congrArg some hi
  · next hpos =>
    have hi : (i.natAbs : Int) = i := by omega
    have hdigit : ∀ c ∈ digits i.natAbs, c.isDigit = true := fun c hc => isDigit_of_mem_digits hc
    have hread : (wholeNumber? (digits i.natAbs)).map (fun n => (n : Int)) = some i := by
      rw [wholeNumber?_digits]
      exact congrArg some hi
    unfold integer?
    split
    · next cs hcs =>
      have := hdigit '-' (by simp [hcs])
      simp [isDigit_minus] at this
    · next cs hcs =>
      have := hdigit '+' (by simp [hcs])
      simp [isDigit_plus] at this
    · exact hread

theorem mem_signedDigits {i : Int} {c : Char} (h : c ∈ signedDigits i) :
    c = '-' ∨ c.isDigit = true := by
  unfold signedDigits at h
  split at h
  · rcases List.mem_cons.1 h with h | h
    · exact Or.inl h
    · exact Or.inr (isDigit_of_mem_digits h)
  · exact Or.inr (isDigit_of_mem_digits h)

end SqlDialect.Text
