import Mathlib.Data.List.Basic
import Mathlib.Data.List.Induction
import SqlDialect.Json.Printer
import SqlDialect.Proofs.Number.ShortestDigits

/-!
# Texts of JSON numbers

The rules of the written form of a number, told without the functions that write it: what the digits
of a whole number are, which decimal stands for a floating point number, and where its point and its
power of ten stand. Main statement: every number has exactly one text, the one that is written.
-/

namespace SqlDialect

/-! ## Whole numbers -/

/-- A whole number written in decimal digits, without a zero in front. -/
structure DigitsText (n : Nat) (ds : List Char) : Prop where
  isDigit : ∀ d ∈ ds, d.isDigit = true
  value : Nat.ofDigitChars 10 ds 0 = n
  nonempty : ds ≠ []
  leading : ds.head? = some '0' → ds = ['0']

namespace Text

theorem digits_of_lt_ten {n : Nat} (h : n < 10) : digits n = [Nat.digitChar n] :=
  Nat.toDigits_of_lt_base h

/-- Only zero is written with a zero in front. -/
theorem eq_zero_of_head?_digits {n : Nat} (h : (digits n).head? = some '0') : n = 0 := by
  induction n using Nat.strongRecOn with
  | ind n ih =>
    by_cases hsmall : n < 10
    · have hzero : ∀ k < 10, Nat.digitChar k = '0' → k = 0 := by decide
      rw [digits_of_lt_ten hsmall, List.head?_cons, Option.some.injEq] at h
      exact hzero n hsmall h
    · have hsplit : digits n = digits (n / 10) ++ [Nat.digitChar (n % 10)] :=
        Nat.toDigits_of_base_le (by decide) (by omega)
      rw [hsplit, List.head?_append_of_ne_nil _ (digits_ne_nil _)] at h
      have := ih (n / 10) (by omega) h
      omega

theorem digitChar_of_isDigit {d : Char} (h : d.isDigit = true) :
    Nat.digitChar (d.toNat - '0'.toNat) = d := by
  have hcode : 48 ≤ d.toNat ∧ d.toNat ≤ 57 := Char.isDigit_iff_toNat.1 h
  have hchar : ∀ k < 10, (Nat.digitChar k).toNat = k + 48 := by decide
  refine Char.toNat_inj.1 ?_
  show (Nat.digitChar (d.toNat - 48)).toNat = d.toNat
  rw [hchar _ (by omega)]
  omega

/-- Digits without a zero in front are the digits of their value. -/
theorem digits_ofDigitChars {ds : List Char} (hdigit : ∀ d ∈ ds, d.isDigit = true) (hne : ds ≠ [])
    (hleading : ds.head? = some '0' → ds = ['0']) : digits (Nat.ofDigitChars 10 ds 0) = ds := by
  induction ds using List.reverseRecOn with
  | nil => exact absurd rfl hne
  | append_singleton front d ih =>
    have hd : d.isDigit = true := hdigit d (by simp)
    have hcode : 48 ≤ d.toNat ∧ d.toNat ≤ 57 := Char.isDigit_iff_toNat.1 hd
    have hlast : digits (d.toNat - 48) = [d] := by
      rw [digits_of_lt_ten (by omega)]
      exact congrArg (fun c => [c]) (digitChar_of_isDigit hd)
    have hvalue : Nat.ofDigitChars 10 (front ++ [d]) 0 =
        10 * Nat.ofDigitChars 10 front 0 + (d.toNat - 48) := by
      rw [Nat.ofDigitChars_append, Nat.ofDigitChars_cons]
      rfl
    by_cases hfront : front = []
    · subst hfront
      rw [hvalue, show Nat.ofDigitChars 10 [] 0 = 0 from rfl, Nat.mul_zero, Nat.zero_add, hlast]
      rfl
    · have hhead : front.head? ≠ some '0' := by
        intro hzero
        rw [List.head?_append_of_ne_nil _ hfront] at hleading
        have hlength := congrArg List.length (hleading hzero)
        have := List.length_pos_iff.2 hfront
        simp only [List.length_append, List.length_singleton] at hlength
        omega
      have hread := ih (fun c hc => hdigit c (List.mem_append_left _ hc)) hfront
        fun hzero => absurd hzero hhead
      have hpos : 0 < Nat.ofDigitChars 10 front 0 := by
        refine Nat.pos_of_ne_zero fun hzero => hhead ?_
        rw [← hread, hzero]
        rfl
      calc digits (Nat.ofDigitChars 10 (front ++ [d]) 0)
          = digits (Nat.ofDigitChars 10 front 0) ++ digits (d.toNat - 48) := by
            rw [hvalue]
            exact (Nat.toDigits_append_toDigits (by decide) hpos (by omega)).symm
        _ = front ++ [d] := by rw [hread, hlast]

theorem digitsText_digits (n : Nat) : DigitsText n (digits n) := by
  refine ⟨fun d hd => isDigit_of_mem_digits hd, digitsValue_digits n, digits_ne_nil n, ?_⟩
  intro hzero
  rw [eq_zero_of_head?_digits hzero]
  rfl

theorem digitsText_iff {n : Nat} {ds : List Char} : DigitsText n ds ↔ ds = digits n := by
  constructor
  · rintro ⟨hdigit, rfl, hne, hleading⟩
    exact (digits_ofDigitChars hdigit hne hleading).symm
  · rintro rfl
    exact digitsText_digits n

end Text

/-! ## Decimals -/

/-- Digits with a point behind the first one, if it is not the only one. -/
inductive PointedDigits : List Char → List Char → Prop where
  | single {d : Char} : PointedDigits [d] [d]
  | several {d next : Char} {rest : List Char} :
      PointedDigits (d :: next :: rest) (d :: '.' :: next :: rest)

/-- The text of a decimal. It has a point, and zeros where there are no digits, unless more than
sixteen digits would stand before the point or more than four zeros behind it; then the point stands
behind the first digit, and a power of ten follows. -/
inductive DecimalText : Shortest.Digits → List Char → Prop where
  | whole {c zeros : Nat} {ds : List Char} (h : DigitsText c ds)
      (hbound : ds.length + zeros ≤ 16) :
      DecimalText ⟨c, zeros⟩ (ds ++ List.replicate zeros '0' ++ ['.', '0'])
  | pointed {c : Nat} {front back : List Char} (h : DigitsText c (front ++ back))
      (hfront : front ≠ []) (hback : back ≠ []) (hbound : front.length ≤ 16) :
      DecimalText ⟨c, -(back.length : Int)⟩ (front ++ '.' :: back)
  | fraction {c zeros : Nat} {ds : List Char} (h : DigitsText c ds) (hbound : zeros ≤ 4) :
      DecimalText ⟨c, -((zeros + ds.length : Nat) : Int)⟩
        ('0' :: '.' :: (List.replicate zeros '0' ++ ds))
  | large {c power : Nat} {ds text ps : List Char} (h : DigitsText c ds)
      (htext : PointedDigits ds text) (hpower : DigitsText power ps) (hbound : 16 ≤ power) :
      DecimalText ⟨c, power + 1 - ds.length⟩ (text ++ 'e' :: '+' :: ps)
  | tiny {c power : Nat} {ds text ps : List Char} (h : DigitsText c ds)
      (htext : PointedDigits ds text) (hpower : DigitsText power ps) (hbound : 5 < power) :
      DecimalText ⟨c, -power + 1 - ds.length⟩ (text ++ 'e' :: '-' :: ps)

namespace NumberLayout

/-- The power of ten of the first digit. -/
def order (d : Shortest.Digits) : Int :=
  d.exponent + (Text.digits d.coefficient).length - 1

theorem order_mk (c : Nat) (exponent : Int) :
    order ⟨c, exponent⟩ = exponent + (Text.digits c).length - 1 :=
  rfl

theorem pointedDigits_iff {ds text : List Char} (hne : ds ≠ []) :
    PointedDigits ds text ↔
      text = ds.take 1 ++ if ds.drop 1 = [] then [] else '.' :: ds.drop 1 := by
  cases ds with
  | nil => exact absurd rfl hne
  | cons d rest =>
    cases rest with
    | nil =>
      constructor
      · rintro ⟨⟩
        rfl
      · rintro rfl
        exact .single
    | cons next rest =>
      constructor
      · rintro ⟨⟩
        rfl
      · rintro rfl
        exact .several

theorem positionalText_whole (mark : String) (c zeros : Nat) :
    positionalText mark ⟨c, zeros⟩ =
      Text.digits c ++ List.replicate zeros '0' ++ mark.toList := by
  rw [positionalText, if_pos (Int.natCast_nonneg zeros), Int.toNat_natCast]

theorem positionalText_pointed (mark : String) {c : Nat} {front back : List Char}
    (h : front ++ back = Text.digits c) (hfront : front ≠ []) (hback : back ≠ []) :
    positionalText mark ⟨c, -(back.length : Int)⟩ = front ++ '.' :: back := by
  have hfrontPos := List.length_pos_iff.2 hfront
  have hbackPos := List.length_pos_iff.2 hback
  have hplaces : (- -(back.length : Int)).toNat = back.length := by omega
  have hlength : (front ++ back).length = front.length + back.length := List.length_append
  have hneg : ¬ 0 ≤ -(back.length : Int) := by omega
  rw [positionalText, if_neg hneg]
  simp only [hplaces, ← h]
  rw [if_pos (by omega), hlength, Nat.add_sub_cancel, List.take_left, List.drop_left]

theorem positionalText_fraction (mark : String) (c zeros : Nat) :
    positionalText mark ⟨c, -((zeros + (Text.digits c).length : Nat) : Int)⟩ =
      '0' :: '.' :: (List.replicate zeros '0' ++ Text.digits c) := by
  have hpos := Text.length_digits_pos c
  have hplaces : (- -((zeros + (Text.digits c).length : Nat) : Int)).toNat =
      zeros + (Text.digits c).length := by omega
  have hneg : ¬ 0 ≤ -((zeros + (Text.digits c).length : Nat) : Int) := by omega
  rw [positionalText, if_neg hneg]
  simp only [hplaces]
  rw [if_neg (by omega), Nat.add_sub_cancel]

theorem exponentialText_eq {d : Shortest.Digits} {text : List Char}
    (h : PointedDigits (Text.digits d.coefficient) text) :
    exponentialText d =
      text ++ 'e' :: (if order d < 0 then '-' else '+') :: Text.digits (order d).natAbs := by
  rw [(pointedDigits_iff (Text.digits_ne_nil _)).1 h]
  rfl

/-- The text of a decimal in the layout of JSON. -/
def decimalText (d : Shortest.Digits) : List Char :=
  if -5 ≤ order d ∧ order d < 16 then positionalText ".0" d else exponentialText d

theorem eq_decimalText {d : Shortest.Digits} {cs : List Char} (h : DecimalText d cs) :
    cs = decimalText d := by
  unfold decimalText
  cases h with
  | @whole c zeros ds h hbound =>
    rw [Text.digitsText_iff.1 h] at hbound ⊢
    have hpos := Text.length_digits_pos c
    rw [if_pos (by rw [order_mk]; omega), positionalText_whole]
    rfl
  | @pointed c front back h hfront hback hbound =>
    have hdigits := Text.digitsText_iff.1 h
    have hfrontPos := List.length_pos_iff.2 hfront
    have hlength : (Text.digits c).length = front.length + back.length := by
      rw [← hdigits, List.length_append]
    rw [if_pos (by rw [order_mk]; omega), positionalText_pointed _ hdigits hfront hback]
  | @fraction c zeros ds h hbound =>
    rw [Text.digitsText_iff.1 h]
    rw [if_pos (by rw [order_mk]; omega), positionalText_fraction]
  | @large c power ds text ps h htext hpower hbound =>
    have hdigits := Text.digitsText_iff.1 h
    subst hdigits
    have horder : order ⟨c, power + 1 - (Text.digits c).length⟩ = power := by
      rw [order_mk]
      omega
    rw [Text.digitsText_iff.1 hpower, if_neg (by omega), exponentialText_eq htext, horder,
      if_neg (by omega), Int.natAbs_natCast]
  | @tiny c power ds text ps h htext hpower hbound =>
    have hdigits := Text.digitsText_iff.1 h
    subst hdigits
    have horder : order ⟨c, -power + 1 - (Text.digits c).length⟩ = -power := by
      rw [order_mk]
      omega
    rw [Text.digitsText_iff.1 hpower, if_neg (by omega), exponentialText_eq htext, horder,
      if_pos (by omega), Int.natAbs_neg, Int.natAbs_natCast]

theorem decimalText_positionalText {c : Nat} {exponent : Int}
    (h : -5 ≤ order ⟨c, exponent⟩ ∧ order ⟨c, exponent⟩ < 16) :
    DecimalText ⟨c, exponent⟩ (positionalText ".0" ⟨c, exponent⟩) := by
  have hdigits := Text.digitsText_digits c
  have hpos := Text.length_digits_pos c
  rw [order_mk] at h
  by_cases hwhole : 0 ≤ exponent
  · obtain ⟨zeros, rfl⟩ := Int.eq_ofNat_of_zero_le hwhole
    rw [positionalText_whole]
    exact .whole hdigits (by omega)
  · by_cases hinside : -exponent < (Text.digits c).length
    · have hsplit := List.take_append_drop
        ((Text.digits c).length - exponent.natAbs) (Text.digits c)
      have hfront := List.length_take
        (i := (Text.digits c).length - exponent.natAbs) (l := Text.digits c)
      have hback := List.length_drop
        (i := (Text.digits c).length - exponent.natAbs) (l := Text.digits c)
      generalize (Text.digits c).take _ = front at hsplit hfront
      generalize (Text.digits c).drop _ = back at hsplit hback
      obtain rfl : exponent = -(back.length : Int) := by omega
      have hfrontNe : front ≠ [] := List.length_pos_iff.1 (by omega)
      have hbackNe : back ≠ [] := List.length_pos_iff.1 (by omega)
      rw [positionalText_pointed _ hsplit hfrontNe hbackNe]
      exact .pointed (hsplit ▸ hdigits) hfrontNe hbackNe (by omega)
    · obtain ⟨zeros, rfl⟩ : ∃ zeros : Nat,
          exponent = -((zeros + (Text.digits c).length : Nat) : Int) :=
        ⟨exponent.natAbs - (Text.digits c).length, by omega⟩
      rw [positionalText_fraction]
      exact .fraction hdigits (by omega)

theorem decimalText_exponentialText {c : Nat} {exponent : Int}
    (h : ¬ (-5 ≤ order ⟨c, exponent⟩ ∧ order ⟨c, exponent⟩ < 16)) :
    DecimalText ⟨c, exponent⟩ (exponentialText ⟨c, exponent⟩) := by
  have hdigits := Text.digitsText_digits c
  have htext := (pointedDigits_iff (Text.digits_ne_nil c)).2 rfl
  have hpower := Text.digitsText_digits (order ⟨c, exponent⟩).natAbs
  rw [exponentialText_eq htext]
  by_cases hneg : order ⟨c, exponent⟩ < 0
  · have hexponent : -((order ⟨c, exponent⟩).natAbs : Int) + 1 - (Text.digits c).length =
        exponent := by
      rw [order_mk] at hneg ⊢
      omega
    have htiny := DecimalText.tiny hdigits htext hpower (by omega)
    rw [hexponent] at htiny
    rw [if_pos hneg]
    exact htiny
  · have hexponent : ((order ⟨c, exponent⟩).natAbs : Int) + 1 - (Text.digits c).length =
        exponent := by
      rw [order_mk] at hneg ⊢
      omega
    have hlarge := DecimalText.large hdigits htext hpower (by omega)
    rw [hexponent] at hlarge
    rw [if_neg hneg]
    exact hlarge

theorem decimalText_iff {d : Shortest.Digits} {cs : List Char} :
    DecimalText d cs ↔ cs = decimalText d := by
  constructor
  · exact eq_decimalText
  · rintro rfl
    unfold decimalText
    split
    · next hplace => exact decimalText_positionalText hplace
    · next hplace => exact decimalText_exponentialText hplace

end NumberLayout

/-! ## Floating point numbers -/

/-- The text of a magnitude: that of its shortest decimal, which has an even last digit when two
are equally near. -/
inductive MagnitudeText : Nat → Int → List Char → Prop where
  | zero {exponent : Int} : MagnitudeText 0 exponent ['0', '.', '0']
  | positive {mantissa : Nat} {exponent : Int} {d : Shortest.Digits} {cs : List Char}
      (hpos : 0 < mantissa) (hshortest : Shortest.IsShortest .toEven mantissa exponent d)
      (h : DecimalText d cs) : MagnitudeText mantissa exponent cs

/-- The text of a floating point number. -/
inductive FloatText : Binary64 → List Char → Prop where
  | positive {mantissa : Nat} {exponent : Int} {normal : Binary64.Normal mantissa exponent}
      {cs : List Char} (h : MagnitudeText mantissa exponent cs) :
      FloatText (.finite false mantissa exponent normal) cs
  | negative {mantissa : Nat} {exponent : Int} {normal : Binary64.Normal mantissa exponent}
      {cs : List Char} (h : MagnitudeText mantissa exponent cs) :
      FloatText (.finite true mantissa exponent normal) ('-' :: cs)
  | nan : FloatText .nan "NaN".toList
  | infinite : FloatText (.infinite false) "inf".toList
  | negativeInfinite : FloatText (.infinite true) "-inf".toList

theorem NumberLayout.magnitudeText_iff {mantissa : Nat} {exponent : Int} {cs : List Char}
    (hnormal : Binary64.Normal mantissa exponent) :
    MagnitudeText mantissa exponent cs ↔ cs = json.magnitudeText mantissa exponent := by
  rcases Nat.eq_zero_or_pos mantissa with rfl | hpos
  · constructor
    · intro h
      cases h with
      | zero => rfl
      | positive hpos => exact absurd hpos (Nat.lt_irrefl 0)
    · rintro rfl
      exact .zero
  · have htext : json.magnitudeText mantissa exponent =
        decimalText (Shortest.digits .toEven mantissa exponent) := by
      rw [magnitudeText, if_neg hpos.ne']
      rfl
    rw [htext]
    constructor
    · intro h
      cases h with
      | zero => exact absurd hpos (Nat.lt_irrefl 0)
      | positive _ hshortest h =>
        rw [← (Shortest.isShortest_iff hpos hnormal).1 hshortest]
        exact decimalText_iff.1 h
    · rintro rfl
      exact .positive hpos (Shortest.digits_isShortest .toEven hpos hnormal) (decimalText_iff.2 rfl)

/-- A floating point number has one text, the one that is written. -/
theorem Binary64.floatText_iff {x : Binary64} {cs : List Char} :
    FloatText x cs ↔ cs = x.text .json := by
  constructor
  · intro h
    cases h with
    | @positive _ _ normal _ h => exact (NumberLayout.magnitudeText_iff normal).1 h
    | @negative _ _ normal _ h =>
      exact congrArg ('-' :: ·) ((NumberLayout.magnitudeText_iff normal).1 h)
    | nan => rfl
    | infinite => rfl
    | negativeInfinite => rfl
  · rintro rfl
    cases x with
    | nan => exact .nan
    | infinite negative =>
      cases negative with
      | false => exact .infinite
      | true => exact .negativeInfinite
    | finite negative mantissa exponent normal =>
      have h := (NumberLayout.magnitudeText_iff normal).2 rfl
      cases negative with
      | false => exact .positive h
      | true => exact .negative h

/-! ## Numbers -/

/-- The text of a number: a whole number is written in digits, with a minus sign in front when it
is negative. -/
inductive NumberText : JsonNumber → List Char → Prop where
  | natural {n : Nat} {ds : List Char} (h : DigitsText n ds) : NumberText (.integer n) ds
  | negative {n : Nat} {ds : List Char} (hpos : 0 < n) (h : DigitsText n ds) :
      NumberText (.integer (-n)) ('-' :: ds)
  | float {x : Binary64} {cs : List Char} (h : FloatText x cs) : NumberText (.float x) cs

theorem JsonNumber.numberText_iff {number : JsonNumber} {cs : List Char} :
    NumberText number cs ↔ cs = number.chars := by
  constructor
  · intro h
    cases h with
    | natural h =>
      rw [Text.digitsText_iff.1 h]
      rfl
    | @negative n ds hpos h =>
      have hneg : (-(n : Int)) < 0 := by omega
      rw [Text.digitsText_iff.1 h, chars, Text.signedDigits, if_pos hneg, Int.natAbs_neg,
        Int.natAbs_natCast]
    | float h => exact Binary64.floatText_iff.1 h
  · rintro rfl
    cases number with
    | float x => exact .float (Binary64.floatText_iff.2 rfl)
    | integer i =>
      rw [chars, Text.signedDigits]
      split
      · next hneg =>
        have hi : -(i.natAbs : Int) = i := by omega
        have htext := NumberText.negative (by omega) (Text.digitsText_digits i.natAbs)
        rwa [hi] at htext
      · next hnonneg =>
        have hi : (i.natAbs : Int) = i := by omega
        have htext := NumberText.natural (Text.digitsText_digits i.natAbs)
        rwa [hi] at htext

end SqlDialect
