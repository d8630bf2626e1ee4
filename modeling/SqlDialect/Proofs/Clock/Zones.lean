import SqlDialect.Proofs.Clock.NormalForm
import SqlDialect.Proofs.Text.Bytes

/-!
# The zones that are read

Colons may stand anywhere after the sign of a zone, so what counts are the digits that are left
without them: two for the hours, and perhaps two for the minutes. Main statement: these zones are
read as their offsets and no other text is a zone; and reading them from UTF-8, with the sign and
the hours cut off at bytes, comes to the same and never cuts inside a character.
-/

namespace SqlDialect
namespace ZoneOffset

/-! ## The language of zones -/

/-- The hours and minutes of the digits `HH` or `HHMM`. -/
inductive HoursMinutes : List Char → Nat → Nat → Prop
  | hours {a b : Char} (ha : a.isDigit) (hb : b.isDigit) :
      HoursMinutes [a, b] (Text.digitsValue [a, b]) 0
  | hoursAndMinutes {a b c d : Char} (ha : a.isDigit) (hb : b.isDigit) (hc : c.isDigit)
      (hd : d.isDigit) :
      HoursMinutes [a, b, c, d] (Text.digitsValue [a, b]) (Text.digitsValue [c, d])

/-- The zones and their offsets in seconds. -/
inductive Denotes : List Char → Int → Prop
  | universal {cs : List Char} (h : cs = "UTC".toList ∨ cs = "GMT".toList ∨ cs = "Z".toList) :
      Denotes cs 0
  | east {cs : List Char} {hours minutes : Nat}
      (h : HoursMinutes (cs.filter (· ≠ ':')) hours minutes) (hminutes : minutes ≤ 59)
      (hday : hours * 60 + minutes ≤ 1439) : Denotes ('+' :: cs) (hours * 3600 + minutes * 60)
  | west {cs : List Char} {hours minutes : Nat}
      (h : HoursMinutes (cs.filter (· ≠ ':')) hours minutes) (hminutes : minutes ≤ 59)
      (hday : hours * 60 + minutes ≤ 1439) : Denotes ('-' :: cs) (-(hours * 3600 + minutes * 60))

theorem HoursMinutes.isDigit {ds : List Char} {hours minutes : Nat}
    (h : HoursMinutes ds hours minutes) : ∀ c ∈ ds, c.isDigit = true := by
  cases h with
  | hours ha hb => simp [ha, hb]
  | hoursAndMinutes ha hb hc hd => simp [ha, hb, hc, hd]

theorem HoursMinutes.length {ds : List Char} {hours minutes : Nat}
    (h : HoursMinutes ds hours minutes) : ds.length = 2 ∨ ds.length = 4 := by
  cases h with
  | hours => exact Or.inl rfl
  | hoursAndMinutes => exact Or.inr rfl

theorem exists_hoursMinutes {ds : List Char} (hdigit : ∀ c ∈ ds, c.isDigit = true)
    (hlength : ds.length = 2 ∨ ds.length = 4) :
    ∃ hours minutes, HoursMinutes ds hours minutes := by
  simp only [← List.all_eq_true] at hdigit
  match ds with
  | [a, b] =>
    simp only [List.all_cons, List.all_nil, Bool.and_eq_true] at hdigit
    obtain ⟨ha, hb, -⟩ := hdigit
    exact ⟨_, _, .hours ha hb⟩
  | [a, b, c, d] =>
    simp only [List.all_cons, List.all_nil, Bool.and_eq_true] at hdigit
    obtain ⟨ha, hb, hc, hd, -⟩ := hdigit
    exact ⟨_, _, .hoursAndMinutes ha hb hc hd⟩
  | [] | [_] | [_, _, _] | _ :: _ :: _ :: _ :: _ :: _ => simp at hlength

/-! ## Reading by characters -/

theorem HoursMinutes.minutesOfDigits? {ds : List Char} {hours minutes : Nat}
    (h : HoursMinutes ds hours minutes) :
    minutesOfDigits? ds = if minutes < 60 then some (60 * hours + minutes) else none := by
  cases h with
  | hours => rfl
  | hoursAndMinutes => rfl

theorem minutesOfDigits?_eq_none {ds : List Char} (hlength : ¬ (ds.length = 2 ∨ ds.length = 4)) :
    minutesOfDigits? ds = none := by
  match ds with
  | [_, _] | [_, _, _, _] => simp at hlength
  | [] | [_] | [_, _, _] | _ :: _ :: _ :: _ :: _ :: _ => rfl

theorem HoursMinutes.ofSigned? {cs : List Char} {hours minutes : Nat}
    (h : HoursMinutes (cs.filter (· ≠ ':')) hours minutes) (negative : Bool) :
    ofSigned? negative cs =
      if minutes < 60 then
        ofMinutes? (if negative then -((60 * hours + minutes : Nat) : Int)
          else (60 * hours + minutes : Nat))
      else none := by
  unfold ZoneOffset.ofSigned?
  simp only
  rw [if_pos (List.all_eq_true.2 h.isDigit), h.minutesOfDigits?]
  by_cases hminutes : minutes < 60
  · rw [if_pos hminutes, if_pos hminutes]
  · rw [if_neg hminutes, if_neg hminutes]

theorem ofSigned?_eq_none {negative : Bool} {cs : List Char}
    (h : ∀ hours minutes, ¬ HoursMinutes (cs.filter (· ≠ ':')) hours minutes) :
    ofSigned? negative cs = none := by
  unfold ofSigned?
  simp only
  split
  · next hdigit =>
    have hlength : ¬ ((cs.filter (· ≠ ':')).length = 2 ∨ (cs.filter (· ≠ ':')).length = 4) := by
      intro hlength
      obtain ⟨hours, minutes, hfound⟩ := exists_hoursMinutes (List.all_eq_true.1 hdigit) hlength
      exact h hours minutes hfound
    rw [minutesOfDigits?_eq_none hlength]
  · rfl

theorem ofMinutes?_eq_some_iff {minutes : Int} {offset : ZoneOffset} :
    ofMinutes? minutes = some offset ↔ offset.minutes = minutes := by
  unfold ofMinutes?
  constructor
  · intro h
    split at h
    · cases h
      rfl
    · cases h
  · rintro rfl
    exact dif_pos offset.inDay

/-- The bound on the digits of the minutes and the bound on the offset are those of the language. -/
theorem exists_ofSigned?_iff {negative : Bool} {cs : List Char} {seconds : Int} :
    (∃ offset, ofSigned? negative cs = some offset ∧ offset.seconds = seconds) ↔
      ∃ hours minutes, HoursMinutes (cs.filter (· ≠ ':')) hours minutes ∧ minutes ≤ 59 ∧
        hours * 60 + minutes ≤ 1439 ∧
        seconds = if negative then -(hours * 3600 + minutes * 60 : Int)
          else hours * 3600 + minutes * 60 := by
  constructor
  · rintro ⟨offset, h, rfl⟩
    by_cases hfound : ∃ hours minutes, HoursMinutes (cs.filter (· ≠ ':')) hours minutes
    · obtain ⟨hours, minutes, hfound⟩ := hfound
      rw [hfound.ofSigned?, Option.ite_none_right_eq_some, ofMinutes?_eq_some_iff] at h
      obtain ⟨hminutes, hoffset⟩ := h
      have hday := offset.inDay
      refine ⟨hours, minutes, hfound, by omega, ?_, ?_⟩
      · split at hoffset <;> omega
      · unfold seconds
        rw [hoffset]
        split <;> omega
    · rw [ofSigned?_eq_none fun hours minutes h => hfound ⟨hours, minutes, h⟩] at h
      cases h
  · rintro ⟨hours, minutes, hfound, hminutes, hday, rfl⟩
    refine ⟨⟨if negative then -((60 * hours + minutes : Nat) : Int)
      else (60 * hours + minutes : Nat), by split <;> omega⟩, ?_, ?_⟩
    · rw [hfound.ofSigned?, if_pos (by omega), ofMinutes?_eq_some_iff]
    · unfold seconds
      simp only
      split <;> omega

theorem Denotes.inDay {cs : List Char} {seconds : Int} (h : Denotes cs seconds) :
    ∃ minutes : Int, seconds = 60 * minutes ∧ -1440 < minutes ∧ minutes < 1440 := by
  cases h with
  | universal => exact ⟨0, by decide, by decide, by decide⟩
  | @east _ hours minutes _ _ hday =>
    exact ⟨hours * 60 + minutes, by omega, by omega, by omega⟩
  | @west _ hours minutes _ _ hday =>
    exact ⟨-(hours * 60 + minutes), by omega, by omega, by omega⟩

theorem Denotes.of_read? {cs : List Char} {offset : ZoneOffset} (h : read? cs = some offset) :
    Denotes cs offset.seconds := by
  unfold read? at h
  split at h
  · next hword =>
    cases h
    exact .universal hword
  · split at h
    · obtain ⟨hours, minutes, hfound, hminutes, hday, hseconds⟩ :=
        exists_ofSigned?_iff.1 ⟨offset, h, rfl⟩
      rw [hseconds]
      exact .east hfound hminutes hday
    · obtain ⟨hours, minutes, hfound, hminutes, hday, hseconds⟩ :=
        exists_ofSigned?_iff.1 ⟨offset, h, rfl⟩
      rw [hseconds]
      exact .west hfound hminutes hday
    · cases h

theorem Denotes.exists_read? {cs : List Char} {seconds : Int} (h : Denotes cs seconds) :
    ∃ offset, read? cs = some offset ∧ offset.seconds = seconds := by
  cases h with
  | universal hword => exact ⟨utc, if_pos hword, rfl⟩
  | @east cs hours minutes hfound hminutes hday =>
    have hread : read? ('+' :: cs) = ofSigned? false cs := if_neg (by simp)
    rw [hread]
    exact exists_ofSigned?_iff.2 ⟨hours, minutes, hfound, hminutes, hday, rfl⟩
  | @west cs hours minutes hfound hminutes hday =>
    have hread : read? ('-' :: cs) = ofSigned? true cs := if_neg (by simp)
    rw [hread]
    exact exists_ofSigned?_iff.2 ⟨hours, minutes, hfound, hminutes, hday, rfl⟩

theorem exists_read?_iff {cs : List Char} {seconds : Int} :
    (∃ offset, read? cs = some offset ∧ offset.seconds = seconds) ↔ Denotes cs seconds := by
  constructor
  · rintro ⟨offset, hread, rfl⟩
    exact .of_read? hread
  · exact Denotes.exists_read?

theorem read?_eq_none_iff {cs : List Char} :
    read? cs = none ↔ ∀ seconds, ¬ Denotes cs seconds := by
  constructor
  · intro h seconds hdenotes
    obtain ⟨offset, hread, -⟩ := hdenotes.exists_read?
    rw [h] at hread
    cases hread
  · intro h
    cases hread : read? cs with
    | none => rfl
    | some offset => exact absurd (Denotes.of_read? hread) (h offset.seconds)

/-! ## Reading by bytes -/

/-- The seconds of an offset, if it is less than a day. -/
def secondsInDay? (seconds : Int) : Option Int :=
  if -86400 < seconds ∧ seconds < 86400 then some seconds else none

/-- The hours and minutes of digits, told apart by the number of bytes. -/
def hoursMinutesByBytes (digits : String) : Except Text.CutFault (Option (Int × Int)) :=
  match digits.utf8ByteSize with
  | 2 => .ok ((Text.integer? digits.toList).map fun hours => (hours, 0))
  | 4 => do
    let (hours, minutes) ← Text.cutAtByte 2 digits
    .ok ((Text.integer? hours.toList).bind fun hours =>
      (Text.integer? minutes.toList).map fun minutes => (hours, minutes))
  | _ => .ok none

/-- The offset in seconds of a zone that starts with a sign of one byte. -/
def signedByBytes (sign : Int) (zone : String) : Except Text.CutFault (Option Int) := do
  let (_, rest) ← Text.cutAtByte 1 zone
  let digits := String.ofList (rest.toList.filter (· ≠ ':'))
  if digits.toList.all Char.isDigit then
    match ← hoursMinutesByBytes digits with
    | some (hours, minutes) =>
      .ok (if 60 ≤ minutes then none else secondsInDay? (sign * (hours * 3600 + minutes * 60)))
    | none => .ok none
  else .ok none

/-- The offset in seconds of a zone. -/
def readByBytes (zone : String) : Except Text.CutFault (Option Int) :=
  if zone = "UTC" ∨ zone = "GMT" ∨ zone = "Z" then .ok (secondsInDay? 0)
  else
    match zone.toList.head? with
    | some '+' => signedByBytes 1 zone
    | some '-' => signedByBytes (-1) zone
    | _ => .ok none

theorem integer?_two {a b : Char} (ha : a.isDigit = true) (hb : b.isDigit = true) :
    Text.integer? [a, b] = some (Text.digitsValue [a, b] : Int) :=
  Text.integer?_of_isDigit (by simp) (by simp [ha, hb])

theorem HoursMinutes.byBytes {ds : List Char} {hours minutes : Nat}
    (h : HoursMinutes ds hours minutes) :
    hoursMinutesByBytes (String.ofList ds) = .ok (some (hours, minutes)) := by
  have hsize := Text.utf8ByteSize_of_isDigit h.isDigit
  unfold hoursMinutesByBytes
  rw [hsize, String.toList_ofList]
  cases h with
  | @hours a b ha hb =>
    simp only [List.length_cons, List.length_nil, integer?_two ha hb, Option.map_some, Nat.cast_zero]
  | @hoursAndMinutes a b c d ha hb hc hd =>
    have hcut : Text.cutAtByte 2 (String.ofList [a, b, c, d]) =
        .ok (String.ofList [a, b], String.ofList [c, d]) := by
      rw [Text.cutAtByte_eq_ok_iff, ← String.ofList_append]
      exact ⟨rfl, Text.utf8ByteSize_of_isDigit (by simp [ha, hb])⟩
    show (Text.cutAtByte 2 (String.ofList [a, b, c, d]) >>= _) = _
    rw [hcut]
    show Except.ok _ = _
    rw [String.toList_ofList, String.toList_ofList, integer?_two ha hb, integer?_two hc hd]
    rfl

theorem hoursMinutesByBytes_eq_none {ds : List Char} (h : ∀ c ∈ ds, c.isDigit = true)
    (hlength : ¬ (ds.length = 2 ∨ ds.length = 4)) :
    hoursMinutesByBytes (String.ofList ds) = .ok none := by
  unfold hoursMinutesByBytes
  rw [Text.utf8ByteSize_of_isDigit h]
  split
  · next htwo => exact absurd (Or.inl htwo) hlength
  · next hfour => exact absurd (Or.inr hfour) hlength
  · rfl

theorem secondsInDay?_eq (minutes : Int) :
    secondsInDay? (60 * minutes) = (ofMinutes? minutes).map seconds := by
  unfold secondsInDay? ofMinutes?
  by_cases hday : -1440 < minutes ∧ minutes < 1440
  · rw [dif_pos hday, if_pos (by omega)]
    rfl
  · rw [dif_neg hday, if_neg (by omega)]
    rfl

/-- The sign is cut off where it ends, and what is left is told apart as it is by characters. -/
theorem signedByBytes_cons {sign : Char} (hsign : sign.utf8Size = 1) (negative : Bool)
    (cs : List Char) :
    signedByBytes (if negative then -1 else 1) (String.ofList (sign :: cs)) =
      .ok ((ofSigned? negative cs).map seconds) := by
  have hcut : Text.cutAtByte 1 (String.ofList (sign :: cs)) =
      .ok (String.singleton sign, String.ofList cs) := by
    rw [Text.cutAtByte_eq_ok_iff, String.singleton_eq_ofList, ← String.ofList_append]
    exact ⟨rfl, by rw [← String.singleton_eq_ofList, String.utf8ByteSize_singleton, hsign]⟩
  unfold signedByBytes
  rw [hcut]
  show (if _ then _ else _ : Except Text.CutFault (Option Int)) = _
  rw [String.toList_ofList, String.toList_ofList]
  -- only when all that is left is digits do their bytes count, and then each is one byte
  by_cases hdigit : ∀ c ∈ cs.filter (· ≠ ':'), c.isDigit = true
  · rw [if_pos (List.all_eq_true.2 hdigit)]
    by_cases hlength : (cs.filter (· ≠ ':')).length = 2 ∨ (cs.filter (· ≠ ':')).length = 4
    · obtain ⟨hours, minutes, hfound⟩ := exists_hoursMinutes hdigit hlength
      rw [hfound.byBytes, hfound.ofSigned?]
      show Except.ok (if (60 : Int) ≤ minutes then none else _) = _
      by_cases hminutes : minutes < 60
      · rw [if_pos hminutes, if_neg (by omega), ← secondsInDay?_eq]
        refine congrArg (fun seconds => Except.ok (secondsInDay? seconds)) ?_
        split <;> omega
      · rw [if_neg hminutes, if_pos (by omega)]
        rfl
    · rw [hoursMinutesByBytes_eq_none hdigit hlength,
        ofSigned?_eq_none fun hours minutes hfound => hlength hfound.length]
      rfl
  · rw [if_neg (by rwa [List.all_eq_true]),
      ofSigned?_eq_none fun hours minutes hfound => hdigit hfound.isDigit]
    rfl

/-- No cut is a fault, and what is read is the offset of the zone. -/
theorem readByBytes_eq (zone : String) :
    readByBytes zone = .ok ((read? zone.toList).map seconds) := by
  have hword : ∀ word : String, zone = word ↔ zone.toList = word.toList :=
    fun word => String.toList_inj.symm
  unfold readByBytes read?
  simp only [hword]
  split
  · rfl
  · generalize hcs : zone.toList = cs
    obtain rfl : zone = String.ofList cs := by rw [← hcs, String.ofList_toList]
    match cs with
    | [] => rfl
    | c :: cs =>
      simp only [List.head?_cons]
      by_cases hplus : c = '+'
      · subst hplus
        exact signedByBytes_cons (by decide) false cs
      · by_cases hminus : c = '-'
        · subst hminus
          exact signedByBytes_cons (by decide) true cs
        · simp [hplus, hminus]

end ZoneOffset

theorem ClockReading.read?_eq_badZone_iff {text zone : String} :
    read? text = .error (.badZone zone) ↔
      ∃ before, Text.trim text.toList = before ++ ' ' :: zone.toList ∧ ' ' ∉ zone.toList ∧
        (∃ stamp, Calendar.read stampLayout before = .ok stamp) ∧
        ∀ seconds, ¬ ZoneOffset.Denotes zone.toList seconds := by
  unfold read?
  simp only
  constructor
  · intro h
    split at h
    · cases h
    · next before cs hcut =>
      split at h
      · cases h
      · next stamp hstamp =>
        split at h
        · next hzone =>
          cases h
          rw [String.toList_ofList]
          obtain ⟨htext, hlast⟩ := Text.cutAtLast?_eq_some_iff.1 hcut
          exact ⟨before, htext, hlast, ⟨stamp, hstamp⟩, ZoneOffset.read?_eq_none_iff.1 hzone⟩
        · split at h <;> cases h
  · rintro ⟨before, htext, hlast, ⟨stamp, hstamp⟩, hzone⟩
    rw [Text.cutAtLast?_eq_some_iff.2 ⟨htext, hlast⟩]
    simp only [hstamp, ZoneOffset.read?_eq_none_iff.2 hzone, String.ofList_toList]

/-- Exactly the zones of the language are read, with offsets in whole minutes and less than a day;
reading by bytes faults on no text and finds the same offsets; and a clock text is refused for its
zone exactly when a date and time stands before the last space and no zone after it. -/
theorem ZoneOffset.zones_read_exactly :
    (∀ (cs : List Char) (seconds : Int),
      (∃ offset, read? cs = some offset ∧ offset.seconds = seconds) ↔ Denotes cs seconds) ∧
    (∀ (cs : List Char) (seconds : Int), Denotes cs seconds →
      (∃ minutes : Int, seconds = 60 * minutes) ∧ -86400 < seconds ∧ seconds < 86400) ∧
    (∀ zone : String, readByBytes zone = .ok ((read? zone.toList).map seconds)) ∧
    ∀ text zone : String, ClockReading.read? text = .error (.badZone zone) ↔
      ∃ before, Text.trim text.toList = before ++ ' ' :: zone.toList ∧ ' ' ∉ zone.toList ∧
        (∃ stamp, Calendar.read ClockReading.stampLayout before = .ok stamp) ∧
        ∀ seconds, ¬ Denotes zone.toList seconds := by
  refine ⟨fun cs seconds => exists_read?_iff, ?_, readByBytes_eq,
    fun text zone => ClockReading.read?_eq_badZone_iff⟩
  intro cs seconds h
  obtain ⟨minutes, rfl, hlow, hhigh⟩ := h.inDay
  exact ⟨⟨minutes, rfl⟩, by omega, by omega⟩

/-- Stray colons are skipped, a day is too much, and digits of other scripts are refused. -/
theorem ZoneOffset.zones_read_exactly_at_edges :
    Denotes "+:0:5::30:".toList 19800 ∧ (∃ minutes : Int, 19800 = 60 * minutes) ∧
      ¬ Denotes "+24:00".toList 86400 ∧ readByBytes "+٣٣" = .ok none ∧
      ClockReading.read? "2024-03-15 10:30:45 EST" = .error (.badZone "EST") ∧
      ¬ Denotes "EST".toList (-18000) := by
  obtain ⟨hlanguage, hday, hbytes, hrefused⟩ := zones_read_exactly
  have hcolons : Denotes "+:0:5::30:".toList 19800 :=
    (hlanguage _ _).1 ⟨⟨330, by decide⟩, by decide, by decide⟩
  have hrefusal : ClockReading.read? "2024-03-15 10:30:45 EST" = .error (.badZone "EST") := rfl
  obtain ⟨-, -, -, -, hzone⟩ := (hrefused _ _).1 hrefusal
  refine ⟨hcolons, (hday _ _ hcolons).1, ?_, hbytes "+٣٣", hrefusal, hzone _⟩
  intro h
  exact absurd (hday _ _ h).2.2 (by decide)

end SqlDialect
