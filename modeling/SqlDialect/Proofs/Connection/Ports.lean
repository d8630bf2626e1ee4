import SqlDialect.Proofs.Connection.Flattening
import SqlDialect.Proofs.Text.Trimming

/-!
# The port of connection details

A port is a whole number that fits into 16 bits. It is given as a number, or as digits in a text,
with a plus sign before them or without one and with blanks around them. Main statement: such a
number is the port if it is in range, whatever the number of its digits; beside a number that is out
of range, and beside any other value, the port is the default one.
-/

namespace SqlDialect

/-- The whole number that a field holds, as a number or written out in digits. -/
inductive HoldsInteger : Option Json → Int → Prop where
  | number (n : Int) : HoldsInteger (some (.int n)) n
  | text {before sign ds after : List Char} (hbefore : before.all Text.isBlank = true)
      (hsign : sign = [] ∨ sign = ['+']) (hne : ds ≠ []) (hds : ∀ d ∈ ds, d.isDigit = true)
      (hafter : after.all Text.isBlank = true) :
      HoldsInteger (some (.string (String.ofList (before ++ (sign ++ ds) ++ after))))
        (Nat.ofDigitChars 10 ds 0)

namespace ConnectionParams

theorem toNat_portOfInt? {n : Int} (hlow : 0 ≤ n) (hhigh : n ≤ 65535) :
    (((portOfInt? n).getD defaultPort).toNat : Int) = n := by
  have hrange : 0 ≤ n ∧ n < 65536 := by omega
  have hport : portOfInt? n = some (UInt16.ofNat n.toNat) := if_pos hrange
  rw [hport, Option.getD_some]
  exact (portOfInt?_eq_some_iff.1 hport).symm

theorem portOfInt?_eq_none {n : Int} (h : n < 0 ∨ 65535 < n) : portOfInt? n = none := by
  have hrange : ¬ (0 ≤ n ∧ n < 65536) := by omega
  exact if_neg hrange

/-- A sign belongs to the digits after it, so the blanks end where the sign or a digit stands. -/
theorem trim_signed_digits {before sign ds after : List Char}
    (hbefore : before.all Text.isBlank = true) (hsign : sign = [] ∨ sign = ['+']) (hne : ds ≠ [])
    (hds : ∀ d ∈ ds, d.isDigit = true) (hafter : after.all Text.isBlank = true) :
    Text.trim (before ++ (sign ++ ds) ++ after) = sign ++ ds := by
  have hvisible : ∀ c ∈ sign ++ ds, Text.isBlank c = false := by
    intro c hc
    rcases List.mem_append.1 hc with hc | hc
    · rcases hsign with rfl | rfl
      · cases hc
      · rw [List.mem_singleton.1 hc]
        decide
    · exact Text.isBlank_eq_false_of_isDigit (hds c hc)
  have hne' : sign ++ ds ≠ [] := List.append_ne_nil_of_right_ne_nil sign hne
  exact Text.trim_append hbefore hne' (fun c hc => hvisible c (List.mem_of_head? hc))
    (fun c hc => hvisible c (List.mem_of_getLast? hc)) hafter

/-- The text without the plus sign that it may start with. -/
def unsigned : List Char → List Char
  | '+' :: ds => ds
  | ds => ds

theorem portOfText?_eq (s : String) :
    portOfText? s = (Text.wholeNumber? (unsigned (Text.trim s.toList))).bind fun n => portOfInt? n :=
  rfl

theorem unsigned_append {sign ds : List Char} (hsign : sign = [] ∨ sign = ['+'])
    (hds : ∀ d ∈ ds, d.isDigit = true) : unsigned (sign ++ ds) = ds := by
  rcases hsign with rfl | rfl
  · rw [List.nil_append]
    unfold unsigned
    split
    · exact absurd (hds '+' List.mem_cons_self) (by decide)
    · rfl
  · rfl

theorem exists_sign (cs : List Char) :
    ∃ sign, (sign = [] ∨ sign = ['+']) ∧ cs = sign ++ unsigned cs := by
  unfold unsigned
  split
  · exact ⟨['+'], .inr rfl, rfl⟩
  · exact ⟨[], .inl rfl, rfl⟩

theorem portOfText?_signed_digits {before sign ds after : List Char}
    (hbefore : before.all Text.isBlank = true) (hsign : sign = [] ∨ sign = ['+']) (hne : ds ≠ [])
    (hds : ∀ d ∈ ds, d.isDigit = true) (hafter : after.all Text.isBlank = true) :
    portOfText? (String.ofList (before ++ (sign ++ ds) ++ after)) =
      portOfInt? (Nat.ofDigitChars 10 ds 0 : Nat) := by
  have hvalue : Text.wholeNumber? ds = some (Nat.ofDigitChars 10 ds 0) :=
    Text.wholeNumber?_eq_some_iff.2 ⟨hne, hds, rfl⟩
  rw [portOfText?_eq, String.toList_ofList, trim_signed_digits hbefore hsign hne hds hafter,
    unsigned_append hsign hds, hvalue, Option.bind_some]

/-- A text that is read as a port is written as one. -/
theorem exists_holdsInteger_of_portOfText? {s : String} {port : UInt16}
    (h : portOfText? s = some port) : ∃ n, HoldsInteger (some (.string s)) n := by
  obtain ⟨before, after, hbefore, hafter, hs⟩ := Text.exists_blanks_trim s.toList
  obtain ⟨sign, hsign, htrim⟩ := exists_sign (Text.trim s.toList)
  rw [portOfText?_eq] at h
  obtain ⟨n, hn, -⟩ := Option.bind_eq_some_iff.1 h
  obtain ⟨hne, hds, -⟩ := Text.wholeNumber?_eq_some_iff.1 hn
  have htext : s = String.ofList (before ++ (sign ++ unsigned (Text.trim s.toList)) ++ after) := by
    rw [← htrim, ← hs, String.ofList_toList]
  rw [htext]
  exact ⟨_, .text hbefore hsign hne hds hafter⟩

theorem readPort_of_holdsInteger {field : Option Json} {n : Int} (h : HoldsInteger field n) :
    readPort field = (portOfInt? n).getD defaultPort := by
  cases h with
  | number => rfl
  | text hbefore hsign hne hds hafter =>
    rw [readPort, portOfText?_signed_digits hbefore hsign hne hds hafter]

theorem readPort_of_not_holdsInteger {field : Option Json} (h : ∀ n, ¬ HoldsInteger field n) :
    readPort field = defaultPort := by
  unfold readPort
  split
  · next n => exact absurd (HoldsInteger.number n) (h n)
  · next s =>
    cases hport : portOfText? s with
    | none => rfl
    | some port =>
      obtain ⟨n, hn⟩ := exists_holdsInteger_of_portOfText? hport
      exact absurd hn (h n)
  · rfl

end ConnectionParams

namespace ConnectionSpec

theorem port_of_ofDetails {details : KeyedMap Json} {spec : ConnectionSpec}
    (h : ofDetails details = .ok spec) :
    spec.port = ConnectionParams.readPort (details.find? "port") := by
  obtain ⟨reading, hread, rfl⟩ := ConnectionReading.ofDetails_eq_ok_iff.1 h
  obtain ⟨host, -, rfl⟩ := map_eq_ok_iff.1 hread
  rfl

/-- The port is the whole number of its field when that is between 0 and 65535. A number that is not
comes to the default port and never to what is left of it in 16 bits, and so does every field that
holds no whole number. -/
theorem port_read_exactly (details : KeyedMap Json) {spec : ConnectionSpec}
    (h : ofDetails details = .ok spec) :
    (∀ n, HoldsInteger (details.find? "port") n → 0 ≤ n → n ≤ 65535 →
      (spec.port.toNat : Int) = n) ∧
    (∀ n, HoldsInteger (details.find? "port") n → n < 0 ∨ 65535 < n → spec.port = 5433) ∧
    ((∀ n, ¬ HoldsInteger (details.find? "port") n) → spec.port = 5433) := by
  rw [port_of_ofDetails h]
  refine ⟨?_, ?_, ?_⟩
  · intro n hn hlow hhigh
    rw [ConnectionParams.readPort_of_holdsInteger hn]
    exact ConnectionParams.toNat_portOfInt? hlow hhigh
  · intro n hn hrange
    rw [ConnectionParams.readPort_of_holdsInteger hn, ConnectionParams.portOfInt?_eq_none hrange]
    rfl
  · intro hnone
    exact ConnectionParams.readPort_of_not_holdsInteger hnone

/-- The last port, written with zeros in front and blanks around it, is read; the number after it is
not taken for 0, and a truth value is no number at all. -/
theorem port_read_exactly_at_the_limit :
    (∃ spec, ofDetails (.ofList [("port", .string " +00065535\u3000")]) = .ok spec ∧
      spec.port.toNat = 65535) ∧
    (∃ spec, ofDetails (.ofList [("port", .string "65536")]) = .ok spec ∧ spec.port = 5433) ∧
    ∃ spec, ofDetails (.ofList [("port", .bool true)]) = .ok spec ∧ spec.port = 5433 := by
  refine ⟨⟨_, rfl, ?_⟩, ⟨_, rfl, ?_⟩, ⟨_, rfl, ?_⟩⟩
  · have hlast : HoldsInteger (some (.string " +00065535\u3000")) 65535 :=
      @HoldsInteger.text [' '] ['+'] "00065535".toList ['\u3000'] (by decide) (Or.inr rfl)
        (by decide) (List.all_eq_true.1 rfl) (by decide)
    obtain ⟨hexact, -, -⟩ := port_read_exactly (.ofList [("port", .string " +00065535\u3000")]) rfl
    exact Int.ofNat_inj.1 (hexact 65535 hlast (by decide) (by decide))
  · have hnext : HoldsInteger (some (.string "65536")) 65536 :=
      @HoldsInteger.text [] [] "65536".toList [] (by decide) (Or.inl rfl) (by decide)
        (List.all_eq_true.1 rfl) (by decide)
    obtain ⟨-, hbeyond, -⟩ := port_read_exactly (.ofList [("port", .string "65536")]) rfl
    exact hbeyond 65536 hnext (Or.inr (by decide))
  · obtain ⟨-, -, hother⟩ := port_read_exactly (.ofList [("port", .bool true)]) rfl
    refine hother fun n hn => ?_
    cases hn

end ConnectionSpec
end SqlDialect
