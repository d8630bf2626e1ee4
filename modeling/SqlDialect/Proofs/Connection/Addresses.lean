import SqlDialect.Proofs.Connection.Readings
import SqlDialect.Text.Pieces

/-!
# Taking addresses apart

An address is put together without any quoting, and hosts, databases and options may hold the
characters that stand between them. It is still cut in the right places: at the first slash after
the two in front, at the last colon before that slash, and at the first question mark after it. Main
statement: an address determines its parts when the host has no slash and the database no question
mark, and every address has the shape that the cuts expect.
-/

namespace SqlDialect

/-- What an address is made of. -/
structure AddressParts where
  host : String
  port : Nat
  database : String
  /-- What follows the question mark; empty when there is none. -/
  options : String

namespace AddressParts

def ofAddress? (address : String) : Option AddressParts :=
  match address.toList with
  | '/' :: '/' :: rest => do
    let (host, port) ← Text.cutAtLast? ':' (rest.takeWhile fun c => c ≠ '/')
    let port ← Text.wholeNumber? port
    let path := (rest.dropWhile fun c => c ≠ '/').drop 1
    return {
      host := String.ofList host
      port
      database := String.ofList (path.takeWhile fun c => c ≠ '?')
      options := String.ofList ((path.dropWhile fun c => c ≠ '?').drop 1) }
  | _ => none

end AddressParts

namespace Text

/-- The first separator of a text that has none before it. -/
theorem takeWhile_ne_append {separator : Char} {cs rest : List Char} (hcs : separator ∉ cs)
    (hrest : ∀ c ∈ rest.head?, c = separator) :
    (cs ++ rest).takeWhile (fun c => c ≠ separator) = cs ∧
      (cs ++ rest).dropWhile (fun c => c ≠ separator) = rest := by
  have hall : cs.all (fun c => c ≠ separator) = true := by
    refine List.all_eq_true.2 fun c hc => ?_
    have hne : c ≠ separator := by
      rintro rfl
      exact hcs hc
    exact decide_eq_true hne
  have hhead : ∀ c ∈ rest.head?, decide (c ≠ separator) = false := by
    intro c hc
    exact decide_eq_false (not_not_intro (hrest c hc))
  exact takeWhile_append_of_head hall hhead

end Text

namespace ConnectionReading

variable {reading : ConnectionReading}

/-- What stands between the slashes of an address. -/
def authority (reading : ConnectionReading) : List Char :=
  reading.host.toList ++ ':' :: Text.digits reading.port.toNat

theorem toList_subname (reading : ConnectionReading) :
    reading.spec.subname.toList = '/' :: '/' ::
      (reading.authority ++ '/' :: (reading.database.toList ++ reading.suffix.toList)) := by
  simp only [spec, authority, ConnectionSpec.address, String.toList_append, String.toList_ofList,
    List.append_assoc]
  rfl

theorem cutAtLast?_authority (reading : ConnectionReading) :
    Text.cutAtLast? ':' reading.authority =
      some (reading.host.toList, Text.digits reading.port.toNat) :=
  -- the host may hold colons, the digits of a port do not
  Text.cutAtLast?_eq_some_iff.2 ⟨rfl, Text.not_mem_digits (by decide) _⟩

theorem not_mem_authority (h : '/' ∉ reading.host.toList) : '/' ∉ reading.authority := by
  intro hmem
  rcases List.mem_append.1 hmem with hmem | hmem
  · exact h hmem
  · rcases List.mem_cons.1 hmem with heq | hmem
    · exact absurd heq (by decide)
    · exact Text.not_mem_digits (by decide) _ hmem

/-- An address is taken apart into what it was made of. -/
theorem ofAddress?_subname (reading : ConnectionReading) (hhost : '/' ∉ reading.host.toList)
    (hdatabase : '?' ∉ reading.database.toList) :
    AddressParts.ofAddress? reading.spec.subname =
      some ⟨reading.host, reading.port.toNat, reading.database, reading.options⟩ := by
  have hslash : ∀ c ∈ ('/' :: (reading.database.toList ++ reading.suffix.toList)).head?,
      c = '/' := by simp
  obtain ⟨hauthority, hpath⟩ := Text.takeWhile_ne_append (not_mem_authority hhost) hslash
  have hhead : ∀ c ∈ reading.suffix.toList.head?, c = '?' := by
    rcases reading.suffix_cases with ⟨-, hnone⟩ | ⟨-, hsome⟩
    · simp [hnone]
    · simp [hsome]
  obtain ⟨hname, hsuffix⟩ := Text.takeWhile_ne_append hdatabase hhead
  unfold AddressParts.ofAddress?
  simp only [toList_subname, hauthority, hpath, cutAtLast?_authority, Option.bind_eq_bind,
    Option.bind_some, Text.wholeNumber?_digits, List.drop_succ_cons, List.drop_zero, hname, hsuffix,
    String.ofList_toList, drop_suffix]
  rfl

end ConnectionReading

namespace ConnectionSpec

theorem toList_strippedOptions (options : Option String) :
    (strippedOptions options).toList =
      (options.getD "").toList.dropWhile fun c => c = '?' ∨ c = ';' :=
  String.toList_ofList

theorem eq_of_subname_eq {first second : ConnectionParams} (hfirst : '/' ∉ first.host.toList)
    (hsecond : '/' ∉ second.host.toList) (hfirst' : '?' ∉ first.database.toList)
    (hsecond' : '?' ∉ second.database.toList)
    (h : (ofParams first).subname = (ofParams second).subname) :
    first.host = second.host ∧ first.port = second.port ∧ first.database = second.database ∧
      strippedOptions first.additionalOptions = strippedOptions second.additionalOptions := by
  have hparts := (ConnectionReading.ofParams first).ofAddress?_subname hfirst hfirst'
  rw [ConnectionReading.spec_ofParams, h, ← ConnectionReading.spec_ofParams,
    (ConnectionReading.ofParams second).ofAddress?_subname hsecond hsecond'] at hparts
  obtain ⟨hhost, hport, hdatabase, hoptions⟩ := AddressParts.mk.inj (Option.some.inj hparts)
  exact ⟨hhost.symm, UInt16.toNat_inj.1 hport.symm, hdatabase.symm, hoptions.symm⟩

theorem exists_tail_of_subname (params : ConnectionParams) :
    ∃ tail : String, (ofParams params).subname =
        address (ofParams params).host (ofParams params).port (ofParams params).database ++ tail ∧
      (tail = "" ∨ ∃ (c : Char) (cs : List Char),
        tail = "?" ++ String.ofList (c :: cs) ∧ c ≠ '?' ∧ c ≠ ';') := by
  let reading := ConnectionReading.ofParams params
  have hspec : reading.spec = ofParams params := ConnectionReading.spec_ofParams params
  refine ⟨reading.suffix, congrArg subname hspec.symm, ?_⟩
  rcases reading.suffix_cases with ⟨-, hnone⟩ | ⟨hne, hsome⟩
  · exact Or.inl hnone
  · have hne' : reading.options.toList ≠ [] := by
      intro hnil
      exact hne (String.toList_eq_nil_iff.1 hnil)
    obtain ⟨c, cs, hcs⟩ := List.exists_cons_of_ne_nil hne'
    -- the first character that is left is no separator, or it would have been removed
    have hfirst := List.head?_dropWhile_not (fun c => decide (c = '?' ∨ c = ';'))
      (params.additionalOptions.getD "").toList
    rw [← toList_strippedOptions, show strippedOptions params.additionalOptions = reading.options
      from rfl, hcs] at hfirst
    have hseparator : ¬ (c = '?' ∨ c = ';') := of_decide_eq_false hfirst
    refine Or.inr ⟨c, cs, ?_, fun heq => hseparator (Or.inl heq), fun heq => hseparator (Or.inr heq)⟩
    rw [hsome, ← hcs, String.ofList_toList]

/-- Parameters with the same address have the same host, port, database and options, separators in
front of them aside, unless a host holds a slash or a database a question mark. The address is that
of the spec's own host, port and database, with nothing or options after it. -/
theorem subname_taken_apart :
    (∀ first second : ConnectionParams, '/' ∉ first.host.toList → '/' ∉ second.host.toList →
      '?' ∉ first.database.toList → '?' ∉ second.database.toList →
      (ofParams first).subname = (ofParams second).subname →
      first.host = second.host ∧ first.port = second.port ∧ first.database = second.database ∧
        ((first.additionalOptions.getD "").toList.dropWhile fun c => c = '?' ∨ c = ';') =
          (second.additionalOptions.getD "").toList.dropWhile fun c => c = '?' ∨ c = ';') ∧
    ∀ params : ConnectionParams, ∃ tail : String,
      (ofParams params).subname =
        "//" ++ (ofParams params).host ++ ":" ++
          String.ofList (Text.digits (ofParams params).port.toNat) ++ "/" ++
          (ofParams params).database ++ tail ∧
      (tail = "" ∨ ∃ (c : Char) (cs : List Char),
        tail = "?" ++ String.ofList (c :: cs) ∧ c ≠ '?' ∧ c ≠ ';') := by
  refine ⟨?_, exists_tail_of_subname⟩
  intro first second hfirst hsecond hfirst' hsecond' hsubname
  obtain ⟨hhost, hport, hdatabase, hoptions⟩ :=
    eq_of_subname_eq hfirst hsecond hfirst' hsecond' hsubname
  refine ⟨hhost, hport, hdatabase, ?_⟩
  rw [← toList_strippedOptions, ← toList_strippedOptions, hoptions]

/-- A host with colons, a database with a slash and a colon under either name, and options with a
question mark inside. -/
theorem subname_taken_apart_around_colons :
    ∃ first second : ConnectionParams,
      first = ⟨"::1", 5433, some "a/b:c", none, none, some ";?x=1?y", .empty⟩ ∧
      second = ⟨"::1", 5433, none, some "a/b:c", some true, some "x=1?y", .empty⟩ ∧
      '/' ∉ first.host.toList ∧ '?' ∉ first.database.toList ∧
      (ofParams first).subname = (ofParams second).subname ∧
      first.host = second.host ∧ first.port = second.port ∧ first.database = second.database := by
  refine ⟨_, _, rfl, rfl, ?_⟩
  have hhost : '/' ∉ "::1".toList := by decide
  have hdatabase : '?' ∉ "a/b:c".toList := by decide
  have hsubname :
      (ofParams ⟨"::1", 5433, some "a/b:c", none, none, some ";?x=1?y", .empty⟩).subname =
        (ofParams ⟨"::1", 5433, none, some "a/b:c", some true, some "x=1?y", .empty⟩).subname :=
    rfl
  have htaken := fun hfirst hsecond hfirst' hsecond' =>
    subname_taken_apart.1 _ _ hfirst hsecond hfirst' hsecond' hsubname
  obtain ⟨hsame, hsame', hsame'', -⟩ := htaken hhost hhost hdatabase hdatabase
  exact ⟨hhost, hdatabase, hsubname, hsame, hsame', hsame''⟩

/-- A slash in a host moves the place where an address is cut. -/
example :
    (ofParams ⟨"h", 1, some "x:2/d", none, none, none, .empty⟩).subname =
      (ofParams ⟨"h:1/x", 2, some "d", none, none, none, .empty⟩).subname := rfl

end ConnectionSpec
end SqlDialect
