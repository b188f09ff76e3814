import Multidrop.Endpoint
import Multidrop.Proofs.Text.Numeral
import Multidrop.Proofs.Text.Parts

/-!
# What endpoints are called

A text without blank characters at its ends is the name of at most one endpoint, by one of three
rules (`Endpoint.Names`). A bare path has no mark, but its endpoint is written with one, so the text
of an endpoint need not be the text that it was read from; it is always read as the same endpoint,
though (`Endpoint.parse_names`).
-/
namespace Multidrop.Endpoint

open Text

/-- The names of endpoints: a path behind its mark, a host and a port apart at the last colon, or a
bare path that looks like no other sort of address. -/
inductive Names : List Char → Endpoint → Prop
  | path {path : List Char} (filled : path ≠ []) :
      Names ("unix:".toList ++ path) (.unix (String.ofList path))
  | address {host port : List Char} {number : ℕ} (filled : host ≠ []) (last : ':' ∉ port)
      (numeral : Unsigned 10 port number) (small : number ≤ 65535) :
      Names ("tcp:".toList ++ (host ++ ':' :: port)) (.tcp (String.ofList (host ++ ':' :: port)))
  | bare {text : List Char} (filled : text ≠ []) (noPath : ¬"unix:".toList <+: text)
      (noAddress : ¬"tcp:".toList <+: text) (noScheme : ¬"://".toList <:+: text) :
      Names text (.unix (String.ofList text))

variable {name : List Char} {endpoint : Endpoint}

/-- An address is a host of at least one character and a port of 16 bits, apart at the last
colon. -/
theorem isAddress_iff : isAddress name = true ↔ ∃ host port number,
    name = host ++ ':' :: port ∧ host ≠ [] ∧ ':' ∉ port ∧ Unsigned 10 port number ∧
      number ≤ 65535 := by
  have small : 10 ≤ 16 := by decide
  have bound (number : ℕ) : number < Word.bound 16 ↔ number ≤ 65535 := Nat.lt_succ_iff
  unfold isAddress
  constructor
  · intro address
    cases split : splitLast ':' name with
    | none => simp [split] at address
    | some parts =>
      obtain ⟨host, port⟩ := parts
      obtain ⟨same, last⟩ := splitLast_eq_some_iff.1 split
      simp only [split, Bool.and_eq_true, Bool.not_eq_true', List.isEmpty_eq_false_iff,
        Option.isSome_iff_exists] at address
      obtain ⟨filled, number, read⟩ := address
      obtain ⟨numeral, less⟩ := (natural?_eq_some_iff small).1 read
      exact ⟨host, port, number, same, filled, last, numeral, (bound number).1 less⟩
  · rintro ⟨host, port, number, same, filled, last, numeral, less⟩
    have split := splitLast_eq_some_iff.2 ⟨same, last⟩
    have read := (natural?_eq_some_iff small).2 ⟨numeral, (bound number).2 less⟩
    simp [split, filled, read]

/-- The endpoint that a text is taken for has it as a name. -/
theorem names_of_ofTrimmed? (found : ofTrimmed? name = some endpoint) : Names name endpoint := by
  unfold ofTrimmed? at found
  cases path : afterFront? unixMark name with
  | some path' =>
    obtain rfl := afterFront?_eq_some_iff.1 path
    simp only [path] at found
    by_cases empty : path' = []
    · simp [empty] at found
    · rw [if_neg (by simpa using empty)] at found
      cases found
      exact .path empty
  | none =>
    simp only [path] at found
    cases address : afterFront? tcpMark name with
    | some address' =>
      obtain rfl := afterFront?_eq_some_iff.1 address
      simp only [address] at found
      by_cases sound : isAddress address' = true
      · rw [if_pos sound] at found
        obtain ⟨host, port, number, rfl, filled, last, numeral, small⟩ := isAddress_iff.1 sound
        cases found
        exact .address filled last numeral small
      · rw [if_neg sound] at found
        cases found
    | none =>
      simp only [address] at found
      by_cases refused : (name.isEmpty || contains "://".toList name) = true
      · rw [if_pos refused] at found
        cases found
      · rw [if_neg refused] at found
        rw [Bool.or_eq_true, not_or, List.isEmpty_iff, contains_iff] at refused
        cases found
        exact .bare refused.1 (afterFront?_eq_none_iff.1 path) (afterFront?_eq_none_iff.1 address)
          refused.2

/-- A text is taken for the endpoint that has it as a name. -/
theorem ofTrimmed?_of_names (names : Names name endpoint) : ofTrimmed? name = some endpoint := by
  unfold ofTrimmed?
  cases names with
  | @path path filled =>
    have front : afterFront? unixMark ("unix:".toList ++ path) = some path :=
      afterFront?_eq_some_iff.2 rfl
    have kept : ¬path.isEmpty = true := by simpa using filled
    simp only [front, if_neg kept]
  | @address host port number filled last numeral small =>
    have other : afterFront? unixMark ("tcp:".toList ++ (host ++ ':' :: port)) = none := rfl
    have front : afterFront? tcpMark ("tcp:".toList ++ (host ++ ':' :: port)) =
        some (host ++ ':' :: port) := afterFront?_eq_some_iff.2 rfl
    have sound := isAddress_iff.2 ⟨host, port, number, rfl, filled, last, numeral, small⟩
    simp only [other, front, if_pos sound]
  | bare filled noPath noAddress noScheme =>
    have plain : ¬(name.isEmpty || contains "://".toList name) = true := by
      rw [Bool.or_eq_true, not_or, List.isEmpty_iff, contains_iff]
      exact ⟨filled, noScheme⟩
    have path : afterFront? unixMark name = none := afterFront?_eq_none_iff.2 noPath
    have address : afterFront? tcpMark name = none := afterFront?_eq_none_iff.2 noAddress
    simp only [path, address, if_neg plain]

/-- A text is read as the endpoint whose name it is without the blank characters at its ends. -/
theorem parse_eq_ok_iff {text : String} : parse text = .ok endpoint ↔
    ∃ name, Pads text.toList name ∧ Bare name ∧ Names name endpoint := by
  constructor
  · intro read
    obtain ⟨pads, bare⟩ := trim_eq_iff.1 (rfl : trim text.toList = trim text.toList)
    refine ⟨trim text.toList, pads, bare, names_of_ofTrimmed? ?_⟩
    unfold parse at read
    cases found : ofTrimmed? (trim text.toList) with
    | none => simp [found] at read
    | some other =>
      simp only [found, Except.ok.injEq] at read
      rw [read]
  · rintro ⟨name, pads, bare, names⟩
    have trimmed := trim_eq_iff.2 ⟨pads, bare⟩
    simp only [parse, trimmed, ofTrimmed?_of_names names]

/-- The text of an endpoint is a name of it, without blank characters at its ends if some name of
the endpoint is. -/
theorem Names.text (names : Names name endpoint) (bare : Bare name) :
    Names endpoint.text.toList endpoint ∧ Bare endpoint.text.toList := by
  cases names with
  | @path path filled =>
    have same : (Endpoint.unix (String.ofList path)).text.toList = "unix:".toList ++ path := by
      simp [Endpoint.text]
    rw [same]
    exact ⟨.path filled, bare⟩
  | @address host port number filled last numeral small =>
    have same : (Endpoint.tcp (String.ofList (host ++ ':' :: port))).text.toList =
        "tcp:".toList ++ (host ++ ':' :: port) := by
      simp [Endpoint.text]
    rw [same]
    exact ⟨.address filled last numeral small, bare⟩
  | bare filled _ _ _ =>
    -- The text has a mark that the name does not have, and ends as the name does.
    have marked : (Endpoint.unix (String.ofList name)).text.toList = "unix:".toList ++ name := by
      simp [Endpoint.text]
    rw [marked]
    refine ⟨.path filled, ?_, ?_⟩
    · rintro _ ⟨⟩
      decide
    · rw [List.getLast?_append_of_ne_nil _ filled]
      exact bare.last

/-- A text names an endpoint exactly if what is left of it without the blanks at its ends is a name,
and reading the text of an endpoint gives it again. -/
theorem parse_names (text : String) :
    (∀ endpoint, parse text = .ok endpoint → ∃ again, parse endpoint.text = .ok again ∧
      again = endpoint ∧ again.text = endpoint.text) ∧
    ∀ endpoint, parse text = .ok endpoint ↔
      ∃ name, Pads text.toList name ∧ Bare name ∧ Names name endpoint := by
  refine ⟨fun endpoint read => ?_, fun endpoint => parse_eq_ok_iff⟩
  obtain ⟨name, _, bare, names⟩ := parse_eq_ok_iff.1 read
  obtain ⟨own, ends⟩ := names.text bare
  exact ⟨endpoint, parse_eq_ok_iff.2 ⟨_, .refl _, ends, own⟩, rfl, rfl⟩

/-- A path between a blank and a wide blank is read without them, and written with a mark. -/
theorem parse_names_of_bare :
    parse " /tmp/bus\u3000" = .ok (.unix "/tmp/bus") ∧
      parse (Endpoint.unix "/tmp/bus").text = .ok (.unix "/tmp/bus") := by
  obtain ⟨again, accepts⟩ := parse_names " /tmp/bus\u3000"
  have pads : Pads " /tmp/bus\u3000".toList "/tmp/bus".toList :=
    ⟨[' '], ['\u3000'], by simp, by simp [isBlank, blankRanges], by simp [isBlank, blankRanges]⟩
  have bare : Bare "/tmp/bus".toList :=
    ⟨by simp [isBlank, blankRanges], by simp [isBlank, blankRanges]⟩
  have noScheme : ¬"://".toList <:+: "/tmp/bus".toList := by
    rw [← contains_iff]
    simp [contains]
  have names : Names "/tmp/bus".toList (.unix (String.ofList "/tmp/bus".toList)) :=
    .bare (by simp) (by simp) (by simp) noScheme
  rw [String.ofList_toList] at names
  have read := (accepts _).2 ⟨_, pads, bare, names⟩
  obtain ⟨endpoint, reread, rfl, _⟩ := again _ read
  exact ⟨read, reread⟩

end Multidrop.Endpoint
