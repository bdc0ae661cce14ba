import Mathlib.Data.Nat.Digits
import Trust0.Model
import Trust0.Repository
/-
`AppConfig::parse_gateway_service_ports`, the parser of the `--gateway-service-ports` range:
the regex search `(\d+)-(\d+)` of the regex crate (unanchored, leftmost-first, greedy), then
`u16::from_str` on both groups with `unwrap_or(0)`, and the rejection of a zero port. The `\d`
class is Unicode's decimal digits; the model takes it as a parameter `isNd`. The search is
shown to miss no range and to read whole numbers only.

Then `AppConfig::create_datasource_repositories` on the in-memory repositories that
`DataSource::repository_factories` makes: what each file read and parse gives is an input, and
so is the user repository's answer, whose code is not among the sources.
-/

namespace Trust0

namespace Gateway

/-- The value of a numeral of ASCII digits, read left to right as `u16::from_str` does. -/
def decimalValue (digits : List Char) : Nat :=
  digits.foldl (fun acc c => 10 * acc + (c.toNat - '0'.toNat)) 0

@[simp] theorem decimalValue_append_singleton (digits : List Char) (c : Char) :
    decimalValue (digits ++ [c]) = 10 * decimalValue digits + (c.toNat - '0'.toNat) := by
  simp [decimalValue]

/-- `u16::from_str`: an optional `+`, then ASCII decimal digits whose value fits in `u16`. The
source's checked multiply-add overflows exactly when the final value does not fit, since the
running value never decreases. -/
def parseU16 (text : List Char) : Option UInt16 :=
  let digits := if text.head? = some '+' ∧ 1 < text.length then text.tail else text
  if digits ≠ [] ∧ digits.all Char.isDigit ∧ decimalValue digits < UInt16.size then
    some (UInt16.ofNat (decimalValue digits))
  else none

section NumberRange

variable (isNd : Char → Bool)

/-- The regex `(\d+)-(\d+)` at the start of the text, under leftmost-first greedy matching: the
run of `\d` there, a dash, and the run of `\d` after it. Backtracking into the first run never
helps, since a shorter run is followed by a digit. -/
def matchRangeAt (text : List Char) : Option (List Char × List Char) :=
  match text.dropWhile isNd with
  | '-' :: rest =>
    if text.takeWhile isNd = [] ∨ rest.takeWhile isNd = [] then none
    else some (text.takeWhile isNd, rest.takeWhile isNd)
  | _ => none

/-- `Regex::captures`: the match at the first position, from the left, where there is one. -/
def captures : List Char → Option (List Char × List Char)
  | [] => none
  | text@(_ :: rest) => (matchRangeAt isNd text).or (captures rest)

/-- A non-empty run of the class `\d`. -/
def IsRun (run : List Char) : Prop := run ≠ [] ∧ ∀ c ∈ run, isNd c = true

namespace AppConfig

/-- `AppConfig::parse_gateway_service_ports`. -/
def parseGatewayServicePorts (gatewayServicePortsStr : String) :
    Except AppError (UInt16 × UInt16) :=
  match captures isNd gatewayServicePortsStr.toList with
  | none => .error (.general ("Invalid gateway service port range: val=" ++
      gatewayServicePortsStr))
  | some (first, second) =>
    let portStart := (parseU16 first).getD 0
    let portEnd := (parseU16 second).getD 0
    if portStart = 0 ∨ portEnd = 0 then
      .error (.general ("Invalid gateway service port range (u16 vals required): val=" ++
        gatewayServicePortsStr))
    else .ok (portStart, portEnd)

end AppConfig

/-- No match starts at a character outside the class. -/
theorem matchRangeAt_cons_of_not_nd {c : Char} (hc : isNd c = false) (text : List Char) :
    matchRangeAt isNd (c :: text) = none := by
  have htake : (c :: text).takeWhile isNd = [] := List.takeWhile_cons_of_neg (by simp [hc])
  simp only [matchRangeAt, htake, true_or, if_true]
  split <;> rfl

/-- The search skips a prefix with no character of the class. -/
theorem captures_append_of_not_nd {pre : List Char} (hpre : ∀ c ∈ pre, isNd c = false)
    (text : List Char) : captures isNd (pre ++ text) = captures isNd text := by
  induction pre with
  | nil => rfl
  | cons c pre ih =>
    rw [List.cons_append, captures, matchRangeAt_cons_of_not_nd isNd (hpre c (.head _)),
      Option.none_or, ih fun d hd => hpre d (.tail _ hd)]

/-- A run of the class, a dash and a run of the class, followed by something outside the class,
is the match at the run's start. -/
theorem captures_range {first second post : List Char} (hdash : isNd '-' = false)
    (hfirst : first ≠ [] ∧ ∀ c ∈ first, isNd c) (hsecond : second ≠ [] ∧ ∀ c ∈ second, isNd c)
    (hpost : ∀ c ∈ post.head?, isNd c = false) :
    captures isNd (first ++ '-' :: (second ++ post)) = some (first, second) := by
  have hrest : (second ++ post).takeWhile isNd = second := by
    rw [List.takeWhile_append_of_pos hsecond.2]
    cases post with
    | nil => simp
    | cons c post => simp [List.takeWhile_cons_of_neg, hpost c rfl]
  have hdash' : ¬isNd '-' := by simp [hdash]
  have hmatch : matchRangeAt isNd (first ++ '-' :: (second ++ post)) = some (first, second) := by
    simp only [matchRangeAt, List.dropWhile_append_of_pos hfirst.2,
      List.dropWhile_cons_of_neg hdash', List.takeWhile_append_of_pos hfirst.2,
      List.takeWhile_cons_of_neg hdash', List.append_nil, hrest, hfirst.1, hsecond.1, or_self,
      if_false]
  obtain ⟨c, first, rfl⟩ := List.exists_cons_of_ne_nil hfirst.1
  rw [List.cons_append, captures, ← List.cons_append, hmatch]
  rfl

end NumberRange

/-- The decimal digit characters `Nat.digitChar` writes. -/
theorem digitChar_decimal : ∀ d < 10,
    (Nat.digitChar d).isDigit ∧ (Nat.digitChar d).toNat - '0'.toNat = d := by
  decide

/-- `Nat.toDigitsCore 10` puts in front of its accumulator a nonempty numeral of ASCII digits
for the number, given the fuel `Nat.toDigits` gives it. -/
theorem toDigitsCore_decimal (fuel n : Nat) (ds : List Char) (h : n < fuel) :
    ∃ digits, Nat.toDigitsCore 10 fuel n ds = digits ++ ds ∧ digits ≠ [] ∧
      (∀ c ∈ digits, c.isDigit) ∧ decimalValue digits = n := by
  induction fuel generalizing n ds with
  | zero => omega
  | succ fuel ih =>
    have hd := digitChar_decimal (n % 10) (Nat.mod_lt _ (by decide))
    simp only [Nat.toDigitsCore]
    split_ifs with hq
    · refine ⟨[Nat.digitChar (n % 10)], rfl, List.cons_ne_nil _ _, by simpa using hd.1, ?_⟩
      simp only [decimalValue, List.foldl_cons, List.foldl_nil, hd.2]
      omega
    · obtain ⟨digits, heq, -, hall, hval⟩ := ih (n / 10) (Nat.digitChar (n % 10) :: ds) (by omega)
      refine ⟨digits ++ [Nat.digitChar (n % 10)], by simp [heq], by simp, ?_, ?_⟩
      · simpa [or_imp, forall_and] using ⟨hall, hd.1⟩
      · rw [decimalValue_append_singleton, hval, hd.2]
        omega

/-- `Nat.toDigits 10 n`: a numeral of ASCII digits for `n`. -/
theorem toDigits_decimal (n : Nat) :
    Nat.toDigits 10 n ≠ [] ∧ (∀ c ∈ Nat.toDigits 10 n, c.isDigit) ∧
      decimalValue (Nat.toDigits 10 n) = n := by
  obtain ⟨digits, heq, hne, hall, hval⟩ := toDigitsCore_decimal (n + 1) n [] (by omega)
  rw [Nat.toDigits, heq, List.append_nil]
  exact ⟨hne, hall, hval⟩

/-- `u16::from_str` reads a numeral of ASCII digits whose value fits. -/
theorem parseU16_of_digits {digits : List Char} (hne : digits ≠ [])
    (hall : ∀ c ∈ digits, c.isDigit) (hlt : decimalValue digits < UInt16.size) :
    parseU16 digits = some (UInt16.ofNat (decimalValue digits)) := by
  obtain ⟨c, rest, rfl⟩ := List.exists_cons_of_ne_nil hne
  have hc : c ≠ '+' := fun h => absurd (h ▸ hall c (.head _)) (by decide)
  simp only [parseU16, List.head?_cons, Option.some.injEq, hc, false_and, if_false, ne_eq,
    List.all_eq_true, hall, hlt]
  simpa using hall

/-- `toString n`, as the characters `Nat.toDigits 10 n`. -/
theorem toList_toString_nat (n : Nat) : (toString n).toList = Nat.toDigits 10 n := rfl

/-- The range parser accepts a range of ports `a-b` wherever it sits in the text: after any text
without a decimal digit and before any text that does not start with one. -/
theorem parseGatewayServicePorts_accepts_embedded_range (isNd : Char → Bool)
    (hdigit : ∀ c, c.isDigit → isNd c) (hdash : isNd '-' = false) (pre post : String)
    (hpre : ∀ c ∈ pre.toList, isNd c = false) (hpost : ∀ c ∈ post.toList.head?, isNd c = false)
    (a b : Nat) (ha : 0 < a ∧ a < UInt16.size) (hb : 0 < b ∧ b < UInt16.size) :
    AppConfig.parseGatewayServicePorts isNd (pre ++ toString a ++ "-" ++ toString b ++ post) =
      .ok (UInt16.ofNat a, UInt16.ofNat b) := by
  obtain ⟨hane, haall, haval⟩ := toDigits_decimal a
  obtain ⟨hbne, hball, hbval⟩ := toDigits_decimal b
  have htext : (pre ++ toString a ++ "-" ++ toString b ++ post).toList =
      pre.toList ++ (Nat.toDigits 10 a ++ '-' :: (Nat.toDigits 10 b ++ post.toList)) := by
    simp [String.toList, toList_toString_nat]
    rfl
  have hcaptures := captures_range isNd hdash ⟨hane, fun c hc => hdigit c (haall c hc)⟩
    ⟨hbne, fun c hc => hdigit c (hball c hc)⟩ hpost
  have hzero : ∀ n : Nat, 0 < n ∧ n < UInt16.size → UInt16.ofNat n ≠ 0 := fun n hn h => by
    have := congrArg UInt16.toNat h
    rw [UInt16.toNat_ofNat_of_lt hn.2] at this
    simp at this
    omega
  simp only [AppConfig.parseGatewayServicePorts, htext, captures_append_of_not_nd isNd hpre,
    hcaptures, parseU16_of_digits hane haall (by omega),
    parseU16_of_digits hbne hball (by omega), haval, hbval, Option.getD_some,
    hzero a ha, hzero b hb, or_self, if_false]

/-- The failing input: `x10-20y`, with ASCII digits for `\d`. -/
theorem parseGatewayServicePorts_accepts_x10_20y :
    AppConfig.parseGatewayServicePorts Char.isDigit "x10-20y" = .ok (10, 20) :=
  parseGatewayServicePorts_accepts_embedded_range Char.isDigit (fun _ h => h) rfl "x" "y"
    (by decide) (by decide) 10 20 (by decide) (by decide)

/-! ## Whole runs: what the search finds and what it misses -/

section WholeRuns

variable {isNd : Char → Bool}

/-- A run, a dash and a character of the class at the start of the text: a match is there. -/
theorem matchRangeAt_ne_none (hdash : isNd '-' = false) {first : List Char} {d : Char}
    (hfirst : IsRun isNd first) (hd : isNd d = true) (rest : List Char) :
    matchRangeAt isNd (first ++ '-' :: d :: rest) ≠ none := by
  have hdash' : ¬isNd '-' := by simp [hdash]
  simp only [matchRangeAt, List.dropWhile_append_of_pos hfirst.2,
    List.dropWhile_cons_of_neg hdash', List.takeWhile_append_of_pos hfirst.2,
    List.takeWhile_cons_of_neg hdash', List.append_nil, List.takeWhile_cons_of_pos hd, hfirst.1,
    reduceCtorEq, or_self, if_false]
  exact Option.some_ne_none _

/-- A match at the start is a whole run, the dash, and a whole run: the text goes on with no
character of the class. -/
theorem matchRangeAt_eq_some {text first second : List Char}
    (h : matchRangeAt isNd text = some (first, second)) :
    ∃ post, text = first ++ '-' :: (second ++ post) ∧ IsRun isNd first ∧ IsRun isNd second ∧
      ∀ c ∈ post.head?, isNd c = false := by
  unfold matchRangeAt at h
  split at h
  · next rest hdrop =>
    split_ifs at h with hempty
    cases h
    simp only [not_or] at hempty
    refine ⟨rest.dropWhile isNd, ?_, ⟨hempty.1, fun c hc => List.mem_takeWhile_imp hc⟩,
      ⟨hempty.2, fun c hc => List.mem_takeWhile_imp hc⟩, fun c hc => ?_⟩
    · conv => lhs; rw [← List.takeWhile_append_dropWhile isNd text, hdrop,
        ← List.takeWhile_append_dropWhile isNd rest]
    · have := List.head?_dropWhile_not isNd rest
      rw [Option.mem_def.1 hc] at this
      exact this
  · cases h

/-- The search misses no match: where a run, a dash and a run occur in the text, it finds one. -/
theorem captures_ne_none (hdash : isNd '-' = false) {first second : List Char}
    (hfirst : IsRun isNd first) (hsecond : IsRun isNd second) {text : List Char}
    (h : first ++ '-' :: second <:+: text) : captures isNd text ≠ none := by
  obtain ⟨pre, post, rfl⟩ := h
  obtain ⟨d, second, rfl⟩ := List.exists_cons_of_ne_nil hsecond.1
  induction pre with
  | nil =>
    obtain ⟨c, first', rfl⟩ := List.exists_cons_of_ne_nil hfirst.1
    have hmatch := matchRangeAt_ne_none hdash hfirst (hsecond.2 d (.head _)) (second ++ post)
    simp only [List.nil_append, List.append_assoc, List.cons_append] at hmatch ⊢
    rw [captures]
    exact fun h => hmatch (Option.or_eq_none.1 h).1
  | cons c pre ih =>
    simp only [List.cons_append, List.append_assoc] at ih ⊢
    rw [captures]
    exact fun h => ih (Option.or_eq_none.1 h).2

/-- The runs the search finds are whole: no character of the class stands right before the
first or right after the second. -/
theorem captures_eq_some (hdash : isNd '-' = false) {text first second : List Char}
    (h : captures isNd text = some (first, second)) :
    ∃ pre post, text = pre ++ first ++ '-' :: (second ++ post) ∧ IsRun isNd first ∧
      IsRun isNd second ∧ (∀ c ∈ pre.getLast?, isNd c = false) ∧
      ∀ c ∈ post.head?, isNd c = false := by
  induction text with
  | nil => cases h
  | cons c rest ih =>
    rw [captures] at h
    cases hmatch : matchRangeAt isNd (c :: rest) with
    | some found =>
      rw [hmatch] at h
      obtain rfl : found = (first, second) := Option.some.inj h
      obtain ⟨post, htext, hfirst, hsecond, hpost⟩ := matchRangeAt_eq_some hmatch
      exact ⟨[], post, htext, hfirst, hsecond, by simp, hpost⟩
    | none =>
      rw [hmatch, Option.none_or] at h
      obtain ⟨pre, post, rfl, hfirst, hsecond, hpre, hpost⟩ := ih h
      refine ⟨c :: pre, post, by simp, hfirst, hsecond, fun x hx => ?_, hpost⟩
      cases pre with
      | cons y pre => exact hpre x (by simpa [List.getLast?_cons] using hx)
      | nil =>
        -- a run right before the first would make a match start one character earlier
        simp only [List.getLast?_singleton, Option.mem_def, Option.some.injEq] at hx
        subst hx
        by_contra hc
        obtain ⟨d, second', rfl⟩ := List.exists_cons_of_ne_nil hsecond.1
        have hrun : IsRun isNd (c :: first) :=
          ⟨List.cons_ne_nil _ _, by simpa [hc] using hfirst.2⟩
        exact matchRangeAt_ne_none hdash hrun (hsecond.2 d (.head _)) (second' ++ post)
          (by simpa using hmatch)

/-- The two refusals of `parse_gateway_service_ports` carry different texts. -/
theorem rangeMessages_ne (text : String) :
    "Invalid gateway service port range (u16 vals required): val=" ++ text ≠
      "Invalid gateway service port range: val=" ++ text := by
  intro h
  have hprefix := congrArg (fun s : String => s.data.take 35) h
  simp only [String.data_append] at hprefix
  rw [List.take_append_of_le_length (by decide), List.take_append_of_le_length (by decide)]
    at hprefix
  exact absurd hprefix (by decide)

/-- What `parse_gateway_service_ports` refuses and what it reads: it answers "Invalid gateway
service port range" exactly when no run of `\d`, a dash and a run of `\d` occurs in the text;
and the ports it returns are `u16::from_str` of whole runs of `\d` of the text, never of part of
a longer number. -/
theorem parseGatewayServicePorts_reads_whole_runs (hdash : isNd '-' = false) (text : String) :
    (AppConfig.parseGatewayServicePorts isNd text =
        .error (.general ("Invalid gateway service port range: val=" ++ text)) ↔
      ¬∃ first second, IsRun isNd first ∧ IsRun isNd second ∧
        first ++ '-' :: second <:+: text.toList) ∧
    ∀ portStart portEnd, AppConfig.parseGatewayServicePorts isNd text = .ok (portStart, portEnd) →
      ∃ pre first second post, text.toList = pre ++ first ++ '-' :: (second ++ post) ∧
        IsRun isNd first ∧ IsRun isNd second ∧ (∀ c ∈ pre.getLast?, isNd c = false) ∧
        (∀ c ∈ post.head?, isNd c = false) ∧
        parseU16 first = some portStart ∧ parseU16 second = some portEnd := by
  cases hc : captures isNd text.toList with
  | none =>
    -- no match: the plain refusal, and no run, dash and run in the text
    have hparse : AppConfig.parseGatewayServicePorts isNd text =
        .error (.general ("Invalid gateway service port range: val=" ++ text)) := by
      simp only [AppConfig.parseGatewayServicePorts, hc]
    refine ⟨iff_of_true hparse fun ⟨_, _, hfirst, hsecond, hin⟩ =>
      captures_ne_none hdash hfirst hsecond hin hc, fun _ _ h => ?_⟩
    rw [hparse] at h
    cases h
  | some found =>
    -- a match: whole runs, read by `u16::from_str`
    obtain ⟨first, second⟩ := found
    obtain ⟨pre, post, htext, hfirst, hsecond, hpre, hpost⟩ := captures_eq_some hdash hc
    have hparse : AppConfig.parseGatewayServicePorts isNd text =
        if (parseU16 first).getD 0 = 0 ∨ (parseU16 second).getD 0 = 0 then
          .error (.general ("Invalid gateway service port range (u16 vals required): val=" ++
            text))
        else .ok ((parseU16 first).getD 0, (parseU16 second).getD 0) := by
      simp only [AppConfig.parseGatewayServicePorts, hc]
    refine ⟨iff_of_false ?_ (not_not.2 ⟨first, second, hfirst, hsecond, pre, post,
      by simpa using htext.symm⟩), fun portStart portEnd h => ?_⟩
    · rw [hparse]
      split_ifs
      · exact fun h => rangeMessages_ne text (AppError.general.inj (Except.error.inj h))
      · exact not_false
    · rw [hparse] at h
      split_ifs at h with hzero
      cases h
      refine ⟨pre, first, second, post, htext, hfirst, hsecond, hpre, hpost, ?_, ?_⟩
      · exact (Option.getD_of_ne_none (fun hn => hzero (.inl (by rw [hn]; rfl))) 0).symm
      · exact (Option.getD_of_ne_none (fun hn => hzero (.inr (by rw [hn]; rfl))) 0).symm

/-- `x10-20y`, with ASCII digits for `\d`. -/
theorem parseGatewayServicePorts_reads_whole_runs_x10_20y :
    Char.isDigit '-' = false ∧
    (AppConfig.parseGatewayServicePorts Char.isDigit "x10-20y" =
        .error (.general ("Invalid gateway service port range: val=" ++ "x10-20y")) ↔
      ¬∃ first second, IsRun Char.isDigit first ∧ IsRun Char.isDigit second ∧
        first ++ '-' :: second <:+: "x10-20y".toList) ∧
    ∀ portStart portEnd, AppConfig.parseGatewayServicePorts Char.isDigit "x10-20y" =
        .ok (portStart, portEnd) →
      ∃ pre first second post, "x10-20y".toList = pre ++ first ++ '-' :: (second ++ post) ∧
        IsRun Char.isDigit first ∧ IsRun Char.isDigit second ∧
        (∀ c ∈ pre.getLast?, Char.isDigit c = false) ∧
        (∀ c ∈ post.head?, Char.isDigit c = false) ∧
        parseU16 first = some portStart ∧ parseU16 second = some portEnd :=
  ⟨rfl, parseGatewayServicePorts_reads_whole_runs rfl "x10-20y"⟩

end WholeRuns

/-! ## The datasource repositories -/

/-- `DataSource`: no database, or the in-memory one with its three JSON files. -/
inductive DataSource
  | noDB
  | inMemoryDb (accessDbFile serviceDbFile userDbFile : String)
  deriving DecidableEq, Repr

/-- What the repositories' `connect_to_datasource` gets from a file path: the accesses or the
services that reading and parsing the file yields, and the user repository's answer. -/
structure DatasourceFiles where
  accesses : String → Except AppError (List ServiceAccess)
  services : String → Except AppError (List Service)
  connectUsers : String → Except AppError Unit

namespace AppConfig

/-- `create_datasource_repositories` on the new repositories of `repository_factories`: with
`InMemoryDb` the access, service and user repositories connect to their files in that order, and
the first error is returned. -/
def createDatasourceRepositories (datasource : DataSource) (files : DatasourceFiles) :
    Except AppError (InMemAccessRepo × InMemServiceRepo) :=
  match datasource with
  | .noDB => .ok (InMemAccessRepo.new, InMemServiceRepo.new)
  | .inMemoryDb accessDbFile serviceDbFile userDbFile =>
    match InMemAccessRepo.new.connectToDatasource (files.accesses accessDbFile) with
    | (.error err, _) => .error err
    | (.ok (), accessRepository) =>
      match InMemServiceRepo.new.connectToDatasource (files.services serviceDbFile) with
      | (.error err, _) => .error err
      | (.ok (), serviceRepository) =>
        match files.connectUsers userDbFile with
        | .error err => .error err
        | .ok () => .ok (accessRepository, serviceRepository)

end AppConfig

end Gateway

end Trust0
