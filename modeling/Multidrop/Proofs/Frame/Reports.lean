import Multidrop.Proofs.Frame.Lossless

/-!
# What a reader reports of a script

What reading a line meets is a script: bytes, interruptions, other faults, the end. For each arrival
of a script there is a list of reports (`reports`): a failure is reported once, an interruption not
at all, and bytes by the frames and faults that passes newly find in everything that has arrived.
Calls of a reader return these one after another, and then what the idle line returns
(`Reader.answers_eq`). So a partial frame survives any number of failures at any byte
(`reports_of_cut`), and several frames that arrive together all come out.
-/
namespace Multidrop

/-- What reading reports of an arrival that brings no bytes. An interrupted read is made again. -/
def Arrival.failure? : Arrival → Option Frame.Error
  | .data [] | .closed => some .closed
  | .data (_ :: _) => none
  | .fault kind => if kind = .interrupted then none else some (.line ⟨kind, none⟩)

/-- An arrival that fails brings no bytes. -/
theorem Arrival.bytes_of_failure {arrival : Arrival} {error : Frame.Error}
    (failure : arrival.failure? = some error) : arrival.bytes = [] := by
  cases arrival with
  | data bytes =>
    cases bytes with
    | nil => rfl
    | cons => cases failure
  | fault | closed => rfl

/-- What reading reports of a line on which nothing arrives. -/
def Idle.failure : Idle → Frame.Error
  | .closed => .closed
  | .silent _ _ => .line ⟨.timedOut, none⟩

namespace Frame

variable {limit : Nat} {buffer bytes whole rest received front back : List UInt8}
  {found : List Outcome}

/-! ## What is newly found -/

/-- What passes newly find when bytes arrive behind others. -/
def news (limit : Nat) (received bytes : List UInt8) : List Outcome :=
  (outcomes limit (received ++ bytes)).drop (outcomes limit received).length

/-- Some rest is behind everything that is found. -/
theorem exists_behind (limit : Nat) (bytes : List UInt8) :
    ∃ rest, Behind (outcomes limit) (outcomes limit bytes) bytes rest := by
  fun_induction outcomes limit bytes with
  | case1 bytes needs =>
    have behind := behind_pass limit bytes
    rw [needs] at behind
    exact ⟨_, behind⟩
  | case2 bytes found ih =>
    obtain ⟨rest, later⟩ := ih
    have first := behind_pass limit bytes
    rw [Outcome.found_eq found] at first
    exact ⟨rest, first.trans later⟩

/-- What was found before comes before what is newly found. -/
theorem outcomes_append_news (limit : Nat) (received bytes : List UInt8) :
    outcomes limit (received ++ bytes) = outcomes limit received ++ news limit received bytes := by
  obtain ⟨rest, behind⟩ := exists_behind limit received
  rw [news, behind bytes, List.drop_left]

/-- The same is newly found in a rest. -/
theorem Behind.news_eq (behind : Behind (outcomes limit) found whole rest) (bytes : List UInt8) :
    news limit whole bytes = news limit rest bytes := by
  rw [news, news, behind bytes, behind.find_eq, List.length_append, ← List.drop_drop,
    List.drop_left]

/-- Bytes that arrive in two pieces bring the news of the first and then those of the second. -/
theorem news_append (limit : Nat) (received front back : List UInt8) :
    news limit received (front ++ back) =
      news limit received front ++ news limit (received ++ front) back := by
  have together := outcomes_append_news limit received (front ++ back)
  rw [← List.append_assoc, outcomes_append_news, outcomes_append_news,
    List.append_assoc] at together
  exact (List.append_cancel_left together).symm

/-- No bytes bring no news. -/
theorem news_nil (limit : Nat) (received : List UInt8) : news limit received [] = [] := by
  rw [news, List.append_nil, List.drop_length]

/-! ## Reports -/

/-- What reading reports of an outcome. -/
def Outcome.report? : Outcome → Option (Except Error Frame)
  | .incomplete => none
  | .frame found => some (.ok found)
  | .fault error => some (.error error)

/-- What reading reports of an arrival behind bytes that were received before. -/
def arrivalReports (limit : Nat) (received : List UInt8) (arrival : Arrival) :
    List (Except Error Frame) :=
  match arrival.failure? with
  | some error => [.error error]
  | none => (news limit received arrival.bytes).filterMap Outcome.report?

/-- What reading reports of a script of arrivals behind bytes that were received before. -/
def reports (limit : Nat) (received : List UInt8) : List Arrival → List (Except Error Frame)
  | [] => []
  | arrival :: script =>
    arrivalReports limit received arrival ++ reports limit (received ++ arrival.bytes) script

/-- A script is reported of part by part. -/
theorem reports_append (limit : Nat) (received : List UInt8) (front back : List Arrival) :
    reports limit received (front ++ back) =
      reports limit received front ++
        reports limit (received ++ front.flatMap Arrival.bytes) back := by
  induction front generalizing received with
  | nil => rw [List.flatMap_nil, List.append_nil]; rfl
  | cons first rest ih =>
    rw [List.cons_append, reports, reports, ih, List.flatMap_cons, List.append_assoc,
      List.append_assoc]

/-- The same is reported behind a rest. -/
theorem Behind.reports_eq (behind : Behind (outcomes limit) found whole rest)
    (script : List Arrival) :
    reports limit whole script = reports limit rest script := by
  induction script generalizing whole rest with
  | nil => rfl
  | cons arrival script ih =>
    rw [reports, reports, arrivalReports, arrivalReports, behind.news_eq,
      ih (behind.append arrival.bytes)]

/-- Bytes that arrive are reported of at once or in two pieces. -/
theorem reports_data_append (limit : Nat) (received : List UInt8) (front back : List UInt8)
    (script : List Arrival) (some : front ≠ []) (more : back ≠ []) :
    reports limit received (.data (front ++ back) :: script) =
      reports limit received (.data front :: .data back :: script) := by
  obtain ⟨first, rest, rfl⟩ := List.exists_cons_of_ne_nil some
  obtain ⟨next, others, rfl⟩ := List.exists_cons_of_ne_nil more
  simp only [reports, arrivalReports, List.cons_append, Arrival.failure?, Arrival.bytes]
  rw [← List.cons_append, news_append, List.filterMap_append, List.append_assoc, List.append_assoc]

/-- A failure is reported once, and brings nothing. -/
theorem reports_of_failure {arrival : Arrival} {error : Error}
    (failure : arrival.failure? = some error) (limit : Nat) (received : List UInt8)
    (script : List Arrival) :
    reports limit received (arrival :: script) = .error error :: reports limit received script := by
  rw [reports, arrivalReports, failure, Arrival.bytes_of_failure failure, List.append_nil]
  rfl

/-- Anything else is reported of by what is newly found in the bytes it brings. -/
theorem reports_of_bytes {arrival : Arrival} (goes : arrival.failure? = none) (limit : Nat)
    (received : List UInt8) (script : List Arrival) :
    reports limit received (arrival :: script) =
      (news limit received arrival.bytes).filterMap Outcome.report? ++
        reports limit (received ++ arrival.bytes) script := by
  rw [reports, arrivalReports, goes]

/-! ## Reads -/

/-- What a reader returns for a read that brings no bytes, unless it reads again. -/
def readFailure? : Except Fault.Kind (List UInt8) → Option Error
  | .ok [] => some .closed
  | .ok (_ :: _) => none
  | .error kind => if kind = .interrupted then none else some (.line ⟨kind, none⟩)

section Reads

variable {room : Nat} {idle : Idle} {arrivals left : List Arrival}
  {result : Except Fault.Kind (List UInt8)}

/-- A read that fails meets the first report, or nothing arrives any more. -/
theorem reports_of_readFailure {error : Error} (positive : 0 < room)
    (meets : Line.Meets room idle arrivals result left) (failed : readFailure? result = some error)
    (limit : Nat) (received : List UInt8) :
    (reports limit received arrivals).headD (.error idle.failure) = .error error ∧
      reports limit received left = (reports limit received arrivals).tail := by
  have alone {arrival : Arrival} (failure : arrival.failure? = some error) :
      (reports limit received (arrival :: left)).headD (.error idle.failure) = .error error ∧
        reports limit received left = (reports limit received (arrival :: left)).tail := by
    rw [reports_of_failure failure]
    exact ⟨rfl, rfl⟩
  cases meets with
  | ended closed =>
    cases failed
    exact ⟨by rw [closed]; rfl, rfl⟩
  | silent silent =>
    cases failed
    exact ⟨by rw [silent]; rfl, rfl⟩
  | @data bytes rest short =>
    cases bytes with
    | nil => exact alone failed
    | cons => cases failed
  | @part front back rest full more =>
    cases front with
    | nil => exact absurd full (Nat.ne_of_lt positive)
    | cons => cases failed
  | fault => exact alone failed
  | closed => exact alone failed

/-- A read that does not fail takes its bytes off those still to be reported of. -/
theorem reports_of_read (meets : Line.Meets room idle arrivals result left)
    (goes : readFailure? result = none) (limit : Nat) (received : List UInt8) :
    reports limit received arrivals =
      (news limit received (Line.brought result)).filterMap Outcome.report? ++
        reports limit (received ++ Line.brought result) left := by
  cases meets with
  | ended | silent | closed => cases goes
  | @data bytes rest short =>
    cases bytes with
    | nil => cases goes
    | cons => exact reports_of_bytes rfl limit received left
  | @part front back rest full more =>
    cases front with
    | nil => cases goes
    | cons byte front =>
      rw [reports_data_append limit received _ back rest (List.cons_ne_nil byte front) more]
      exact reports_of_bytes rfl limit received _
  | @fault kind =>
    have interrupted : Arrival.failure? (.fault kind) = none := goes
    exact reports_of_bytes interrupted limit received left

end Reads

/-! ## Calls of a reader -/

namespace Reader

variable {π : Type}

/-- What the next calls of a reader return, until nothing arrives any more. -/
def ahead (reader : Reader π) : List (Except Error Frame) :=
  (outcomes reader.limit reader.buffer).filterMap Outcome.report? ++
    reports reader.limit reader.buffer reader.line.arrivals

/-- Read some times, one after another. Returns what the calls return. -/
def answers : Nat → Reader π → List (Except Error Frame) × Reader π
  | 0, reader => ([], reader)
  | count + 1, reader =>
    let (reading, between) := reader.next
    let (later, after) := between.answers count
    (reading.result :: later, after)

/-- A call returns what is ahead, or what the idle line returns. -/
structure Answers (reader : Reader π) (result : Except Error Frame) (after : Reader π) : Prop where
  /-- The limit does not change. -/
  limit : after.limit = reader.limit
  /-- The line does not change in what it does when nothing arrives. -/
  idle : after.line.idle = reader.line.idle
  /-- The first of what is ahead is returned. -/
  result : result = reader.ahead.headD (.error reader.line.idle.failure)
  /-- The others are still ahead. -/
  ahead : after.ahead = reader.ahead.tail

/-- What a pass finds is ahead, in front of what is ahead of its rest. -/
theorem ahead_pass (reader : Reader π) :
    reader.ahead = (pass reader.limit reader.buffer).outcome.report?.toList ++
      ahead { reader with buffer := (pass reader.limit reader.buffer).rest } := by
  have behind := behind_pass reader.limit reader.buffer
  have first : (pass reader.limit reader.buffer).outcome.found.filterMap Outcome.report? =
      (pass reader.limit reader.buffer).outcome.report?.toList := by
    cases (pass reader.limit reader.buffer).outcome <;> rfl
  unfold ahead
  rw [behind.find_eq, behind.reports_eq, List.filterMap_append, first, List.append_assoc]

/-- A read that does not fail moves its bytes from the line to the buffer, and leaves what is ahead.
-/
theorem ahead_read {reader : Reader π} {line : Line π} {result : Except Fault.Kind (List UInt8)}
    (read : reader.line.read readSize = (result, line)) (goes : readFailure? result = none) :
    ahead { reader with buffer := reader.buffer ++ Line.brought result, line } = reader.ahead := by
  have moved := reports_of_read (Line.meets_read read) goes reader.limit reader.buffer
  unfold ahead
  rw [moved, outcomes_append_news, List.filterMap_append, List.append_assoc]

/-- Where the buffer holds nothing to be found, a read that fails is what is ahead. -/
theorem answers_failure {reader : Reader π} {line : Line π}
    {result : Except Fault.Kind (List UInt8)} {error : Error}
    (none : outcomes reader.limit reader.buffer = [])
    (read : reader.line.read readSize = (result, line))
    (failed : readFailure? result = some error) :
    reader.Answers (.error error) { reader with line } := by
  obtain ⟨first, rest⟩ :=
    reports_of_readFailure (by decide) (Line.meets_read read) failed reader.limit reader.buffer
  refine ⟨rfl, Line.idle_read read, ?_, ?_⟩
  · rw [ahead, none]
    exact first.symm
  · rw [ahead, ahead, none]
    exact rest

/-- A reader that only moved bytes returns the same. -/
theorem Answers.of_moved {reader between after : Reader π} {result : Except Error Frame}
    (answers : between.Answers result after) (limit : between.limit = reader.limit)
    (idle : between.line.idle = reader.line.idle) (ahead : between.ahead = reader.ahead) :
    reader.Answers result after := by
  refine ⟨answers.limit.trans limit, answers.idle.trans idle, ?_, ?_⟩
  · rw [← ahead, ← idle]
    exact answers.result
  · rw [← ahead]
    exact answers.ahead

/-- What a pass finds is returned. -/
theorem answers_found {reader : Reader π} {report : Except Error Frame}
    (found : (pass reader.limit reader.buffer).outcome.report? = some report) :
    reader.Answers report { reader with buffer := (pass reader.limit reader.buffer).rest } := by
  have ahead := reader.ahead_pass
  rw [found] at ahead
  exact ⟨rfl, rfl, by rw [ahead]; rfl, by rw [ahead]; rfl⟩

/-- Every call returns the first of what is ahead. -/
theorem answers_next (reader : Reader π) : reader.Answers reader.next.1.result reader.next.2 := by
  -- A pass that needs more bytes finds nothing, and leaves what is ahead.
  have needy {reader : Reader π} (needs : (pass reader.limit reader.buffer).outcome = .incomplete) :
      ahead { reader with buffer := (pass reader.limit reader.buffer).rest } = reader.ahead := by
    have passed := reader.ahead_pass
    rw [needs] at passed
    exact passed.symm
  fun_induction next reader with
  | case1 reader pass piece frame found | case2 reader pass piece error found =>
    exact answers_found (congrArg Outcome.report? found)
  | case3 reader pass piece needs line read =>
    have failed := @answers_failure _ { reader with buffer := pass.rest } _ _ _
      (outcomes_rest_of_incomplete needs) read rfl
    exact failed.of_moved rfl rfl (needy needs)
  | case4 reader pass piece needs byte rest line read taken reading after next ih =>
    rw [next] at ih
    have moved := @ahead_read _ { reader with buffer := pass.rest } _ _ read rfl
    exact ih.of_moved rfl (Line.idle_read read) (moved.trans (needy needs))
  | case5 reader pass piece needs line read taken reading after next ih =>
    rw [next] at ih
    have moved := @ahead_read _ { reader with buffer := pass.rest } _ _ read rfl
    rw [Line.brought, List.append_nil] at moved
    exact ih.of_moved rfl (Line.idle_read read) (moved.trans (needy needs))
  | case6 reader pass piece needs kind line uninterrupted read =>
    have failed := @answers_failure _ { reader with buffer := pass.rest } _ _ _
      (outcomes_rest_of_incomplete needs) read (if_neg uninterrupted)
    exact failed.of_moved rfl rfl (needy needs)

/-- A call comes first, then the others. -/
theorem answers_succ (count : Nat) (reader : Reader π) :
    reader.answers (count + 1) =
      (reader.next.1.result :: (reader.next.2.answers count).1, (reader.next.2.answers count).2) :=
  rfl

/-- Calls return what is ahead one after another, and then what the idle line returns. -/
theorem answers_eq (count : Nat) (reader : Reader π) :
    (reader.answers count).1 = (List.range count).map fun index =>
      reader.ahead.getD index (.error reader.line.idle.failure) := by
  induction count generalizing reader with
  | zero => rfl
  | succ count ih =>
    have first := reader.answers_next
    have later := ih reader.next.2
    rw [first.idle, first.ahead] at later
    rw [answers_succ, List.range_succ_eq_map, List.map_cons, List.map_map, later, first.result]
    cases reader.ahead with
    | nil => rfl
    | cons => rfl

/-- Calls find what passes find in the bytes that come off the line. Where the last of them found
nothing, the buffer holds nothing to be found. -/
theorem finds_answers (count : Nat) (reader : Reader π) :
    ∃ bytes, reader.Finds bytes ((reader.answers count).1.filterMap finding?)
        (reader.answers count).2 ∧
      ∀ last, (reader.answers count).1.getLast? = some last → finding? last = none →
        outcomes reader.limit (reader.answers count).2.buffer = [] := by
  induction count generalizing reader with
  | zero => exact ⟨[], .refl reader, nofun⟩
  | succ count ih =>
    obtain ⟨front, first, drained⟩ := reader.finds_next
    obtain ⟨back, later, done⟩ := ih reader.next.2
    have both := first.trans later
    rw [answers_succ]
    refine ⟨front ++ back, ?_, fun last ends nothing => ?_⟩
    · rw [List.filterMap_cons]
      cases found : finding? reader.next.1.result with
      | none => rwa [found] at both
      | some outcome => rwa [found] at both
    · rw [first.limit] at done
      rw [List.getLast?_cons, Option.some.injEq] at ends
      cases count with
      | zero =>
        rw [← ends] at nothing
        exact drained nothing
      | succ count =>
        rw [answers_succ, List.getLast?_cons, Option.getD_some] at ends
        exact done last (by rw [answers_succ, List.getLast?_cons, ends]) nothing

end Reader

/-! ## Scripts -/

/-- A wire fault that is found is reported as one. -/
theorem finding_report {outcome : Outcome} (there : outcome ∈ outcomes limit bytes) :
    outcome.report?.bind finding? = some outcome := by
  fun_induction outcomes limit bytes with
  | case1 => exact absurd there List.not_mem_nil
  | case2 bytes found ih =>
    rcases List.mem_cons.1 there with here | later
    · rw [here]
      cases outcome : (pass limit bytes).outcome with
      | incomplete => exact absurd outcome found
      | frame frame => rfl
      | fault error => exact if_pos (isWireFault_of_pass outcome)
    · exact ih later

/-- What is found is told from its reports. -/
theorem filterMap_finding (all : ∀ outcome ∈ found, outcome.report?.bind finding? = some outcome) :
    (found.filterMap Outcome.report?).filterMap finding? = found := by
  rw [List.filterMap_filterMap]
  induction found with
  | nil => rfl
  | cons outcome others ih =>
    rw [List.filterMap_cons, all outcome List.mem_cons_self]
    exact congrArg (outcome :: ·) (ih fun other there => all other (List.mem_cons_of_mem _ there))

/-- A failure of the line is nothing that was found. -/
theorem finding_failure {arrival : Arrival} {error : Error}
    (failure : arrival.failure? = some error) : finding? (.error error) = none := by
  cases arrival with
  | data bytes =>
    cases bytes with
    | nil => cases failure; rfl
    | cons => cases failure
  | fault kind =>
    rw [Arrival.failure?] at failure
    split at failure <;> cases failure
    rfl
  | closed => cases failure; rfl

/-- What is reported of the bytes of a script is what passes find in them. -/
theorem filterMap_finding_reports (limit : Nat) (received : List UInt8) (script : List Arrival) :
    (reports limit received script).filterMap finding? =
      news limit received (script.flatMap Arrival.bytes) := by
  induction script generalizing received with
  | nil => exact (news_nil limit received).symm
  | cons arrival script ih =>
    rw [List.flatMap_cons, news_append, ← ih]
    cases failure : arrival.failure? with
    | some error =>
      have none := Arrival.bytes_of_failure failure
      rw [reports_of_failure failure, List.filterMap_cons, finding_failure failure, none, news_nil,
        List.append_nil]
      rfl
    | none =>
      have all (outcome : Outcome) (there : outcome ∈ news limit received arrival.bytes) :
          outcome.report?.bind finding? = some outcome :=
        finding_report (List.mem_of_mem_drop there)
      rw [reports_of_bytes failure, List.filterMap_append, filterMap_finding all]

/-- The other reports of a script are its failures. -/
theorem filter_reports (limit : Nat) (received : List UInt8) (script : List Arrival) :
    (reports limit received script).filter (fun report => (finding? report).isNone) =
      (script.filterMap Arrival.failure?).map .error := by
  induction script generalizing received with
  | nil => rfl
  | cons arrival script ih =>
    cases failure : arrival.failure? with
    | some error =>
      rw [reports_of_failure failure, List.filter_cons_of_pos, ih, List.filterMap_cons, failure]
      · rfl
      · rw [finding_failure failure]
        rfl
    | none =>
      have none : ((news limit received arrival.bytes).filterMap Outcome.report?).filter
          (fun report => (finding? report).isNone) = [] := by
        rw [List.filter_eq_nil_iff]
        intro report there
        obtain ⟨outcome, newly, reported⟩ := List.mem_filterMap.1 there
        have found := finding_report (List.mem_of_mem_drop newly)
        rw [reported] at found
        rw [show finding? report = some outcome from found]
        exact Bool.false_ne_true
      rw [reports_of_bytes failure, List.filter_append, none, ih, List.filterMap_cons, failure]
      rfl

/-- Where no bytes arrive, only failures are reported. -/
theorem reports_of_pauses {pauses : List Arrival} (none : ∀ arrival ∈ pauses, arrival.bytes = [])
    (limit : Nat) (received : List UInt8) (script : List Arrival) :
    reports limit received (pauses ++ script) =
      (pauses.filterMap Arrival.failure?).map .error ++ reports limit received script := by
  induction pauses with
  | nil => rfl
  | cons arrival pauses ih =>
    obtain ⟨empty, others⟩ := List.forall_mem_cons.1 none
    rw [List.cons_append, List.filterMap_cons]
    cases failure : arrival.failure? with
    | some error =>
      rw [reports_of_failure failure, ih others]
      rfl
    | none =>
      rw [reports_of_bytes failure, empty, news_nil, List.append_nil, ih others]
      rfl

/-- A frame that is cut in two by any number of failures is reported behind them, as soon as its
last byte is there. -/
theorem reports_of_cut {frame : Frame} (written : frame.encode = .ok (front ++ back))
    (fits : frame.payload.length ≤ limit) (some : front ≠ []) (part : back ≠ [])
    {pauses : List Arrival} (none : ∀ arrival ∈ pauses, arrival.bytes = [])
    (more : List UInt8) (script : List Arrival) :
    reports limit [] (.data front :: pauses ++ .data (back ++ more) :: script) =
      (pauses.filterMap Arrival.failure?).map .error ++
        .ok frame :: (outcomes limit more).filterMap Outcome.report? ++
          reports limit more script := by
  have waiting : outcomes limit front = [] :=
    outcomes_of_incomplete (by rw [pass_front written fits part])
  have behind : Behind (outcomes limit) [.frame frame] (front ++ back) [] :=
    outcomes_encode written fits
  have first : arrivalReports limit [] (.data front) = [] := by
    obtain ⟨byte, rest, rfl⟩ := List.exists_cons_of_ne_nil some
    change (news limit [] (byte :: rest)).filterMap Outcome.report? = []
    rw [news, List.nil_append, waiting, List.drop_nil]
    rfl
  have second : arrivalReports limit front (.data (back ++ more)) =
      .ok frame :: (outcomes limit more).filterMap Outcome.report? := by
    obtain ⟨byte, rest, rfl⟩ := List.exists_cons_of_ne_nil part
    change (news limit front (byte :: rest ++ more)).filterMap Outcome.report? = _
    rw [news, waiting, ← List.append_assoc, behind more]
    rfl
  have left := (behind.append more).reports_eq script
  rw [List.append_assoc] at left
  rw [List.cons_append, reports, first, List.nil_append, List.nil_append, reports_of_pauses none,
    reports, List.append_assoc]
  change _ ++ (arrivalReports limit front _ ++ reports limit (front ++ (back ++ more)) script) = _
  rw [second, left]
  rfl

/-- What is reported of a script is what passes find or the failure of an arrival, and an
interruption is neither. -/
theorem uninterrupted_of_mem_reports {fault : Fault} {script : List Arrival}
    (there : .error (.line fault) ∈ reports limit received script) : fault.kind ≠ .interrupted := by
  have failed : .error (.line fault) ∈
      (reports limit received script).filter (fun report => (finding? report).isNone) :=
    List.mem_filter.2 ⟨there, rfl⟩
  rw [filter_reports] at failed
  obtain ⟨error, failures, same⟩ := List.mem_map.1 failed
  obtain ⟨arrival, _, failure⟩ := List.mem_filterMap.1 failures
  cases same
  cases arrival with
  | data bytes => cases bytes <;> cases failure
  | fault kind =>
    rw [Arrival.failure?] at failure
    split at failure
    · cases failure
    · cases failure
      assumption
  | closed => cases failure

namespace Reader

variable {π : Type}

/-- A reader that has received nothing returns what is reported of the line's script. -/
theorem answers_of_line (limit : Nat) (line : Line π) (count : Nat) :
    (answers count { limit, line }).1 = (List.range count).map fun index =>
      (reports limit [] line.arrivals).getD index (.error line.idle.failure) := by
  have ahead : ahead { limit, line } = reports limit [] line.arrivals := by
    rw [Reader.ahead, outcomes_nil]
    rfl
  rw [answers_eq, ahead]

/-- It never returns an interruption. -/
theorem uninterrupted_of_mem_answers {limit count : Nat} {line : Line π} {fault : Fault}
    (there : .error (.line fault) ∈ (answers count { limit, line }).1) :
    fault.kind ≠ .interrupted := by
  rw [answers_of_line] at there
  obtain ⟨index, _, same⟩ := List.mem_map.1 there
  rw [List.getD_eq_getElem?_getD] at same
  cases reported : (reports limit [] line.arrivals)[index]? with
  | some report =>
    have member := List.mem_of_getElem? reported
    rw [reported, Option.getD_some] at same
    rw [same] at member
    exact uninterrupted_of_mem_reports member
  | none =>
    rw [reported, Option.getD_none] at same
    cases silence : line.idle with
    | closed =>
      rw [silence] at same
      cases same
    | silent hold positive =>
      rw [silence] at same
      cases same
      exact Fault.Kind.noConfusion

/-- Calls of a reader return what passes find in the bytes of the line's script and each of its
failures once, in order, and never an interruption. -/
theorem answers_of_script (limit : Nat) (line : Line π) (count : Nat) :
    let reader : Reader π := { limit, line }
    let returned := (reader.answers count).1
    let after := (reader.answers count).2
    (returned = (List.range count).map fun index =>
      (reports limit [] line.arrivals).getD index (.error line.idle.failure)) ∧
    (∃ bytes, line.coming = bytes ++ after.line.coming ∧
      (∀ more, outcomes limit (bytes ++ more) =
        returned.filterMap finding? ++ outcomes limit (after.buffer ++ more)) ∧
      ∀ last, returned.getLast? = some last → finding? last = none →
        outcomes limit after.buffer = []) ∧
    (∀ size, let arrived := line.arrivals.take size
      reports limit [] arrived <+: reports limit [] line.arrivals ∧
      (reports limit [] arrived).filterMap finding? =
        outcomes limit (arrived.flatMap Arrival.bytes) ∧
      (reports limit [] arrived).filter (fun report => (finding? report).isNone) =
        (arrived.filterMap Arrival.failure?).map .error) ∧
    ∀ fault, .error (.line fault) ∈ returned → fault.kind ≠ .interrupted := by
  intro reader returned after
  refine ⟨answers_of_line limit line count, ?_, fun size => ⟨?_, ?_, filter_reports limit [] _⟩,
    fun _ => uninterrupted_of_mem_answers⟩
  · obtain ⟨bytes, finds, drained⟩ := reader.finds_answers count
    exact ⟨bytes, finds.yields.coming_eq, finds.outcomes, drained⟩
  · have split := reports_append limit [] (line.arrivals.take size) (line.arrivals.drop size)
    rw [List.take_append_drop] at split
    exact ⟨_, split.symm⟩
  · rw [filterMap_finding_reports, news, List.nil_append, outcomes_nil]
    rfl

/-- A frame of which the first bytes come in front of a silence and an interruption, and the others
together with a second frame, is returned behind the silence, and then the second one. -/
theorem answers_of_script_of_silence :
    let frame : Frame := { source := 1, destination := 2, payload := [0x30] }
    let front : List UInt8 := [headerFirst, headerSecond, 1]
    ∃ back, frame.encode = .ok (front ++ back) ∧
      let arrivals : List Arrival :=
        [.data front, .fault .timedOut, .fault .interrupted, .data (back ++ (front ++ back)),
          .closed]
      let reader : Reader Unit := { limit := 1, line := { arrivals, peer := () } }
      (reader.answers 5).1 =
        [.error (.line ⟨.timedOut, none⟩), .ok frame, .ok frame, .error .closed,
          .error .closed] := by
  intro frame front
  have written : frame.encode = .ok (front ++ [2, 1, 0x30, 0x25, 0xc9]) :=
    encode_eq_ok.2 ⟨by decide, by decide, by decide +kernel⟩
  have fits : frame.payload.length ≤ 1 := by decide
  refine ⟨_, written, ?_⟩
  intro arrivals reader
  have reported : reports 1 [] arrivals =
      [.error (.line ⟨.timedOut, none⟩), .ok frame, .ok frame, .error .closed] := by
    have split := reports_of_cut written fits (List.cons_ne_nil _ _) (List.cons_ne_nil _ _)
      (by decide : ∀ arrival ∈ [Arrival.fault .timedOut, .fault .interrupted], arrival.bytes = [])
      (front ++ [2, 1, 0x30, 0x25, 0xc9]) [.closed]
    have again := outcomes_encode written fits []
    rw [List.append_nil, outcomes_nil] at again
    rw [again] at split
    exact split
  rw [(answers_of_script 1 reader.line 5).1, reported]
  rfl

end Reader

end Frame

end Multidrop
