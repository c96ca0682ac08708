import EraRewards.Proofs.ReadBack

/-!
# Ticks in paths

A tick in a path is refused unless it consists of digits, and read as a numeral then.  Not all digits
make up numerals: figures have no decimal value, and a numeral has no more digits than can be read.
-/

namespace EraRewards

open Effect

/-! ## Digits of any kind -/

namespace Text

theorem strip_of_digits {s : String} (digits : ∀ c ∈ s.toList, isDigit c = true) : strip s = s := by
  rw [strip, Integer.trimBy_eq_self fun c listed => not_isBlank_of_digit (digits c listed),
    String.ofList_toList]

theorem length_of_decimals? {cs : List Char} {values : List Nat}
    (valued : decimals? cs = some values) : values.length = cs.length := by
  induction cs generalizing values with
  | nil =>
      cases valued
      rfl
  | cons c cs induction =>
      rw [decimals?, List.mapM_cons] at valued
      obtain ⟨value, -, valued⟩ := Option.bind_eq_some_iff.1 valued
      obtain ⟨others, others_eq, valued⟩ := Option.bind_eq_some_iff.1 valued
      cases valued
      rw [List.length_cons, List.length_cons, induction others_eq]

theorem decimals?_eq_none_iff {cs : List Char} :
    decimals? cs = none ↔ ∃ c ∈ cs, decimalValue? c = none := by
  induction cs with
  | nil => simp [decimals?]
  | cons c cs induction =>
      rw [decimals?] at induction
      rw [decimals?, List.mapM_cons, List.exists_mem_cons_iff, ← induction]
      cases decimalValue? c <;> cases cs.mapM decimalValue? <;> simp

/-- A text of digits of any kind. -/
structure IsDigits (cs : List Char) : Prop where
  /-- There are digits. -/
  something : cs ≠ []
  /-- There is nothing else. -/
  digit : ∀ c ∈ cs, isDigit c = true

/-- Digits that are not read: some of them are figures, or there are too many. -/
structure IsUnread (cs : List Char) : Prop extends IsDigits cs where
  /-- They do not make up a numeral. -/
  excess : (∃ c ∈ cs, decimalValue? c = none) ∨ Integer.maxDigits < cs.length

end Text

namespace Integer

/-- A text of digits is read if they are decimal and not too many. -/
theorem read?_of_isDigits {s : String} (digits : Text.IsDigits s.toList) :
    read? s = ((Text.decimals? s.toList).filter fun values => values.length ≤ maxDigits).map
      fun values => (ofDigits values : Int) := by
  rw [read?, trimBy_eq_self fun c listed => Text.not_isSpace_of_digit (digits.digit c listed),
    signed?_of_digits digits.digit, magnitude?, digits?_of_digits digits.something digits.digit]
  cases Text.decimals? s.toList with
  | none => rfl
  | some values =>
      rw [Option.filter_some]
      dsimp only
      by_cases short : values.length ≤ maxDigits <;> simp [short]

theorem read?_eq_none_iff_isUnread {s : String} (digits : Text.IsDigits s.toList) :
    read? s = none ↔ Text.IsUnread s.toList := by
  have excess : read? s = none ↔
      (∃ c ∈ s.toList, Text.decimalValue? c = none) ∨ maxDigits < s.toList.length := by
    rw [read?_of_isDigits digits, Option.map_eq_none_iff, ← Text.decimals?_eq_none_iff]
    cases valued : Text.decimals? s.toList with
    | none => simp
    | some values => simp [← Text.length_of_decimals? valued]
  rw [excess]
  exact ⟨fun found => ⟨digits, found⟩, fun unread => unread.excess⟩

end Integer

namespace Api

open Http

namespace App

/-! ## The segment -/

theorem tickOfPath_text (name part : String) :
    (Text.IsDigits (Text.strip part).toList ∧ tickOfPath (.text name) (.text part) =
        .ok ((Integer.read? (Text.strip part)).elim (.error .unreadable) .ok)) ∨
      ¬Text.IsDigits (Text.strip part).toList ∧ tickOfPath (.text name) (.text part) =
        .error (.notNatural (.text name) name (.text part)) := by
  have shown : (if (Value.text part).isTruthy then (Value.text part).display else "") = part := by
    rw [Value.isTruthy, Value.display]
    by_cases empty : part = "" <;> simp [empty]
  rw [tickOfPath, shown]
  split
  · rename_i stopped
    refine .inr ⟨fun digits => ?_, rfl⟩
    have passed := List.all_eq_true.2 digits.digit
    rw [passed, Bool.not_true, Bool.or_false, String.isEmpty_iff] at stopped
    exact digits.something (String.toList_eq_nil_iff.2 stopped)
  · rename_i passed
    simp only [Bool.or_eq_true, String.isEmpty_iff, Bool.not_eq_true', not_or, Bool.not_eq_false,
      List.all_eq_true] at passed
    refine .inl ⟨⟨mt String.toList_eq_nil_iff.1 passed.1, passed.2⟩, ?_⟩
    rw [Value.toInt.eq_def]
    dsimp only
    cases Integer.read? (Text.strip part) <;> rfl

/-! ## The request -/

variable {part : String}

theorem fitsFixed_self (s : String) (last : Bool) : fitsFixed s last s.toList = true := by
  simp [fitsFixed]

theorem fitting?_eras (described : Bool) (something : part ≠ "") :
    fitting? (routes described) "GET"
        ["".toList, "v1".toList, "eras".toList, part.toList, "volume".toList] =
      some (.eraVolume part) := by
  cases described <;>
    simp [fitting?, routes, documentationRoutes, ledgerRoutes, fixedPath, parameterOf?,
      fitsFixed_empty, fitsFixed_toList, fitsFixed_self, something, -String.reduceToList]

theorem resolve_eras (described : Bool) (something : part ≠ "") (whole : '/' ∉ part.toList) :
    resolve (routes described) "GET" ("/v1/eras/" ++ part ++ "/volume") =
      .endpoint (.eraVolume part) := by
  have below : "/v1/eras/" ++ part ++ "/volume" = ("/v1/eras" ++ "/" ++ part) ++ "/" ++ "volume" := by
    have front : "/v1/eras/" = "/v1/eras" ++ "/" := rfl
    have back : "/volume" = "/" ++ "volume" := rfl
    rw [front, back, ← String.append_assoc]
  have last : '/' ∉ "volume".toList := by decide
  have parts : segments ("/v1/eras/" ++ part ++ "/volume") =
      ["".toList, "v1".toList, "eras".toList, part.toList, "volume".toList] := by
    rw [below, segments_below, segments_below, Text.splitAt_of_not_mem whole,
      Text.splitAt_of_not_mem last]
    rfl
  rw [resolve_eq_endpoint_iff, parts, fitting?_eras described something]

variable {app : App} {s : Service} {moment : Moment} {r : Http.Request} {node : Node}
  {ledgers : Set Service} {journal : List Entry}

theorem handle_run_of_small (small : tooLarge app.environment r = false) :
    (app.handle moment r).run node = (app.answer moment r).run node := by
  rw [handle, small, Bool.and_false]
  rfl

/-- A failure that is no rejection leaves the application without a response. -/
theorem answer_raised {failure : Failure}
    (failed : ((app.dispatch moment r).run.run node).1 = .error failure)
    (foreign : replyOf (.error failure) = .raised failure) :
    ((app.answer moment r).run node).1 = .raised failure := by
  rcases dispatched : (app.dispatch moment r).run.run node with ⟨result, next⟩
  rw [dispatched] at failed
  obtain rfl : result = .error failure := failed
  rw [answer, StateT.run_bind, dispatched]
  dsimp only
  split
  · exact foreign
  · exact congrArg (identify _) foreign

theorem statusOf_handle (small : tooLarge app.environment r = false) :
    statusOf ((app.handle moment r).run node).1 =
      statusOf (replyOf ((app.dispatch moment r).run.run node).1) := by
  rcases answered : (app.answer moment r).run node with ⟨reply, after⟩
  obtain ⟨result, next, log, dispatched, status_eq, -⟩ := answer_run answered
  rw [handle_run_of_small small, answered, dispatched, status_eq]

/-- The volume of an era is shown where its tick can be stored. -/
theorem eraVolume_run (history : History ledgers journal node.database.tables) {tick : Nat}
    (read : tickOfPath (.text "at") (.text part) = .ok (.ok (tick : Int))) :
    statusOf (replyOf ((eraVolume part s).run.run node).1) =
      if (tick : Int) ≤ maxTick then 200 else 400 := by
  rw [eraVolume, read]
  dsimp only
  rw [run_bind, run_lift]
  dsimp only
  by_cases storable : (tick : Int) ≤ maxTick
  · have dated := s.parameters.eraOf_int (Int.natCast_nonneg tick) storable
    rw [run_bind, run_liftLedger, dated, if_pos storable]
    have total := history.totalVolume_eq dated
    rcases ran : (s.totalVolume (.int tick)).run.run node with ⟨outcome, after⟩
    rw [ran] at total
    obtain rfl : outcome = .ok _ := total
    simp only [Except.mapError]
    rw [run_bind, ran]
    rfl
  · have undated : s.parameters.eraOf (.int tick) = .error (.tickOutOfRange tick) := by
      rw [Parameters.eraOf, Era.tickOfValue, if_pos (Int.natCast_nonneg tick)]
      exact if_pos (not_le.1 storable)
    rw [run_bind, run_liftLedger, undated, if_neg storable]
    rfl

/-- The digits of a segment are not read. -/
def FailsSegment (part : String) : Prop := Text.IsUnread (Text.strip part).toList

/-- A segment is read as the number that its digits denote. -/
def ReadsSegment (name part : String) : Prop :=
  ∃ values, (Text.strip part).toList ≠ [] ∧ Text.decimals? (Text.strip part).toList = some values ∧
    tickOfPath (.text name) (.text part) = .ok (.ok (Integer.ofDigits values : Int))

/-- A segment is refused as invalid input. -/
def RefusesSegment (name part : String) : Prop :=
  ∃ error, tickOfPath (.text name) (.text part) = .error error ∧ error.status = 400 ∧
    error.code = .text "invalid_input"

/-- A segment is read or refused, unless it consists of digits that are not read. -/
theorem tickOfPath_cases (name part : String) :
    (ReadsSegment name part ∨ RefusesSegment name part) ∧ ¬FailsSegment part ∨
      tickOfPath (.text name) (.text part) = .ok (.error .unreadable) ∧ FailsSegment part := by
  obtain ⟨digits, tick_eq⟩ | ⟨others, tick_eq⟩ := tickOfPath_text name part
  · have read_eq := Integer.read?_of_isDigits digits
    have unread_iff := Integer.read?_eq_none_iff_isUnread digits
    rw [ReadsSegment, RefusesSegment, FailsSegment, tick_eq]
    cases read : Integer.read? (Text.strip part) with
    | none => exact .inr ⟨rfl, unread_iff.1 read⟩
    | some n =>
        rw [read] at read_eq unread_iff
        obtain ⟨values, valued, rfl⟩ := Option.map_eq_some_iff.1 read_eq.symm
        exact .inl ⟨.inl ⟨values, digits.something, (Option.filter_eq_some_iff.1 valued).1, rfl⟩,
          fun unread => nomatch unread_iff.2 unread⟩
  · exact .inl ⟨.inr ⟨_, tick_eq, rfl, rfl⟩, fun unread => others unread.toIsDigits⟩

theorem read_or_refused_iff (name part : String) :
    ReadsSegment name part ∨ RefusesSegment name part ↔ ¬FailsSegment part := by
  obtain ⟨outcome, read⟩ | ⟨failed, unread⟩ := tickOfPath_cases name part
  · exact iff_of_true outcome read
  · refine iff_of_false ?_ (not_not.2 unread)
    rintro (⟨_, -, -, read⟩ | ⟨_, refused, -⟩)
    · cases failed.symm.trans read
    · cases failed.symm.trans refused

/-- What a request for the volume of an era is answered with. -/
theorem handle_eras (moment : Moment) (attached : app.service = some s)
    (history : History ledgers journal node.database.tables) (method : r.method = "GET")
    (path : r.path = "/v1/eras/" ++ part ++ "/volume") (something : part ≠ "")
    (whole : '/' ∉ part.toList) (small : tooLarge app.environment r = false) :
    let reply := ((app.handle moment r).run node).1
    (statusOf reply = 200 ∨ statusOf reply = 400) ∧ ¬FailsSegment part ∨
      reply = .raised .unreadable ∧ FailsSegment part := by
  intro reply
  have leads : app.destination r = .endpoint (.eraVolume part) := by
    rw [destination, method, path, resolve_eras _ something whole]
  have served : app.dispatch moment r = eraVolume part s := by
    rw [dispatch_of_endpoint moment leads, serve, withService, attached]
  obtain ⟨outcome, read⟩ | ⟨failed, unread⟩ := tickOfPath_cases "at" part
  · refine .inl ⟨?_, read⟩
    rw [statusOf_handle small, served]
    obtain ⟨values, -, -, tick_eq⟩ | ⟨error, refused, status, -⟩ := outcome
    · rw [eraVolume_run history tick_eq]
      split
      · exact .inl rfl
      · exact .inr rfl
    · rw [eraVolume, refused]
      exact .inr status
  · refine .inr ⟨?_, unread⟩
    have raised : ((app.dispatch moment r).run.run node).1 = .error .unreadable := by
      rw [served, eraVolume, failed]
      rfl
    exact (congrArg Prod.fst (handle_run_of_small small)).trans (answer_raised raised rfl)

end App

open App

/-- A segment is read as the number that its digits denote, or refused as invalid input, exactly if
it does not consist of digits that are not read; its reading fails otherwise.  Where it stands for the
tick in the path of a request that is not too large, the request is answered with status 200 or 400
exactly then, and with no response otherwise. -/
theorem segment_read_or_refused_iff (part : String) :
    (∀ name, (ReadsSegment name part ∨ RefusesSegment name part ↔ ¬FailsSegment part) ∧
      (FailsSegment part → tickOfPath (.text name) (.text part) = .ok (.error .unreadable))) ∧
    ∀ (node : Node) (steps : List Deployment.Step) (app : App) (s : Service) (moment : Moment)
      (r : Http.Request), app.service = some s → r.method = "GET" →
      r.path = "/v1/eras/" ++ part ++ "/volume" → part ≠ "" → '/' ∉ part.toList →
      tooLarge app.environment r = false →
      let reply := ((app.handle moment r).run ((Deployment.new node).run steps).node).1
      (statusOf reply = 200 ∨ statusOf reply = 400 ↔ ¬FailsSegment part) ∧
        (FailsSegment part → reply = .raised .unreadable) := by
  refine ⟨fun name => ⟨read_or_refused_iff name part, fun digits => ?_⟩,
    fun node steps app s moment r attached method path something whole small => ?_⟩
  · obtain ⟨-, read⟩ | ⟨failed, -⟩ := tickOfPath_cases name part
    · exact absurd digits read
    · exact failed
  · intro reply
    obtain ⟨status, read⟩ | ⟨raised, digits⟩ := handle_eras moment attached
      (History.deployed node steps) method path something whole small
    · exact ⟨iff_of_true status read, fun digits => absurd digits read⟩
    · refine ⟨iff_of_false ?_ (not_not.2 digits), fun _ => raised⟩
      rw [show reply = _ from raised]
      decide

/-- A numeral of another script is read as a tick. -/
theorem segment_read_or_refused_iff_sample :
    (ReadsSegment "at" "١٢" ∨ RefusesSegment "at" "١٢") ∧
      let reply := ((App.sample.handle ⟨"1", 0, 0⟩ (askedAt "/v1/eras/١٢/volume")).run
        ((Deployment.new .empty).run sampleSteps).node).1
      statusOf reply = 200 ∨ statusOf reply = 400 := by
  have letters : "١٢".toList = ['١', '٢'] := rfl
  have valued : Text.decimals? ['١', '٢'] = some [1, 2] := by decide +kernel
  have digits : (['١', '٢'].all Text.isDigit) = true := by decide +kernel
  have read : ¬FailsSegment "١٢" := by
    rw [FailsSegment, Text.strip_of_digits (letters ▸ List.all_eq_true.1 digits), letters]
    rintro ⟨-, figure | long⟩
    · cases valued.symm.trans (Text.decimals?_eq_none_iff.2 figure)
    · exact absurd long (by decide)
  obtain ⟨segment, request⟩ := segment_read_or_refused_iff "١٢"
  have asks : Asks (askedAt "/v1/eras/١٢/volume") ("/v1/eras/" ++ "١٢" ++ "/volume") :=
    ⟨rfl, rfl, rfl⟩
  have answered := request .empty sampleSteps .sample .sample ⟨"1", 0, 0⟩ _ rfl asks.method asks.path
    (by decide) (by decide) (tooLarge_of_asks asks _)
  exact ⟨(segment "at").1.2 read, answered.1.2 read⟩

/-- A figure is a digit, but it has no decimal value. -/
theorem figure_segment_fails :
    tickOfPath (.text "at") (.text "²") = .ok (.error .unreadable) ∧
      statusOf ((App.sample.handle ⟨"1", 0, 0⟩ (askedAt "/v1/eras/²/volume")).run
        ((Deployment.new .empty).run sampleSteps).node).1 = 500 := by
  have letters : "²".toList = ['²'] := rfl
  have digit : (['²'].all Text.isDigit) = true := by decide +kernel
  have figure : Text.decimalValue? '²' = none := by decide +kernel
  have unread : FailsSegment "²" := by
    rw [FailsSegment, Text.strip_of_digits (letters ▸ List.all_eq_true.1 digit), letters]
    exact ⟨⟨List.cons_ne_nil _ _, List.all_eq_true.1 digit⟩,
      .inl ⟨'²', List.mem_singleton_self _, figure⟩⟩
  have failed := (tickOfPath_cases "at" "²").resolve_left fun read => read.2 unread
  have asks : Asks (askedAt "/v1/eras/²/volume") ("/v1/eras/" ++ "²" ++ "/volume") := ⟨rfl, rfl, rfl⟩
  have history := History.deployed .empty sampleSteps
  have attached : App.sample.service = some .sample := rfl
  have raised := (handle_eras ⟨"1", 0, 0⟩ attached history asks.method asks.path
    (by decide) (by decide) (tooLarge_of_asks asks _)).resolve_left fun read => read.2 unread
  exact ⟨failed.1, congrArg statusOf raised.1⟩

end Api
end EraRewards
