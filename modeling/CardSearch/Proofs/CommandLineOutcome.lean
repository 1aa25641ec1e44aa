import CardSearch.CommandLine.Run
import CardSearch.Proofs.EncodedTexts
import CardSearch.Proofs.JsonReadBack
import CardSearch.Proofs.NewestSearch
import CardSearch.Proofs.Snapshots
import CardSearch.Proofs.StoreFailures
/-!
What runs of the command line end with. An empty query is answered without a look at the card file, and
only a run that ends with the code 0 prints an outcome. Main statement: the settings, the query and the
card file decide the code that a run ends with and the outcome that it prints, exactly if the file of
assignments is a text or is not there.
-/
namespace CardSearch

open Store
open Json (ReadBack)

namespace Settings

variable {sources : Sources} {assigned : List (Text × Option Text)} {fault : Text.Utf8.Fault}

theorem load_of_assigned (known : sources.assigned = .ok assigned) :
    load sources = (validate (sources.find? assigned)).mapError .invalid := by
  rw [load, known]
  rfl

theorem load_undecodable_iff : load sources = .error (.undecodable fault) ↔
    ∃ bytes, sources.file = some bytes ∧ Text.Utf8.read bytes = .error fault := by
  have validated : ∀ {assigned}, sources.assigned = .ok assigned →
      load sources ≠ .error (.undecodable fault) := by
    intro assigned known
    rw [load_of_assigned known]
    cases validate (sources.find? assigned) <;> nofun
  cases file : sources.file with
  | none =>
    have known : sources.assigned = .ok [] := by rw [Sources.assigned, file]
    exact ⟨fun fails => absurd fails (validated known), nofun⟩
  | some bytes =>
    have assigned : sources.assigned = (Text.Utf8.read bytes).map fun text =>
        Assignments.read sources.variables text.toList := by rw [Sources.assigned, file]
    cases read : Text.Utf8.read bytes with
    | ok text =>
      rw [read] at assigned
      refine ⟨fun fails => absurd fails (validated assigned), ?_⟩
      rintro ⟨_, same, fails⟩
      rw [← Option.some.inj same, read] at fails
      contradiction
    | error other =>
      have fails : load sources = .error (.undecodable other) := by
        rw [load, assigned, read]
        rfl
      rw [fails]
      constructor
      · intro same
        obtain rfl := Failure.undecodable.inj (Except.error.inj same)
        exact ⟨bytes, rfl, read⟩
      · rintro ⟨_, same, again⟩
        rw [← Option.some.inj same, read] at again
        rw [Except.error.inj again]

end Settings

namespace CommandLine

/-! ### Printed outcomes -/

/-- A text shows an outcome: it is one document with the parts of the outcome, or it has a line for each
of the ids. The ids stand in the order of their texts. -/
def Shows (asJson : Bool) (output : String) (outcome : Outcome) : Prop :=
  ∃ ids : List CardId, ids.Perm outcome.matchingIds ∧ ids.Pairwise (fun a b => a.shown ≤ b.shown) ∧
    if asJson then
      Json.read? .unbounded output.toList = some (.object [("cleared", .bool outcome.cleared),
        ("matching_ids", .list (ids.map CardId.toValue)), ("query", .text outcome.query)])
    else output = String.join (ids.map fun id => id.shown ++ "\n")

theorem readBack_id {depth : Nat} (id : CardId) :
    ReadBack .unbounded depth (Json.write .terminal id.toValue).toList id.toValue := by
  cases id with
  | number number => exact Json.readBack_int rfl
  | text name => exact Json.readBack_text name

theorem readBack_outcome {depth : Nat} (outcome : Outcome) (ids : List CardId) :
    ReadBack .unbounded (depth + 2) (Json.write .terminal (.object [("cleared", .bool outcome.cleared),
        ("query", .text outcome.query), ("matching_ids", .list (ids.map CardId.toValue))])).toList
      (.object [("cleared", .bool outcome.cleared), ("matching_ids", .list (ids.map CardId.toValue)),
        ("query", .text outcome.query)]) := by
  have items : ReadBack .unbounded (depth + 1)
      (Json.write .terminal (.list (ids.map CardId.toValue))).toList
      (.list ((ids.map CardId.toValue).map id)) :=
    Json.readBack_writtenList Json.isSpaced_terminal
      (List.forall_mem_map.mpr fun id _ => readBack_id id)
  rw [List.map_id] at items
  have parts : ∀ field ∈ [("cleared", Value.bool outcome.cleared), ("query", .text outcome.query),
      ("matching_ids", .list (ids.map CardId.toValue))],
      ReadBack .unbounded (depth + 1) (Json.write .terminal field.2).toList (id field.2) := by
    simpa using ⟨Json.readBack_bool _, Json.readBack_text _, items⟩
  have read := Json.readBack_writtenObject_of_nodup Json.isSpaced_terminal parts (by simp)
  simpa [Json.Writing.order, Json.Writing.terminal, List.mergeSort,
    List.MergeSort.Internal.splitInTwo] using read

theorem shown_le_trans (a b c : CardId) (below : decide (a.shown ≤ b.shown) = true)
    (above : decide (b.shown ≤ c.shown) = true) : decide (a.shown ≤ c.shown) = true := by
  rw [decide_eq_true_eq] at below above ⊢
  exact String.le_trans below above

theorem shown_le_total (a b : CardId) :
    (decide (a.shown ≤ b.shown) || decide (b.shown ≤ a.shown)) = true := by
  rw [Bool.or_eq_true, decide_eq_true_eq, decide_eq_true_eq]
  exact String.le_total ..

theorem pairwise_sortedIds (ids : List CardId) :
    (sortedIds ids).Pairwise fun a b => a.shown ≤ b.shown := by
  have sorted : (sortedIds ids).Pairwise fun a b => decide (a.shown ≤ b.shown) = true :=
    List.pairwise_mergeSort shown_le_trans shown_le_total ids
  simpa only [decide_eq_true_eq] using sorted

theorem shows_outcomeText (asJson : Bool) (outcome : Outcome) :
    Shows asJson (outcomeText asJson outcome) outcome := by
  refine ⟨sortedIds outcome.matchingIds, List.mergeSort_perm .., pairwise_sortedIds _, ?_⟩
  cases asJson with
  | false => rfl
  | true =>
    rw [if_pos rfl, outcomeText, if_pos rfl, String.toList_append]
    exact Json.read?_line (readBack_outcome outcome _)

/-! ### Ends of runs -/

/-- A run ends with a code and leaves no error over. It prints nothing with a code other than 0, and it
shows the outcome that it has. -/
structure Reports (asJson : Bool) (printed : Printed) (code : Nat) (found : Option Outcome) : Prop where
  ends : printed.exit = code
  handled : printed.unhandled = none
  silent : code ≠ 0 → printed.output = ""
  shown : ∀ outcome, found = some outcome → Shows asJson printed.output outcome

theorem reports_nothing (asJson : Bool) (code : Nat) (logging : Log.Configuration)
    (records : List Log.Record) : Reports asJson (ended code "" logging records) code none :=
  ⟨rfl, rfl, fun _ => rfl, nofun⟩

/-- The code that a run is to end with and the outcome that it is to show, by its settings, its query
and what is read from its card file. -/
inductive Due (query : String) (loaded : Except Settings.Failure Settings)
    (content : String → Except ReadFault (List UInt8)) : Nat → Option Outcome → Prop where
  | unusable {failure : Settings.Failure} (refused : loaded = .error failure) :
      Due query loaded content 2 none
  | noFile {settings : Settings} (accepted : loaded = .ok settings)
      (absent : settings.cardsPath = none) : Due query loaded content 2 none
  | cleared {settings : Settings} {path : String} (accepted : loaded = .ok settings)
      (given : settings.cardsPath = some path) (empty : Search.normalized (.text query) = []) :
      Due query loaded content 0 (some .clear)
  | noCards {settings : Settings} {path : String} {error : StoreError} (accepted : loaded = .ok settings)
      (given : settings.cardsPath = some path) (asked : Search.normalized (.text query) ≠ [])
      (failed : Document.cardsOfFile path (content path) = .error (.store error)) :
      Due query loaded content 1 none
  | found {settings : Settings} {path : String} {cards : List Card} {outcome : Outcome}
      (accepted : loaded = .ok settings) (given : settings.cardsPath = some path)
      (asked : Search.normalized (.text query) ≠ [])
      (read : Document.cardsOfFile path (content path) = .ok cards)
      (searched : (Search.search .literal (.text query) (cards.map .card)).2 = .ok outcome) :
      Due query loaded content 0 (some outcome)

namespace Job

variable {job : Job} {before : List Log.Record} {answer : Service.Answer}

theorem conclude_found {outcome : Outcome} (result : answer.result = .ok (some outcome)) :
    Reports job.arguments.json (job.conclude before answer) 0 (some outcome) := by
  rw [conclude, result]
  refine { ends := rfl, handled := rfl, silent := fun other => absurd rfl other, shown := ?_ }
  intro _ same
  obtain rfl := Option.some.inj same
  exact shows_outcomeText ..

theorem finish_of_empty (job : Job)
    (empty : Search.normalized (.text job.arguments.query) = [])
    (cards : Except StoreFailure (List Card)) :
    Reports job.arguments.json (job.finish cards) 0 (some .clear) := by
  obtain ⟨answer, begun, cleared⟩ := Service.begin_of_empty 1 empty
  rw [finish, begin, begun]
  exact conclude_found cleared

theorem begin_of_asked (asked : Search.normalized (.text job.arguments.query) ≠ []) :
    job.begin = .waits (.search (Search.normalized (.text job.arguments.query)) 1) := by
  rw [begin, Service.Call.begin_of_asks (by simpa [Service.Call.asks] using asked)]
  rfl

theorem finish_of_error (job : Job) (asked : Search.normalized (.text job.arguments.query) ≠ [])
    (error : StoreError) :
    Reports job.arguments.json (job.finish (.error (.store error))) 1 none := by
  rw [finish, begin_of_asked asked]
  exact reports_nothing ..

theorem finish_of_cards (job : Job) (literal : job.settings.wildcards = .literal)
    (asked : Search.normalized (.text job.arguments.query) ≠ []) (cards : List Card) :
    ∃ outcome, (Search.search .literal (.text job.arguments.query) (cards.map .card)).2 = .ok outcome ∧
      Reports job.arguments.json (job.finish (.ok cards)) 0 (some outcome) := by
  have asks : (Service.Call.search (.text job.arguments.query)).asks = true := by
    simpa [Service.Call.asks] using asked
  refine ⟨_, Service.search_finds asks cards, ?_⟩
  rw [finish, begin_of_asked asked]
  refine conclude_found ?_
  rw [Service.Waiting.answer, Service.answerSearch_literal literal asks]
  simp

end Job

/-! ### Runs -/

section

variable {texts : List String} {arguments : Arguments} {environment : List (String × String)}
  {assignments : Option (List UInt8)} {content : String → Except ReadFault (List UInt8)}
  {settings : Settings}

theorem runWith_of_undecodable {fault : Text.Utf8.Fault}
    (parsed : Arguments.read texts = .ok (.run arguments))
    (fails : Settings.load ⟨overridesOf arguments, environment, assignments⟩ =
      .error (.undecodable fault)) :
    runWith texts environment assignments content =
      { exit := 1, unhandled := some ⟨"UnicodeDecodeError", fault.message⟩ } := by
  rw [runWith, plan, parsed]
  dsimp only
  rw [fails]
  rfl

theorem runWith_of_invalid {invalid : Invalid} (parsed : Arguments.read texts = .ok (.run arguments))
    (refused : Settings.load ⟨overridesOf arguments, environment, assignments⟩ =
      .error (.invalid invalid)) :
    runWith texts environment assignments content =
      { exit := 2, errors := "Invalid configuration: " ++ invalid.report ++ "\n" } := by
  rw [runWith, plan, parsed]
  dsimp only
  rw [refused]

theorem runWith_of_noFile (parsed : Arguments.read texts = .ok (.run arguments))
    (accepted : Settings.load ⟨overridesOf arguments, environment, assignments⟩ = .ok settings)
    (absent : settings.cardsPath = none) :
    runWith texts environment assignments content =
      ended 2 "" (loggingOf settings) [noFileRecord] := by
  rw [runWith, plan, parsed]
  dsimp only
  rw [accepted]
  dsimp only
  rw [absent]

theorem runWith_of_path {path : String} (parsed : Arguments.read texts = .ok (.run arguments))
    (accepted : Settings.load ⟨overridesOf arguments, environment, assignments⟩ = .ok settings)
    (given : settings.cardsPath = some path) :
    runWith texts environment assignments content =
      Job.finish ⟨arguments, settings, path, loggingOf settings⟩
        (Document.cardsOfFile path (content path)) := by
  rw [runWith, plan, parsed]
  dsimp only
  rw [accepted]
  dsimp only
  rw [given]

theorem runWith_reports_due (parsed : Arguments.read texts = .ok (.run arguments))
    (usable : ∀ settings,
      Settings.load ⟨overridesOf arguments, environment, assignments⟩ = .ok settings →
        settings.wildcards = .literal ∧
          ∀ path, settings.cardsPath = some path → Document.isPossible path = true)
    (decodable : ∀ fault, Settings.load ⟨overridesOf arguments, environment, assignments⟩ ≠
      .error (.undecodable fault)) :
    ∃ code found,
      Due arguments.query (Settings.load ⟨overridesOf arguments, environment, assignments⟩) content code
        found ∧
      Reports arguments.json (runWith texts environment assignments content) code found := by
  cases loaded : Settings.load ⟨overridesOf arguments, environment, assignments⟩ with
  | error failure =>
    cases failure with
    | undecodable fault => exact absurd loaded (decodable fault)
    | invalid invalid =>
      refine ⟨2, none, .unusable rfl, ?_⟩
      rw [runWith_of_invalid parsed loaded]
      exact ⟨rfl, rfl, fun _ => rfl, nofun⟩
  | ok settings =>
    obtain ⟨literal, possible⟩ := usable settings loaded
    cases given : settings.cardsPath with
    | none =>
      refine ⟨2, none, .noFile rfl given, ?_⟩
      rw [runWith_of_noFile parsed loaded given]
      exact reports_nothing ..
    | some path =>
      let job : Job := ⟨arguments, settings, path, loggingOf settings⟩
      rw [runWith_of_path parsed loaded given]
      by_cases asked : Search.normalized (.text arguments.query) = []
      · exact ⟨0, _, .cleared rfl given asked, job.finish_of_empty asked _⟩
      · have confined : Confined (Document.cardsOfFile path (content path)) :=
          Document.cardsOfFile_confined_iff.mpr (possible path given)
        rcases confined with ⟨cards, read⟩ | ⟨error, failed⟩
        · obtain ⟨outcome, searched, reports⟩ := job.finish_of_cards literal asked cards
          rw [read]
          exact ⟨0, _, .found rfl given asked read searched, reports⟩
        · rw [failed]
          exact ⟨1, none, .noCards rfl given asked failed, job.finish_of_error asked error⟩

/-- A run whose arguments can be read ends as its settings, its query and its card file demand, whatever
the card file holds and whether it can be read or not, exactly if the file of assignments encodes a text or
is not there. Nothing is printed with a code other than 0. Otherwise the run ends with an error that nothing
handles, and prints nothing. The wildcards are literal, and a path is one that a file can have. -/
theorem run_reports_due_iff (parsed : Arguments.read texts = .ok (.run arguments))
    (usable : ∀ settings,
      Settings.load ⟨overridesOf arguments, environment, assignments⟩ = .ok settings →
        settings.wildcards = .literal ∧
          ∀ path, settings.cardsPath = some path → Document.isPossible path = true) :
    ((∃ code found,
        Due arguments.query (Settings.load ⟨overridesOf arguments, environment, assignments⟩) content
          code found ∧
        Reports arguments.json (runWith texts environment assignments content) code found) ↔
      ∀ bytes, assignments = some bytes → ∃ text : String, text.toUTF8.data.toList = bytes) ∧
    ∀ bytes fault, assignments = some bytes → Text.Utf8.read bytes = .error fault →
      runWith texts environment assignments content =
        { exit := 1, unhandled := some ⟨"UnicodeDecodeError", fault.message⟩ } := by
  have escapes : ∀ bytes fault, assignments = some bytes → Text.Utf8.read bytes = .error fault →
      runWith texts environment assignments content =
        { exit := 1, unhandled := some ⟨"UnicodeDecodeError", fault.message⟩ } :=
    fun bytes _ there read =>
      runWith_of_undecodable parsed (Settings.load_undecodable_iff.mpr ⟨bytes, there, read⟩)
  refine ⟨⟨?_, fun encodes => runWith_reports_due parsed usable fun fault fails => ?_⟩, escapes⟩
  · rintro ⟨code, found, -, reports⟩ bytes there
    cases read : Text.Utf8.read bytes with
    | ok text => exact ⟨text, Text.Utf8.read_eq_ok_iff.mp read⟩
    | error fault =>
      have handled := reports.handled
      rw [escapes bytes fault there read] at handled
      contradiction
  · obtain ⟨bytes, there, read⟩ := Settings.load_undecodable_iff.mp fails
    obtain ⟨text, encoded⟩ := encodes bytes there
    rw [Text.Utf8.read_eq_ok_iff.mpr encoded] at read
    contradiction

end

/-- An empty query clears the search although the card file is missing. -/
theorem run_empty_query_missing_file :
    Reports false (runWith ["", "--cards", "c"] [] none fun _ => .error .missing) 0 (some .clear) := by
  have parsed : Arguments.read ["", "--cards", "c"] =
      .ok (.run { query := "", cards := some (Path.normalize "c") }) := rfl
  have parts : "c".splitOn "/" = ["c"] := by
    rw [String.splitOn, if_neg (by decide), String.splitOnAux, if_neg (by decide),
      if_neg (by decide), String.splitOnAux]
    rfl
  have normal : Path.normalize "c" = "c" := by
    rw [Path.normalize, Path.parts, parts, show Path.root "c" = "" by simp [Path.root]]
    rfl
  rw [normal] at parsed
  have loaded : Settings.load ⟨overridesOf { query := "", cards := some "c" }, [], none⟩ =
      .ok { cardsPath := some "c" } := by rfl
  have possible : Document.isPossible "c" = true := by simp [Document.isPossible]
  have usable : ∀ settings, Settings.load ⟨overridesOf { query := "", cards := some "c" }, [], none⟩ =
      .ok settings → settings.wildcards = .literal ∧
        ∀ path, settings.cardsPath = some path → Document.isPossible path = true := by
    intro settings accepted
    rw [loaded] at accepted
    obtain rfl := Except.ok.inj accepted
    refine ⟨rfl, fun path given => ?_⟩
    obtain rfl := Option.some.inj given
    exact possible
  obtain ⟨code, found, due, reports⟩ := (run_reports_due_iff parsed usable).1.mpr nofun
  rw [loaded] at due
  cases due with
  | unusable refused => contradiction
  | noFile accepted absent =>
    obtain rfl := Except.ok.inj accepted
    contradiction
  | cleared accepted given empty => exact reports
  | noCards accepted given asked failed => exact absurd rfl asked
  | found accepted given asked read searched => exact absurd rfl asked

/-- A file of assignments of one byte that begins no character. The query is empty and there is a path, but
the run ends with an error that nothing handles. -/
theorem run_undecodable_assignments :
    runWith ["", "--cards", "c"] [] (some [0xff]) (fun _ => .error .missing) =
        { exit := 1, unhandled := some ⟨"UnicodeDecodeError",
          "'utf-8' codec can't decode byte 0xff in position 0: invalid start byte"⟩ } ∧
      ∀ code found, ¬ Reports false (runWith ["", "--cards", "c"] [] (some [0xff])
        fun _ => .error .missing) code found := by
  have parsed : Arguments.read ["", "--cards", "c"] =
      .ok (.run { query := "", cards := some (Path.normalize "c") }) := rfl
  have fails : Settings.load ⟨overridesOf { query := "", cards := some (Path.normalize "c") }, [],
      some [0xff]⟩ = .error (.undecodable ⟨0, [0xff], .noLead⟩) :=
    Settings.load_undecodable_iff.mpr ⟨_, rfl, rfl⟩
  rw [runWith_of_undecodable parsed fails]
  exact ⟨rfl, fun code found reports => nomatch reports.handled⟩

end CommandLine

end CardSearch
