import CardSearch.Log.Configuration
import Mathlib.Data.List.Basic
import Mathlib.Data.List.Induction
/-!
Configurations of the logging system one after another. Each gives the root logger a level and one
handler, and other loggers levels; what was given last counts. A name that stands for a setting of the
logging system other than a level stops a configuration halfway. Main statement: what a series of
requests leaves is what was asked for last, exactly if no name of a level is such a name.
-/
namespace CardSearch.Log

/-- What one configuration is asked for. -/
structure Request where
  level : String
  style : Style
  /-- Levels of single loggers, in the order in which they are given. -/
  levels : List (String × String)

/-- The level that a name stands for: that of the name in letters of any case, or `info`. -/
def Level.named (name : String) : Level := (ofName? (inCapitals name)).getD .info

/-- Names in capitals that stand for settings of the logging system other than a level. -/
def otherSettings : List String := ["BASIC_FORMAT", "_STYLES"]

def isSameLogger (logger other : String) : Bool :=
  logger == other || Configuration.isRoot logger && Configuration.isRoot other

/-- The names of levels that a request gives to loggers: first to the root, which goes by the empty
name, then to others. -/
def Request.given (request : Request) : List (String × String) := ("", request.level) :: request.levels

def Request.NamesLevels (request : Request) : Prop :=
  ∀ entry ∈ request.given, Level.inCapitals entry.2 ∉ otherSettings

def lastGiven (logger : String) (requests : List Request) : Option String :=
  ((requests.flatMap Request.given).reverse.find? (isSameLogger logger ·.1)).map Prod.snd

namespace Configuration

def follow (configuration : Configuration) (request : Request) : Configuration × Option LevelFault :=
  configuration.configure request.level request.style request.levels

/-- The configuration behind some requests. A request that fails leaves what it did. -/
def behind (start : Configuration) (requests : List Request) : Configuration :=
  requests.foldl (fun configuration request => (configuration.follow request).1) start

/-- All requests are fulfilled, and what was asked for last is in force: one handler in the style of the
last request, and for each logger the level that it was given last. The root has the level of the last
request, unless that request names the root among the single loggers too. -/
structure Fulfils (start : Configuration) (requests : List Request) : Prop where
  succeeds : ∀ before request later, requests = before ++ request :: later →
    ((start.behind before).follow request).2 = none
  handlers : ∀ last, requests.getLast? = some last → (start.behind requests).handlers = [last.style]
  rootLevel : ∀ last, requests.getLast? = some last → (∀ given ∈ last.levels, isRoot given.1 = false) →
    (start.behind requests).rootLevel = .named last.level
  levels : ∀ logger name, lastGiven logger requests = some name →
    (start.behind requests).ownLevel logger = .named name

variable {configuration start : Configuration} {requests : List Request} {request : Request}
  {given : List (String × String)} {logger name : String}

/-! ### Names of levels -/

theorem resolve_of_level (level : Level.inCapitals name ∉ otherSettings) :
    Level.resolve name = .ok (.named name) := by
  rw [Level.resolve, Level.named]
  split
  · rename_i same
    exact absurd (same ▸ List.mem_cons_self) level
  · rename_i same
    exact absurd (same ▸ List.mem_cons_of_mem _ List.mem_cons_self) level
  · rfl

theorem resolve_of_otherSetting (other : Level.inCapitals name ∈ otherSettings) :
    ∃ fault, Level.resolve name = .error fault := by
  rw [otherSettings, List.mem_cons, List.mem_singleton] at other
  rw [Level.resolve]
  rcases other with same | same
  · rw [same]
    exact ⟨_, rfl⟩
  · rw [same]
    exact ⟨_, rfl⟩

/-! ### One logger -/

theorem isSameLogger_of_isRoot (root : isRoot logger = true) (other : String) :
    isSameLogger logger other = isRoot other := by
  rw [isSameLogger, root, Bool.true_and, Bool.or_eq_right_iff_imp, beq_iff_eq]
  rintro rfl
  exact root

theorem isSameLogger_of_not_isRoot (single : isRoot logger = false) (other : String) :
    isSameLogger logger other = (logger == other) := by
  rw [isSameLogger, single, Bool.false_and, Bool.or_false]

theorem ownLevel_setLevel (logger other : String) (level : Level) :
    (configuration.setLevel other level).ownLevel logger =
      if isSameLogger logger other then level else configuration.ownLevel logger := by
  rw [setLevel, ownLevel, ownLevel]
  cases root : isRoot logger with
  | true =>
    rw [isSameLogger_of_isRoot root]
    cases isRoot other <;> rfl
  | false =>
    rw [isSameLogger_of_not_isRoot root]
    cases rootOther : isRoot other with
    | true =>
      have different : (logger == other) = false := by
        rw [beq_eq_false_iff_ne]
        rintro rfl
        rw [root] at rootOther
        contradiction
      rw [different]
      rfl
    | false =>
      -- a new level stands ahead of the older ones, so that it is the one found
      simp only [Bool.false_eq_true, if_false, List.find?_cons, BEq.comm (a := logger)]
      cases other == logger <;> rfl

theorem handlers_setLevel (other : String) (level : Level) :
    (configuration.setLevel other level).handlers = configuration.handlers := by
  rw [setLevel]
  split <;> rfl

/-! ### One request -/

def give (configuration : Configuration) (given : String × String) : Configuration :=
  configuration.setLevel given.1 (.named given.2)

theorem handlers_give (configuration : Configuration) (given : List (String × String)) :
    (given.foldl give configuration).handlers = configuration.handlers := by
  induction given generalizing configuration with
  | nil => rfl
  | cons first given ih => rw [List.foldl_cons, ih, give, handlers_setLevel]

/-- A logger has the level that was given to it last, or the one that it had before. -/
theorem ownLevel_give (configuration : Configuration) (logger : String)
    (given : List (String × String)) :
    (given.foldl give configuration).ownLevel logger =
      (((given.reverse.find? (isSameLogger logger ·.1)).map Prod.snd).map Level.named).getD
        (configuration.ownLevel logger) := by
  induction given using List.reverseRecOn with
  | nil => rfl
  | append_singleton given last ih =>
    rw [List.foldl_concat, give, ownLevel_setLevel, ih, List.reverse_concat, List.find?_cons]
    cases isSameLogger logger last.1 <;> rfl

theorem setLevels_of_levels (levels : ∀ entry ∈ given, Level.inCapitals entry.2 ∉ otherSettings) :
    configuration.setLevels given = (given.foldl give configuration, none) := by
  induction given generalizing configuration with
  | nil => rfl
  | cons first given ih =>
    obtain ⟨here, later⟩ := List.forall_mem_cons.mp levels
    rw [setLevels, resolve_of_level here, List.foldl_cons]
    exact ih later

theorem setLevels_of_otherSetting
    (other : ∃ entry ∈ given, Level.inCapitals entry.2 ∈ otherSettings) :
    (configuration.setLevels given).2 ≠ none := by
  induction given generalizing configuration with
  | nil => exact absurd other (by simp)
  | cons first given ih =>
    by_cases here : Level.inCapitals first.2 ∈ otherSettings
    · obtain ⟨fault, failed⟩ := resolve_of_otherSetting here
      rw [setLevels, failed]
      exact Option.some_ne_none fault
    · rw [setLevels, resolve_of_level here]
      exact ih ((List.exists_mem_cons_iff ..).mp other |>.resolve_left here)

theorem follow_of_namesLevels (levels : request.NamesLevels) :
    configuration.follow request =
      (request.given.foldl give { configuration with handlers := [request.style] }, none) := by
  obtain ⟨root, others⟩ := List.forall_mem_cons.mp levels
  rw [follow, configure, resolve_of_level root]
  exact setLevels_of_levels others

theorem follow_succeeds_iff : (configuration.follow request).2 = none ↔ request.NamesLevels := by
  constructor
  · intro done entry member other
    rw [follow, configure] at done
    rcases List.mem_cons.mp member with rfl | later
    · obtain ⟨fault, failed⟩ := resolve_of_otherSetting other
      rw [failed] at done
      exact absurd done (Option.some_ne_none fault)
    · cases resolved : Level.resolve request.level with
      | error fault =>
        rw [resolved] at done
        exact absurd done (Option.some_ne_none fault)
      | ok level =>
        rw [resolved] at done
        exact setLevels_of_otherSetting ⟨entry, later, other⟩ done
  · intro levels
    rw [follow_of_namesLevels levels]

/-! ### One request after another -/

theorem behind_concat (start : Configuration) (requests : List Request) (last : Request) :
    start.behind (requests ++ [last]) = ((start.behind requests).follow last).1 :=
  List.foldl_concat ..

theorem lastGiven_concat (logger : String) (requests : List Request) (last : Request) :
    lastGiven logger (requests ++ [last]) =
      ((last.given.reverse.find? (isSameLogger logger ·.1)).map Prod.snd).or
        (lastGiven logger requests) := by
  rw [lastGiven, List.flatMap_append, List.flatMap_singleton, List.reverse_append, List.find?_append,
    Option.map_or]
  rfl

theorem handlers_behind {last : Request} (levels : last.NamesLevels) :
    (start.behind (requests ++ [last])).handlers = [last.style] := by
  rw [behind_concat, follow_of_namesLevels levels, handlers_give]

theorem ownLevel_behind (levels : ∀ request ∈ requests, request.NamesLevels) (logger : String) :
    (start.behind requests).ownLevel logger =
      ((lastGiven logger requests).map Level.named).getD (start.ownLevel logger) := by
  induction requests using List.reverseRecOn with
  | nil => rfl
  | append_singleton requests last ih =>
    obtain ⟨before, here⟩ := List.forall_mem_append.mp levels
    have kept : ∀ configuration : Configuration,
        ({ configuration with handlers := [last.style] } : Configuration).ownLevel logger =
          configuration.ownLevel logger := fun _ => rfl
    rw [behind_concat, follow_of_namesLevels (here last List.mem_cons_self), ownLevel_give, kept,
      ih before, lastGiven_concat]
    cases last.given.reverse.find? (isSameLogger logger ·.1) <;> rfl

/-- The root has the level of the last request that does not name it among the single loggers. -/
theorem lastGiven_root {last : Request} (single : ∀ given ∈ last.levels, isRoot given.1 = false) :
    lastGiven "" (requests ++ [last]) = some last.level := by
  have others : last.levels.reverse.find? (isSameLogger "" ·.1) = none := by
    rw [List.find?_eq_none]
    intro given member
    rw [isSameLogger_of_isRoot rfl, single given (List.mem_reverse.mp member)]
    decide
  rw [lastGiven_concat, Request.given, List.reverse_cons, List.find?_append, others]
  rfl

theorem fulfils_of_namesLevels (levels : ∀ request ∈ requests, request.NamesLevels) :
    Fulfils start requests := by
  have split : ∀ last, requests.getLast? = some last →
      ∃ before, requests = before ++ [last] ∧ last.NamesLevels := by
    intro last found
    obtain ⟨before, rfl⟩ := List.getLast?_eq_some_iff.mp found
    exact ⟨before, rfl, levels last (by simp)⟩
  constructor
  · rintro before request later rfl
    exact follow_succeeds_iff.mpr (levels request (by simp))
  · intro last found
    obtain ⟨before, rfl, named⟩ := split last found
    exact handlers_behind named
  · intro last found single
    obtain ⟨before, rfl, -⟩ := split last found
    have own : (start.behind (before ++ [last])).ownLevel "" = .named last.level := by
      rw [ownLevel_behind levels, lastGiven_root single]
      rfl
    exact own
  · intro logger name given
    rw [ownLevel_behind levels, given]
    rfl

/-- A series of requests is fulfilled, and what was asked for last is in force, exactly if no name of a
level stands for another setting of the logging system. -/
theorem requests_fulfilled_iff (start : Configuration) (requests : List Request) :
    Fulfils start requests ↔ ∀ request ∈ requests, request.NamesLevels := by
  refine ⟨fun fulfils request member => ?_, fulfils_of_namesLevels⟩
  obtain ⟨before, later, rfl⟩ := List.append_of_mem member
  exact follow_succeeds_iff.mp (fulfils.succeeds before request later rfl)

/-- A request for the level of a text format is not fulfilled. -/
theorem format_is_no_level : ¬ Fulfils initial [⟨"basic_format", .json, []⟩] := by
  intro fulfils
  have named := follow_succeeds_iff.mp (fulfils.succeeds [] _ [] rfl)
  exact named ("", "basic_format") List.mem_cons_self (by decide)

end Configuration

end CardSearch.Log
