import CardSearch.Proofs.PatternReading
/-!
The one fault that is not forgiven. The reader of written patterns never reads beyond its input, and
the only numerals that it fails on are those it finds there. Main statement: a pattern with a
repetition count that has too many digits to be read holds that many digits in a row.
-/
namespace CardSearch.Pattern

def Stands (input : List Token) (digits : Text) : Prop :=
  (∀ c ∈ digits, isAsciiDigit c = true) ∧ digits.map Token.plain <:+: input

/-- A numeral of so many digits, too many to be read, stands in the tokens. -/
def HoldsNumeral (input : List Token) (length : Nat) : Prop :=
  ∃ digits : Text, digits.length = length ∧ Text.maxNumeralDigits < length ∧ Stands input digits

/-- Work that begins within the input ends within it, and a numeral that stops it stands there. -/
def Within (input : List Token) {α : Type} (work : ReadM α) : Prop :=
  ∀ reading, reading.tokens <:+ input →
    (∀ a later, work.run reading = .ok (a, later) → later.tokens <:+ input) ∧
    ∀ length, work.run reading = .error (.numeralTooLong length) → HoldsNumeral input length

/-- Work within the input whose results have a property. -/
structure Gives (input : List Token) {α : Type} (P : α → Prop) (work : ReadM α) : Prop where
  within : Within input work
  result : ∀ reading a later, reading.tokens <:+ input → work.run reading = .ok (a, later) → P a

variable {input : List Token} {α β : Type}

/-! ### Steps in a row -/

theorem Within.of_ok {x : ReadM α} (ends : ∀ reading, reading.tokens <:+ input →
    ∃ a later, x.run reading = .ok (a, later) ∧ later.tokens <:+ input) : Within input x := by
  intro reading inside
  obtain ⟨a, later, run, stays⟩ := ends reading inside
  rw [run]
  constructor
  · intro _ _ done
    cases done
    exact stays
  · intro length failed
    cases failed

theorem Within.of_error {x : ReadM α} (fails : ∀ reading, ∃ fault, x.run reading = .error fault ∧
    ∀ length, fault ≠ .numeralTooLong length) : Within input x := by
  intro reading _
  obtain ⟨fault, run, other⟩ := fails reading
  rw [run]
  constructor
  · intro _ _ done
    cases done
  · intro length failed
    cases failed
    exact absurd rfl (other length)

theorem Within.pure (a : α) : Within input (pure a) :=
  .of_ok fun reading inside => ⟨a, reading, rfl, inside⟩

theorem Gives.pure {P : α → Prop} {a : α} (holds : P a) : Gives input P (pure a) where
  within := .pure a
  result := by
    intro _ _ _ _ done
    cases done
    exact holds

theorem Gives.bind {P : α → Prop} {x : ReadM α} {f : α → ReadM β} (first : Gives input P x)
    (next : ∀ a, P a → Within input (f a)) : Within input (x >>= f) := by
  intro reading inside
  obtain ⟨done, stopped⟩ := first.within reading inside
  cases run : x.run reading with
  | ok result =>
    rw [run_bind_ok run]
    exact next _ (first.result _ _ _ inside run) _ (done _ _ run)
  | error fault =>
    rw [run_bind_error run]
    refine ⟨fun _ _ same => by contradiction, fun length same => stopped length ?_⟩
    cases same
    exact run

theorem Gives.choose {condition : Prop} [Decidable condition] {P : α → Prop} {x y : ReadM α}
    {rest : α → ReadM β} (first : Gives input P x) (second : Gives input P y)
    (next : ∀ a, P a → Within input (rest a)) :
    Within input (if condition then x >>= rest else y >>= rest) := by
  split
  · exact first.bind next
  · exact second.bind next

namespace Within

theorem gives {x : ReadM α} (within : Within input x) : Gives input (fun _ => True) x :=
  ⟨within, fun _ _ _ _ _ => trivial⟩

theorem bind {x : ReadM α} {f : α → ReadM β} (first : Within input x)
    (next : ∀ a, Within input (f a)) : Within input (x >>= f) :=
  first.gives.bind fun a _ => next a

theorem choose {condition : Prop} [Decidable condition] {x y : ReadM α} {rest : α → ReadM β}
    (first : Within input x) (second : Within input y) (next : ∀ a, Within input (rest a)) :
    Within input (if condition then x >>= rest else y >>= rest) :=
  first.gives.choose second.gives fun a _ => next a

theorem get_bind {f : Reading → ReadM α}
    (next : ∀ reading, reading.tokens <:+ input → Within input (f reading)) :
    Within input (get >>= f) :=
  fun reading inside => next reading inside reading inside

theorem set {reading : Reading} (inside : reading.tokens <:+ input) :
    Within input (set reading : ReadM PUnit) :=
  .of_ok fun _ _ => ⟨.unit, reading, rfl, inside⟩

theorem modify {change : Reading → Reading}
    (same : ∀ reading, (change reading).tokens = reading.tokens) :
    Within input (modify change : ReadM PUnit) :=
  .of_ok fun reading inside => ⟨.unit, change reading, rfl, by rwa [same]⟩

theorem throw {fault : Fault} (other : ∀ length, fault ≠ .numeralTooLong length) :
    Within input (throw fault : ReadM α) :=
  .of_error fun _ => ⟨fault, rfl, other⟩

theorem tooDeep : Within input (MonadExcept.throw .nestedTooDeep : ReadM α) :=
  throw (by simp)

theorem failAt (reason : Malformed) (place : Nat) : Within input (failAt reason place : ReadM α) :=
  throw (by simp)

theorem fail (reason : Malformed) (back : Nat) : Within input (fail reason back : ReadM α) :=
  .of_error fun _ => ⟨_, rfl, by simp⟩

/-! Nothing follows a failure. -/

theorem throw_bind {fault : Fault} (other : ∀ length, fault ≠ .numeralTooLong length)
    (f : α → ReadM β) : Within input (MonadExcept.throw fault >>= f) :=
  .of_error fun _ => ⟨fault, rfl, other⟩

theorem failAt_bind (reason : Malformed) (place : Nat) (f : α → ReadM β) :
    Within input (Pattern.failAt reason place >>= f) :=
  throw_bind (by simp) f

theorem fail_bind (reason : Malformed) (back : Nat) (f : α → ReadM β) :
    Within input (Pattern.fail reason back >>= f) :=
  .of_error fun _ => ⟨_, rfl, by simp⟩

theorem check {bad : Prop} [Decidable bad] {failure : ReadM Unit} {rest : Unit → ReadM α}
    (fails : Within input failure) (passes : ∀ a, Within input (rest a)) :
    Within input (if bad then failure >>= rest else rest ()) := by
  split
  · exact .bind fails passes
  · exact passes ()

theorem peek : Within input peek := get_bind fun _ _ => pure _

theorem position : Within input position := get_bind fun _ _ => pure _

theorem next? : Within input next? := by
  refine get_bind fun reading inside => ?_
  split
  · exact pure none
  · rename_i token tokens ahead
    rw [ahead] at inside
    exact .bind (.set ((List.suffix_cons token tokens).trans inside)) fun _ => pure _

theorem accept (c : Char) : Within input (accept c) := by
  refine .bind .peek fun token => ?_
  split
  · exact .bind .next? fun _ => .pure true
  · exact .pure false

theorem readWhile (holds : Char → Bool) (count : Nat) : Within input (readWhile holds count) := by
  induction count with
  | zero => exact .pure []
  | succ count ih =>
    refine .bind .peek fun token => ?_
    split
    · split
      · exact .bind .next? fun _ => .bind ih fun _ => .pure _
      · exact .pure []
    · exact .pure []

theorem skipPast (closer : Char) (tokens : List Token) : Within input (skipPast closer tokens) := by
  induction tokens with
  | nil => exact .pure false
  | cons _ tokens ih =>
    refine .bind .next? fun token => ?_
    split
    · exact .pure true
    · exact ih

theorem readName (closer : Char) (what : String) : Within input (readName closer what) := by
  have unterminated : ∀ read, Within input (readName.unterminated closer what read) := by
    intro read
    rw [readName.unterminated]
    split
    · exact .fail _ _
    · exact .fail _ _
  have collect : ∀ (tokens : List Token) (read : Text),
      Within input (readName.collect closer what read tokens) := by
    intro tokens
    induction tokens with
    | nil => exact unterminated
    | cons _ tokens ih =>
      intro read
      refine .bind .next? fun token => ?_
      split
      · exact unterminated read
      · split
        · exact .pure _
        · exact ih _
  refine get_bind fun reading _ => .bind (collect _ _) fun name => ?_
  split
  · exact .fail _ _
  · exact .pure name

/-! ### Escapes and sets -/

theorem readHex (letter : Char) (count : Nat) : Within input (readHex letter count) := by
  refine .bind (.readWhile _ _) fun digits => ?_
  refine .check (.fail _ _) fun _ => ?_
  exact .check (.fail _ _) fun _ => .pure _

theorem readNamed : Within input readNamed := by
  refine .bind (.accept _) fun _ => .check (.fail _ _) fun _ => ?_
  refine .bind (.readName _ _) fun name => ?_
  split
  · exact .pure _
  · exact .fail _ _

theorem readWrittenOut? (letter : Char) : Within input (readWrittenOut? letter) := by
  rw [Pattern.readWrittenOut?.eq_def]
  split
  · exact .bind (.readHex _ _) fun _ => .pure _
  · exact .bind (.readHex _ _) fun _ => .pure _
  · exact .bind (.readHex _ _) fun _ => .pure _
  · exact .bind .readNamed fun _ => .pure _
  · exact .pure none

theorem octalCode (digits : Text) : Within input (octalCode digits) :=
  .check (.fail _ _) fun _ => .pure _

theorem readSetEscape (flags : Flags) (letter : Char) :
    Within input (readSetEscape flags letter) := by
  rw [Pattern.readSetEscape]
  split
  · exact .pure _
  split
  · exact .pure _
  refine .bind (.readWrittenOut? _) fun code => ?_
  split
  · exact .pure _
  split
  · exact .bind (.readWhile _ _) fun _ => .bind (.octalCode _) fun _ => .pure _
  · exact .check (.fail _ _) fun _ => .pure _

theorem checkLookbehind (group : Nat) : Within input (checkLookbehind group) := by
  refine .get_bind fun reading _ => ?_
  split
  · refine .check (.fail _ _) fun _ => ?_
    split
    · exact .fail _ _
    · exact .pure _
  · exact .pure _

theorem readBackReference (flags : Flags) (digits : Text) :
    Within input (readBackReference flags digits) := by
  refine .get_bind fun reading _ => ?_
  dsimp only
  split
  · exact .check (.fail _ _) fun _ => .bind (.checkLookbehind _) fun _ => .pure _
  · exact .fail _ _

theorem readDigitEscape (flags : Flags) (digit : Char) :
    Within input (readDigitEscape flags digit) := by
  rw [Pattern.readDigitEscape]
  split
  · exact .bind (.readWhile _ _) fun _ => .pure _
  refine .bind (.readWhile _ _) fun digits => ?_
  split
  · dsimp only
    split
    · refine .bind (.readWhile _ _) fun digits => ?_
      split
      · exact .bind (.octalCode _) fun _ => .pure _
      · exact .readBackReference _ _
    · exact .readBackReference _ _
  · exact .readBackReference _ _

theorem readEscape (flags : Flags) (letter : Char) : Within input (readEscape flags letter) := by
  rw [Pattern.readEscape]
  split
  · exact .pure _
  split
  · exact .pure _
  split
  · exact .pure _
  refine .bind (.readWrittenOut? _) fun code => ?_
  split
  · exact .pure _
  split
  · exact .readDigitEscape _ _
  · exact .check (.fail _ _) fun _ => .pure _

theorem readSetItem (flags : Flags) (token : Token) : Within input (readSetItem flags token) := by
  cases token with
  | plain c => exact .pure _
  | escaped c => exact .readSetEscape flags c

theorem readSetItems (flags : Flags) (opened fuel : Nat) (items : List SetItem) :
    Within input (readSetItems flags opened fuel items) := by
  induction fuel generalizing items with
  | zero => exact .failAt _ _
  | succ fuel ih =>
    refine .bind .next? fun first => ?_
    split
    · rename_i first
      split
      · exact .pure _
      refine .bind (.readSetItem _ _) fun item => .bind (.accept _) fun _ => ?_
      split
      · exact ih _
      refine .bind .next? fun last => ?_
      split
      · split
        · exact .pure _
        refine .bind (.readSetItem _ _) fun other => ?_
        dsimp only
        split
        · exact .check (.fail _ _) fun _ => ih _
        · exact .fail _ _
      · exact .failAt _ _
    · exact .failAt _ _

theorem readSet (flags : Flags) : Within input (readSet flags) := by
  refine .bind .position fun _ => .bind (.accept _) fun negated => .get_bind fun reading _ => ?_
  refine .bind (.readSetItems _ _ _ _) fun items => ?_
  split <;> exact .pure _

/-! ### Quantifiers -/

theorem readGreed : Within input readGreed := by
  refine .bind (.accept _) fun _ => ?_
  split
  · exact .pure _
  refine .bind (.accept _) fun _ => ?_
  split
  · exact .pure _
  · exact .pure _

theorem quantify (least : Nat) (most : Option Nat) (place : Nat) (parts : List Part) :
    Within input (quantify least most place parts) := by
  rw [Pattern.quantify.eq_def]
  split
  · exact .failAt _ _
  · exact .failAt _ _
  · exact .failAt _ _
  · exact .bind .readGreed fun _ => .pure _

theorem repetitionCount {digits : Text} (stands : Stands input digits) :
    Within input (repetitionCount digits) := by
  by_cases long : digits.length > Text.maxNumeralDigits
  · intro reading inside
    rw [repetitionCount_run long]
    constructor
    · intro _ _ done
      contradiction
    · intro length failed
      cases failed
      exact ⟨digits, rfl, long, stands⟩
  · rw [Pattern.repetitionCount, if_neg long]
    refine .check (.throw (by simp)) fun _ => .pure _

theorem stands_readWhile (count : Nat) :
    Gives input (Stands input) (Pattern.readWhile isAsciiDigit count) where
  within := .readWhile _ _
  result := by
    intro reading digits later inside done
    obtain ⟨decimal, whole⟩ := parts_of_readWhile done
    rw [whole] at inside
    exact ⟨decimal, (List.prefix_append _ _).isInfix.trans inside.isInfix⟩

theorem readBounds? : Within input readBounds? := by
  refine .get_bind fun reading inside => .bind .peek fun _ => ?_
  split
  · exact .pure _
  -- the bounds are the only numerals that may be too long, so their places are kept
  refine (stands_readWhile _).bind fun low lowStands => .bind (.accept _) fun _ => ?_
  refine Gives.choose (stands_readWhile _) (.pure lowStands) fun high highStands => ?_
  refine .bind (.accept _) fun _ => ?_
  split
  · exact .bind (.set inside) fun _ => .pure _
  refine .choose (.pure _) (.repetitionCount lowStands) fun least => ?_
  split
  · exact .pure _
  · refine .bind (.repetitionCount highStands) fun most => ?_
    exact .check (.failAt _ _) fun _ => .pure _

/-! ### Groups -/

theorem notAFlag {α : Type} (what : String) (token : Token) :
    Within input (notAFlag what token : ReadM α) := by
  rw [Pattern.notAFlag]
  split
  · exact .fail _ _
  · exact .fail _ _

theorem readFlagsOn (fuel : Nat) (token : Token) (on : Text) :
    Within input (readFlagsOn fuel token on) := by
  induction fuel generalizing token on with
  | zero => exact .fail _ _
  | succ fuel ih =>
    rw [Pattern.readFlagsOn.eq_def]
    dsimp only
    split
    · refine .check (.fail _ _) fun _ => .check (.fail _ _) fun _ => .bind .next? fun after => ?_
      split
      · split
        · exact .pure _
        · exact .check (.notAFlag _ _) fun _ => ih _ _
      · exact .fail _ _
    · exact .fail _ _

theorem readFlagsOff (fuel : Nat) (token : Token) (off : Text) :
    Within input (readFlagsOff fuel token off) := by
  induction fuel generalizing token off with
  | zero => exact .fail _ _
  | succ fuel ih =>
    rw [Pattern.readFlagsOff.eq_def]
    dsimp only
    split
    · refine .check (.fail _ _) fun _ => .bind .next? fun after => ?_
      split
      · split
        · exact .pure _
        · exact .check (.notAFlag _ _) fun _ => ih _ _
      · exact .fail _ _
    · exact .fail _ _

theorem readFlags (flags : Flags) (opened : Nat) (token : Token) :
    Within input (readFlags flags opened token) := by
  refine .get_bind fun reading _ => .choose (.pure _) (.readFlagsOn _ _ _) fun (on, after) => ?_
  refine .check (.failAt _ _) fun _ => .check (.fail _ _) fun _ => ?_
  dsimp only
  split
  · refine .bind .next? fun first => ?_
    split
    · refine .check (.notAFlag _ _) fun _ => .bind (.readFlagsOff _ _ _) fun off => ?_
      exact .check (.fail _ _) fun _ => .check (.fail _ _) fun _ => .pure _
    · exact .fail_bind _ _ _
  · refine .bind (.pure []) fun off => ?_
    exact .check (.fail _ _) fun _ => .check (.fail _ _) fun _ => .pure _

theorem readGroupName (closer : Char) : Within input (readGroupName closer) :=
  .bind (.readName _ _) fun _ => .check (.fail _ _) fun _ => .pure _

theorem readCondition : Within input readCondition := by
  refine .bind (.readName _ _) fun name => ?_
  dsimp only
  split
  · refine .get_bind fun reading _ => ?_
    split
    · exact .pure _
    · exact .fail_bind _ _ _
  · split
    · exact .fail _ _
    · refine .check (.fail _ _) fun _ => .get_bind fun reading inside => ?_
      exact .check (.set inside) fun _ => .pure _
    · exact .fail _ _

theorem openGroup (name : Option Text) : Within input (openGroup name) := by
  refine .get_bind fun reading inside => ?_
  cases name with
  | none => exact .bind (.set inside) fun _ => .pure _
  | some name =>
    dsimp only
    split
    · exact .fail_bind _ _ _
    · exact .bind (.set inside) fun _ => .pure _

theorem closeGroup (group : Nat) (body : Pattern) : Within input (closeGroup group body) :=
  .modify fun _ => rfl

theorem expectClose (opened : Nat) : Within input (expectClose opened) := by
  refine .bind (.accept _) fun _ => ?_
  split
  · exact .failAt _ _
  · exact .pure _

theorem lookBehind (opened : Nat) (negated : Bool) (body : Pattern) :
    Within input (lookBehind opened negated body) := by
  refine .get_bind fun reading inside => ?_
  dsimp only
  split
  · exact .bind (.set inside) fun _ => .pure _
  · exact .pure _

mutual

theorem readBranches (flags : Flags) (depth : Nat) :
    (fuel : Nat) → Within input (readBranches flags depth fuel)
  | 0 => by
    rw [Pattern.readBranches]
    exact .tooDeep
  | fuel + 1 => by
    rw [Pattern.readBranches]
    refine .bind (readParts flags depth fuel []) fun branch => .bind (.accept _) fun _ => ?_
    split
    · exact .bind (readBranches flags depth fuel) fun _ => .pure _
    · exact .pure _

theorem readParts (flags : Flags) (depth : Nat) :
    (fuel : Nat) → (parts : List Part) → Within input (readParts flags depth fuel parts)
  | 0, _ => by
    rw [Pattern.readParts]
    exact .tooDeep
  | fuel + 1, parts => by
    rw [Pattern.readParts]
    have again := readParts flags depth fuel
    refine .bind .peek fun token => ?_
    split
    · split
      · exact .pure _
      refine .bind .next? fun _ => ?_
      split
      · exact again _
      split
      · exact .get_bind fun _ _ => .bind (.skipPast _ _) fun _ => again _
      refine .bind .position fun here => ?_
      split
      · exact .bind (.readEscape _ _) fun _ => again _
      · exact .bind (.readSet _) fun _ => again _
      · exact again _
      · exact again _
      · exact again _
      · exact .bind (.quantify _ _ _ _) fun _ => again _
      · exact .bind (.quantify _ _ _ _) fun _ => again _
      · exact .bind (.quantify _ _ _ _) fun _ => again _
      · refine .bind .readBounds? fun bounds => ?_
        split
        · exact again _
        · exact .bind (.quantify _ _ _ _) fun _ => again _
      · exact .bind (readGroup flags depth fuel _) fun _ => again _
      · exact again _
    · exact .pure _

theorem readGroup (flags : Flags) (depth : Nat) :
    (fuel : Nat) → (opened : Nat) → Within input (readGroup flags depth fuel opened)
  | 0, _ => by
    rw [Pattern.readGroup]
    exact .tooDeep
  | fuel + 1, opened => by
    rw [Pattern.readGroup]
    have body := readBody flags depth fuel
    have part := readParts flags depth fuel []
    refine .bind (.accept _) fun _ => ?_
    split
    · exact .bind (.openGroup _) fun _ => .bind (readCapture flags depth fuel _ _) fun _ => .pure _
    refine .bind .next? fun token => ?_
    split
    · split
      -- a name follows, for a group or for a reference
      · refine .bind (.accept _) fun _ => ?_
        split
        · refine .bind (.readGroupName _) fun _ => .bind (.openGroup _) fun _ => ?_
          exact .bind (readCapture flags depth fuel _ _) fun _ => .pure _
        refine .bind (.accept _) fun _ => ?_
        dsimp only
        split
        · refine .bind (.readGroupName _) fun _ => .get_bind fun _ _ => ?_
          split
          · refine .get_bind fun _ _ => .check (.fail _ _) fun _ => ?_
            exact .bind (.checkLookbehind _) fun _ => .pure _
          · exact .fail_bind _ _ _
        · refine .bind .next? fun _ => ?_
          split
          · exact .fail _ _
          · exact .fail _ _
      · exact .bind body fun _ => .bind (.expectClose _) fun _ => .pure _
      -- a comment
      · refine .get_bind fun _ _ => .bind (.skipPast _ _) fun _ => ?_
        split
        · exact .pure _
        · exact .failAt _ _
      · exact .bind (readLookahead flags depth fuel _ _) fun _ => .pure _
      · exact .bind (readLookahead flags depth fuel _ _) fun _ => .pure _
      -- only a lookbehind goes on after the angle
      · refine .bind .next? fun _ => ?_
        split
        · split
          · exact .bind (readLookbehind flags depth fuel _ _) fun _ => .pure _
          split
          · exact .bind (readLookbehind flags depth fuel _ _) fun _ => .pure _
          · exact .fail _ _
        · exact .fail _ _
      -- a condition with its one or two branches
      · refine .bind .readCondition fun _ => .bind (.checkLookbehind _) fun _ => ?_
        refine .bind part fun _ => .bind (.accept _) fun _ => ?_
        dsimp only
        split
        · refine .bind part fun _ => .bind .peek fun _ => .check (.fail _ _) fun _ => ?_
          exact .bind (.pure _) fun _ => .bind (.expectClose _) fun _ => .pure _
        · exact .bind (.pure _) fun _ => .bind (.expectClose _) fun _ => .pure _
      · exact .bind body fun _ => .bind (.expectClose _) fun _ => .pure _
      -- flags for the body
      · split
        · refine .bind (.readFlags _ _ _) fun inner => .bind (readBody inner depth fuel) fun _ => ?_
          exact .bind (.expectClose _) fun _ => .pure _
        · exact .fail _ _
    · exact .fail _ _

theorem readBody (flags : Flags) (depth : Nat) :
    (fuel : Nat) → Within input (readBody flags depth fuel)
  | 0 => by
    rw [Pattern.readBody]
    exact .tooDeep
  | fuel + 1 => by
    cases depth with
    | zero =>
      rw [Pattern.readBody]
      exact .tooDeep
    | succ depth =>
      rw [Pattern.readBody]
      exact .bind (readBranches flags depth fuel) fun _ => .pure _

theorem readCapture (flags : Flags) (depth : Nat) : (fuel : Nat) → (opened group : Nat) →
    Within input (readCapture flags depth fuel opened group)
  | 0, _, _ => by
    rw [Pattern.readCapture]
    exact .tooDeep
  | fuel + 1, opened, group => by
    rw [Pattern.readCapture]
    refine .bind (readBody flags depth fuel) fun _ => .bind (.expectClose _) fun _ => ?_
    exact .bind (.closeGroup _ _) fun _ => .pure _

theorem readLookahead (flags : Flags) (depth : Nat) : (fuel : Nat) → (opened : Nat) →
    (negated : Bool) → Within input (readLookahead flags depth fuel opened negated)
  | 0, _, _ => by
    rw [Pattern.readLookahead]
    exact .tooDeep
  | fuel + 1, opened, negated => by
    rw [Pattern.readLookahead]
    exact .bind (readBody flags depth fuel) fun _ => .bind (.expectClose _) fun _ => .pure _

theorem readLookbehind (flags : Flags) (depth : Nat) : (fuel : Nat) → (opened : Nat) →
    (negated : Bool) → Within input (readLookbehind flags depth fuel opened negated)
  | 0, _, _ => by
    rw [Pattern.readLookbehind]
    exact .tooDeep
  | fuel + 1, opened, negated => by
    rw [Pattern.readLookbehind]
    refine .get_bind fun reading inside => .bind (.modify fun _ => rfl) fun _ => ?_
    refine .bind (readBody flags depth fuel) fun _ => .bind (.modify fun _ => rfl) fun _ => ?_
    exact .bind (.expectClose _) fun _ => .lookBehind _ _ _

end

theorem readWhole (fuel : Nat) : Within input (readWhole fuel) := by
  refine .bind (.readBranches _ _ _) fun _ => .get_bind fun _ _ => .check (.fail _ _) fun _ => ?_
  dsimp only
  split
  · exact .failAt_bind _ _ _
  split
  · exact .throw_bind (by simp) _
  · exact .pure _

end Within

/-! ### The text of a pattern -/

theorem readFrom_spec (place : Nat) (text : Text) :
    match Token.readFrom place text with
    | .ok tokens => tokens.flatMap Token.written = text
    | .error fault => ∀ length, fault ≠ .numeralTooLong length := by
  induction place, text using Token.readFrom.induct with
  | case1 place => rfl
  | case2 place => simp [Token.readFrom]
  | case3 place c rest ih =>
    rw [Token.readFrom]
    cases more : Token.readFrom (place + 2) rest with
    | error fault =>
      rw [more] at ih
      exact ih
    | ok later =>
      rw [more] at ih
      exact congrArg (['\\', c] ++ ·) ih
  | case4 place c rest escapes escape ih =>
    rw [Token.readFrom]
    · cases more : Token.readFrom (place + 1) rest with
      | error fault =>
        rw [more] at ih
        exact ih
      | ok later =>
        rw [more] at ih
        exact congrArg ([c] ++ ·) ih
    · exact escapes
    · exact escape

/-- A pattern that cannot be read for the length of a numeral holds the numeral. -/
theorem exists_of_numeralTooLong {text : Text} {length : Nat}
    (fault : read? text = .error (.numeralTooLong length)) :
    Text.maxNumeralDigits < length ∧ ∃ digits : Text, digits.length = length ∧
      (∀ c ∈ digits, isAsciiDigit c = true) ∧ digits <:+: text := by
  have spec := readFrom_spec 0 text
  rw [read?] at fault
  cases cut : Token.readFrom 0 text with
  | error other =>
    rw [cut] at fault spec
    cases fault
    exact absurd rfl (spec length)
  | ok tokens =>
    rw [cut] at fault spec
    change ((readWhole _).run (.start tokens) >>= fun result => pure result.1) = _ at fault
    cases run : (readWhole (6 * tokens.length + 6)).run (.start tokens) with
    | ok result =>
      rw [run] at fault
      cases fault
    | error other =>
      rw [run] at fault
      cases fault
      obtain ⟨digits, count, long, decimal, inside⟩ :=
        (Within.readWhole _ _ List.suffix_rfl).2 length run
      refine ⟨long, digits, count, decimal, ?_⟩
      obtain ⟨before, after, parts⟩ := inside
      have whole : before ++ digits.map Token.plain ++ after = tokens := parts
      have written : (digits.map Token.plain).flatMap Token.written = digits := by
        rw [List.flatMap_map]
        exact List.flatMap_singleton' digits
      refine ⟨before.flatMap Token.written, after.flatMap Token.written, ?_⟩
      rw [← spec, ← whole, List.flatMap_append, List.flatMap_append, written]

end CardSearch.Pattern
