import CardSearch.Pattern.Reader
/-!
Single steps of the reader of written patterns, and the repetition count that it cannot read: one
with more digits than a numeral may have makes a fault of its own, whatever stands behind it.
-/
namespace CardSearch.Pattern

def Reading.skip (reading : Reading) (tokens : List Token) (passed : Nat) : Reading :=
  { reading with tokens, position := reading.position + passed }

@[simp] theorem Reading.skip_tokens (reading : Reading) (tokens : List Token) (passed : Nat) :
    (reading.skip tokens passed).tokens = tokens := rfl

theorem Reading.skip_skip (reading : Reading) (tokens more : List Token) (passed further : Nat) :
    (reading.skip tokens passed).skip more further = reading.skip more (passed + further) := by
  simp only [skip, Nat.add_assoc]

/-! ### Steps -/

section

variable {α β : Type} {reading after : Reading} {c : Char} {token : Token} {tokens : List Token}
  {holds : Char → Bool} {digits : Text} {count : Nat}

theorem run_bind_ok {x : ReadM α} {a : α} (done : x.run reading = .ok (a, after)) (f : α → ReadM β) :
    (x >>= f).run reading = (f a).run after := by
  rw [StateT.run_bind, done]
  rfl

theorem run_bind_error {x : ReadM α} {fault : Fault} (failed : x.run reading = .error fault)
    (f : α → ReadM β) : (x >>= f).run reading = .error fault := by
  rw [StateT.run_bind, failed]
  rfl

theorem get_run : (get : ReadM Reading).run reading = .ok (reading, reading) := rfl

theorem peek_run : peek.run reading = .ok (reading.tokens.head?, reading) := rfl

theorem position_run : position.run reading = .ok (reading.position, reading) := rfl

theorem next?_run (ahead : reading.tokens = token :: tokens) :
    next?.run reading = .ok (some token, reading.skip tokens token.length) := by
  rw [next?, run_bind_ok get_run, ahead]
  rfl

theorem accept_run_of_ne (other : reading.tokens.head? ≠ some (.plain c)) :
    (accept c).run reading = .ok (false, reading) := by
  rw [accept, run_bind_ok peek_run, if_neg other]
  rfl

theorem parts_of_readWhile (done : (readWhile holds count).run reading = .ok (digits, after)) :
    (∀ c ∈ digits, holds c = true) ∧ reading.tokens = digits.map .plain ++ after.tokens := by
  induction count generalizing reading after digits with
  | zero =>
    cases done
    exact ⟨by simp, rfl⟩
  | succ count ih =>
    rw [readWhile, run_bind_ok peek_run] at done
    split at done
    · rename_i c head
      obtain ⟨tokens, ahead⟩ := List.head?_eq_some_iff.mp head
      split at done
      · rename_i passes
        rw [run_bind_ok (next?_run ahead)] at done
        cases more : (readWhile holds count).run (reading.skip tokens (Token.plain c).length) with
        | error fault =>
          rw [run_bind_error more] at done
          contradiction
        | ok result =>
          rw [run_bind_ok more] at done
          cases done
          obtain ⟨all, rest⟩ := ih more
          rw [Reading.skip_tokens] at rest
          rw [ahead, rest]
          exact ⟨List.forall_mem_cons.mpr ⟨passes, all⟩, rfl⟩
      · cases done
        exact ⟨by simp, rfl⟩
    · cases done
      exact ⟨by simp, rfl⟩

end

/-! ### Repetition counts -/

section

variable {reading : Reading} {digits : Text} {tokens : List Token}

theorem repetitionCount_run (long : Text.maxNumeralDigits < digits.length) :
    (repetitionCount digits).run reading = .error (.numeralTooLong digits.length) := by
  rw [repetitionCount, if_pos long]
  rfl

/-- Characters that do not stand for themselves in a sequence, unless escaped. -/
def syntaxChars : List Char := ['[', '.', '^', '$', '?', '*', '+', '{', '(', '|', ')']

section

variable {reading after : Reading} {tokens : List Token} {flags : Flags} {depth fuel : Nat}
  {part : Part} {parts : List Part} {c : Char}

theorem readParts_run_of_plain (compact : flags.verbose = false) (stands : c ∉ syntaxChars)
    (ahead : reading.tokens = .plain c :: tokens) :
    (readParts flags depth (fuel + 1) parts).run reading =
      (readParts flags depth fuel (.letter flags c.toNat :: parts)).run (reading.skip tokens 1) := by
  have inside : Token.isPlain "|)".toList.contains (.plain c) = false := by
    rw [Token.isPlain, Bool.eq_false_iff, ne_eq, List.contains_iff_mem]
    intro member
    have closing : c = '|' ∨ c = ')' := by simpa using member
    rcases closing with rfl | rfl
    · exact stands (by decide)
    · exact stands (by decide)
  rw [readParts, run_bind_ok peek_run, ahead]
  simp only [List.head?_cons, compact, Bool.false_and, Bool.false_eq_true, if_false, inside]
  rw [run_bind_ok (next?_run ahead), run_bind_ok position_run]
  -- every branch but the last is for one of the characters excluded
  split <;> rename_i same <;> cases same <;> first
    | exact absurd (by decide) stands
    | rfl

theorem readParts_run_of_escaped (compact : flags.verbose = false)
    (ahead : reading.tokens = .escaped c :: tokens)
    (read : (readEscape flags c).run (reading.skip tokens 2) = .ok (part, after)) :
    (readParts flags depth (fuel + 1) parts).run reading =
      (readParts flags depth fuel (part :: parts)).run after := by
  have inside : Token.isPlain "|)".toList.contains (.escaped c) = false := rfl
  rw [readParts, run_bind_ok peek_run, ahead]
  simp only [List.head?_cons, compact, Bool.false_and, Bool.false_eq_true, if_false, inside]
  rw [run_bind_ok (next?_run ahead), run_bind_ok position_run]
  exact run_bind_ok read _

end

/-! ### A pattern with such a count -/

theorem readFrom_append_plain {position : Nat} {written rest : Text}
    (plain : ∀ c ∈ written, c ≠ '\\') :
    Token.readFrom position (written ++ rest) =
      (Token.readFrom (position + written.length) rest).map (written.map .plain ++ ·) := by
  induction written generalizing position with
  | nil => cases read : Token.readFrom position rest <;> simp [read, Except.map]
  | cons c written ih =>
    rw [List.forall_mem_cons] at plain
    have step : Token.readFrom position (c :: (written ++ rest)) =
        (Token.readFrom (position + 1) (written ++ rest)).map (.plain c :: ·) := by
      rw [Token.readFrom]
      · exact fun same => absurd same plain.1
      · exact fun _ _ same => absurd same plain.1
    rw [List.cons_append, step, ih plain.2, List.length_cons, Nat.add_assoc, Nat.add_comm 1]
    cases Token.readFrom (position + (written.length + 1)) rest <;> rfl

end

end CardSearch.Pattern
