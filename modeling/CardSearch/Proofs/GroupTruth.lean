import CardSearch.Proofs.Grouping
/-!
A group counts only through its truth value. A mask that shows a character shows the same in front of
it when the text from there on is exchanged for one in which no more quotes can close a phrase. So two
queries that differ in the body of one group are reduced in lock step, until that group is replaced
and they are the same. Main statement: they have the same value if the two bodies have.
-/
namespace CardSearch.Query

open Text

variable {quote c d : Char} {front rest other part : Text}

/-! ### Exchanging what follows -/

def CanClose (quote : Char) (text : Text) : Prop :=
  ∃ place, closesWith quote (text.drop place) = true

theorem CanClose.append_left (can : CanClose quote rest) (front : Text) :
    CanClose quote (front ++ rest) := by
  obtain ⟨place, closes⟩ := can
  exact ⟨front.length + place, by rwa [List.drop_length_add_append]⟩

private theorem closesWith_of_ne (other : c ≠ quote) (later : Text) :
    closesWith quote (c :: later) = false := by
  cases later <;> simp [closesWith, other]

theorem CanClose.of_quoteless (isQuoted : isQuote quote = true)
    (quoteless : ∀ c ∈ front, isQuote c = false) (can : CanClose quote (front ++ rest)) :
    CanClose quote rest := by
  induction front with
  | nil => exact can
  | cons c front ih =>
    rw [List.forall_mem_cons] at quoteless
    obtain ⟨place, closes⟩ := can
    cases place with
    | zero =>
      have different : c ≠ quote := by
        rintro rfl
        simp [quoteless.1] at isQuoted
      rw [List.cons_append, List.drop_zero, closesWith_of_ne different] at closes
      contradiction
    | succ place => exact ih quoteless.2 ⟨place, by simpa using closes⟩

theorem phraseLength?_eq_none (open' : ∀ place, closesWith quote (part.drop (place + 1)) = false) :
    phraseLength? quote part = none := by
  induction part with
  | nil => rfl
  | cons c part ih =>
    have here := open' 0
    have later := ih fun place => by simpa using open' (place + 1)
    rw [phraseLength?, later]
    simp only [List.drop_succ_cons, List.drop_zero] at here
    simp [here]

theorem closesWith_of_none (line : '\n' ∉ part) (open' : phraseLength? quote part = none)
    (place : Nat) : closesWith quote (part.drop (place + 1)) = false := by
  induction part generalizing place with
  | nil => rfl
  | cons c part ih =>
    rw [List.mem_cons, not_or] at line
    have notLine : (c == '\n') = false := beq_eq_false_iff_ne.mpr (Ne.symm line.1)
    rw [phraseLength?, notLine] at open'
    simp only [Bool.false_eq_true, if_false] at open'
    split at open'
    · contradiction
    · rename_i here
      cases place with
      | zero => simpa using here
      | succ place => exact ih line.2 (by simpa using open') place

/-- A character that neither closes a phrase nor lets the quote in front of it do so. -/
structure Neutral (c : Char) : Prop where
  quoteless : isQuote c = false
  inside : endsTerm c = false

theorem Neutral.closesWith_eq (first : Neutral c) (second : Neutral d)
    (isQuoted : isQuote quote = true) (front rest other : Text) {place : Nat}
    (within : place ≤ front.length) :
    closesWith quote ((front ++ c :: rest).drop place) =
      closesWith quote ((front ++ d :: other).drop place) := by
  have differ : ∀ {e : Char}, Neutral e → e ≠ quote := by
    rintro e neutral rfl
    simp [neutral.quoteless] at isQuoted
  rw [List.drop_append_of_le_length within, List.drop_append_of_le_length within]
  have stops : ∀ {e : Char}, Neutral e → (isBlank e || e == ')') = false := fun neutral =>
    neutral.inside
  match front.drop place with
  | [] =>
    rw [List.nil_append, List.nil_append, closesWith_of_ne (differ first),
      closesWith_of_ne (differ second)]
  | [e] => simp [closesWith, stops first, stops second]
  | e :: f :: more => rfl

private theorem phraseLength?_exchange (first : Neutral c) (second : Neutral d)
    (isQuoted : isQuote quote = true) {n : Nat}
    (found : phraseLength? quote (front ++ c :: rest) = some n) (within : n < front.length)
    (other : Text) : phraseLength? quote (front ++ d :: other) = some n := by
  induction front generalizing n with
  | nil => contradiction
  | cons e front ih =>
    have same := first.closesWith_eq second isQuoted front rest other (Nat.zero_le _)
    rw [List.drop_zero, List.drop_zero] at same
    rw [List.cons_append, phraseLength?, same] at found
    rw [List.cons_append, phraseLength?]
    split
    · simp_all
    · split
      · simp_all
      · rename_i newline open'
        simp only [newline, open', if_false, Bool.false_eq_true] at found
        obtain ⟨k, inner, rfl⟩ := Option.map_eq_some_iff.mp found
        rw [ih inner (by simpa using within)]
        rfl

/-- A phrase that is left open in one line is left open if what follows is exchanged. -/
private theorem phraseLength?_exchange_none (first : Neutral c) (second : Neutral d)
    (isQuoted : isQuote quote = true) (line : '\n' ∉ front ++ c :: rest)
    (open' : phraseLength? quote (front ++ c :: rest) = none)
    (reaches : CanClose quote other → CanClose quote rest) :
    phraseLength? quote (front ++ d :: other) = none := by
  have shut := closesWith_of_none line open'
  apply phraseLength?_eq_none
  intro place
  rcases Nat.lt_or_ge place front.length with within | beyond
  · rw [← first.closesWith_eq second isQuoted front rest other within]
    exact shut place
  · obtain ⟨k, rfl⟩ := Nat.exists_eq_add_of_le beyond
    have behind : ∀ (e : Char) (later : Text) (i : Nat),
        (front ++ e :: later).drop (front.length + i + 1) = later.drop i := by
      intro e later i
      rw [Nat.add_assoc, List.drop_length_add_append, List.drop_succ_cons]
    rw [behind]
    by_contra closes
    rw [Bool.not_eq_false] at closes
    obtain ⟨i, found⟩ := reaches ⟨k, closes⟩
    have never := shut (front.length + i)
    rw [behind, found] at never
    contradiction

/-- A phrase that opens in front of a shown character ends where it did, or stays open. -/
private theorem phraseLength?_eq_of_shown (first : Neutral c) (visible : c ≠ blankMark)
    (second : Neutral d) (isQuoted : isQuote quote = true) (line : '\n' ∉ front ++ c :: rest)
    (reaches : CanClose quote other → CanClose quote rest)
    (shown : ∀ n, phraseLength? quote (front ++ c :: rest) = some n →
      (maskFrom (.inside n) (front ++ c :: rest))[front.length]? = some c) :
    phraseLength? quote (front ++ d :: other) = phraseLength? quote (front ++ c :: rest) := by
  cases reached : phraseLength? quote (front ++ c :: rest) with
  | none => exact phraseLength?_exchange_none first second isQuoted line reached reaches
  | some n =>
    have short : n ≤ front.length := by
      by_contra deep
      exact visible (maskFrom_inside_shows (Nat.lt_of_not_le deep) (shown n reached))
    have apart : n ≠ front.length := by
      rintro rfl
      have closing := phraseLength?_closes reached
      rw [List.getElem?_append_right (Nat.le_refl _), Nat.sub_self] at closing
      cases closing
      rw [first.quoteless] at isQuoted
      contradiction
    exact phraseLength?_exchange first second isQuoted reached (Nat.lt_of_le_of_ne short apart) _

/-- The masks of two texts with the same front are the same in it, and start anew behind it. -/
def AlikeBefore (scan : MaskScan) (front : Text) (c : Char) (rest : Text) (d : Char) (other : Text) :
    Prop :=
  ∃ seen, seen.length = front.length ∧
    maskFrom scan (front ++ c :: rest) = seen ++ c :: maskFrom (.outside (some c)) rest ∧
    maskFrom scan (front ++ d :: other) = seen ++ d :: maskFrom (.outside (some d)) other

theorem AlikeBefore.cons {scan behind : MaskScan} {e : Char} (mark : Char)
    (alike : AlikeBefore behind front c rest d other)
    (whole : maskFrom scan (e :: (front ++ c :: rest)) = mark :: maskFrom behind (front ++ c :: rest))
    (exchanged : maskFrom scan (e :: (front ++ d :: other)) =
      mark :: maskFrom behind (front ++ d :: other)) :
    AlikeBefore scan (e :: front) c rest d other := by
  obtain ⟨seen, length, first, second⟩ := alike
  refine ⟨mark :: seen, ?_, ?_, ?_⟩
  · rw [List.length_cons, length, List.length_cons]
  · rw [List.cons_append, whole, first, List.cons_append]
  · rw [List.cons_append, exchanged, second, List.cons_append]

/-- In front of a character that a mask shows, the mask depends only on which quotes can close a
phrase behind it. -/
theorem maskFrom_exchange (scan : MaskScan) (first : Neutral c) (visible : c ≠ blankMark)
    (second : Neutral d) (line : '\n' ∉ front ++ c :: rest)
    (reaches : ∀ quote, isQuote quote = true → CanClose quote other → CanClose quote rest)
    (shown : (maskFrom scan (front ++ c :: rest))[front.length]? = some c) :
    AlikeBefore scan front c rest d other := by
  induction front generalizing scan with
  | nil =>
    refine ⟨[], rfl, ?_⟩
    cases scan with
    | outside before =>
      exact ⟨maskFrom_outside_cons first.quoteless, maskFrom_outside_cons second.quoteless⟩
    | inside left =>
      cases left with
      | zero => exact ⟨rfl, rfl⟩
      | succ left => exact absurd (maskFrom_inside_shows (Nat.succ_pos left) shown) visible
  | cons e front ih =>
    rw [List.cons_append, List.mem_cons, not_or] at line
    rw [List.cons_append, List.length_cons] at shown
    cases scan with
    | inside left =>
      cases left with
      | zero => exact (ih _ line.2 (by simpa [maskFrom] using shown)).cons e rfl rfl
      | succ left => exact (ih _ line.2 (by simpa [maskFrom] using shown)).cons blankMark rfl rfl
    | outside before =>
      by_cases opens : (isQuote e && opensAfter before) = true
      · have isQuoted := (Bool.and_eq_true_iff.mp opens).1
        simp only [maskFrom, opens, if_true] at shown
        have same := phraseLength?_eq_of_shown first visible second isQuoted line.2
          (reaches e isQuoted) fun n reached => by simpa [reached] using shown
        cases reached : phraseLength? e (front ++ c :: rest) with
        | none =>
          rw [reached] at shown same
          exact (ih (.outside (some e)) line.2 (by simpa using shown)).cons e
            (by simp only [maskFrom, opens, if_true, reached])
            (by simp only [maskFrom, opens, if_true, same])
        | some n =>
          rw [reached] at shown same
          exact (ih (.inside n) line.2 (by simpa using shown)).cons e
            (by simp only [maskFrom, opens, if_true, reached])
            (by simp only [maskFrom, opens, if_true, same])
      · simp only [maskFrom, opens, if_false, Bool.false_eq_true] at shown
        exact (ih (.outside (some e)) line.2 (by simpa using shown)).cons e
          (by simp only [maskFrom, opens, if_false, Bool.false_eq_true])
          (by simp only [maskFrom, opens, if_false, Bool.false_eq_true])

/-! ### One group among others -/

variable {body later : Text}

theorem neutral_opening : Neutral '(' := ⟨by decide, by decide⟩

/-- Behind an opening parenthesis a body without quotes is shown, and so is the parenthesis that
closes it. -/
theorem maskFrom_body (quoteless : ∀ c ∈ body, isQuote c = false) (later : Text) :
    maskFrom (.outside (some '(')) (body ++ ')' :: later) =
      body ++ ')' :: maskFrom (.outside (some ')')) later := by
  rw [maskFrom_of_unquoted (unquoted_of_quoteless quoteless), maskFrom_outside_cons (by decide)]

theorem bodyLength?_of_hole (front later : Text) :
    bodyLength? (front ++ '(' :: later) = bodyLength? front := by
  induction front with
  | nil => rfl
  | cons c front ih => rw [List.cons_append, bodyLength?, bodyLength?, ih]

theorem findGroup?_of_hole (front : Text) (some : body ≠ []) (opens : '(' ∉ body)
    (closes : ')' ∉ body) (later : Text) :
    findGroup? (front ++ '(' :: (body ++ ')' :: later)) =
      (findGroup? front).or (Option.some ⟨front.length, body.length⟩) := by
  induction front with
  | nil => exact findGroup?_append (List.not_mem_nil) some opens closes later
  | cons c front ih =>
    rw [List.cons_append, findGroup?, findGroup?, ih, bodyLength?_of_hole]
    have shift : ((findGroup? front).or (Option.some ⟨front.length, body.length⟩)).map
        (fun group => { group with start := group.start + 1 }) =
        ((findGroup? front).map fun group => { group with start := group.start + 1 }).or
          (Option.some ⟨(c :: front).length, body.length⟩) := by
      cases findGroup? front <;> rfl
    rw [shift]
    split
    · split <;> rfl
    · rfl

theorem parts_of_bodyLength? {mask : Text} {n : Nat} (found : bodyLength? mask = some n) :
    ∃ later, mask = mask.take n ++ ')' :: later ∧ (mask.take n).length = n := by
  induction mask generalizing n with
  | nil => contradiction
  | cons c mask ih =>
    rw [bodyLength?] at found
    split at found
    · rename_i closes
      cases found
      exact ⟨mask, by rw [beq_iff_eq.mp closes]; rfl, rfl⟩
    · split at found
      · contradiction
      · obtain ⟨k, inner, rfl⟩ := Option.map_eq_some_iff.mp found
        obtain ⟨later, whole, length⟩ := ih inner
        refine ⟨later, ?_, by rw [List.take_succ_cons, List.length_cons, length]⟩
        rw [List.take_succ_cons, List.cons_append, ← whole]

theorem parts_of_findGroup? {mask : Text} {group : Group} (found : findGroup? mask = some group) :
    ∃ front body later, mask = front ++ '(' :: (body ++ ')' :: later) ∧
      front.length = group.start ∧ body.length = group.length := by
  induction mask generalizing group with
  | nil => contradiction
  | cons c mask ih =>
    have deeper : ∀ outer, (findGroup? mask).map (fun inner =>
        { inner with start := inner.start + 1 }) = some outer →
        ∃ front body later, c :: mask = front ++ '(' :: (body ++ ')' :: later) ∧
          front.length = outer.start ∧ body.length = outer.length := by
      intro outer shifted
      obtain ⟨inner, innerFound, rfl⟩ := Option.map_eq_some_iff.mp shifted
      obtain ⟨front, body, later, whole, start, length⟩ := ih innerFound
      exact ⟨c :: front, body, later, by rw [whole]; rfl, by rw [← start]; rfl, length⟩
    rw [findGroup?] at found
    split at found
    · rename_i opens
      split at found
      · rename_i n closed
        cases found
        obtain ⟨later, whole, length⟩ := parts_of_bodyLength? closed
        refine ⟨[], mask.take (n + 1), later, ?_, rfl, length⟩
        rw [List.nil_append, ← whole, beq_iff_eq.mp opens]
      · exact deeper _ found
    · exact deeper _ found

/-! ### Reducing in lock step -/

/-- A text that can be the body of a group as it stands. -/
structure Innermost (body : Text) : Prop where
  filled : body ≠ []
  opens : '(' ∉ body
  closes : ')' ∉ body
  quoteless : ∀ c ∈ body, isQuote c = false
  line : '\n' ∉ body

theorem neutral_blankMark : Neutral blankMark := ⟨by decide, by decide⟩

private theorem getElem?_behind (front : Text) (c : Char) (later : Text) (place : Nat) :
    (front ++ c :: later)[front.length + 1 + place]? = later[place]? := by
  rw [List.append_cons, List.getElem?_append_right (by simp)]
  congr 1
  simp only [List.length_append, List.length_singleton]
  omega

theorem mask_behind_body {front body later : Text}
    (closes : (mask (front ++ '(' :: (body ++ ')' :: later)))[front.length + 1 + body.length]? =
      some ')') (place : Nat) :
    (mask (front ++ '(' :: (body ++ ')' :: later)))[front.length + body.length + 2 + place]? =
      (maskFrom (.outside (some ')')) later)[place]? := by
  have whole : front ++ '(' :: (body ++ ')' :: later) = (front ++ '(' :: body) ++ ')' :: later := by
    simp
  have stop : (front ++ '(' :: body).length = front.length + 1 + body.length := by
    simp only [List.length_append, List.length_cons]
    omega
  rw [← stop, whole, mask] at closes
  have cut := maskFrom_append (.outside none) (by decide) closes
  have offset : front.length + body.length + 2 + place =
      (maskFrom (.outside none) (front ++ '(' :: body)).length + 1 + place := by
    rw [maskFrom_length, stop]
    omega
  rw [mask, whole, cut, offset, getElem?_behind]

theorem mask_behind_placeholder {front body later : Text}
    (line : '\n' ∉ front ++ '(' :: (body ++ ')' :: later))
    (opens : (mask (front ++ '(' :: (body ++ ')' :: later)))[front.length]? = some '(')
    (truth : Bool) (place : Nat) :
    (mask (front ++ (placeholder truth ++ later)))[front.length + (placeholder truth).length + place]? =
      (maskFrom (.outside (some blankMark)) later)[place]? := by
  obtain ⟨marks, shape, quoteless, last⟩ : ∃ marks, placeholder truth = blankMark :: marks ∧
      (∀ c ∈ marks, isQuote c = false) ∧ marks.getLast? = some blankMark := by
    cases truth
    · exact ⟨_, rfl, by decide, rfl⟩
    · exact ⟨_, rfl, by decide, rfl⟩
  have reaches : ∀ quote, isQuote quote = true → CanClose quote (marks ++ later) →
      CanClose quote (body ++ ')' :: later) := by
    intro quote isQuoted can
    rw [List.append_cons]
    exact (can.of_quoteless isQuoted quoteless).append_left _
  obtain ⟨seen, length, -, exchanged⟩ := maskFrom_exchange (.outside none) neutral_opening (by decide)
    neutral_blankMark line reaches opens
  have behind : maskFrom (.outside (some blankMark)) (marks ++ later) =
      marks ++ maskFrom (.outside (some blankMark)) later := by
    rw [maskFrom_of_unquoted (unquoted_of_quoteless quoteless), last]
    rfl
  have offset : front.length + (blankMark :: marks).length + place =
      seen.length + 1 + (marks.length + place) := by
    rw [length, List.length_cons]
    omega
  rw [mask, shape, List.cons_append, exchanged, behind, offset, getElem?_behind,
    List.getElem?_append_right (by omega), Nat.add_sub_cancel_left]

theorem mask_behind_replaced {front body later : Text}
    (line : '\n' ∉ front ++ '(' :: (body ++ ')' :: later))
    (opens : (mask (front ++ '(' :: (body ++ ')' :: later)))[front.length]? = some '(')
    (closes : (mask (front ++ '(' :: (body ++ ')' :: later)))[front.length + 1 + body.length]? =
      some ')') (truth : Bool) (place : Nat) :
    (mask (front ++ (placeholder truth ++ later)))[front.length + (placeholder truth).length + place]? =
      (mask (front ++ '(' :: (body ++ ')' :: later)))[front.length + body.length + 2 + place]? := by
  have same : opensAfter (some blankMark) = opensAfter (some ')') := by decide
  rw [mask_behind_placeholder line opens, mask_behind_body closes, maskFrom_outside_congr same]

private theorem group_of_shown {before more : Text} {seen shown : Text} {group : Group}
    (whole : mask (before ++ more) = seen ++ shown) (length : seen.length = before.length)
    (found : findGroup? seen = some group) :
    ∃ front body later, before = front ++ '(' :: (body ++ ')' :: later) ∧
      group = ⟨front.length, body.length⟩ ∧
      (mask (before ++ more))[front.length]? = some '(' ∧
      (mask (before ++ more))[front.length + 1 + body.length]? = some ')' := by
  obtain ⟨first, inner, last, parts, start, size⟩ := parts_of_findGroup? found
  have keeps : ∀ (place : Nat) (c : Char), seen[place]? = some c → c ≠ blankMark →
      (mask (before ++ more))[place]? = some c ∧ before[place]? = some c := by
    intro place c there visible
    have bound := (List.getElem?_eq_some_iff.mp there).1
    have marked : (mask (before ++ more))[place]? = some c := by
      rw [whole, List.getElem?_append_left bound, there]
    have kept := mask_keeps marked visible
    rw [List.getElem?_append_left (length ▸ bound)] at kept
    exact ⟨marked, kept⟩
  have opens : seen[group.start]? = some '(' := by
    rw [parts, ← start, List.getElem?_append_right (Nat.le_refl _), Nat.sub_self]
    rfl
  have closes : seen[group.start + 1 + group.length]? = some ')' := by
    rw [parts, ← start, getElem?_behind, ← size, List.getElem?_append_right (Nat.le_refl _),
      Nat.sub_self]
    rfl
  obtain ⟨opensMask, opensText⟩ := keeps _ _ opens (by decide)
  obtain ⟨closesMask, closesText⟩ := keeps _ _ closes (by decide)
  obtain ⟨front, rest, rfl, frontLength⟩ := parts_of_getElem? opensText
  rw [← frontLength, getElem?_behind] at closesText
  obtain ⟨body, later, rfl, bodyLength⟩ := parts_of_getElem? closesText
  refine ⟨front, body, later, rfl, ?_, ?_, ?_⟩
  · rw [frontLength, bodyLength]
  · rw [frontLength, opensMask]
  · rw [frontLength, bodyLength, closesMask]

/-- Two queries that differ in the body of one group show the same groups in front of it. -/
theorem findGroup?_of_bodies {a b front later : Text} (first : Innermost a) (second : Innermost b)
    (line : '\n' ∉ front ++ '(' :: (a ++ ')' :: later))
    (shown : (mask (front ++ '(' :: (a ++ ')' :: later)))[front.length]? = some '(') :
    ∃ seen behind, seen.length = front.length ∧
      mask (front ++ '(' :: (a ++ ')' :: later)) = seen ++ behind ∧
      findGroup? (mask (front ++ '(' :: (a ++ ')' :: later))) =
        (findGroup? seen).or (some ⟨front.length, a.length⟩) ∧
      findGroup? (mask (front ++ '(' :: (b ++ ')' :: later))) =
        (findGroup? seen).or (some ⟨front.length, b.length⟩) := by
  have reaches : ∀ quote, isQuote quote = true → CanClose quote (b ++ ')' :: later) →
      CanClose quote (a ++ ')' :: later) := by
    intro quote isQuoted can
    exact (can.of_quoteless isQuoted second.quoteless).append_left _
  obtain ⟨seen, length, whole, exchanged⟩ := maskFrom_exchange (.outside none) neutral_opening
    (by decide) neutral_opening line reaches shown
  refine ⟨seen, _, length, whole, ?_, ?_⟩
  · rw [mask, whole, maskFrom_body first.quoteless,
      findGroup?_of_hole seen first.filled first.opens first.closes, length]
  · rw [mask, exchanged, maskFrom_body second.quoteless,
      findGroup?_of_hole seen second.filled second.opens second.closes, length]

section

variable {start body rest hole : Text} (truth : Bool)

theorem replaceGroups_in_front {worth : Text → Bool}
    (found : findGroup? (mask (start ++ '(' :: (body ++ ')' :: rest) ++ hole)) =
      some ⟨start.length, body.length⟩) :
    replaceGroups worth (start ++ '(' :: (body ++ ')' :: rest) ++ hole) =
      replaceGroups worth (start ++ (placeholder (worth body) ++ rest) ++ hole) := by
  have parts : start ++ '(' :: (body ++ ')' :: rest) ++ hole =
      start ++ '(' :: (body ++ ')' :: (rest ++ hole)) := by simp
  rw [parts] at found ⊢
  rw [replaceGroups_of_some found, Group.body_of_parts, Group.replace_of_parts]
  simp

theorem openings_replaced_lt :
    openings (start ++ (placeholder truth ++ rest)) < openings (start ++ '(' :: (body ++ ')' :: rest)) := by
  have none : openings (placeholder truth) = 0 := by cases truth <;> decide
  have closing : List.count '(' (')' :: rest) = List.count '(' rest :=
    List.count_cons_of_ne (by decide)
  simp only [openings, List.count_append, List.count_cons_self, closing] at none ⊢
  omega

theorem newline_not_mem_replaced (line : '\n' ∉ start ++ '(' :: (body ++ ')' :: rest)) :
    '\n' ∉ start ++ (placeholder truth ++ rest) := by
  have plain : '\n' ∉ placeholder truth := by cases truth <;> decide
  simp only [List.mem_append, List.mem_cons, not_or] at line ⊢
  exact ⟨line.1, plain, line.2.2.2.2⟩

theorem shown_behind_replaced (line : '\n' ∉ start ++ '(' :: (body ++ ')' :: rest) ++ hole)
    (opens : (mask (start ++ '(' :: (body ++ ')' :: rest) ++ hole))[start.length]? = some '(')
    (closes : (mask (start ++ '(' :: (body ++ ')' :: rest) ++ hole))[start.length + 1 + body.length]? =
      some ')')
    (shown : (mask (start ++ '(' :: (body ++ ')' :: rest) ++ hole))[
      (start ++ '(' :: (body ++ ')' :: rest)).length]? = some c) :
    (mask (start ++ (placeholder truth ++ rest) ++ hole))[
      (start ++ (placeholder truth ++ rest)).length]? = some c := by
  have parts : start ++ '(' :: (body ++ ')' :: rest) ++ hole =
      start ++ '(' :: (body ++ ')' :: (rest ++ hole)) := by simp
  have offset : (start ++ '(' :: (body ++ ')' :: rest)).length =
      start.length + body.length + 2 + rest.length := by
    simp only [List.length_append, List.length_cons]
    omega
  rw [parts] at line opens closes shown
  rw [offset, ← mask_behind_replaced line opens closes truth] at shown
  simpa [Nat.add_assoc] using shown

end

/-- Two queries that differ in the body of one group are the same once their groups are replaced. -/
theorem replaceGroups_hole {worth : Text → Bool} {a b later : Text} (first : Innermost a)
    (second : Innermost b) (same : worth a = worth b) (laterLine : '\n' ∉ later) {front : Text}
    (frontLine : '\n' ∉ front)
    (shown : (mask (front ++ '(' :: (a ++ ')' :: later)))[front.length]? = some '(') :
    replaceGroups worth (front ++ '(' :: (a ++ ')' :: later)) =
      replaceGroups worth (front ++ '(' :: (b ++ ')' :: later)) := by
  induction more : openings front using Nat.strong_induction_on generalizing front with
  | _ n ih =>
    have line : '\n' ∉ front ++ '(' :: (a ++ ')' :: later) := by
      simp [frontLine, laterLine, first.line]
    obtain ⟨seen, behind, length, whole, inFirst, inSecond⟩ :=
      findGroup?_of_bodies first second line shown
    cases found : findGroup? seen with
    | none =>
      -- the two bodies are next, and the same placeholder stands for both
      rw [found, Option.none_or] at inFirst inSecond
      rw [replaceGroups_of_some inFirst, replaceGroups_of_some inSecond, Group.body_of_parts,
        Group.body_of_parts, Group.replace_of_parts, Group.replace_of_parts, same]
    | some group =>
      rw [found, Option.some_or] at inFirst inSecond
      obtain ⟨start, body, rest, rfl, rfl, opens, closes⟩ := group_of_shown whole length found
      rw [replaceGroups_in_front inFirst, replaceGroups_in_front inSecond]
      exact ih _ (more ▸ openings_replaced_lt (worth body))
        (newline_not_mem_replaced (worth body) frontLine)
        (shown_behind_replaced (worth body) line opens closes shown) rfl

/-! ### Trimming around a group -/

private theorem trimStart_append (shown : isBlank c = false) (front later : Text) :
    trimStart (front ++ c :: later) = trimStart front ++ c :: later := by
  rw [trimStart, List.dropWhile_append, List.dropWhile_cons_of_neg (by simp [shown]), ← trimStart]
  split
  · rename_i none
    rw [List.isEmpty_iff.mp none, List.nil_append]
  · rfl

private theorem trimEnd_append (shown : isBlank c = false) (front later : Text) :
    trimEnd (front ++ c :: later) = front ++ c :: trimEnd later := by
  have reversed : (front ++ c :: later).reverse = later.reverse ++ c :: front.reverse := by simp
  rw [trimEnd, reversed, ← trimStart, trimStart_append shown, trimStart, List.reverse_append, trimEnd]
  simp

theorem trim_around_group (front body later : Text) :
    trim (front ++ '(' :: (body ++ ')' :: later)) =
      trimStart front ++ '(' :: (body ++ ')' :: trimEnd later) := by
  have assoc : ∀ front later : Text, front ++ '(' :: (body ++ ')' :: later) =
      (front ++ '(' :: body) ++ ')' :: later := by simp
  rw [trim, trimStart_append (by decide), assoc, trimEnd_append (by decide), ← assoc]

theorem mask_trim_around_group {front body later : Text}
    (shown : (mask (front ++ '(' :: (body ++ ')' :: later)))[front.length]? = some '(') :
    (mask (trimStart front ++ '(' :: (body ++ ')' :: trimEnd later)))[(trimStart front).length]? =
      some '(' := by
  have shorter := trimStart_length_le front
  have inside : (trimStart front).length <
      (trimStart front ++ '(' :: (body ++ ')' :: trimEnd later)).length := by simp
  have offset : (front ++ '(' :: (body ++ ')' :: later)).length -
      (trimStart front ++ '(' :: (body ++ ')' :: later)).length + (trimStart front).length =
        front.length := by
    simp only [List.length_append, List.length_cons]
    omega
  rw [← trim_around_group, mask_trim, trimMask, trim_around_group, trimStart_append (by decide),
    List.getElem?_take_of_lt inside, List.getElem?_drop, offset, shown]

/-- A group counts only through its truth value: exchanging its body for one with the same value
leaves the value of the query, whatever stands around the group. -/
theorem value_exchange_group (test : (term text : Text) → Bool) (text : Text) {front later a b : Text}
    (frontLine : '\n' ∉ front) (laterLine : '\n' ∉ later) (first : Innermost a)
    (second : Innermost b)
    (shown : (mask (front ++ '(' :: (a ++ ')' :: later)))[front.length]? = some '(')
    (same : value test text a = value test text b) :
    value test text (front ++ '(' :: (a ++ ')' :: later)) =
      value test text (front ++ '(' :: (b ++ ')' :: later)) := by
  have trimmedFront : '\n' ∉ trimStart front := fun there =>
    frontLine ((List.dropWhile_sublist _).mem there)
  have trimmedLater : '\n' ∉ trimEnd later := by
    intro there
    obtain ⟨back, -, whole⟩ := trimEnd_parts later
    exact laterLine (whole ▸ List.mem_append_left _ there)
  rw [value_eq, value_eq, trim_around_group, trim_around_group,
    replaceGroups_hole first second same trimmedLater trimmedFront (mask_trim_around_group shown)]

/-- A word of the text is exchanged for another one. -/
theorem value_exchange_word :
    (mask ("x or ".toList ++ '(' :: (['p'] ++ ')' :: " not (r)".toList)))[5]? = some '(' ∧
      value matchesLiterally ['p', 'q'] ['p'] = value matchesLiterally ['p', 'q'] ['q'] ∧
      value matchesLiterally ['p', 'q']
          ("x or ".toList ++ '(' :: (['p'] ++ ')' :: " not (r)".toList)) =
        value matchesLiterally ['p', 'q']
          ("x or ".toList ++ '(' :: (['q'] ++ ')' :: " not (r)".toList)) := by
  have word : ∀ c ∈ ['p', 'q'], Innermost [c] ∧ value matchesLiterally ['p', 'q'] [c] = true := by
    intro c member
    have either : c = 'p' ∨ c = 'q' := by simpa using member
    rcases either with rfl | rfl
    all_goals
      refine ⟨⟨by decide, by decide, by decide, by decide, by decide⟩, ?_⟩
      refine (Settled.value_of_terms ⟨tight_of_solid ?_, rfl⟩ rfl rfl rfl).trans rfl
      decide
  obtain ⟨first, holds⟩ := word 'p' (by decide)
  obtain ⟨second, alsoHolds⟩ := word 'q' (by decide)
  have same := holds.trans alsoHolds.symm
  exact ⟨by decide, same, value_exchange_group matchesLiterally _ (by decide) (by decide) first second
    (by decide) same⟩

end CardSearch.Query
