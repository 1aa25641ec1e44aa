import CardSearch.Text.Utf8
import Mathlib.Tactic.SplitIfs
/-!
Reading of UTF-8 and the encoding of texts. Main statement: bytes are read as a text exactly if they are
its encoding.
-/
namespace CardSearch.Text.Utf8

variable {position n : Nat} {begun bytes rest : List UInt8} {byte : UInt8} {lead : Lead}

/-- The bytes that complete a character, and the code of the character. -/
inductive Completes : Lead → List UInt8 → Nat → Prop
  | last {lead : Lead} {byte : UInt8} (fits : lead.least ≤ byte.toNat ∧ byte.toNat ≤ lead.greatest)
      (final : lead.further = 0) : Completes lead [byte] (lead.next byte).bits
  | more {lead : Lead} {byte : UInt8} {bytes : List UInt8} {n : Nat}
      (fits : lead.least ≤ byte.toNat ∧ byte.toNat ≤ lead.greatest) (further : lead.further ≠ 0)
      (behind : Completes (lead.next byte) bytes n) : Completes lead (byte :: bytes) n

/-- The bytes of a character, and its code. -/
inductive Spells : List UInt8 → Nat → Prop
  | single {byte : UInt8} (low : byte.toNat < 0x80) : Spells [byte] byte.toNat
  | several {byte : UInt8} {lead : Lead} {bytes : List UInt8} {n : Nat}
      (leads : lead? byte.toNat = some lead) (completes : Completes lead bytes n) :
      Spells (byte :: bytes) n

/-! ### Reading -/

theorem high_of_lead? (leads : lead? n = some lead) : ¬ n < 0x80 := by
  unfold lead? at leads
  split_ifs at leads <;> omega

theorem Completes.decodeFrom_append (completes : Completes lead bytes n) :
    decodeFrom (.inside lead) (bytes ++ rest) = Char.ofNat n :: decodeFrom .start rest := by
  induction completes with
  | last fits final => rw [List.singleton_append, decodeFrom, if_pos fits, if_pos final]
  | more fits further behind ih => rw [List.cons_append, decodeFrom, if_pos fits, if_neg further, ih]

theorem Completes.faultFrom?_append (completes : Completes lead bytes n) :
    faultFrom? position begun (.inside lead) (bytes ++ rest) =
      faultFrom? (position + begun.length + bytes.length) [] .start rest := by
  induction completes generalizing begun with
  | last fits final =>
    rw [List.singleton_append, faultFrom?, if_pos fits, if_pos final, List.length_singleton]
  | more fits further behind ih =>
    rw [List.cons_append, faultFrom?, if_pos fits, if_neg further, ih, List.length_append,
      List.length_singleton, List.length_cons, Nat.add_assoc, Nat.add_assoc, Nat.add_assoc,
      Nat.add_comm 1]

theorem Spells.decodeFrom_append (spells : Spells bytes n) :
    decodeFrom .start (bytes ++ rest) = Char.ofNat n :: decodeFrom .start rest := by
  cases spells with
  | single low => rw [List.singleton_append, decodeFrom, if_pos low]
  | several leads completes =>
    rw [List.cons_append, decodeFrom, if_neg (high_of_lead? leads), leads]
    exact completes.decodeFrom_append

theorem Spells.faultFrom?_append (spells : Spells bytes n) :
    faultFrom? position [] .start (bytes ++ rest) =
      faultFrom? (position + bytes.length) [] .start rest := by
  cases spells with
  | single low => rw [List.singleton_append, faultFrom?, if_pos low, List.length_singleton]
  | several leads completes =>
    rw [List.cons_append, faultFrom?, if_neg (high_of_lead? leads), leads]
    dsimp only
    rw [completes.faultFrom?_append, List.length_singleton, List.length_cons, Nat.add_assoc,
      Nat.add_comm 1]

theorem Spells.length_pos (spells : Spells bytes n) : 0 < bytes.length := by
  cases spells <;> exact Nat.succ_pos _

theorem exists_completes (faultless : faultFrom? position begun (.inside lead) bytes = none) :
    ∃ front n rest position, bytes = front ++ rest ∧ Completes lead front n ∧
      faultFrom? position [] .start rest = none := by
  induction bytes generalizing begun lead with
  | nil => simp [faultFrom?] at faultless
  | cons byte bytes ih =>
    rw [faultFrom?] at faultless
    split_ifs at faultless with fits final
    · exact ⟨[byte], _, bytes, _, rfl, .last fits final, faultless⟩
    · obtain ⟨front, n, rest, position, rfl, completes, behind⟩ := ih faultless
      exact ⟨byte :: front, n, rest, position, rfl, .more fits final completes, behind⟩

theorem exists_spells (faultless : faultFrom? position [] .start (byte :: bytes) = none) :
    ∃ front n rest position, byte :: bytes = front ++ rest ∧ Spells front n ∧
      faultFrom? position [] .start rest = none := by
  rw [faultFrom?] at faultless
  split at faultless
  · exact ⟨[byte], _, bytes, _, rfl, .single ‹_›, faultless⟩
  · split at faultless
    · rename_i lead leads
      obtain ⟨front, n, rest, position, rfl, completes, behind⟩ := exists_completes faultless
      exact ⟨byte :: front, n, rest, position, rfl, .several leads completes, behind⟩
    · contradiction

/-! ### Encodings -/

theorem completes_zero {least greatest bits : Nat} :
    Completes ⟨least, greatest, 0, bits⟩ bytes n ↔
      ∃ byte : UInt8, bytes = [byte] ∧ (least ≤ byte.toNat ∧ byte.toNat ≤ greatest) ∧
        n = bits * 64 + byte.toNat % 64 := by
  constructor
  · intro completes
    cases completes with
    | last fits final => exact ⟨_, rfl, fits, rfl⟩
    | more fits further behind => contradiction
  · rintro ⟨byte, rfl, fits, rfl⟩
    exact .last fits rfl

theorem completes_succ {least greatest further bits : Nat} :
    Completes ⟨least, greatest, further + 1, bits⟩ bytes n ↔
      ∃ (byte : UInt8) (later : List UInt8), bytes = byte :: later ∧
        (least ≤ byte.toNat ∧ byte.toNat ≤ greatest) ∧
        Completes ⟨0x80, 0xbf, further, bits * 64 + byte.toNat % 64⟩ later n := by
  constructor
  · intro completes
    cases completes with
    | last fits final => contradiction
    | more fits further behind => exact ⟨_, _, rfl, fits, behind⟩
  · rintro ⟨byte, later, rfl, fits, behind⟩
    exact .more fits (Nat.succ_ne_zero _) behind

theorem val_ofNat (valid : n.isValidChar) : (Char.ofNat n).val.toNat = n := by
  rw [Char.ofNat, dif_pos valid]
  rfl

theorem ofNat_eq (byte : UInt8) {m : Nat} (same : byte.toNat = m) : UInt8.ofNat m = byte := by
  rw [← same, UInt8.ofNat_toNat]

theorem encoding_two {a b : UInt8} (first : 0xc2 ≤ a.toNat ∧ a.toNat ≤ 0xdf)
    (second : 0x80 ≤ b.toNat ∧ b.toNat ≤ 0xbf) :
    String.utf8EncodeChar (Char.ofNat (a.toNat % 32 * 64 + b.toNat % 64)) = [a, b] := by
  rw [String.utf8EncodeChar, val_ofNat (.inl (by omega)), if_neg (by omega), if_pos (by omega),
    ofNat_eq a (by omega), ofNat_eq b (by omega)]

theorem encoding_three {a b c : UInt8} (first : 0xe0 ≤ a.toNat ∧ a.toNat ≤ 0xef)
    (second : (if a.toNat = 0xe0 then 0xa0 else 0x80) ≤ b.toNat ∧
      b.toNat ≤ if a.toNat = 0xed then 0x9f else 0xbf)
    (third : 0x80 ≤ c.toNat ∧ c.toNat ≤ 0xbf) :
    String.utf8EncodeChar (Char.ofNat ((a.toNat % 16 * 64 + b.toNat % 64) * 64 + c.toNat % 64)) =
      [a, b, c] := by
  have tail : 0x80 ≤ b.toNat ∧ b.toNat ≤ 0xbf := by split_ifs at second <;> omega
  have long : a.toNat = 0xe0 → 0xa0 ≤ b.toNat := by split_ifs at second <;> omega
  have whole : a.toNat = 0xed → b.toNat ≤ 0x9f := by split_ifs at second <;> omega
  have valid : ((a.toNat % 16 * 64 + b.toNat % 64) * 64 + c.toNat % 64).isValidChar := by
    unfold Nat.isValidChar
    omega
  rw [String.utf8EncodeChar, val_ofNat valid, if_neg (by omega), if_neg (by omega), if_pos (by omega),
    ofNat_eq a (by omega), ofNat_eq b (by omega), ofNat_eq c (by omega)]

theorem encoding_four {a b c d : UInt8} (first : 0xf0 ≤ a.toNat ∧ a.toNat ≤ 0xf4)
    (second : (if a.toNat = 0xf0 then 0x90 else 0x80) ≤ b.toNat ∧
      b.toNat ≤ if a.toNat = 0xf4 then 0x8f else 0xbf)
    (third : 0x80 ≤ c.toNat ∧ c.toNat ≤ 0xbf) (fourth : 0x80 ≤ d.toNat ∧ d.toNat ≤ 0xbf) :
    String.utf8EncodeChar (Char.ofNat (((a.toNat % 8 * 64 + b.toNat % 64) * 64 + c.toNat % 64) * 64 +
      d.toNat % 64)) = [a, b, c, d] := by
  have tail : 0x80 ≤ b.toNat ∧ b.toNat ≤ 0xbf := by split_ifs at second <;> omega
  have long : a.toNat = 0xf0 → 0x90 ≤ b.toNat := by split_ifs at second <;> omega
  have whole : a.toNat = 0xf4 → b.toNat ≤ 0x8f := by split_ifs at second <;> omega
  have valid : (((a.toNat % 8 * 64 + b.toNat % 64) * 64 + c.toNat % 64) * 64 +
      d.toNat % 64).isValidChar := by
    unfold Nat.isValidChar
    omega
  rw [String.utf8EncodeChar, val_ofNat valid, if_neg (by omega), if_neg (by omega), if_neg (by omega),
    ofNat_eq a (by omega), ofNat_eq b (by omega), ofNat_eq c (by omega),
    ofNat_eq d (by omega)]

theorem Spells.encoding (spells : Spells bytes n) : String.utf8EncodeChar (Char.ofNat n) = bytes := by
  cases spells with
  | single low =>
    rw [String.utf8EncodeChar, val_ofNat (.inl (by omega)), if_pos (by omega), UInt8.ofNat_toNat]
  | several leads completes =>
    unfold lead? at leads
    split at leads
    · obtain rfl := Option.some.inj leads
      obtain ⟨b, rfl, second, rfl⟩ := completes_zero.mp completes
      exact encoding_two ‹_› second
    split at leads
    · obtain rfl := Option.some.inj leads
      obtain ⟨b, bytes, rfl, second, completes⟩ := completes_succ.mp completes
      obtain ⟨c, rfl, third, rfl⟩ := completes_zero.mp completes
      exact encoding_three ‹_› second third
    split at leads
    · obtain rfl := Option.some.inj leads
      obtain ⟨b, bytes, rfl, second, completes⟩ := completes_succ.mp completes
      obtain ⟨c, bytes, rfl, third, completes⟩ := completes_succ.mp completes
      obtain ⟨d, rfl, fourth, rfl⟩ := completes_zero.mp completes
      exact encoding_four ‹_› second third fourth
    · contradiction

theorem spells_encoding (c : Char) : Spells (String.utf8EncodeChar c) c.toNat := by
  have valid : c.val.toNat < 0xd800 ∨ 0xdfff < c.val.toNat ∧ c.val.toNat < 0x110000 := c.valid
  rw [← Char.toNat_val, String.utf8EncodeChar]
  generalize c.val.toNat = v at valid
  have small (m : Nat) (fits : m < 256) : (UInt8.ofNat m).toNat = m := by
    rw [UInt8.toNat_ofNat', Nat.mod_eq_of_lt fits]
  split_ifs with one two three
  · have same := small v (by omega)
    have single : Spells [UInt8.ofNat v] (UInt8.ofNat v).toNat := .single (by omega)
    rwa [same] at single
  · have first := small (v / 64 % 32 + 192) (by omega)
    have second := small (v % 64 + 128) (by omega)
    refine .several (by rw [first, lead?, if_pos (by omega)]) (completes_zero.mpr ⟨_, rfl, ?_, ?_⟩)
    · omega
    · omega
  · have first := small (v / 4096 % 16 + 224) (by omega)
    have second := small (v / 64 % 64 + 128) (by omega)
    have third := small (v % 64 + 128) (by omega)
    refine .several (by rw [first, lead?, if_neg (by omega), if_pos (by omega)])
      (completes_succ.mpr ⟨_, _, rfl, ?_, completes_zero.mpr ⟨_, rfl, ?_, ?_⟩⟩)
    · rw [second]
      constructor <;> split_ifs <;> omega
    · omega
    · omega
  · have first := small (v / 262144 % 8 + 240) (by omega)
    have second := small (v / 4096 % 64 + 128) (by omega)
    have third := small (v / 64 % 64 + 128) (by omega)
    have fourth := small (v % 64 + 128) (by omega)
    refine .several (by rw [first, lead?, if_neg (by omega), if_neg (by omega), if_pos (by omega)])
      (completes_succ.mpr ⟨_, _, rfl, ?_, completes_succ.mpr ⟨_, _, rfl, ?_, completes_zero.mpr ⟨_, rfl, ?_, ?_⟩⟩⟩)
    · rw [second]
      constructor <;> split_ifs <;> omega
    · omega
    · omega
    · omega

/-! ### Texts -/

theorem toList_toUTF8 (chars : Text) :
    (String.ofList chars).toUTF8.data.toList = chars.flatMap String.utf8EncodeChar := by
  rw [String.toUTF8_eq_toByteArray, String.toByteArray_ofList, List.utf8Encode,
    List.toList_data_toByteArray]

theorem decodeFrom_encoded (chars : Text) :
    decodeFrom .start (chars.flatMap String.utf8EncodeChar) = chars := by
  induction chars with
  | nil => rfl
  | cons c chars ih =>
    rw [List.flatMap_cons, (spells_encoding c).decodeFrom_append, Char.ofNat_toNat, ih]

theorem faultFrom?_encoded (position : Nat) (chars : Text) :
    faultFrom? position [] .start (chars.flatMap String.utf8EncodeChar) = none := by
  induction chars generalizing position with
  | nil => rfl
  | cons c chars ih => rw [List.flatMap_cons, (spells_encoding c).faultFrom?_append, ih]

theorem exists_encoded (faultless : faultFrom? position [] .start bytes = none) :
    ∃ chars : Text, bytes = chars.flatMap String.utf8EncodeChar := by
  induction size : bytes.length using Nat.strongRecOn generalizing bytes position with
  | ind m ih =>
    cases bytes with
    | nil => exact ⟨[], rfl⟩
    | cons byte bytes =>
      obtain ⟨front, n, rest, position, whole, spells, behind⟩ := exists_spells faultless
      rw [whole, List.length_append] at size
      have long := spells.length_pos
      obtain ⟨chars, encoded⟩ := ih rest.length (by omega) behind rfl
      exact ⟨Char.ofNat n :: chars, by rw [whole, List.flatMap_cons, spells.encoding, encoded]⟩

theorem read_eq_ok_iff {text : String} : read bytes = .ok text ↔ text.toUTF8.data.toList = bytes := by
  have whole := toList_toUTF8 text.toList
  rw [String.ofList_toList] at whole
  rw [whole, read]
  cases faults : faultFrom? 0 [] .start bytes with
  | some fault =>
    refine ⟨nofun, ?_⟩
    rintro rfl
    rw [faultFrom?_encoded] at faults
    contradiction
  | none =>
    obtain ⟨chars, rfl⟩ := exists_encoded faults
    dsimp only
    rw [decode, decodeFrom_encoded]
    constructor
    · intro same
      rw [← Except.ok.inj same, String.toList_ofList]
    · intro same
      have again := congrArg (decodeFrom .start) same
      rw [decodeFrom_encoded, decodeFrom_encoded] at again
      rw [← again, String.ofList_toList]

end CardSearch.Text.Utf8
