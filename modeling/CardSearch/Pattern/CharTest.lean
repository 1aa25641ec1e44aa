import CardSearch.Text.Blank
import CardSearch.Text.DecimalDigit
import CardSearch.Text.LetterCase
import CardSearch.Text.WordCharacter
/-!
Tests of a single character: a letter, a set of characters, or any character at all. Letters are
compared under a case rule; the rule for all scripts identifies letters with the same lower-case
form and the few lower-case letters that share a capital.
-/
namespace CardSearch.Pattern

/-- How letters are compared: as they are, up to the case of the 26 Latin letters, or up to case in
all scripts. -/
inductive CaseRule where
  | exact
  | latin
  | allScripts
deriving Repr, DecidableEq

/-- The lower-case letters that share a capital with another one. -/
def letterFamilies : List (List Nat) := [
  [0x69, 0x131], [0x73, 0x17f], [0xb5, 0x3bc], [0x345, 0x3b9, 0x1fbe], [0x390, 0x1fd3],
  [0x3b0, 0x1fe3], [0x3b2, 0x3d0], [0x3b5, 0x3f5], [0x3b8, 0x3d1], [0x3ba, 0x3f0], [0x3c0, 0x3d6],
  [0x3c1, 0x3f1], [0x3c2, 0x3c3], [0x3c6, 0x3d5], [0x432, 0x1c80], [0x434, 0x1c81],
  [0x43e, 0x1c82], [0x441, 0x1c83], [0x442, 0x1c84, 0x1c85], [0x44a, 0x1c86], [0x463, 0x1c87],
  [0x1c88, 0xa64b], [0x1e61, 0x1e9b], [0xfb05, 0xfb06]]

def siblings (code : Nat) : List Nat :=
  match letterFamilies.find? (·.contains code) with
  | some family => family.filter (· != code)
  | none => []

def lowerLatin (code : Nat) : Nat := if 0x41 ≤ code && code ≤ 0x5a then code + 32 else code

def CaseRule.same (rule : CaseRule) (expected actual : Nat) : Bool :=
  match rule with
  | .exact => actual == expected
  | .latin => lowerLatin actual == lowerLatin expected
  | .allScripts =>
    let letter := Text.lowerCode expected
    let other := Text.lowerCode actual
    other == letter || (siblings letter).contains other

inductive CharKind where
  | digit
  | space
  | word
deriving Repr, DecidableEq

/-- Whether a character is of a kind, counting all scripts or the first 128 code points only. -/
def CharKind.holds (kind : CharKind) (asciiOnly : Bool) (c : Char) : Bool :=
  (!asciiOnly || c.toNat < 128) &&
    match kind with
    | .digit => Text.isDigit c
    | .space => Text.isBlank c && !(asciiOnly && 0x1c ≤ c.toNat && c.toNat ≤ 0x1f)
    | .word => Text.isWordChar c

inductive SetItem where
  | letter (code : Nat)
  | range (first last : Nat)
  | ofKind (kind : CharKind) (asciiOnly negated : Bool)
deriving Repr, DecidableEq

def inSpan (first last code : Nat) : Bool := first ≤ code && code ≤ last

/-- Whether a set item covers a character. A letter beyond the first plane is compared with the
lower-case form of the character as it is written in the set. -/
def SetItem.covers (rule : CaseRule) (c : Char) : SetItem → Bool
  | .letter code =>
    match rule with
    | .allScripts =>
      if Text.lowerCode code > 0xffff then Text.lowerCode c.toNat == code else rule.same code c.toNat
    | _ => rule.same code c.toNat
  | .range first last =>
    match rule with
    | .exact => inSpan first last c.toNat
    | .latin =>
      let letter := lowerLatin c.toNat
      inSpan first last letter ||
        (0x61 ≤ letter && letter ≤ 0x7a && inSpan first last (letter - 32))
    | .allScripts =>
      let letter := Text.lowerCode c.toNat
      (letter :: siblings letter).any fun other =>
        inSpan first last other || (Text.capitalsOf other).any (inSpan first last)
  | .ofKind kind asciiOnly negated => kind.holds asciiOnly c != negated

inductive CharTest where
  /-- Any character; a newline only where `acrossLines` is set. -/
  | any (acrossLines : Bool)
  | letter (code : Nat) (rule : CaseRule)
  | otherThan (code : Nat) (rule : CaseRule)
  | oneOf (items : List SetItem) (rule : CaseRule)
  | noneOf (items : List SetItem) (rule : CaseRule)
deriving Repr, DecidableEq

def CharTest.accepts (c : Char) : CharTest → Bool
  | .any acrossLines => acrossLines || c != '\n'
  | .letter code rule => rule.same code c.toNat
  | .otherThan code rule => !rule.same code c.toNat
  | .oneOf items rule => items.any (SetItem.covers rule c)
  | .noneOf items rule => !items.any (SetItem.covers rule c)

end CardSearch.Pattern
