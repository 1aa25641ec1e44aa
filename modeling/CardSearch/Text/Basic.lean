/-!
Text as a list of characters: where a piece occurs in it, and what lies between the occurrences.
All offsets count characters.
-/
namespace CardSearch

abbrev Text := List Char

namespace Text

/-- Whether all characters of a text have a property is decided along the text, and never by going
through all the characters there are. -/
instance (priority := 1100) decidableAll (p : Char → Prop) [DecidablePred p] (text : Text) :
    Decidable (∀ c ∈ text, p c) :=
  List.decidableBAll p text

def find? (piece : Text) : Text → Option Nat
  | [] => if piece.isEmpty then some 0 else none
  | c :: rest =>
    if piece.isPrefixOf (c :: rest) then some 0 else (find? piece rest).map (· + 1)

/-- Whether `piece` occurs anywhere; the empty piece occurs in every text. -/
def occurs (piece : Text) : Text → Bool
  | [] => piece.isEmpty
  | c :: rest => piece.isPrefixOf (c :: rest) || occurs piece rest

def splitOnChar (separator : Char) : Text → List Text
  | [] => [[]]
  | c :: rest =>
    if c == separator then [] :: splitOnChar separator rest
    else
      match splitOnChar separator rest with
      | [] => [[c]]
      | part :: parts => (c :: part) :: parts

def slice (text : Text) (start stop : Nat) : Text := (text.drop start).take (stop - start)

def joinWith (separator : Text) : List Text → Text
  | [] => []
  | [part] => part
  | part :: parts => part ++ separator ++ joinWith separator parts

theorem find?_bound {piece text : Text} {k : Nat} (found : find? piece text = some k) :
    k + piece.length ≤ text.length := by
  induction text generalizing k with
  | nil =>
    cases piece with
    | nil =>
      simp only [find?, List.isEmpty_nil, if_true, Option.some.injEq] at found
      simp only [List.length_nil]
      omega
    | cons _ _ => simp [find?] at found
  | cons c rest ih =>
    rw [find?] at found
    split at found
    · rename_i starts
      have := (List.isPrefixOf_iff_prefix.mp starts).length_le
      simp only [Option.some.injEq] at found
      omega
    · obtain ⟨j, hj, rfl⟩ := Option.map_eq_some_iff.mp found
      have := ih hj
      simp only [List.length_cons]
      omega

theorem joinWith_cons {separator part : Text} {parts : List Text} (more : parts ≠ []) :
    joinWith separator (part :: parts) = part ++ (separator ++ joinWith separator parts) := by
  cases parts with
  | nil => contradiction
  | cons next parts =>
    rw [joinWith, List.append_assoc]
    simp

theorem infix_joinWith {separator part : Text} {parts : List Text} (member : part ∈ parts) :
    part <:+: joinWith separator parts := by
  induction parts with
  | nil => contradiction
  | cons first parts ih =>
    by_cases single : parts = []
    · subst single
      rw [List.mem_singleton.mp member]
      exact List.infix_refl first
    · rw [joinWith_cons single]
      obtain rfl | later := List.mem_cons.mp member
      · exact (List.prefix_append part _).isInfix
      · exact (ih later).trans (List.append_assoc first separator _ ▸ List.suffix_append _ _).isInfix

end Text

end CardSearch
