import CardSearch.Text.Basic
/-!
A place in a text: what lies behind it, nearest character first, and what lies ahead of it.
-/
namespace CardSearch.Pattern

structure Cursor where
  position : Nat
  behind : Text
  ahead : Text
deriving Repr, DecidableEq

namespace Cursor

def start (text : Text) : Cursor := ⟨0, [], text⟩

def next (place : Cursor) : Cursor :=
  match place.ahead with
  | [] => place
  | c :: rest => ⟨place.position + 1, c :: place.behind, rest⟩

def back (place : Cursor) : Cursor :=
  match place.behind with
  | [] => place
  | c :: before => ⟨place.position - 1, before, c :: place.ahead⟩

def forward : Nat → Cursor → Cursor
  | 0, place => place
  | n + 1, place => forward n place.next

def backward : Nat → Cursor → Cursor
  | 0, place => place
  | n + 1, place => backward n place.back

end Cursor

end CardSearch.Pattern
