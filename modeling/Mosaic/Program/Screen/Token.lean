import Mosaic.Fault
import Mosaic.Text.Half
import Mosaic.Text.Letter

/-!
# Tokens of screen lines

A line of PIXEL is cut into numbers, words and the four signs `*`, `(`, `)` and `+`; white space
only separates.  A number is a longest run of digits, a word a longest run of letters.  Parentheses
have to balance: no start of the line closes more of them than it opens, and in the end none is
open.  The first fault from the left is reported.
-/

namespace Mosaic
namespace Screen

inductive Token
  | number (text : List Char)
  | word (text : List Char)
  | star
  | opening
  | closing
  | plus
  deriving DecidableEq, Repr, Inhabited

namespace Token

def text : Token -> List Char
  | number text => text
  | word text => text
  | star => ['*']
  | opening => ['(']
  | closing => [')']
  | plus => ['+']

def ofSign? : Char -> Option Token
  | '*' => some star
  | '(' => some opening
  | ')' => some closing
  | '+' => some plus
  | _ => none

/-- The number of open parentheses behind a token; none if it closes one that is not open. -/
def depthAfter? (depth : Nat) : Token -> Option Nat
  | opening => some (depth + 1)
  | closing => if depth = 0 then none else some (depth - 1)
  | _ => some depth

end Token

structure Placed where
  token : Token
  position : Nat
  deriving DecidableEq, Repr

/-- The tokens of the rest of a line, from a position on and with so many parentheses open. -/
def tokensFrom (line : Int) (position depth : Nat) (cs : List Char) : Except Fault (List Placed) :=
  match cs with
  | [] => if depth = 0 then .ok [] else .error (.program ⟨line, .unbalanced⟩)
  | c :: rest =>
      if Text.isBlank c then tokensFrom line (position + 1) depth rest
      else match Token.ofSign? c with
        | some token =>
            match token.depthAfter? depth with
            | some deeper => do
                let placed <- tokensFrom line (position + 1) deeper rest
                return ⟨token, position⟩ :: placed
            | none => .error (.program ⟨line, .unbalanced⟩)
        | none =>
            if Text.isDigitLike c then do
              let run := c :: rest.takeWhile Text.isDigitLike
              let placed <- tokensFrom line (position + run.length) depth
                (rest.dropWhile Text.isDigitLike)
              return ⟨.number run, position⟩ :: placed
            else if Text.isLetter c then do
              let run := c :: rest.takeWhile Text.isLetter
              let placed <- tokensFrom line (position + run.length) depth
                (rest.dropWhile Text.isLetter)
              return ⟨.word run, position⟩ :: placed
            else .error (.program ⟨line, .unexpectedCharacter ((Text.characters cs).headD [])⟩)
termination_by cs.length
decreasing_by
  all_goals simp only [List.length_cons]
  · exact Nat.lt_succ_self _
  · exact Nat.lt_succ_self _
  · exact Nat.lt_succ_of_le (List.dropWhile_sublist _).length_le
  · exact Nat.lt_succ_of_le (List.dropWhile_sublist _).length_le

def tokens (line : Int) (cs : List Char) : Except Fault (List Placed) := tokensFrom line 0 0 cs

end Screen
end Mosaic
