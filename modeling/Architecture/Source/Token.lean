import Architecture.Text.Segments

/-!
Tokens of source text.

Brackets are matched, so a text is a list of token trees. A mark is one punctuation character; it is
joint when another mark stands right behind it, and then no blank is written between the two.
-/

namespace Architecture.Source

inductive Delimiter where
  | paren
  | bracket
  | brace
  deriving Repr, DecidableEq, Inhabited

inductive Token where
  | word (name : String)
  | mark (char : Char) (joint : Bool)
  | literal (text : String)
  | group (delimiter : Delimiter) (inside : List Token)
  deriving Repr, Inhabited

namespace Delimiter

def opening : Delimiter → String
  | paren => "("
  | bracket => "["
  | brace => "\x7b "

def closing : Delimiter → String
  | paren => ")"
  | bracket => "]"
  | brace => "\x7d"

/-- Only braces keep a blank before they close, and only around something. -/
def padding (isEmpty : Bool) : Delimiter → String
  | brace => if isEmpty then "" else " "
  | _ => ""

def ofOpening? : Char → Option Delimiter
  | '(' => some paren
  | '[' => some bracket
  | '\x7b' => some brace
  | _ => none

def ofClosing? : Char → Option Delimiter
  | ')' => some paren
  | ']' => some bracket
  | '\x7d' => some brace
  | _ => none

end Delimiter

namespace Token

mutual

def text : Token → String
  | word name => name
  | mark c _ => String.singleton c
  | literal text => text
  | group d inside => d.opening ++ textOf inside ++ d.padding inside.isEmpty ++ d.closing

/-- The text of a list of tokens: one blank between neighbours, none behind a joint mark. -/
def textOf : List Token → String
  | [] => ""
  | [token] => token.text
  | token :: next :: rest =>
    let gap := match token with
      | mark _ true => ""
      | _ => " "
    token.text ++ gap ++ textOf (next :: rest)

end

mutual

def size : Token → Nat
  | group _ inside => sizeOfList inside + 1
  | _ => 1

/-- How many tokens a list holds, those inside groups included. -/
def sizeOfList : List Token → Nat
  | [] => 0
  | token :: rest => token.size + sizeOfList rest

end

/-- The marks of an operator that is written as one. -/
def operator : List Char → List Token
  | [] => []
  | [c] => [mark c false]
  | c :: next :: rest => mark c true :: operator (next :: rest)

end Token
end Architecture.Source
