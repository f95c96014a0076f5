import Monkey.Text.Quoted

/-! The kinds of token, the text each kind stands for, and the keywords. -/
namespace Monkey

namespace Token

inductive Kind
  | illegal (text : String)
  | eof
  | ident (name : String)
  | int (digits : String)
  /-- A string literal, by what stands between its quotes. -/
  | string (contents : String)
  | assign
  | plus
  | minus
  | bang
  | asterisk
  | slash
  | equal
  | notEqual
  | greaterThan
  | lessThan
  | comma
  | colon
  | semicolon
  | lparen
  | rparen
  | lbrace
  | rbrace
  | lbracket
  | rbracket
  | fnKeyword
  | letKeyword
  | trueKeyword
  | falseKeyword
  | ifKeyword
  | elseKeyword
  | returnKeyword
  deriving DecidableEq, Repr

def Kind.spelling : Kind → String
  | .illegal text => text
  | .eof => "EOF"
  | .ident name => name
  | .int digits => digits
  | .string contents => "\"" ++ contents ++ "\""
  | .assign => "="
  | .plus => "+"
  | .minus => "-"
  | .bang => "!"
  | .asterisk => "*"
  | .slash => "/"
  | .equal => "=="
  | .notEqual => "!="
  | .greaterThan => ">"
  | .lessThan => "<"
  | .comma => ","
  | .colon => ":"
  | .semicolon => ";"
  | .lparen => "("
  | .rparen => ")"
  | .lbrace => "\x7b"
  | .rbrace => "\x7d"
  | .lbracket => "["
  | .rbracket => "]"
  | .fnKeyword => "fn"
  | .letKeyword => "let"
  | .trueKeyword => "true"
  | .falseKeyword => "false"
  | .ifKeyword => "if"
  | .elseKeyword => "else"
  | .returnKeyword => "return"

def Kind.name : Kind → String
  | .illegal _ => "Illegal"
  | .eof => "Eof"
  | .ident _ => "Ident"
  | .int _ => "Int"
  | .string _ => "String"
  | .assign => "Assign"
  | .plus => "Plus"
  | .minus => "Minus"
  | .bang => "Bang"
  | .asterisk => "Asterisk"
  | .slash => "Slash"
  | .equal => "Equal"
  | .notEqual => "NotEqual"
  | .greaterThan => "GreaterThan"
  | .lessThan => "LessThan"
  | .comma => "Comma"
  | .colon => "Colon"
  | .semicolon => "SemiColon"
  | .lparen => "LParen"
  | .rparen => "RParen"
  | .lbrace => "LBrace"
  | .rbrace => "RBrace"
  | .lbracket => "LBracket"
  | .rbracket => "RBracket"
  | .fnKeyword => "Function"
  | .letKeyword => "Let"
  | .trueKeyword => "True"
  | .falseKeyword => "False"
  | .ifKeyword => "If"
  | .elseKeyword => "Else"
  | .returnKeyword => "Return"

/-- The text a token carries besides its kind, where its kind leaves that open. -/
def Kind.payload? : Kind → Option String
  | .illegal text => some text
  | .ident name => some name
  | .int digits => some digits
  | .string contents => some contents
  | _ => none

def Kind.dump (kind : Kind) : String :=
  match kind.payload? with
  | none => kind.name
  | some text => kind.name ++ "(" ++ Text.quoted text ++ ")"

def keywords : List (String × Kind) :=
  [("fn", .fnKeyword), ("let", .letKeyword), ("true", .trueKeyword), ("false", .falseKeyword),
   ("if", .ifKeyword), ("else", .elseKeyword), ("return", .returnKeyword)]

def Kind.ofWord (word : String) : Kind := (keywords.lookup word).getD (.ident word)

def Kind.ofSymbol : Char → Kind
  | '=' => .assign
  | '!' => .bang
  | '+' => .plus
  | '-' => .minus
  | '*' => .asterisk
  | '/' => .slash
  | '<' => .lessThan
  | '>' => .greaterThan
  | ',' => .comma
  | ':' => .colon
  | ';' => .semicolon
  | '(' => .lparen
  | ')' => .rparen
  | '{' => .lbrace
  | '}' => .rbrace
  | '[' => .lbracket
  | ']' => .rbracket
  | c => .illegal (String.singleton c)

end Token

/-- A token and the bytes `start` to `stop` of the source text that it was read from. -/
structure Token where
  kind : Token.Kind
  start : Nat
  stop : Nat
  deriving DecidableEq, Repr

def Token.spelling (token : Token) : String := token.kind.spelling

def Token.dump (token : Token) : String :=
  "Token \x7b kind: " ++ token.kind.dump ++ ", start: " ++ Nat.repr token.start ++
    ", end: " ++ Nat.repr token.stop ++ " \x7d"

end Monkey
