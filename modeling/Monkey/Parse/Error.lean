import Monkey.Numeral
import Monkey.Token.Kind

/-! What can be wrong with a list of tokens, and how it is put into words. -/
namespace Monkey

inductive Expected
  | token (kind : Token.Kind)
  | identifier
  | expression
  deriving DecidableEq, Repr

inductive ParseError
  | prematureEnd (expected : Expected)
  | unexpectedToken (expected : Expected) (got : Token)
  | noRule (token : Token)
  | invalidInteger (token : Token) (fault : Numeral.Fault)
  deriving DecidableEq, Repr

def Expected.message : Expected → String
  | .token kind => "`" ++ kind.spelling ++ "`"
  | .identifier => "an identifier"
  | .expression => "an expression"

def ParseError.token? : ParseError → Option Token
  | .prematureEnd _ => none
  | .unexpectedToken _ got => some got
  | .noRule token => some token
  | .invalidInteger token _ => some token

def Token.quotedWithPosition (token : Token) : String :=
  "`" ++ token.spelling ++ "` at position " ++ Nat.repr token.start

def ParseError.message : ParseError → String
  | .prematureEnd expected => "unexpected end of input, expected " ++ expected.message
  | .unexpectedToken expected got =>
    "expected " ++ expected.message ++ ", got " ++ got.quotedWithPosition
  | .noRule token => "no prefix parse rule for " ++ token.quotedWithPosition
  | .invalidInteger token fault =>
    "could not parse " ++ token.quotedWithPosition ++ " as an integer: " ++ fault.message

end Monkey
