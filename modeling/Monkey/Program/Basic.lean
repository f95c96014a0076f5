/-!
Programs as trees. A program is a list of statements, and so is a block, the body of a function or
a branch of a conditional.
-/
namespace Monkey

inductive UnaryOp
  | minus
  | bang
  deriving DecidableEq, Repr

inductive BinaryOp
  | plus
  | minus
  | lessThan
  | greaterThan
  | equal
  | notEqual
  | multiply
  | divide
  deriving DecidableEq, Repr

mutual

inductive Expr
  | ident (name : String)
  | int (value : Int64)
  | string (contents : String)
  | bool (value : Bool)
  | unary (op : UnaryOp) (operand : Expr)
  | binary (op : BinaryOp) (left right : Expr)
  | cond (test : Expr) (consequence : List Stmt) (alternative : Option (List Stmt))
  | fn (parameters : List String) (body : List Stmt)
  | call (callee : Expr) (arguments : List Expr)

inductive Stmt
  | letStmt (name : String) (value : Expr)
  | returnStmt (value : Expr)
  | exprStmt (value : Expr)

end

abbrev Block := List Stmt

abbrev Program := List Stmt

def UnaryOp.symbol : UnaryOp → String
  | .minus => "-"
  | .bang => "!"

def UnaryOp.name : UnaryOp → String
  | .minus => "Minus"
  | .bang => "Bang"

def BinaryOp.symbol : BinaryOp → String
  | .plus => "+"
  | .minus => "-"
  | .lessThan => "<"
  | .greaterThan => ">"
  | .equal => "=="
  | .notEqual => "!="
  | .multiply => "*"
  | .divide => "/"

def BinaryOp.name : BinaryOp → String
  | .plus => "Plus"
  | .minus => "Minus"
  | .lessThan => "LessThan"
  | .greaterThan => "GreaterThan"
  | .equal => "Equal"
  | .notEqual => "NotEqual"
  | .multiply => "Multiply"
  | .divide => "Divide"

end Monkey
