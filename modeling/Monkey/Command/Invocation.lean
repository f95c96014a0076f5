import Monkey.Command.Directory
import Monkey.Run

/-!
The command line: at most one `-e` or `--emit` with a stage, and one path. After `--` everything is
a path. What the command does with the file is told by its report.
-/
namespace Monkey

def Stage.ofName? : String → Option Stage
  | "tokens" => some .tokens
  | "ast" => some .ast
  | "eval" => some .eval
  | _ => none

structure Invocation.Draft where
  stage : Option Stage
  path : Option String
  deriving DecidableEq, Repr

structure Invocation where
  stage : Stage
  path : String
  deriving DecidableEq, Repr

namespace Invocation

namespace Draft

def addStage (draft : Draft) (name : String) : Option Draft :=
  if draft.stage.isSome then none
  else (Stage.ofName? name).map fun stage => { draft with stage := some stage }

def addPath (draft : Draft) (path : String) : Option Draft :=
  if draft.path.isSome ∨ path = "" then none else some { draft with path := some path }

def addOptions (draft : Draft) : List String → Option Draft
  | [] => some draft
  | argument :: arguments =>
    match argument.toList with
    | ['-', '-'] => arguments.foldlM addPath draft
    | ['-', 'e'] | ['-', '-', 'e', 'm', 'i', 't'] =>
      match arguments with
      | [] => none
      | name :: arguments => do
        let draft ← draft.addStage name
        draft.addOptions arguments
    | '-' :: 'e' :: '=' :: name | '-' :: '-' :: 'e' :: 'm' :: 'i' :: 't' :: '=' :: name
    | '-' :: 'e' :: name => do
      let draft ← draft.addStage (String.ofList name)
      draft.addOptions arguments
    | '-' :: _ :: _ => none
    | _ => do
      let draft ← draft.addPath argument
      draft.addOptions arguments

end Draft

def ofArguments? (arguments : List String) : Option Invocation := do
  let draft ← Draft.addOptions ⟨none, none⟩ arguments
  let path ← draft.path
  pure ⟨draft.stage.getD .eval, path⟩

end Invocation

inductive Report
  | printed (output : String)
  | failed (message : String)
  | usage
  deriving DecidableEq, Repr

namespace Report

def exitCode : Report → Nat
  | printed _ => 0
  | failed _ => 1
  | usage => 2

def stdout : Report → String
  | printed output => output
  | _ => ""

def stderr : Report → String
  | printed _ => ""
  | failed message => message ++ "\n"
  | usage => "usage: monkey [-e|--emit tokens|ast|eval] PATH\n"

end Report

def Invocation.report (invocation : Invocation) (depth : Nat) (source : Except ReadError String) :
    Report :=
  match source with
  | .error fault => .failed ("could not read source file: " ++ fault.message)
  | .ok text =>
    match execute depth text invocation.stage with
    | .error failure => .failed failure.message
    | .ok output => .printed output

def command (depth : Nat) (working : Entry) (arguments : List String) : Report :=
  match Invocation.ofArguments? arguments with
  | none => .usage
  | some invocation => invocation.report depth (working.read invocation.path)

end Monkey
