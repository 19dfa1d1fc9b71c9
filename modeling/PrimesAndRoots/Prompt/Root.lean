import PrimesAndRoots.Dialogue
import PrimesAndRoots.SquareRoot
import PrimesAndRoots.Text.Basic

/-!
# The root prompt

Asks for one integer and answers with its square root. Blanks around the integer do not count.
-/

namespace PrimesAndRoots

structure RootReport where
  number : Word .int64
  root : Word .int64
deriving DecidableEq

def RootReport.inspect (r : RootReport) : String :=
  "SqrtReport \x7b num: " ++ r.number.text ++ ", root: " ++ r.root.text ++ " \x7d"

def RootReport.answer (r : RootReport) : String :=
  r.number.text ++ "的整数平方根是" ++ r.root.text ++ "\n"

namespace Prompt

variable {σ : Type}

def question : String := "请输入一个整数："

/-- Answers to a text without blanks at its ends. -/
def answerTo (text : String) : Dialogue σ RootReport :=
  match Word.ofText .int64 text with
  | .error reason =>
    .log (.textRejected reason text) <|
      .done (.error (.invalidInput (quote text ++ " is not an integer")))
  | .ok number =>
    .logAll number.rootEvents <|
      match number.squareRoot with
      | .error failure => .done (.error failure)
      | .ok root =>
        let report := ⟨number, root⟩
        .log (.rootComputed number.toInt root.toInt) <|
          .write report.answer <| .done (.ok report)

def root : Dialogue σ RootReport :=
  .write question <| .flush <| .ask fun
    | none => .done (.error (.invalidInput "no integer was entered"))
    | some line => answerTo (trim line)

end Prompt

end PrimesAndRoots
