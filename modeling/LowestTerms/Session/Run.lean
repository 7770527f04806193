import LowestTerms.Session.Evaluate

/-!
Runs of steps over named registers. A computing step reads registers and may store the fraction it
answers; an assigning step changes the register it names, and stores nothing besides. An answer
without a result does not stop a run.
-/

namespace LowestTerms.Session

abbrev Registers := String → Option Fraction

namespace Registers

def empty : Registers := fun _ => none

def set (registers : Registers) (name : String) (x : Fraction) : Registers :=
  fun other => if other = name then some x else registers other

end Registers

/-- A quotient of two integers, the undefined fraction, or the name of a register to copy a fraction
from. -/
inductive Operand where
  | quotient (dividend divisor : Int)
  | undefined
  | register (name : String)
  deriving DecidableEq, Repr

namespace Operand

/-- The register that an operand needs and that holds nothing. -/
def missing? (registers : Registers) : Operand → Option String
  | register name => if (registers name).isNone then some name else none
  | _ => none

def read (registers : Registers) : Operand → Fraction
  | quotient dividend divisor => Fraction.ofPartsOrZero dividend divisor
  | undefined => Fraction.undefined
  | register name => (registers name).getD Fraction.undefined

end Operand

inductive Action where
  | compute (operation : Operation Operand)
  | assign (operand : Operand) (change : Change Operand)

structure Step where
  action : Action
  /-- Whether a failure is to be taken apart in place of being answered. -/
  explained : Bool
  /-- The register in which a computing step stores its answer, if that is a fraction. -/
  target : Option String

namespace Action

def operands : Action → List Operand
  | compute operation => operation.operands
  | assign operand change => operand :: change.operands

def perform (registers : Registers) : Action → Registers × Answer
  | compute operation => (registers, evaluate (operation.map (Operand.read registers)))
  | assign operand change =>
    let (left, answer) :=
      (change.map (Operand.read registers)).apply (operand.read registers)
    match operand with
    | .register name => (registers.set name left, answer)
    | _ => (registers, answer)

def run (registers : Registers) (action : Action) : Registers × Answer :=
  match action.operands.findSome? (Operand.missing? registers) with
  | some name => (registers, .unsetRegister name)
  | none => action.perform registers

end Action

namespace Step

def destination? (step : Step) : Option String :=
  match step.action with
  | .compute _ => step.target
  | .assign _ _ => none

def store (registers : Registers) (target : Option String) (answer : Answer) : Registers :=
  match target, answer.fraction? with
  | some name, some x => registers.set name x
  | _, _ => registers

def run (registers : Registers) (step : Step) : Registers × Answer :=
  let (changed, answer) := step.action.run registers
  let shown := if step.explained then answer.explain else answer
  (store changed step.destination? shown, shown)

end Step

/-- All steps in order, with the registers at the end and the answer of every step. -/
def run (registers : Registers) : List Step → Registers × List Answer
  | [] => (registers, [])
  | step :: rest =>
    let (next, answer) := step.run registers
    let (last, answers) := run next rest
    (last, answer :: answers)

def answers (steps : List Step) : List Answer := (run Registers.empty steps).2

end LowestTerms.Session
