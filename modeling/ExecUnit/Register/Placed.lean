import ExecUnit.Refusal

/-!
Operands as a generation has them: message registers move to the top of the
general file where the message file is gone, and every register has to exist.
-/

namespace ExecUnit.Register

def withoutMessageFile (gen : Generation) (register : Register) : Register :=
  if register.file = .message ∧ gen.hasMessageFile = false then
    { register with
      file := .general
      number := register.number + Generation.firstMessageAlias }
  else register

def checkNumber (gen : Generation) (register : Register) : Except Refusal Unit :=
  match register.file with
  | .general =>
      demand (register.number < Generation.generalRegisterCount)
        (.generalOutOfRange register.number)
  | .message =>
      demand (register.number < gen.messageRegisterCount)
        (.messageOutOfRange register.number gen)
  | .architecture | .immediate => .ok ()

def placed (gen : Generation) (register : Register) : Except Refusal Register := do
  let moved := register.withoutMessageFile gen
  moved.checkNumber gen
  pure moved

def typeNumber (register : Register) : Except Refusal Nat :=
  orRefuse (.typeNotInFile register.type register.file)
    (register.type.codeIn? register.file)

end ExecUnit.Register
