import GuardedCnf.Script.Builtin
import GuardedCnf.Utility.Date
/-! # Programs that tell about the system -/

namespace GuardedCnf.Utility

open Script

/-- Writes a line; there must not be operands. -/
def constantly (name line : String) (flags : String) : Utility := fun args =>
  withArgs name 1 (.of flags "" []) args fun a => do
    match a.operands with
    | [] => output name (line ++ "\n") 0
    | operand :: _ => extraOperand name operand 1

/-- Tells who runs programs. -/
def id : Utility := fun args =>
  withArgs "id" 1 (.of "aAgGnruz" "" [("user", 'u'), ("group", 'g'), ("groups", 'G'), ("name", 'n'),
    ("real", 'r')]) args fun a => do
    let isOne := a.has 'u' || a.has 'g' || a.has 'G'
    let line := if isOne then if a.has 'n' then "root" else "0"
      else "uid=0(root) gid=0(root) groups=0(root)"
    match a.operands.find? (· != "root") with
    | some name => do
        warn "id" (inQuotes name ++ ": no such user")
        return 1
    | none => output "id" (line ++ "\n") 0

/-- Tells the name of the system. -/
def uname : Utility := fun args =>
  withArgs "uname" 1 (.of "asnrvmpio" "" [("all", 'a'), ("kernel-name", 's'), ("nodename", 'n'),
    ("machine", 'm'), ("operating-system", 'o')]) args fun a => do
    let parts := [('s', "Linux"), ('n', "localhost"), ('m', "x86_64"), ('o', "GNU/Linux")]
    let chosen := (parts.filter fun part => a.has part.1 || a.has 'a').map (·.2)
    match a.operands with
    | [] => output "uname" ((if chosen.isEmpty then "Linux" else " ".intercalate chosen) ++ "\n") 0
    | operand :: _ => extraOperand "uname" operand 1

/-- Shows the folder that programs run in. -/
def pwd : Utility := fun args =>
  withArgs "pwd" 1 (.of "LP" "" [("logical", 'L'), ("physical", 'P')]) args fun a => do
    if !a.operands.isEmpty then warn "pwd" "ignoring non-option arguments"
    output "pwd" ((← if a.has 'L' then Builtin.currentPath else Builtin.physicalPath) ++ "\n") 0

/-- Tells that the standard input is no terminal. -/
def tty : Utility := fun args =>
  withArgs "tty" 2 (.of "s" "" [("silent", 's'), ("quiet", 's')]) args fun a => do
    match a.operands with
    | [] => if a.has 's' then return 1 else output "tty" "not a tty\n" 1
    | operand :: _ => extraOperand "tty" operand 2

/-- The programs that tell about the system. -/
def systemPrograms : List (String × Utility) :=
  [("id", id), ("whoami", constantly "whoami" "root" ""), ("logname", constantly "logname" "root" ""),
    ("uname", uname), ("arch", constantly "arch" "x86_64" ""), ("pwd", pwd),
    ("hostname", constantly "hostname" "localhost" "fis"), ("nproc", constantly "nproc" "1" ""),
    ("date", date), ("tty", tty), ("sync", fun _ => return 0), ("clear", fun _ => return 0)]

end GuardedCnf.Utility
