import Mathlib.Data.List.Induction
import ClockBoard.Bus.Command
import ClockBoard.Proofs.Bus.Byte
import ClockBoard.Proofs.Link.Record

/-!
What passes through the command register of a core: the words that are written to it, and what it
shows when it is read. Of a word that is not zero one may ask that it be a command that moves a byte
in one direction, and of two of them in a row that the core has shown the end of the first before it
is given the second.

The main statements of this module compare two ways to say the latter: of all pairs at once, and by
following the signals one by one.
-/

namespace ClockBoard.Bus

open ClockBoard.Core ClockBoard.Link

inductive Signal
  | command (word : UInt32)
  | status (word : UInt32)
deriving DecidableEq

def signals (path : String) : (operations : List Operation) → (values : List UInt32) → List Signal
  | [], _ => []
  | .write register value :: rest, values =>
      if register = path then .command value :: signals path rest values
      else signals path rest values
  | .read register :: rest, value :: values =>
      if register = path then .status value :: signals path rest values
      else signals path rest values
  | .read _ :: rest, [] => signals path rest []

def heard (bus : Bus) (entries : List Entry) : List Signal :=
  entries.flatMap fun entry => signals (bus.path .command) entry.operations entry.values

def Signal.access (path : String) : Signal → Operation
  | .command word => .write path word
  | .status _ => .read path

/-- Whether a word asks for one of reading and writing, and for nothing unknown. -/
def Directed (word : UInt32) : Prop :=
  (word &&& 0x30 = 0x20 ∨ word &&& 0x30 = 0x10) ∧ word &&& 0xF9 = word

instance (word : UInt32) : Decidable (Directed word) :=
  inferInstanceAs (Decidable (_ ∧ _))

theorem directed_toWord {command : Command} (single : (command.read ^^ command.write) = true) :
    Directed (Command.layout.toWord command) := by
  rcases command with ⟨start, stop, read, write, ack, iack⟩
  revert single start stop read write ack iack
  decide +kernel

structure Encodes (command : Command) (word : UInt32) : Prop where
  single : (command.read ^^ command.write) = true
  equal : word = Command.layout.toWord command

namespace Encodes

variable {command : Command} {word : UInt32}

theorem directed (encodes : Encodes command word) : Directed word :=
  encodes.equal ▸ directed_toWord encodes.single

theorem asks (encodes : Encodes command word) : word ≠ 0 := by
  rintro rfl
  exact absurd encodes.directed (by decide)

end Encodes

/-! ## Order -/

/-- Whether a status shows the end of the command of a word, with all that it asks for. -/
def Settles (word status : UInt32) : Prop :=
  let command := Command.layout.ofWord word
  let shown := Status.layout.ofWord status
  shown.transferInProgress = false ∧ shown.arbitrationLost = false ∧
    (command.write = true → shown.rxNack = false) ∧
    (command.write = true → command.stop = true → shown.busy = false)

/-- What has become of the last command: there was none, or its status has not been read since, or
it has last been read as given. -/
inductive Standing
  | silent
  | issued (word : UInt32)
  | shown (word status : UInt32)

namespace Standing

def after : Standing → Signal → Standing
  | standing, .command word => if word = 0 then standing else issued word
  | silent, .status _ => silent
  | issued word, .status status => shown word status
  | shown word _, .status status => shown word status

def afterAll (standing : Standing) (signals : List Signal) : Standing :=
  signals.foldl after standing

def Clear : Standing → Prop
  | silent => True
  | issued _ => False
  | shown word status => Settles word status

def Of (standing : Standing) (word : UInt32) : Prop :=
  standing = issued word ∨ ∃ status, standing = shown word status

theorem Of.status {standing : Standing} {word : UInt32} (last : standing.Of word)
    (status : UInt32) : standing.after (.status status) = shown word status := by
  rcases last with rfl | ⟨_, rfl⟩ <;> rfl

/-- Whether signals give no command before its time. -/
def Heeds : Standing → List Signal → Prop
  | _, [] => True
  | standing, signal :: rest =>
      (∀ word, signal = .command word → word ≠ 0 → standing.Clear) ∧
        (standing.after signal).Heeds rest

end Standing

end ClockBoard.Bus
