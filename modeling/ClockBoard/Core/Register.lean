/-!
An I2C core takes up five registers under one node of the board's register tree. A register is
named by the path to it.
-/

namespace ClockBoard.Core

/-- The path of a leaf under a node; the root of the tree has no name. -/
def registerPath (node leaf : String) : String :=
  if node.isEmpty then leaf else node ++ "." ++ leaf

/-- The registers of a core. Writing `command` issues a command and reading it gives the status. -/
inductive Register
  | prescaleLow
  | prescaleHigh
  | control
  | data
  | command
deriving DecidableEq

namespace Register

def all : List Register :=
  [.prescaleLow, .prescaleHigh, .control, .data, .command]

def leaf : Register → String
  | .prescaleLow => "ps_lo"
  | .prescaleHigh => "ps_hi"
  | .control => "ctrl"
  | .data => "data"
  | .command => "cmd_stat"

def path (node : String) (register : Register) : String :=
  registerPath node register.leaf

def ofPath? (node path : String) : Option Register :=
  all.find? fun register => register.path node == path

theorem mem_all (register : Register) : register ∈ all := by
  cases register <;> decide

theorem leaf_injective : Function.Injective leaf := by
  intro left right equal
  revert equal
  cases left <;> cases right <;> decide

theorem path_injective (node : String) : Function.Injective (path node) := by
  intro left right equal
  apply leaf_injective
  unfold path registerPath at equal
  split at equal
  · exact equal
  · exact String.append_right_inj _ |>.mp equal

theorem eq_of_path {node otherNode : String} {register other : Register}
    (same : register.path node = other.path otherNode) : register = other := by
  have last (node : String) (register : Register) :
      (register.path node).toList.getLast? = register.leaf.toList.getLast? := by
    unfold path registerPath
    split
    · rfl
    · rw [String.toList_append, List.getLast?_append]
      cases register <;> rfl
  have leaves := congrArg (fun path => path.toList.getLast?) same
  simp only [last] at leaves
  revert leaves
  cases register <;> cases other <;> decide

@[simp] theorem ofPath?_path (node : String) (register : Register) :
    ofPath? node (register.path node) = some register := by
  have found : (all.find? fun other => other.path node == register.path node).isSome := by
    rw [List.find?_isSome]
    exact ⟨register, mem_all register, by simp⟩
  obtain ⟨other, isOther⟩ := Option.isSome_iff_exists.mp found
  have same : other.path node = register.path node := by simpa using List.find?_some isOther
  rw [ofPath?, isOther, path_injective node same]

theorem eq_of_ofPath? {node otherNode : String} {register found : Register}
    (known : ofPath? node (register.path otherNode) = some found) : found = register := by
  have same : found.path node = register.path otherNode := by simpa using List.find?_some known
  exact eq_of_path same

end Register

end ClockBoard.Core
