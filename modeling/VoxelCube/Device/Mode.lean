/-
The operating modes of a device and what the display's power does between them.
-/
namespace VoxelCube

inductive Mode where
  | sleep
  | idle
  | playlist
  | effect
  deriving DecidableEq, Repr

/-- What a change of mode does to the display's power. -/
inductive PowerAction where
  | none
  | start
  | shutdown
  deriving DecidableEq, Repr

namespace Mode

def code : Mode → UInt8
  | sleep => 0
  | idle => 1
  | playlist => 2
  | effect => 3

def ofCode? (code : UInt8) : Option Mode :=
  match code with
  | 0 => some sleep
  | 1 => some idle
  | 2 => some playlist
  | 3 => some effect
  | _ => none

@[simp] theorem ofCode?_code (mode : Mode) : ofCode? mode.code = some mode := by
  cases mode <;> rfl

theorem code_of_ofCode? {code : UInt8} {mode : Mode} (h : ofCode? code = some mode) :
    mode.code = code := by
  unfold ofCode? at h
  split at h <;> cases h <;> rfl

def isRendering : Mode → Bool
  | playlist | effect => true
  | sleep | idle => false

/-- The display is on in every mode but sleep. -/
def transition (mode next : Mode) : PowerAction :=
  match mode, next with
  | sleep, sleep => .none
  | sleep, _ => .start
  | _, sleep => .shutdown
  | _, _ => .none

/-- The power action of entering a mode; none at all when the device is in it. -/
def enter? (mode next : Mode) : Option PowerAction :=
  if mode = next then Option.none else some (mode.transition next)

end Mode

end VoxelCube
