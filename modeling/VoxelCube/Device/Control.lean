/-
What can be asked of a device: to change its mode or selection at once, to keep a setting for the
next sync, and to take over the kept settings. The store may fail at any time; a setting that could
not be written is marked all the same, and one that cannot be read falls back.
-/
import VoxelCube.Device.Basic
import VoxelCube.Store.Settings

namespace VoxelCube.Cube

open Playlist

variable {ω : Type} (c : Cube ω)

/-! ## Power and mode -/

def power : PowerAction → ω → ω
  | .none, w => w
  | .start, w => c.board.powerUp w
  | .shutdown, w => c.board.powerDown w

/-- Enters a mode; entering the current one does nothing. -/
def enter (mode : Mode) (s : Machine ω) : Machine ω :=
  match s.device.mode.enter? mode with
  | some action => { device := { s.device with mode }, world := c.power action s.world }
  | none => s

/-- Keeps a mode and enters it; asking for the current one does nothing. -/
def setMode (mode : Mode) (s : Machine ω) : Machine ω :=
  if s.device.mode = mode then s
  else
    let (_, world) := c.board.storeMode mode s.world
    c.enter mode { device := s.device.mark .ofMode, world }

/-- Starts a device with its kept address and mode; other settings follow at the first sync. -/
def boot (s : Machine ω) : Machine ω :=
  let (address, world) := c.board.readAddress s.world
  let (mode, world) := c.board.readMode world
  let address := match address with
    | .ok address => address
    | .error _ => c.config.factoryAddress
  let mode := match mode with
    | .ok mode => mode
    | .error _ => .idle
  { device := { s.device with address, mode, dirty := .all },
    world := if mode = .sleep then world else c.board.powerUp world }

/-! ## Selection for now -/

/-- Runs an effect now without keeping the choice. -/
def changeEffect (effect : UInt8) (s : Machine ω) : Except SelectError (Machine ω) :=
  if effect.toNat < c.effects.length then
    let s := c.enter .effect s
    .ok { s with device := s.device.runAlone effect }
  else .error .effectOutOfRange

/-- Plays a playlist now without keeping the choice. -/
def changePlaylist (playlist : UInt8) (s : Machine ω) : Except SelectError (Machine ω) :=
  match Selector.start c.playlists playlist with
  | .ok selected =>
    let s := c.enter .playlist s
    .ok { s with device := { s.device.play selected with playlist } }
  | .error e => .error e

def advancePlaylist (s : Machine ω) : Machine ω :=
  match s.device.selector.advance c.playlists s.device.playlist with
  | .ok (effect, selector) => { s with device := { s.device with effect, selector } }
  | .error _ => s

/-! ## Settings for the next sync -/

def storeEffect (effect : UInt8) (s : Machine ω) : Machine ω :=
  let (_, world) := c.board.storeEffect effect s.world
  { device := s.device.mark .ofEffect, world }

def storePlaylist (playlist : UInt8) (s : Machine ω) : Machine ω :=
  let (_, world) := c.board.storePlaylist playlist s.world
  { device := s.device.mark .ofPlaylist, world }

def storeText (text : List UInt8) (s : Machine ω) : Machine ω :=
  let (_, world) := c.board.storeText text s.world
  { device := s.device.mark .ofText, world }

/-- Takes an address at once and keeps it. -/
def storeAddress (address : UInt64) (s : Machine ω) : Machine ω :=
  let (_, world) := c.board.storeAddress address s.world
  { device := { s.device with address }, world }

/-- The kept playlist; the playing one where none can be read. -/
def storedPlaylist (s : Machine ω) : UInt8 × ω :=
  match c.board.readPlaylist s.world with
  | (.ok playlist, world) => (playlist, world)
  | (.error _, world) => (s.device.playlist, world)

/-- The kept effect; the running one where none can be read. -/
def storedEffect (s : Machine ω) : UInt8 × ω :=
  match c.board.readEffect s.world with
  | (.ok effect, world) => (effect, world)
  | (.error _, world) => (s.device.effect, world)

/-! ## Taking settings over -/

/-- The number that was read if it is below `count`, and zero otherwise. -/
def orFirst {ε : Type} (count : Nat) : Except ε UInt8 → UInt8
  | .ok n => if n.toNat < count then n else 0
  | .error _ => 0

/-- The effect with a number starts over when the effect text changes. -/
def hasDynamicText (effect : UInt8) : Bool := (c.effect? effect).any (·.dynamicText)

/-- Takes the kept effect text; the old one stays where none can be read. -/
def takeText (s : Machine ω) : Machine ω :=
  match c.board.readText s.world with
  | (.ok text, world) => { device := { s.device with text }, world }
  | (.error _, world) => { s with world }

/-- Plays the kept playlist, or the first. -/
def takePlaylist (s : Machine ω) : Machine ω :=
  let (read, world) := c.board.readPlaylist s.world
  let playlist := orFirst c.playlists.count read
  match Selector.start c.playlists playlist with
  | .ok selected => { device := { s.device.play selected with playlist }, world }
  | .error _ => { s with world }

/-- Runs the kept effect, or the first. -/
def takeEffect (s : Machine ω) : Machine ω :=
  let (read, world) := c.board.readEffect s.world
  { device := s.device.runAlone (orFirst c.effects.length read), world }

/-- A sync with these changed settings takes the text. -/
def wantsText (dirty : Dirty) : Bool := dirty.intersects (.union .ofText .ofMode)

/-- A sync with these changed settings takes the playlist. -/
def wantsPlaylist (dirty : Dirty) (mode : Mode) : Bool :=
  mode == .playlist && dirty.intersects (.union .ofPlaylist .ofMode)

/-- A sync with these changed settings takes the effect. -/
def wantsEffect (dirty : Dirty) (d : Device) : Bool :=
  d.mode == .effect && (dirty.intersects (.union .ofEffect .ofMode) ||
    (dirty.contains .ofText && c.hasDynamicText d.effect))

/-- Takes over the settings that changed; all marks are cleared, also of settings that the current
mode does not use. -/
def sync (s : Machine ω) : Machine ω :=
  let dirty := s.device.dirty
  if dirty.isEmpty then s
  else
    let s := if wantsText dirty then c.takeText s else s
    let s := if wantsPlaylist dirty s.device.mode then c.takePlaylist s else s
    let s := if c.wantsEffect dirty s.device then c.takeEffect s else s
    { s with device := { s.device with dirty := .none } }

end VoxelCube.Cube
