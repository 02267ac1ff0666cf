/-
The playlists of a device. All playlists share one master sequence; a playlist reaches from its own
start to the start of the next, the last one to the end of the sequence. A catalog carries the proof
that its tables were accepted: the first playlist starts at zero, starts ascend, and each is inside
the master sequence.
-/
import VoxelCube.Message.DataType
import VoxelCube.Playlist.Entry

namespace VoxelCube.Playlist

inductive TableError where
  /-- There are no entries, no playlists or no effects. -/
  | empty
  /-- There is more than an index or a string can name. -/
  | tooLarge
  /-- The starts do not cut the master sequence into playlists. -/
  | badStart
  /-- An entry names an effect that does not exist. -/
  | unknownEffect
  deriving DecidableEq, Repr

/-- How many entries, playlists or effects a table may have. -/
def tableLimit : Nat := 256

/-- The starts cut the master sequence into playlists. -/
structure Cuts (master : List Entry) (starts : List UInt8) : Prop where
  first : starts.head? = some 0
  ascending : starts.Pairwise (· < ·)
  inside : ∀ s ∈ starts, s.toNat < master.length

instance (master : List Entry) (starts : List UInt8) : Decidable (Cuts master starts) :=
  decidable_of_iff
    (starts.head? = some 0 ∧ starts.Pairwise (· < ·) ∧ starts.all (·.toNat < master.length) = true)
    ⟨fun ⟨a, b, c⟩ => ⟨a, b, by simpa using c⟩, fun ⟨a, b, c⟩ => ⟨a, b, by simpa using c⟩⟩

/-- No table is larger than an index or a string can name. -/
structure Sizes (master : List Entry) (starts names : List UInt8) : Prop where
  master : master.length ≤ tableLimit
  starts : starts.length ≤ tableLimit
  names : names.length ≤ DataType.maxLongOctets

instance (master : List Entry) (starts names : List UInt8) :
    Decidable (Sizes master starts names) :=
  decidable_of_iff
    (master.length ≤ tableLimit ∧ starts.length ≤ tableLimit ∧
      names.length ≤ DataType.maxLongOctets)
    ⟨fun ⟨a, b, c⟩ => ⟨a, b, c⟩, fun ⟨a, b, c⟩ => ⟨a, b, c⟩⟩

/-- The accepted playlists of a device. -/
structure Catalog where
  master : List Entry
  /-- The place of each playlist's first entry. -/
  starts : List UInt8
  /-- The playlists' names, reported as they are. -/
  names : List UInt8
  sizes : Sizes master starts names
  cuts : Cuts master starts

namespace Catalog

/-- Accepts tables, or says what is wrong with them. -/
def ofTables (master : List Entry) (starts names : List UInt8) : Except TableError Catalog :=
  if master = [] ∨ starts = [] then .error .empty
  else if sizes : Sizes master starts names then
    if cuts : Cuts master starts then .ok { master, starts, names, sizes, cuts }
    else .error .badStart
  else .error .tooLarge

def count (c : Catalog) : Nat := c.starts.length

/-- Where a playlist begins and ends in the master sequence. -/
def range? (c : Catalog) (playlist : UInt8) : Option (Nat × Nat) :=
  c.starts[playlist.toNat]?.map fun start =>
    (start.toNat, (c.starts[playlist.toNat + 1]?.map UInt8.toNat).getD c.master.length)

/-- The entries of a playlist; none of a playlist that does not exist. -/
def entries (c : Catalog) (playlist : UInt8) : List Entry :=
  match c.range? playlist with
  | some (start, stop) => (c.master.drop start).take (stop - start)
  | none => []

/-- Every entry names one of `effects` effects. -/
def Knows (c : Catalog) (effects : Nat) : Prop := ∀ entry ∈ c.master, entry.effect.toNat < effects

instance (c : Catalog) (effects : Nat) : Decidable (c.Knows effects) :=
  inferInstanceAs (Decidable (∀ entry ∈ c.master, entry.effect.toNat < effects))

/-- Checks the entries against the number of effects. -/
def checkEffects (c : Catalog) (effects : Nat) : Except TableError Unit :=
  if effects = 0 then .error .empty
  else if c.Knows effects then .ok ()
  else .error .unknownEffect

theorem knows_of_checkEffects {c : Catalog} {effects : Nat}
    (h : c.checkEffects effects = .ok ()) : c.Knows effects := by
  unfold checkEffects at h
  split at h
  · cases h
  · split at h
    · assumption
    · cases h

theorem master_ne_nil (c : Catalog) : c.master ≠ [] := by
  intro empty
  have first := c.cuts.first
  obtain ⟨s, rest, starts⟩ : ∃ s rest, c.starts = s :: rest := by
    cases h : c.starts with
    | nil => simp [h] at first
    | cons s rest => exact ⟨s, rest, rfl⟩
  have inside := c.cuts.inside s (by simp [starts])
  simp [empty] at inside

end Catalog

end VoxelCube.Playlist
