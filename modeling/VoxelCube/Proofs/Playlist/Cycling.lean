/-
Playlists that go round. Moving on goes to the next place of the playlist and from the last one to the
first, so a playlist that started plays all its entries, one after the other and over and over, and none of
another playlist. From any place at all, moving on comes to a place of the playlist.
-/
import VoxelCube.Proofs.Playlist.Partition

namespace VoxelCube.Playlist

variable {c : Catalog} {playlist : UInt8} {start stop place : Nat}

/-! ## The next place -/

/-- The place behind another one in a stretch of the master sequence; the first one is behind the last. -/
def nextPlace (start stop place : Nat) : Nat := start + (place - start + 1) % (stop - start)

theorem nextPlace_eq (after : start ≤ place) (before : place < stop) :
    nextPlace start stop place = if place + 1 = stop then start else place + 1 := by
  unfold nextPlace
  split
  · have whole : place - start + 1 = stop - start := by omega
    rw [whole, Nat.mod_self, Nat.add_zero]
  · rw [Nat.mod_eq_of_lt (by omega)]
    omega

theorem nextPlace_eq_self_iff (after : start ≤ place) (before : place < stop) :
    nextPlace start stop place = place ↔ stop - start = 1 := by
  rw [nextPlace_eq after before]
  split <;> omega

/-- Places are counted around the stretch. -/
theorem nextPlace_counted (start stop moves : Nat) :
    nextPlace start stop (start + moves % (stop - start)) = start + (moves + 1) % (stop - start) := by
  unfold nextPlace
  rw [Nat.add_sub_cancel_left, Nat.mod_add_mod]

/-! ## Moving on -/

namespace Selector

/-- A selector in a playlist moves on to the entry at the next place. -/
theorem advance_eq {s : Selector} (range : c.range? playlist = some (start, stop))
    (after : start ≤ s.index.toNat) (before : s.index.toNat < stop) :
    ∃ entry, c.master[nextPlace start stop s.index.toNat]? = some entry ∧
      s.advance c playlist = .ok (entry.effect, ofEntry (nextPlace start stop s.index.toNat) entry) := by
  have inside := (Catalog.range?_bounds range).2
  have next := nextPlace_eq after before
  have chosen : (if stop ≤ s.index.toNat + 1 ∨ s.index.toNat + 1 < start then start
      else s.index.toNat + 1) = nextPlace start stop s.index.toNat := by
    rw [next]
    split <;> split <;> omega
  have within : nextPlace start stop s.index.toNat < c.master.length := by
    rw [next]
    split <;> omega
  have entry := List.getElem?_eq_getElem within
  refine ⟨_, entry, ?_⟩
  unfold advance atIndex
  rw [range]
  dsimp only
  rw [chosen, entry]

/-- The selector of a playlist that started and then moved on so many times, with the effect named last. -/
def afterMoves (c : Catalog) (playlist : UInt8) : Nat → Except SelectError (UInt8 × Selector)
  | 0 => Selector.start c playlist
  | moves + 1 => do
    let (_, s) ← afterMoves c playlist moves
    s.advance c playlist

/-- Every move goes to the next place, counted from the playlist's start. -/
theorem afterMoves_eq (range : c.range? playlist = some (start, stop)) (moves : Nat) :
    ∃ entry, c.master[start + moves % (stop - start)]? = some entry ∧
      afterMoves c playlist moves =
        .ok (entry.effect, ofEntry (start + moves % (stop - start)) entry) := by
  obtain ⟨some, inside⟩ := Catalog.range?_bounds range
  induction moves with
  | zero =>
    have entry := List.getElem?_eq_getElem (Nat.lt_of_lt_of_le some inside)
    rw [Nat.zero_mod, Nat.add_zero]
    refine ⟨_, entry, ?_⟩
    unfold afterMoves Selector.start atIndex
    rw [range]
    dsimp only
    rw [entry]
  | succ moves ih =>
    obtain ⟨entry, found, reached⟩ := ih
    have bound : moves % (stop - start) < stop - start := Nat.mod_lt _ (by omega)
    have small : start + moves % (stop - start) < c.master.length := by omega
    have index := ofEntry_index (Catalog.lt_256_of_lt_length small) entry
    obtain ⟨next, found', moved⟩ := advance_eq range (s := ofEntry (start + moves % (stop - start)) entry)
      (by omega) (by omega)
    rw [index, nextPlace_counted] at found' moved
    refine ⟨next, found', ?_⟩
    rw [afterMoves, reached]
    exact moved

/-- In every cycle each entry of the playlist has its turn once, in order. -/
theorem cycle_eq (range : c.range? playlist = some (start, stop)) (cycle : Nat) :
    (List.range (c.entries playlist).length).map
        (fun n => afterMoves c playlist (cycle * (c.entries playlist).length + n)) =
      (c.entries playlist).mapIdx fun n entry => .ok (entry.effect, ofEntry (start + n) entry) := by
  have length := Catalog.length_entries range
  apply List.ext_getElem
  · rw [List.length_map, List.length_range, List.length_mapIdx]
  · intro n counted inside
    rw [List.length_mapIdx, length] at inside
    rw [List.getElem_map, List.getElem_range, List.getElem_mapIdx, length]
    obtain ⟨entry, found, reached⟩ := afterMoves_eq range (cycle * (stop - start) + n)
    rw [Nat.mul_add_mod_of_lt inside] at found reached
    have same : (c.entries playlist)[n] = entry := by
      apply Option.some.inj
      rw [← List.getElem?_eq_getElem, Catalog.getElem?_entries range inside, found]
    rw [reached, same]

end Selector

/-- **Cycles.** A playlist that started and moved on any number of times is at the place that many entries
behind its start, counted around the playlist, with the entry's effect, duration and data; the place is in no
other playlist, and in every cycle each entry has its turn once, in order. A selector that is anywhere else
moves on into the playlist. -/
theorem playlist_goes_round (c : Catalog) (playlist : UInt8) (known : playlist.toNat < c.count) :
    ∃ start stop, c.range? playlist = some (start, stop) ∧ start < stop ∧
      (∀ moves, ∃ entry s, c.master[start + moves % (stop - start)]? = some entry ∧
        Selector.afterMoves c playlist moves = .ok (entry.effect, s) ∧
        s.index.toNat = start + moves % (stop - start) ∧
        s.duration = entry.duration ∧ s.data = entry.data ∧
        ∀ other, c.Holds other s.index.toNat ↔ other = playlist) ∧
      (∀ cycle, (List.range (c.entries playlist).length).map (fun n =>
          Selector.afterMoves c playlist (cycle * (c.entries playlist).length + n)) =
        (c.entries playlist).mapIdx fun n entry => .ok (entry.effect, .ofEntry (start + n) entry)) ∧
      ∀ s : Selector, ∃ effect s', s.advance c playlist = .ok (effect, s') ∧
        c.Holds playlist s'.index.toNat ∧ s'.Plays c effect := by
  obtain ⟨start, stop, range⟩ := Catalog.range?_of_lt_count known
  obtain ⟨some, inside⟩ := Catalog.range?_bounds range
  refine ⟨start, stop, range, some, fun moves => ?_, Selector.cycle_eq range,
    fun s => s.advance_of_lt_count known⟩
  obtain ⟨entry, found, reached⟩ := Selector.afterMoves_eq range moves
  have bound : moves % (stop - start) < stop - start := Nat.mod_lt _ (by omega)
  have small : start + moves % (stop - start) < c.master.length := by omega
  have index := Selector.ofEntry_index (Catalog.lt_256_of_lt_length small) entry
  have holds : c.Holds playlist (start + moves % (stop - start)) :=
    ⟨start, stop, range, Nat.le_add_right _ _, by omega⟩
  refine ⟨entry, _, found, reached, index, rfl, rfl, fun other => ?_⟩
  rw [index]
  constructor
  · exact holds.unique
  · rintro rfl
    exact holds

end VoxelCube.Playlist

namespace VoxelCube.Bench

open Playlist

/-- The second playlist of the sample cube has two entries; after three moves it is at the last one again. -/
theorem nightPlaylist_goes_round : 1 < sampleCatalog.count ∧ ∃ s,
    Selector.afterMoves sampleCatalog 1 3 = .ok (4, s) ∧ s.index.toNat = 4 ∧ s.duration = 6 ∧
      ¬sampleCatalog.Holds 0 s.index.toNat := by
  have known : (1 : UInt8).toNat < sampleCatalog.count := by decide
  obtain ⟨start, stop, range, -, moves, -⟩ := playlist_goes_round sampleCatalog 1 known
  have whole : sampleCatalog.range? 1 = some (3, 5) := by decide
  cases range.symm.trans whole
  obtain ⟨entry, s, found, reached, index, duration, -, alone⟩ := moves 3
  cases found
  exact ⟨known, s, reached, index, duration, mt (alone 0).mp (by decide)⟩

end VoxelCube.Bench
