/-
Places in the playlists. Every playlist of a catalog is a stretch of the master sequence with at
least one entry, so a selector that starts one or moves on inside one always finds an entry, stays in
the playlist and takes the entry's effect, duration and data; its position counts from the playlist's
start.
-/
import VoxelCube.Playlist.Selector

namespace VoxelCube.Playlist

variable {c : Catalog} {playlist : UInt8}

namespace Catalog

/-! ## Ranges -/

theorem count_pos (c : Catalog) : 0 < c.count := by
  have first := c.cuts.first
  unfold count
  cases starts : c.starts with
  | nil => simp [starts] at first
  | cons s rest => simp

theorem lt_count_of_range? {range : Nat × Nat} (h : c.range? playlist = some range) :
    playlist.toNat < c.count := by
  unfold range? at h
  obtain ⟨start, found, -⟩ := Option.map_eq_some_iff.mp h
  exact (List.getElem?_eq_some_iff.mp found).1

theorem range?_of_lt_count (h : playlist.toNat < c.count) :
    ∃ start stop, c.range? playlist = some (start, stop) := by
  unfold range?
  rw [List.getElem?_eq_getElem h]
  exact ⟨_, _, rfl⟩

/-- A playlist has an entry and ends inside the master sequence. -/
theorem range?_bounds {start stop : Nat} (h : c.range? playlist = some (start, stop)) :
    start < stop ∧ stop ≤ c.master.length := by
  unfold range? at h
  obtain ⟨s, found, same⟩ := Option.map_eq_some_iff.mp h
  obtain ⟨rfl, rfl⟩ := Prod.mk.inj same
  obtain ⟨i, rfl⟩ := List.getElem?_eq_some_iff.mp found
  cases next : c.starts[playlist.toNat + 1]? with
  | none => exact ⟨c.cuts.inside _ (List.getElem_mem i), Nat.le_refl _⟩
  | some t =>
    obtain ⟨j, rfl⟩ := List.getElem?_eq_some_iff.mp next
    have ascending := List.pairwise_iff_getElem.mp c.cuts.ascending _ _ i j (Nat.lt_succ_self _)
    exact ⟨ascending, Nat.le_of_lt (c.cuts.inside _ (List.getElem_mem j))⟩

theorem length_entries {start stop : Nat} (range : c.range? playlist = some (start, stop)) :
    (c.entries playlist).length = stop - start := by
  have inside := (range?_bounds range).2
  unfold entries
  rw [range, List.length_take, List.length_drop]
  omega

theorem getElem?_entries {start stop n : Nat} (range : c.range? playlist = some (start, stop))
    (bound : n < stop - start) : (c.entries playlist)[n]? = c.master[start + n]? := by
  unfold entries
  rw [range]
  dsimp only
  rw [List.getElem?_take_of_lt bound, List.getElem?_drop]

/-- A place of the master sequence lies in a playlist. -/
def Holds (c : Catalog) (playlist : UInt8) (place : Nat) : Prop :=
  ∃ start stop, c.range? playlist = some (start, stop) ∧ start ≤ place ∧ place < stop

theorem Holds.lt_length {place : Nat} (h : c.Holds playlist place) : place < c.master.length := by
  obtain ⟨start, stop, range, -, before⟩ := h
  have := (range?_bounds range).2
  omega

/-- A place of the master sequence fits the byte in which a selector keeps it. -/
theorem lt_256_of_lt_length {place : Nat} (h : place < c.master.length) : place < 256 :=
  Nat.lt_of_lt_of_le h c.sizes.master

end Catalog

namespace Selector

/-! ## Selectors at an entry -/

/-- An effect runs as the entry at the selector's place has it. -/
def Plays (s : Selector) (c : Catalog) (effect : UInt8) : Prop :=
  ∃ entry, c.master[s.index.toNat]? = some entry ∧
    entry.effect = effect ∧ entry.duration = s.duration ∧ entry.data = s.data

theorem ofEntry_index {place : Nat} (small : place < 256) (entry : Entry) :
    (ofEntry place entry).index.toNat = place :=
  UInt8.toNat_ofNat_of_lt' small

theorem atIndex_of_lt {place : Nat} (h : place < c.master.length) :
    ∃ effect s, atIndex c place = .ok (effect, s) ∧ s.index.toNat = place ∧ s.Plays c effect := by
  have entry : c.master[place]? = some c.master[place] := List.getElem?_eq_getElem h
  have index := ofEntry_index (Catalog.lt_256_of_lt_length h) c.master[place]
  refine ⟨c.master[place].effect, ofEntry place c.master[place], ?_, index, c.master[place], ?_,
    rfl, rfl, rfl⟩
  · unfold atIndex
    rw [entry]
  · rw [index, entry]

/-- A playlist that exists starts. -/
theorem start_of_lt_count (h : playlist.toNat < c.count) :
    ∃ effect s, start c playlist = .ok (effect, s) ∧ c.Holds playlist s.index.toNat ∧
      s.Plays c effect := by
  obtain ⟨first, stop, range⟩ := Catalog.range?_of_lt_count h
  obtain ⟨some, inside⟩ := Catalog.range?_bounds range
  obtain ⟨effect, s, found, index, plays⟩ := atIndex_of_lt (Nat.lt_of_lt_of_le some inside)
  refine ⟨effect, s, ?_, ⟨first, stop, range, by omega, by omega⟩, plays⟩
  unfold start
  rw [range]
  exact found

/-- A selector that started a playlist is in it, at an entry. -/
theorem start_ok {selected : UInt8 × Selector} (h : start c playlist = .ok selected) :
    playlist.toNat < c.count ∧ c.Holds playlist selected.2.index.toNat ∧
      selected.2.Plays c selected.1 := by
  have exists' : playlist.toNat < c.count := by
    unfold start at h
    cases range : c.range? playlist with
    | none =>
      rw [range] at h
      cases h
    | some range' => exact Catalog.lt_count_of_range? range
  obtain ⟨effect, s, started, holds, plays⟩ := start_of_lt_count exists'
  cases started.symm.trans h
  exact ⟨exists', holds, plays⟩

/-- Wherever a selector is, it moves on into a playlist that exists. -/
theorem advance_of_lt_count (s : Selector) (h : playlist.toNat < c.count) :
    ∃ effect s', s.advance c playlist = .ok (effect, s') ∧ c.Holds playlist s'.index.toNat ∧
      s'.Plays c effect := by
  obtain ⟨first, stop, range⟩ := Catalog.range?_of_lt_count h
  obtain ⟨some, inside⟩ := Catalog.range?_bounds range
  obtain ⟨place, chosen, lower, upper⟩ : ∃ place,
      (if stop ≤ s.index.toNat + 1 ∨ s.index.toNat + 1 < first then first
        else s.index.toNat + 1) = place ∧ first ≤ place ∧ place < stop := by
    by_cases wraps : stop ≤ s.index.toNat + 1 ∨ s.index.toNat + 1 < first
    · exact ⟨first, if_pos wraps, Nat.le_refl _, some⟩
    · exact ⟨s.index.toNat + 1, if_neg wraps, by omega, by omega⟩
  obtain ⟨effect, s', found, index, plays⟩ := atIndex_of_lt (Nat.lt_of_lt_of_le upper inside)
  refine ⟨effect, s', ?_, ⟨first, stop, range, by omega, by omega⟩, plays⟩
  unfold advance
  rw [range]
  dsimp only
  rw [chosen, found]

/-- A playlist starts at its first entry. -/
theorem head?_of_start {selected : UInt8 × Selector} (h : start c playlist = .ok selected) :
    ∃ entry, (c.entries playlist).head? = some entry ∧ entry.effect = selected.1 ∧
      entry.data = selected.2.data := by
  unfold start at h
  cases range : c.range? playlist with
  | none =>
    rw [range] at h
    cases h
  | some found =>
    obtain ⟨first, stop⟩ := found
    obtain ⟨some, inside⟩ := Catalog.range?_bounds range
    have entry : c.master[first]? = .some c.master[first] := List.getElem?_eq_getElem _
    rw [range] at h
    dsimp only at h
    unfold atIndex at h
    rw [entry] at h
    cases h
    refine ⟨c.master[first], ?_, rfl, rfl⟩
    rw [List.head?_eq_getElem?, Catalog.getElem?_entries range (by omega), Nat.add_zero, entry]

/-! ## Positions -/

/-- In its playlist the entry at the selector's place has the selector's position. -/
theorem entries_position {s : Selector} (h : c.Holds playlist s.index.toNat) :
    (c.entries playlist)[(s.position c playlist).toNat]? = c.master[s.index.toNat]? := by
  obtain ⟨start, stop, range, after, before⟩ := h
  have small := s.index.toNat_lt
  have position : (s.position c playlist).toNat = s.index.toNat - start := by
    unfold position
    rw [range]
    exact UInt8.toNat_ofNat_of_lt' (by show _ < 256; omega)
  rw [position, Catalog.getElem?_entries range (by omega), Nat.add_sub_cancel' after]

theorem position_lt {s : Selector} (h : c.Holds playlist s.index.toNat) :
    (s.position c playlist).toNat < (c.entries playlist).length := by
  have entry := entries_position h
  rw [List.getElem?_eq_getElem h.lt_length] at entry
  exact (List.getElem?_eq_some_iff.mp entry).1

theorem Plays.lt {s : Selector} {effect : UInt8} {effects : Nat} (h : s.Plays c effect)
    (known : c.Knows effects) : effect.toNat < effects := by
  obtain ⟨entry, found, rfl, -, -⟩ := h
  exact known entry (List.mem_of_getElem? found)

end Selector

end VoxelCube.Playlist
