/-
Values of attributes and their bytes. Besides plain values there are two that a device makes from
its tables: a list of names, sent as a bracketed list in a long octet string, and the effect numbers
of playlist entries, sent as an octet string.
-/
import VoxelCube.Message.DataType
import VoxelCube.Playlist.Entry

namespace VoxelCube

def textBytes (text : String) : List UInt8 := text.toUTF8.data.toList

inductive Value where
  | boolean (b : Bool)
  | uint8 (n : UInt8)
  | int32 (n : Int32)
  | enum8 (n : UInt8)
  /-- Seconds since the start of the year 2000. -/
  | utcTime (seconds : UInt32)
  | ieeeAddress (address : UInt64)
  | octetString (bytes : List UInt8)
  | longOctetString (bytes : List UInt8)
  | nameList (names : List String)
  | effectIds (entries : List Playlist.Entry)
  deriving DecidableEq, Repr

namespace Value

/-- The type under which a value is sent. -/
def type : Value → DataType
  | boolean _ => .boolean
  | uint8 _ => .uint8
  | int32 _ => .int32
  | enum8 _ => .enum8
  | utcTime _ => .utcTime
  | ieeeAddress _ => .ieeeAddress
  | octetString _ | effectIds _ => .octetString
  | longOctetString _ | nameList _ => .longOctetString

/-! ## Strings -/

/-- A counted string, cut to the longest that its one-byte count can announce. -/
def shortString (bytes : List UInt8) : List UInt8 :=
  let kept := bytes.take DataType.maxOctets
  UInt8.ofNat kept.length :: kept

/-- A counted string, cut to the longest that its two-byte count can announce. -/
def longString (bytes : List UInt8) : List UInt8 :=
  let kept := bytes.take DataType.maxLongOctets
  Word.toBytes 2 kept.length ++ kept

/-- A name between quotation marks; nothing in it is escaped. -/
def quoted (name : String) : List UInt8 := 0x22 :: textBytes name ++ [0x22]

/-- A list of names: quoted, between commas, in brackets. -/
def nameText (names : List String) : List UInt8 :=
  0x5B :: [0x2C].intercalate (names.map quoted) ++ [0x5D]

def nameTextLength (names : List String) : Nat :=
  2 + names.foldr (fun name n => name.utf8ByteSize + 2 + n) 0 + (names.length - 1)

/-! ## Writing and reading -/

def encode : Value → List UInt8
  | boolean b => [if b then 1 else 0]
  | uint8 n | enum8 n => [n]
  | int32 n => Word.toBytes 4 n.toUInt32.toNat
  | utcTime n => Word.toBytes 4 n.toNat
  | ieeeAddress n => Word.toBytes 8 n.toNat
  | octetString bytes => shortString bytes
  | longOctetString bytes => longString bytes
  | nameList names => Word.toBytes 2 (min (nameTextLength names) 0xFFFF) ++ nameText names
  | effectIds entries => shortString (entries.map (·.effect))

/-- A value made of a number of `width` bytes. -/
def ofNumber (c : Cursor) (width : Nat) (make : Nat → Value) : Except Cursor (Value × Cursor) :=
  match c.number? width make with
  | some read => .ok read
  | none => .error c

/-- A value made of a string whose count, of `width` bytes, stands for `size` bytes. -/
def ofString (c : Cursor) (width : Nat) (size : Nat → Nat) (make : List UInt8 → Value) :
    Except Cursor (Value × Cursor) :=
  match c.number? width size with
  | none => .error c
  | some (n, c) =>
    match c.take? n with
    | some (bytes, c) => .ok (make bytes, c)
    | none => .error c

/-- Reads a plain value of a type; an error carries the place where the bytes ran out. -/
def decode (type : DataType) (c : Cursor) : Except Cursor (Value × Cursor) :=
  match type with
  | .boolean => ofNumber c 1 fun n => boolean (UInt8.ofNat n != 0)
  | .uint8 => ofNumber c 1 fun n => uint8 (UInt8.ofNat n)
  | .int32 => ofNumber c 4 fun n => int32 (UInt32.ofNat n).toInt32
  | .enum8 => ofNumber c 1 fun n => enum8 (UInt8.ofNat n)
  | .utcTime => ofNumber c 4 fun n => utcTime (UInt32.ofNat n)
  | .ieeeAddress => ofNumber c 8 fun n => ieeeAddress (UInt64.ofNat n)
  | .octetString => ofString c 1 DataType.shortSize octetString
  | .longOctetString => ofString c 2 DataType.longSize longOctetString

theorem length_ofNumber {c d : Cursor} {width : Nat} {make : Nat → Value} {v : Value}
    (h : ofNumber c width make = .ok (v, d)) : d.rest.length ≤ c.rest.length := by
  unfold ofNumber at h
  split at h
  · next read =>
    cases h
    have := Cursor.length_number? read
    omega
  · cases h

theorem length_ofString {c d : Cursor} {width : Nat} {size : Nat → Nat}
    {make : List UInt8 → Value} {v : Value} (h : ofString c width size make = .ok (v, d)) :
    d.rest.length ≤ c.rest.length := by
  unfold ofString at h
  split at h
  · cases h
  · next counted =>
    split at h
    · next read =>
      cases h
      have := Cursor.length_number? counted
      have := Cursor.length_take? read
      omega
    · cases h

/-- Reading a value never leaves more than there was. -/
theorem length_decode {type : DataType} {c d : Cursor} {v : Value}
    (h : decode type c = .ok (v, d)) : d.rest.length ≤ c.rest.length := by
  cases type with
  | boolean | uint8 | enum8 | int32 | utcTime | ieeeAddress => exact length_ofNumber h
  | octetString | longOctetString => exact length_ofString h

end Value

end VoxelCube
