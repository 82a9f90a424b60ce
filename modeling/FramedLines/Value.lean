import FramedLines.Value.Dictionary

-- The values that frames can carry, and the kinds they are asked for by.

namespace FramedLines

-- A float of 32 bits, known by them.
structure Single where
  bits : UInt32
deriving DecidableEq

-- A float of 64 bits, known by them.
structure Double where
  bits : UInt64
deriving DecidableEq

-- What a device can be told.
inductive Command where
  | reboot
  | setGain (gain : UInt16)
  | status (active : Bool) (battery : UInt8)
deriving DecidableEq

-- What a device reports.
structure Telemetry where
  id : UInt32
  label : String
  values : List Single
deriving DecidableEq

inductive Kind where
  | bool | u8 | u16 | u32 | u64 | i8 | i16 | i32 | i64 | char | string | unit
  | maybeU32 | u32s | strings | numberedString | dictionary | command | commands
  | single | double | telemetry
deriving DecidableEq

-- The type of the values of a kind.
def Kind.Carrier : Kind → Type
  | bool => Bool
  | u8 => UInt8
  | u16 => UInt16
  | u32 => UInt32
  | u64 => UInt64
  | i8 => Int8
  | i16 => Int16
  | i32 => Int32
  | i64 => Int64
  | char => Char
  | string => String
  | unit => Unit
  | maybeU32 => Option UInt32
  | u32s => List UInt32
  | strings => List String
  | numberedString => UInt8 × String
  | dictionary => Dictionary
  | command => Command
  | commands => List Command
  | single => Single
  | double => Double
  | telemetry => Telemetry

end FramedLines
