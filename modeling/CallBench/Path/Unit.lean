/-
# The units a path is written in

A path can be read as a sequence of characters or as the sequence of the bytes
that encode them. Only the separator and the dot are told apart from other units,
and UTF-8 never uses their bytes inside another character, so cutting a path
means the same in both readings. The functions that cut paths are stated once for
all units.
-/

namespace CallBench.Path

/-- Units in which a path can be written. -/
class PathUnit (u : Type) where
  /-- Separates the portions of a path. -/
  separator : u
  /-- Begins an extension, and stands for directories when alone or doubled. -/
  dot : u

instance : PathUnit Char where
  separator := '/'
  dot := '.'

instance : PathUnit UInt8 where
  separator := 0x2F
  dot := 0x2E

export PathUnit (separator dot)

end CallBench.Path
