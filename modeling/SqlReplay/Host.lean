/-! What the machine below grants and a program cannot choose: memory, and room on its stack. -/

namespace SqlReplay

structure Host where
  /-- Whether there is memory for so many blanks in a row. -/
  hasRoom : Nat → Bool
  /-- How deep brackets may be nested in data that is read. -/
  readDepth : Nat
  /-- How deep brackets may be nested in data that is written. -/
  writeDepth : Nat
  /-- How many missing directories are made one inside the other. -/
  directoryDepth : Nat
  readDepth_pos : 0 < readDepth
  writeDepth_pos : 0 < writeDepth

/-- A host that never runs out of memory, with a stack for a thousand levels. -/
def Host.roomy : Host := ⟨fun _ => true, 1000, 1000, 1000, by decide, by decide⟩

end SqlReplay
