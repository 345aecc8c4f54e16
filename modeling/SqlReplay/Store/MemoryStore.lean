import SqlReplay.Store.InputState

/-! Remembered inputs in memory. States are objects that can be changed by whoever holds them, so
the store and its callers share a heap; an object is known by its number. -/

namespace SqlReplay

structure Heap where
  objects : List InputState
  deriving DecidableEq

namespace Heap

def get (h : Heap) (i : Nat) : InputState := h.objects.getD i {}

def make (h : Heap) (s : InputState) : Heap × Nat := (⟨h.objects ++ [s]⟩, h.objects.length)

def assign (h : Heap) (i : Nat) (change : InputState → InputState) : Heap :=
  ⟨h.objects.modify i change⟩

end Heap

structure MemoryStore where
  heap : Heap
  held : Nat
  deriving DecidableEq

namespace MemoryStore

def fresh (heap : Heap) : MemoryStore :=
  let (heap, held) := heap.make {}
  ⟨heap, held⟩

/-- The object itself is held, not a copy. -/
def ofObject (heap : Heap) (i : Nat) : MemoryStore := ⟨heap, i⟩

def make (m : MemoryStore) (s : InputState) : MemoryStore × Nat :=
  let (heap, i) := m.heap.make s
  (⟨heap, m.held⟩, i)

/-- The store keeps a copy of the object. -/
def save (m : MemoryStore) (i : Nat) : MemoryStore :=
  let (heap, held) := m.heap.make (m.heap.get i)
  ⟨heap, held⟩

/-- The caller gets a copy of what the store holds. -/
def load (m : MemoryStore) : MemoryStore × Nat :=
  let (heap, i) := m.heap.make (m.heap.get m.held)
  (⟨heap, m.held⟩, i)

def clear (m : MemoryStore) : MemoryStore := fresh m.heap

def assign (m : MemoryStore) (i : Nat) (change : InputState → InputState) : MemoryStore :=
  ⟨m.heap.assign i change, m.held⟩

def state (m : MemoryStore) : InputState := m.heap.get m.held

end MemoryStore

end SqlReplay
