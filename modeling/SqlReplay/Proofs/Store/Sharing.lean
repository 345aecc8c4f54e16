import SqlReplay.Proofs.Store.Agreement

/-! Who shares the object that a store in memory holds. A store that saved or cleared, or that was
made from nothing, holds an object of its own, and nothing that a caller does to its objects shows
in a load. A store that was made from an object of a caller holds that object until then. -/

namespace SqlReplay

inductive CallerStep
  | make (s : InputState)
  | save (i : Nat)
  | load
  | clear
  | assign (i : Nat) (change : InputState → InputState)

def CallerStep.object? : CallerStep → Option Nat
  | save i | assign i _ => some i
  | make _ | load | clear => none

def CallerStep.gives : CallerStep → Bool
  | save _ | clear => true
  | make _ | load | assign _ _ => false

/-- A store with the objects that its caller holds. -/
structure SharedStore where
  store : MemoryStore
  callers : List Nat

namespace SharedStore

def start (heap : Heap) (callers : List Nat) : Option Nat → SharedStore
  | none => ⟨.fresh heap, callers⟩
  | some i => ⟨.ofObject heap i, callers⟩

/-- The caller holds what it makes and what it loads. -/
def step (c : SharedStore) : CallerStep → SharedStore
  | .make s => ⟨(c.store.make s).1, (c.store.make s).2 :: c.callers⟩
  | .save i => ⟨c.store.save i, c.callers⟩
  | .load => ⟨c.store.load.1, c.store.load.2 :: c.callers⟩
  | .clear => ⟨c.store.clear, c.callers⟩
  | .assign i change => ⟨c.store.assign i change, c.callers⟩

def run (c : SharedStore) (steps : List CallerStep) : SharedStore := steps.foldl step c

/-- Every step is about an object that the caller holds by then. -/
def Permits (c : SharedStore) : List CallerStep → Prop
  | [] => True
  | step :: rest => (∀ i ∈ step.object?, i ∈ c.callers) ∧ (c.step step).Permits rest

instance decidablePermits (c : SharedStore) :
    (steps : List CallerStep) → Decidable (c.Permits steps)
  | [] => .isTrue trivial
  | step :: rest =>
    have := decidablePermits (c.step step) rest
    inferInstanceAs (Decidable ((∀ i ∈ step.object?, i ∈ c.callers) ∧ (c.step step).Permits rest))

def content (c : SharedStore) (i : Nat) : InputState := c.store.heap.get i

def loaded (c : SharedStore) : InputState := c.store.load.1.heap.get c.store.load.2

/-- What the store was given last, where that was `s` before the step. -/
def given (c : SharedStore) (s : InputState) : CallerStep → InputState
  | .save i => c.content i
  | .clear => {}
  | .make _ | .load | .assign _ _ => s

def lastGiven (c : SharedStore) (s : InputState) : List CallerStep → InputState
  | [] => s
  | step :: rest => (c.step step).lastGiven (c.given s step) rest

def firstGiven (heap : Heap) : Option Nat → InputState
  | none => {}
  | some i => heap.get i

section Heap

variable {h : Heap} {i j : Nat}

theorem length_assign (h : Heap) (i : Nat) (change : InputState → InputState) :
    (h.assign i change).objects.length = h.objects.length :=
  List.length_modify ..

theorem get_assign_of_ne (other : i ≠ j) (change : InputState → InputState) :
    (h.assign i change).get j = h.get j := by
  simp only [Heap.assign, Heap.get, List.getD_eq_getElem?_getD,
    List.getElem?_modify_ne change _ other]

end Heap

variable {c : SharedStore} {s : InputState} {step : CallerStep} {steps : List CallerStep}

/-- The objects of the caller exist. -/
def Sound (c : SharedStore) : Prop := ∀ i ∈ c.callers, i < c.store.heap.objects.length

/-- The store holds an object of its own, which says `s`. -/
structure Apart (c : SharedStore) (s : InputState) : Prop where
  sound : c.Sound
  holds : c.store.Holds s
  own : c.store.held ∉ c.callers

theorem loaded_eq (c : SharedStore) : c.loaded = c.content c.store.held := MemoryStore.get_make ..

theorem sound_step (sound : c.Sound) (step : CallerStep) : (c.step step).Sound := by
  have grown {i : Nat} (there : i < c.store.heap.objects.length) (s : InputState) :
      i < (c.store.heap.make s).1.objects.length :=
    Nat.lt_of_lt_of_eq (Nat.lt_succ_of_lt there) (MemoryStore.length_make ..).symm
  cases step with
  | make s =>
    exact List.forall_mem_cons.2
      ⟨(MemoryStore.holds_make _ s).there, fun i mine => grown (sound i mine) s⟩
  | load =>
    exact List.forall_mem_cons.2
      ⟨(MemoryStore.holds_make _ _).there, fun i mine => grown (sound i mine) _⟩
  | save i => exact fun j mine => grown (sound j mine) _
  | clear => exact fun j mine => grown (sound j mine) _
  | assign i change =>
    exact fun j mine => Nat.lt_of_lt_of_eq (sound j mine) (length_assign ..).symm

/-- A store that is given a state makes an object of its own for it. -/
theorem apart_of_gives (sound : c.Sound) (gives : step.gives = true) :
    (c.step step).Apart (c.given s step) := by
  have fresh (i : Nat) (mine : i ∈ c.callers) : c.store.heap.objects.length ≠ i :=
    Nat.ne_of_gt (sound i mine)
  refine ⟨sound_step sound step, ?_, ?_⟩
  · cases step with
    | save i => exact MemoryStore.holds_make ..
    | clear => exact MemoryStore.holds_make ..
    | make | load | assign => cases gives
  · cases step with
    | save i => exact fun mine => fresh _ mine rfl
    | clear => exact fun mine => fresh _ mine rfl
    | make | load | assign => cases gives

theorem apart_of_clear (sound : c.Sound) : (c.step .clear).Apart {} :=
  apart_of_gives (s := {}) sound rfl

theorem apart_step (apart : c.Apart s) (permitted : ∀ i ∈ step.object?, i ∈ c.callers) :
    (c.step step).Apart (c.given s step) := by
  have used : c.store.held ≠ c.store.heap.objects.length := Nat.ne_of_lt apart.holds.there
  cases step with
  | save i => exact apart_of_gives apart.sound rfl
  | clear => exact apart_of_clear apart.sound
  | make other =>
    exact ⟨sound_step apart.sound _, apart.holds.make other,
      List.not_mem_cons_of_ne_of_not_mem used apart.own⟩
  | load =>
    exact ⟨sound_step apart.sound _, apart.holds.make _,
      List.not_mem_cons_of_ne_of_not_mem used apart.own⟩
  | assign i change =>
    have other : i ≠ c.store.held := by
      rintro rfl
      exact apart.own (permitted _ rfl)
    refine ⟨sound_step apart.sound _, ⟨?_, ?_⟩, apart.own⟩
    · exact Nat.lt_of_lt_of_eq apart.holds.there (length_assign ..).symm
    · exact (get_assign_of_ne other change).trans apart.holds.state

/-- A store with an object of its own brings what it was given last, whatever its caller does. -/
theorem apart_run (apart : c.Apart s) (permitted : c.Permits steps) :
    (c.run steps).Apart (c.lastGiven s steps) := by
  induction steps generalizing c s with
  | nil => exact apart
  | cons step steps ih => exact ih (apart_step apart permitted.1) permitted.2

theorem apart_run_of_gives (sound : c.Sound) (permitted : c.Permits steps)
    (gives : ∃ step ∈ steps, step.gives = true) : (c.run steps).Apart (c.lastGiven s steps) := by
  induction steps generalizing c s with
  | nil => simp at gives
  | cons step steps ih =>
    by_cases here : step.gives = true
    · exact apart_run (c := c.step step) (apart_of_gives sound here) permitted.2
    · obtain ⟨later, among, given⟩ := gives
      obtain rfl | among := List.mem_cons.1 among
      · exact absurd given here
      · exact ih (sound_step sound step) permitted.2 ⟨later, among, given⟩

/-- Until the store is given a state it holds what it held. -/
theorem held_run (keeps : ∀ step ∈ steps, step.gives = false) :
    (c.run steps).store.held = c.store.held ∧ c.lastGiven s steps = s := by
  induction steps generalizing c with
  | nil => exact ⟨rfl, rfl⟩
  | cons step steps ih =>
    obtain ⟨here, later⟩ := List.forall_mem_cons.1 keeps
    have unchanged : (c.step step).store.held = c.store.held ∧ c.given s step = s := by
      cases step with
      | save | clear => cases here
      | make | load | assign => exact ⟨rfl, rfl⟩
    obtain ⟨held, given⟩ := ih later (c := c.step step)
    exact ⟨held.trans unchanged.1, by rw [lastGiven, unchanged.2, given]⟩

/-- A load brings what the store was given last, except that a store which was made from an object
of the caller brings, until it is given another state, what that object says by then. -/
theorem load_given_iff (heap : Heap) (callers : List Nat) (initial : Option Nat)
    (steps : List CallerStep) (sound : ∀ i ∈ callers, i < heap.objects.length)
    (permitted : (start heap callers initial).Permits steps) :
    ((start heap callers initial).run steps).loaded =
        (start heap callers initial).lastGiven (firstGiven heap initial) steps ↔
      ∀ i ∈ initial, (∀ step ∈ steps, step.gives = false) →
        ((start heap callers initial).run steps).content i = heap.get i := by
  cases initial with
  | none =>
    have apart : (start heap callers none).Apart {} :=
      apart_of_clear (c := ⟨.ofObject heap 0, callers⟩) sound
    have brought := (apart_run apart permitted).holds.state
    simp [loaded_eq, content, firstGiven, brought]
  | some i =>
    by_cases keeps : ∀ step ∈ steps, step.gives = false
    · obtain ⟨held, given⟩ := held_run (c := start heap callers (some i)) (s := heap.get i) keeps
      rw [loaded_eq, held, firstGiven, given]
      simp only [start, MemoryStore.ofObject, Option.mem_some_iff, forall_eq', imp_iff_right keeps]
    · have apart := apart_run_of_gives (s := heap.get i) (c := start heap callers (some i)) sound
        permitted (by simpa using keeps)
      rw [loaded_eq, content, apart.holds.state]
      simp [firstGiven, keeps]

/-- An object that was saved and one that was loaded are both changed afterwards. -/
theorem load_given_saved :
    let heap : Heap := ⟨[⟨"SELECT @0", "exec p,@0=1"⟩]⟩
    let change : InputState → InputState := fun s => { s with sql := "changed" }
    let steps : List CallerStep := [.save 0, .assign 0 change, .load, .assign 2 change]
    (∀ i ∈ [0], i < heap.objects.length) ∧ (start heap [0] (some 0)).Permits steps ∧
      ((start heap [0] (some 0)).run steps).loaded =
        (start heap [0] (some 0)).lastGiven (firstGiven heap (some 0)) steps := by
  intro heap change steps
  have sound : ∀ i ∈ [0], i < heap.objects.length := by decide
  have permitted : (start heap [0] (some 0)).Permits steps := by decide
  refine ⟨sound, permitted, ?_⟩
  exact (load_given_iff heap [0] (some 0) steps sound permitted).2 fun i _ keeps =>
    absurd (keeps (.save 0) List.mem_cons_self) (by decide)

/-- A change of the object that a store was made from shows in a load. -/
theorem load_shows_change :
    let heap : Heap := ⟨[⟨"SELECT 1", "exec p"⟩]⟩
    let steps : List CallerStep := [.assign 0 fun s => { s with sql := "changed" }]
    (start heap [0] (some 0)).Permits steps ∧
      ((start heap [0] (some 0)).run steps).loaded = ⟨"changed", "exec p"⟩ ∧
      ((start heap [0] (some 0)).run steps).loaded ≠
        (start heap [0] (some 0)).lastGiven (firstGiven heap (some 0)) steps := by
  intro heap steps
  exact ⟨by decide, by decide, by decide⟩

end SharedStore

end SqlReplay
