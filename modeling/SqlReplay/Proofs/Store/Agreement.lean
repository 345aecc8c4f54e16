import Mathlib
import SqlReplay.Proofs.Store.Loading
import SqlReplay.Store.MemoryStore

/-! A store in a file and a store in memory cannot be told apart by what they bring: both bring what
was saved last. Each is compared with a single remembered pair, one request at a time. -/

namespace SqlReplay

inductive StoreRequest
  | save (s : InputState)
  | load
  | clear
  deriving DecidableEq

def InputState.serve (remembered : InputState) : StoreRequest → InputState × Option InputState
  | .save s => (s, none)
  | .load => (remembered, some remembered)
  | .clear => ({}, none)

def FileStore.serve (host : Host) (store : FileStore) (tree : FileTree) :
    StoreRequest → FileTree × Except StateFault (Option (InputStateOf CodePoint))
  | .save s => ((store.save host s tree).1, (store.save host s tree).2.map fun _ => none)
  | .load => (tree, (store.load host tree).map some)
  | .clear => ((store.clear tree).1, (store.clear tree).2.map fun _ => none)

/-- A caller saves an object that it makes, and gets one from a load. -/
def MemoryStore.serve (m : MemoryStore) : StoreRequest → MemoryStore × Option InputState
  | .save s => ((m.make s).1.save (m.make s).2, none)
  | .load => (m.load.1, some (m.load.1.heap.get m.load.2))
  | .clear => (m.clear, none)

/-- What a request brings from a pair, as a file brings it. -/
def codedAnswer (answer : Option InputState) :
    Except StateFault (Option (InputStateOf CodePoint)) :=
  .ok (answer.map InputState.coded)

/-- What each of the requests brings, made one after the other. -/
def transcript (serve : σ → StoreRequest → σ × α) (state : σ) : List StoreRequest → List α
  | [] => []
  | request :: rest =>
    (serve state request).2 :: transcript serve (serve state request).1 rest

/-- Faults of the files themselves and of the way to them, as against those of what is in them. -/
def StateFault.isOfFiles : StateFault → Bool
  | .unreadable .. | .unwritable .. | .unremovable .. | .unreachable _ | .tooManyDirectories => true
  | .notAnObject _ | .notTexts | .malformed .. | .undecodable _ | .tooDeep _ => false

/-- What was saved last since the last clear. -/
def LastSaved (earlier : List StoreRequest) (s : InputState) : Prop :=
  (∃ before after, earlier = before ++ .save s :: after ∧ ∀ request ∈ after, request = .load) ∨
    s = {} ∧ ((∀ request ∈ earlier, request = .load) ∨
      ∃ before after, earlier = before ++ .clear :: after ∧ ∀ request ∈ after, request = .load)

section Remembered

theorem transcript_append (serve : σ → StoreRequest → σ × α) (state : σ)
    (earlier later : List StoreRequest) : transcript serve state (earlier ++ later) =
      transcript serve state earlier ++
        transcript serve (earlier.foldl (fun state request => (serve state request).1) state)
          later := by
  induction earlier generalizing state with
  | nil => rfl
  | cons request earlier ih => rw [List.cons_append, transcript, ih, transcript]; rfl

theorem length_transcript (serve : σ → StoreRequest → σ × α) (state : σ)
    (requests : List StoreRequest) :
    (transcript serve state requests).length = requests.length := by
  induction requests generalizing state with
  | nil => rfl
  | cons request requests ih => rw [transcript, List.length_cons, ih, List.length_cons]

def remembered (requests : List StoreRequest) : InputState :=
  requests.foldl (fun s request => (s.serve request).1) {}

theorem lastSaved_remembered (earlier : List StoreRequest) :
    LastSaved earlier (remembered earlier) := by
  induction earlier using List.reverseRecOn with
  | nil => exact .inr ⟨rfl, .inl nofun⟩
  | append_singleton earlier request ih =>
    rw [remembered, List.foldl_append, ← remembered, List.foldl_cons, List.foldl_nil]
    cases request with
    | save s => exact .inl ⟨earlier, [], rfl, nofun⟩
    | clear => exact .inr ⟨rfl, .inr ⟨earlier, [], rfl, nofun⟩⟩
    | load =>
      have extend {after : List StoreRequest} (loads : ∀ request ∈ after, request = .load) :
          ∀ request ∈ after ++ [.load], request = .load := by
        simpa [or_imp, forall_and] using loads
      obtain ⟨before, after, saved, loads⟩ | ⟨empty, loads | ⟨before, after, cleared, loads⟩⟩ := ih
      · refine .inl ⟨before, after ++ [.load], ?_, extend loads⟩
        rw [← List.cons_append, ← List.append_assoc, InputState.serve, ← saved]
      · exact .inr ⟨empty, .inl (extend loads)⟩
      · refine .inr ⟨empty, .inr ⟨before, after ++ [.load], ?_, extend loads⟩⟩
        rw [← List.cons_append, ← List.append_assoc, ← cleared]

theorem transcript_load (earlier later : List StoreRequest) :
    (transcript InputState.serve {} (earlier ++ .load :: later))[earlier.length]? =
      some (some (remembered earlier)) := by
  rw [transcript_append, List.getElem?_append_right (Nat.le_of_eq (length_transcript ..)),
    length_transcript, Nat.sub_self, transcript]
  rfl

end Remembered

namespace FileStore

variable {host : Host} {store : FileStore} {tree : FileTree} {s : InputState}
  {fault : StateFault}

theorem isOfFiles_ofFile {cause : FileFault} {wrap : FileFault → StateFault}
    (wraps : (wrap cause).isOfFiles = true) : (StateFault.ofFile cause wrap).isOfFiles = true := by
  unfold StateFault.ofFile
  split
  next => rfl
  next => exact wraps

theorem isOfFiles_of_save (failed : (store.save host s tree).2 = .error fault) :
    fault.isOfFiles = true := by
  unfold save at failed
  split at failed
  next => cases failed; rfl
  next =>
    split at failed
    next => cases failed; exact isOfFiles_ofFile rfl
    next =>
      split at failed
      next => cases failed; exact isOfFiles_ofFile rfl
      next => contradiction

theorem isOfFiles_of_clear (failed : (store.clear tree).2 = .error fault) :
    fault.isOfFiles = true := by
  unfold clear at failed
  split at failed
  next => contradiction
  next =>
    split at failed
    next => contradiction
    next => cases failed; exact isOfFiles_ofFile rfl

/-- A file serves a request as the pair does that it holds. -/
theorem serve_agrees (holds : store.load host tree = .ok s.coded) (request : StoreRequest)
    (reliable : ∀ fault, (store.serve host tree request).2 = .error fault →
      fault.isOfFiles = false) :
    (store.serve host tree request).2 = codedAnswer (s.serve request).2 ∧
      store.load host (store.serve host tree request).1 = .ok (s.serve request).1.coded := by
  cases request with
  | load => exact ⟨by rw [serve, holds]; rfl, holds⟩
  | save next =>
    cases saved : (store.save host next tree).2 with
    | error fault =>
      have ofFiles := reliable fault (by rw [serve, saved]; rfl)
      exact absurd (isOfFiles_of_save saved) (by simp [ofFiles])
    | ok events => exact ⟨by rw [serve, saved]; rfl, load_save saved⟩
  | clear =>
    cases cleared : (store.clear tree).2 with
    | error fault =>
      have ofFiles := reliable fault (by rw [serve, cleared]; rfl)
      exact absurd (isOfFiles_of_clear cleared) (by simp [ofFiles])
    | ok => exact ⟨by rw [serve, cleared]; rfl, load_clear cleared⟩

theorem transcript_agrees (holds : store.load host tree = .ok s.coded)
    (requests : List StoreRequest)
    (reliable : ∀ fault, .error fault ∈ transcript (store.serve host) tree requests →
      fault.isOfFiles = false) :
    transcript (store.serve host) tree requests =
      (transcript InputState.serve s requests).map codedAnswer := by
  induction requests generalizing tree s with
  | nil => rfl
  | cons request requests ih =>
    obtain ⟨brought, kept⟩ := serve_agrees holds request fun fault failed =>
      reliable fault (by rw [transcript, failed]; exact List.mem_cons_self)
    rw [transcript, transcript, List.map_cons, brought,
      ih kept fun fault failed => reliable fault (List.mem_cons_of_mem _ failed)]

end FileStore

namespace MemoryStore

structure Holds (m : MemoryStore) (s : InputState) : Prop where
  there : m.held < m.heap.objects.length
  state : m.heap.get m.held = s

theorem get_make (h : Heap) (s : InputState) : (h.make s).1.get (h.make s).2 = s := by
  simp [Heap.make, Heap.get]

theorem holds_make (h : Heap) (s : InputState) : Holds ⟨(h.make s).1, (h.make s).2⟩ s :=
  ⟨by simp [Heap.make], get_make h s⟩

theorem length_make (h : Heap) (s : InputState) :
    (h.make s).1.objects.length = h.objects.length + 1 :=
  List.length_append

theorem get_make_of_lt {h : Heap} {i : Nat} (there : i < h.objects.length) (s : InputState) :
    (h.make s).1.get i = h.get i := by
  simp only [Heap.make, Heap.get, List.getD_eq_getElem?_getD, List.getElem?_append_left there]

theorem Holds.make {m : MemoryStore} {s : InputState} (holds : m.Holds s) (other : InputState) :
    Holds ⟨(m.heap.make other).1, m.held⟩ s where
  there := Nat.lt_of_lt_of_eq (Nat.lt_succ_of_lt holds.there) (length_make ..).symm
  state := (get_make_of_lt holds.there other).trans holds.state

/-- Memory serves a request as the pair does that it holds. -/
theorem serve_agrees {m : MemoryStore} {s : InputState} (holds : m.Holds s)
    (request : StoreRequest) : (m.serve request).2 = (s.serve request).2 ∧
      (m.serve request).1.Holds (s.serve request).1 := by
  cases request with
  | load => exact ⟨congrArg some ((get_make ..).trans holds.state), holds.make _⟩
  | save next =>
    have kept : (m.serve (.save next)).1.Holds ((m.heap.make next).1.get (m.heap.make next).2) :=
      holds_make ..
    rw [get_make] at kept
    exact ⟨rfl, kept⟩
  | clear => exact ⟨rfl, holds_make m.heap {}⟩

theorem transcript_agrees {m : MemoryStore} {s : InputState} (holds : m.Holds s)
    (requests : List StoreRequest) :
    transcript serve m requests = transcript InputState.serve s requests := by
  induction requests generalizing m s with
  | nil => rfl
  | cons request requests ih =>
    obtain ⟨brought, kept⟩ := serve_agrees holds request
    rw [transcript, transcript, brought, ih kept]

end MemoryStore

/-- From no file and from a new store in memory, the same requests bring the same, and each load
brings what was saved last, as long as the files do not fail. -/
theorem stores_agree (host : Host) (store : FileStore) (tree : FileTree) (heap : Heap)
    (requests : List StoreRequest) (absent : tree.leadsAnywhere store.path = .ok false)
    (reliable : ∀ fault, .error fault ∈ transcript (store.serve host) tree requests →
      fault.isOfFiles = false) :
    transcript (store.serve host) tree requests =
        (transcript MemoryStore.serve (.fresh heap) requests).map codedAnswer ∧
      ∀ earlier later, requests = earlier ++ .load :: later → ∃ s, LastSaved earlier s ∧
        (transcript (store.serve host) tree requests)[earlier.length]? =
          some (.ok (some s.coded)) := by
  have empty : store.load host tree = .ok (InputState.coded {}) := FileStore.load_of_absent absent
  have file := FileStore.transcript_agrees empty requests reliable
  have fresh : (MemoryStore.fresh heap).Holds {} := MemoryStore.holds_make heap {}
  have memory := MemoryStore.transcript_agrees fresh requests
  refine ⟨by rw [file, memory], ?_⟩
  rintro earlier later rfl
  refine ⟨remembered earlier, lastSaved_remembered earlier, ?_⟩
  rw [file, List.getElem?_map, transcript_load]
  rfl

/-- Quotes, backslashes, control characters, line ends and characters of any size in a file below a
directory that is yet to be made. -/
def awkward : InputState := ⟨"'\"\\/\x00\x1f\r\n", "\u2028\ufeff\u00e9𝄞"⟩

theorem stores_agree_awkward :
    let store : FileStore := ⟨⟨["home", "state.json"]⟩⟩
    let requests : List StoreRequest := [.load, .clear, .save awkward, .load, .clear, .load]
    FileTree.empty.leadsAnywhere store.path = .ok false ∧
      (∀ fault, .error fault ∈ transcript (store.serve .roomy) .empty requests →
        fault.isOfFiles = false) ∧
      transcript (store.serve .roomy) .empty requests =
        (transcript MemoryStore.serve (.fresh ⟨[]⟩) requests).map codedAnswer ∧
      ∃ s, LastSaved [.load, .clear, .save awkward] s ∧
        (transcript (store.serve .roomy) .empty requests)[3]? = some (.ok (some s.coded)) := by
  intro store requests
  have absent : FileTree.empty.leadsAnywhere store.path = .ok false := by decide
  have brought : transcript (store.serve .roomy) .empty requests =
      [.ok (some {}), .ok none, .ok none, .ok (some awkward.coded), .ok none, .ok (some {})] := by
    cbv
  have reliable : ∀ fault, .error fault ∈ transcript (store.serve .roomy) .empty requests →
      fault.isOfFiles = false := by simp [brought]
  obtain ⟨same, loads⟩ := stores_agree .roomy store .empty ⟨[]⟩ requests absent reliable
  exact ⟨absent, reliable, same, loads [.load, .clear, .save awkward] [.clear, .load] rfl⟩

end SqlReplay
