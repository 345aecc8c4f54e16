import SqlReplay.Proofs.Exec.Bindings
import SqlReplay.Proofs.Script.Message
import SqlReplay.Proofs.Script.Plan

/-! Scripts of one statement and of calls that bind the same values. A script reads the parameters
of its call by the keys of its placeholders, and writes the names as the statement has them, so
neither the order of a call nor what it holds besides reaches the text of the script. -/

namespace SqlReplay

/-- The values of these placeholders are the same in both. -/
def Agree (refs : List Reference) (params others : Registry) : Prop :=
  ∀ r ∈ refs, params.value? r.key = others.value? r.key

namespace Registry

variable {params others : Registry}

/-- Either neither has the key, or both have it with one value. -/
theorem get?_of_value?_eq (same : params.value? key = others.value? key) :
    (params.get? key = none ∧ others.get? key = none) ∨
      ∃ p q, params.get? key = some p ∧ others.get? key = some q ∧ p.value = q.value := by
  unfold value? at same
  cases first : params.get? key with
  | none =>
    rw [first, Option.map_none, eq_comm, Option.map_eq_none_iff] at same
    exact .inl ⟨rfl, same⟩
  | some p =>
    rw [first, Option.map_some, eq_comm, Option.map_eq_some_iff] at same
    obtain ⟨q, second, value⟩ := same
    exact .inr ⟨p, q, rfl, second, value.symm⟩

theorem checkReference_congr (same : params.value? r.key = others.value? r.key) :
    params.checkReference r = others.checkReference r := by
  unfold checkReference
  rcases get?_of_value?_eq same with ⟨first, second⟩ | ⟨p, q, first, second, value⟩
  · rw [first, second]
  · simp only [first, second, value]

theorem inlineWarning?_congr (same : params.value? r.key = others.value? r.key) :
    params.inlineWarning? r = others.inlineWarning? r := by
  unfold inlineWarning?
  rcases get?_of_value?_eq same with ⟨first, second⟩ | ⟨p, q, first, second, value⟩
  · rw [first, second]
  · simp only [first, second, value]

theorem declaration_congr (same : params.value? r.key = others.value? r.key) :
    params.declaration r = others.declaration r := by
  unfold value? at same
  rw [declaration, same, declaration]

theorem literal?_congr (same : params.value? key = others.value? key) :
    params.literal? key = others.literal? key := by
  have read (params : Registry) :
      params.literal? key = (params.value? key).bind Classification.literal? := by
    rw [literal?, value?, Option.bind_map]
    rfl
  rw [read, same, read]

end Registry

/-- Replacing asks for the keys of the placeholders alone. -/
theorem substitute_congr (same : ∀ r ∈ references sql, value? r.key = other? r.key) :
    substitute value? sql = substitute other? sql := by
  refine List.flatMap_congr ?_
  intro s member
  split
  · next kind =>
    have name : Reference.ofName s.text ∈
        ((spans sql).filter (·.kind = .placeholder)).map fun s => Reference.ofName s.text :=
      List.mem_map.2 ⟨s, List.mem_filter.2 ⟨member, by simpa using kind⟩, rfl⟩
    have key := key_mem_distinctBy Reference.key _ name
    rw [← references_eq_distinctBy] at key
    obtain ⟨r, found, spelled⟩ := List.mem_map.1 key
    have value := same r found
    rw [spelled] at value
    exact congrArg (Option.getD · s.text) value
  · rfl

namespace Agree

variable {sql : Text} {refs : List Reference} {params others : Registry}

theorem check (agree : Agree refs params others) : params.check refs = others.check refs :=
  List.flatMap_congr fun r member => Registry.checkReference_congr (agree r member)

theorem declaration (agree : Agree refs params others)
    (member : r ∈ Reference.declarationOrder refs) :
    params.declaration r = others.declaration r :=
  Registry.declaration_congr (agree r ((declarationOrder_perm refs).mem_iff.1 member))

theorem modeWarnings (agree : Agree refs params others) (mode : Mode) :
    params.modeWarnings refs mode = others.modeWarnings refs mode := by
  cases mode with
  | declare =>
    exact List.filterMap_congr fun r member =>
      congrArg Declaration.warning? (agree.declaration member)
  | inline =>
    exact List.filterMap_congr fun r member => Registry.inlineWarning?_congr (agree r member)

theorem body (agree : Agree (references sql) params others) (mode : Mode) :
    params.body sql mode = others.body sql mode := by
  cases mode with
  | declare => rfl
  | inline => exact substitute_congr fun r found => Registry.literal?_congr (agree r found)

end Agree

/-- The text of a script and how it hands its values over. -/
def Script.shape (s : Script) : Mode × Text := (s.mode, s.output)

namespace Plan

/-- Plans whose scripts have the same shape. -/
structure Alike (p q : Plan) : Prop where
  mode : p.mode = q.mode
  block : ∀ indent, p.block indent = q.block indent
  body : p.body = q.body

theorem Alike.finish {p q : Plan} (alike : Alike p q) (host : Host) (config : Config)
    (formatter : Option Formatter) :
    (p.finish host config formatter).map Script.shape =
      (q.finish host config formatter).map Script.shape := by
  have layOut (text : Text) :
      p.layOut host config.declareIndent text = q.layOut host config.declareIndent text := by
    simp only [layOut, alike.mode, alike.block]
  simp only [Plan.finish, alike.body, layOut]
  cases (formatBody config formatter q.body).text with
  | error => rfl
  | ok text =>
    dsimp only
    cases q.layOut host config.declareIndent text with
    | error => rfl
    | ok output => exact congrArg (fun m => Except.ok (m, output)) alike.mode

end Plan

section

variable {config : Config} {sql call other : Text} {ps qs : List Text}

theorem alike_of_agree (agree : Agree (references (config.statement sql)) (parseCall call).params
    (parseCall other).params) : (plan config sql call).Alike (plan config sql other) := by
  have mode : (plan config sql call).mode = (plan config sql other).mode :=
    congrArg (modeFor config.policy (references (config.statement sql))) agree.check
  refine ⟨mode, ?_, ?_⟩
  · intro indent
    exact congrArg (declareBlock indent)
      (List.map_congr_left fun r member => congrArg Declaration.text (agree.declaration member))
  · change (parseCall call).params.body _ (plan config sql call).mode =
      (parseCall other).params.body _ (plan config sql other).mode
    rw [mode]
    exact agree.body _

/-- A piece that assigns to none of these placeholders. -/
def Clutter (refs : List Reference) (piece : Text) : Prop :=
  ∀ a, Assignment.ofPiece? piece = some a → Text.lower a.name ∉ refs.map Reference.key

/-- What pieces bind to a placeholder does not depend on their order, on the case of their names or
on clutter. -/
theorem mem_bindings_arranged {refs : List Reference} (member : r ∈ refs)
    (recased : List.Forall₂ Recased ps qs) (clutter : ∀ piece ∈ more, Clutter refs piece)
    (arranged : List.Perm rs (qs ++ more)) :
    (r.key, v) ∈ bindings rs ↔ (r.key, v) ∈ bindings ps := by
  rw [← bindings_recased recased, mem_bindings_iff, mem_bindings_iff]
  constructor
  · rintro ⟨piece, among, a, assigns, bound⟩
    rcases List.mem_append.1 (arranged.mem_iff.1 among) with kept | added
    · exact ⟨piece, kept, a, assigns, bound⟩
    · have key : Text.lower a.name = r.key := congrArg Prod.fst bound
      exact absurd (key ▸ List.mem_map_of_mem member) (clutter piece added a assigns)
  · rintro ⟨piece, among, a, assigns, bound⟩
    exact ⟨piece, arranged.mem_iff.2 (List.mem_append_left _ among), a, assigns, bound⟩

theorem agree_arranged {refs : List Reference} (whole : ∀ piece ∈ ps, OnePiece piece)
    (distinct : ((ps.filterMap Assignment.ofPiece?).map fun a => Text.lower a.name).Nodup)
    (recased : List.Forall₂ Recased ps qs)
    (clutter : ∀ piece ∈ more, OnePiece piece ∧ Clutter refs piece)
    (arranged : List.Perm rs (qs ++ more)) :
    Agree refs (parseCall (Text.join [','] rs)).params (parseCall (Text.join [','] ps)).params := by
  have pieces : ∀ piece ∈ rs, OnePiece piece := by
    intro piece among
    rcases List.mem_append.1 (arranged.mem_iff.1 among) with kept | added
    · exact onePiece_of_forall₂ recased whole piece kept
    · exact (clutter piece added).1
  rw [params_parseCall_eq, params_parseCall_eq, assignments_join pieces, assignments_join whole]
  intro r member
  have same (v : Classification) : (r.key, v) ∈ bindings rs ↔ (r.key, v) ∈ bindings ps :=
    mem_bindings_arranged member recased (fun piece added => (clutter piece added).2) arranged
  have once (v w : Classification) (first : (r.key, v) ∈ bindings ps)
      (second : (r.key, w) ∈ bindings ps) : v = w := eq_of_mem_bindings distinct first second
  ext v
  rw [Registry.value?_ofAssignments_iff once, Registry.value?_ofAssignments_iff]
  · exact same v
  · intro v w first second
    exact once v w ((same v).1 first) ((same w).1 second)

section

variable (whole : ∀ piece ∈ ps, OnePiece piece)
  (distinct : ((ps.filterMap Assignment.ofPiece?).map fun a => Text.lower a.name).Nodup)
  (permuted : List.Perm rs ps)

include whole distinct permuted

theorem assignments_permuted : (assignments (Text.join [','] rs)).Perm
      (assignments (Text.join [','] ps)) ∧
    ((assignments (Text.join [','] rs)).map fun a => Text.lower a.name).Nodup ∧
    ((assignments (Text.join [','] ps)).map fun a => Text.lower a.name).Nodup := by
  have pieces : ∀ piece ∈ rs, OnePiece piece := fun piece member =>
    whole piece (permuted.mem_iff.1 member)
  have assigned := permuted.filterMap Assignment.ofPiece?
  rw [assignments_join pieces, assignments_join whole]
  exact ⟨assigned, (assigned.map _).nodup_iff.2 distinct, distinct⟩

theorem params_permuted :
    (parseCall (Text.join [','] rs)).params.Perm (parseCall (Text.join [','] ps)).params := by
  obtain ⟨assigned, first, second⟩ := assignments_permuted whole distinct permuted
  rw [params_parseCall_eq, params_parseCall_eq, Registry.ofAssignments_of_distinct first,
    Registry.ofAssignments_of_distinct second]
  exact assigned.map _

theorem warnings_permuted :
    (parseCall (Text.join [','] rs)).warnings = (parseCall (Text.join [','] ps)).warnings := by
  obtain ⟨assigned, first, second⟩ := assignments_permuted whole distinct permuted
  have once {as : List Assignment} (distinct : (as.map fun a => Text.lower a.name).Nodup) :
      repeated [] as = [] := (repeated_eq_nil_iff [] as).2 ⟨distinct, by simp⟩
  have none : assignments (Text.join [','] rs) = [] ↔ assignments (Text.join [','] ps) = [] := by
    rw [← List.length_eq_zero_iff, assigned.length_eq, List.length_eq_zero_iff]
  rw [warnings_parseCall, warnings_parseCall, once first, once second,
    isBlank_join_perm permuted]
  simp only [none]

theorem agree_permuted (refs : List Reference) :
    Agree refs (parseCall (Text.join [','] rs)).params
      (parseCall (Text.join [','] ps)).params := by
  have same : List.Forall₂ Recased ps ps := List.forall₂_same.2 fun piece _ => .same piece
  have nothing : ∀ piece ∈ ([] : List Text), OnePiece piece ∧ Clutter refs piece := nofun
  exact agree_arranged whole distinct same nothing (by simpa using permuted)

theorem planned_permuted (config : Config) (sql : Text) :
    (plan config sql (Text.join [','] rs)).warnings.Perm
      (plan config sql (Text.join [','] ps)).warnings := by
  have agree := agree_permuted whole distinct permuted (references (config.statement sql))
  have mode := (alike_of_agree agree).mode
  have params := params_permuted whole distinct permuted
  change ((parseCall _).warnings ++ (parseCall _).params.check _ ++
      (parseCall _).params.unreferenced _ ++ (parseCall _).params.modeWarnings _
        (plan config sql (Text.join [','] rs)).mode).Perm
    ((parseCall _).warnings ++ (parseCall _).params.check _ ++
      (parseCall _).params.unreferenced _ ++ (parseCall _).params.modeWarnings _
        (plan config sql (Text.join [','] ps)).mode)
  rw [warnings_permuted whole distinct permuted, agree.check, agree.modeWarnings, mode]
  exact (((params.filter _).map _).append_left _).append_right _

end

/-- Neither the order of a call nor the letter case of its names nor clutter reaches the text of a
script, and its order reaches no parameter and no message. -/
theorem generate_arranged (host : Host) (config : Config) (formatter : Option Formatter)
    (sql : Text)
    (whole : ∀ piece ∈ ps, OnePiece piece)
    (distinct : ((ps.filterMap Assignment.ofPiece?).map fun a => Text.lower a.name).Nodup) :
    (∀ recased clutter arranged, List.Forall₂ Recased ps recased →
      (∀ piece ∈ clutter, OnePiece piece ∧ Clutter (references (config.statement sql)) piece) →
      List.Perm arranged (recased ++ clutter) →
        (generate host config formatter sql (Text.join [','] arranged)).outcome.map Script.shape =
          (generate host config formatter sql (Text.join [','] ps)).outcome.map Script.shape) ∧
      (∀ permuted s t, List.Perm permuted ps →
        (generate host config formatter sql (Text.join [','] permuted)).outcome = .ok s →
        (generate host config formatter sql (Text.join [','] ps)).outcome = .ok t →
          s.params.Perm t.params ∧ ∀ text, text ∈ s.messages ↔ text ∈ t.messages) ∧
      ∀ call n, checkIndent host config.declareIndent = .ok n →
        ¬Breaks config formatter (plan config sql call).body →
        ∃ s, (generate host config formatter sql call).outcome = .ok s := by
  simp only [generate_outcome]
  refine ⟨?_, ?_, ?_⟩
  · intro recased clutter arranged letters among perm
    have agree := agree_arranged whole distinct letters among perm
    exact (alike_of_agree agree).finish host config formatter
  · intro permuted s t perm first second
    have body := (alike_of_agree
      (agree_permuted whole distinct perm (references (config.statement sql)))).body
    obtain ⟨_, _, _, rfl, _⟩ := Plan.of_finish first
    obtain ⟨_, _, _, rfl, _⟩ := Plan.of_finish second
    refine ⟨params_permuted whole distinct perm, ?_⟩
    intro text
    have warnings := (planned_permuted whole distinct perm config sql).append_right
      (formatBody config formatter (plan config sql (Text.join [','] ps)).body).warning?.toList
    simp only [Script.messages, Plan.script, body, mem_distinctTexts_iff, warnings.mem_iff]
  · intro call n fits unbroken
    exact (Plan.finish_ok_iff ..).2 ⟨unbroken, .inr ⟨n, fits⟩⟩

theorem generate_arranged_clutter :
    let run (call : Text) := (generate .roomy {} none "SELECT @a, @B" call).outcome
    ∃ s t u : Script, run "exec p,@a=1,@b='x,y'" = .ok s ∧
      run ",@c=5,@b='x,y',@A=1,exec p" = .ok t ∧ s.mode = t.mode ∧ s.output = t.output ∧
      run "@b='x,y',@a=1,exec p" = .ok u ∧ u.params.Perm s.params ∧
      ∀ text, text ∈ u.messages ↔ text ∈ s.messages := by
  let ps : List Text := ["exec p", "@a=1", "@b='x,y'"]
  let qs : List Text := ["exec p", "@A=1", "@b='x,y'"]
  let more : List Text := ["@c=5", ""]
  have whole : ∀ piece ∈ ps, OnePiece piece := by
    have procedure : OnePiece "exec p" := onePiece_of_unbroken (by simp [Unbroken])
    have number : OnePiece "@a=1" := onePiece_of_unbroken (by simp [Unbroken])
    have string : OnePiece "@b='x,y'" := by
      have name : Unbroken "@b=" := by simp [Unbroken]
      have value := (isValue_quoteString "x,y").onePiece
      simpa [quoteString, doubleQuotes] using (onePiece_append_iff name).2 value
    simp only [ps, List.forall_mem_cons]
    exact ⟨procedure, number, string, List.forall_mem_nil _⟩
  have distinct : ((ps.filterMap Assignment.ofPiece?).map fun a => Text.lower a.name).Nodup := by
    have keys : ((ps.filterMap Assignment.ofPiece?).map fun a => Text.lower a.name) =
        [['@', 'a'], ['@', 'b']] := by cbv
    rw [keys]
    decide
  have recased : List.Forall₂ Recased ps qs := by
    have blank : Blank [] := by simp [Blank]
    have small : ∀ c ∈ ['a'], Cursor.isNameChar c = true := List.forall_mem_singleton.2 rfl
    have capital : ∀ c ∈ ['A'], Cursor.isNameChar c = true := List.forall_mem_singleton.2 rfl
    have letter := Recased.name blank small capital rfl ['=', '1']
    exact .cons (.same _) (.cons (by simpa using letter) (.cons (.same _) .nil))
  have clutter : ∀ piece ∈ more,
      OnePiece piece ∧ Clutter (references (({} : Config).statement "SELECT @a, @B")) piece := by
    have used : (references (({} : Config).statement "SELECT @a, @B")).map Reference.key =
        [['@', 'a'], ['@', 'b']] := by cbv
    have fresh : Assignment.ofPiece? "@c=5" = some ⟨['@', 'c'], ['5']⟩ := by cbv
    have key : Text.lower ['@', 'c'] = ['@', 'c'] := by cbv
    have nothing : Assignment.ofPiece? [] = none := by cbv
    simp only [more, List.forall_mem_cons]
    refine ⟨⟨onePiece_of_unbroken (by simp [Unbroken]), ?_⟩,
      ⟨onePiece_of_unbroken (by simp [Unbroken]), ?_⟩, List.forall_mem_nil _⟩
    · intro a assigns
      obtain rfl := Option.some.inj (fresh.symm.trans assigns)
      rw [used, key]
      decide
    · intro a assigns
      have impossible := nothing.symm.trans assigns
      contradiction
  have joined : Text.join [','] ps = "exec p,@a=1,@b='x,y'" := by simp [ps, Text.join]
  have reversed : Text.join [','] ps.reverse = "@b='x,y',@a=1,exec p" := by simp [ps, Text.join]
  have cluttered : Text.join [','] (qs ++ more).reverse = ",@c=5,@b='x,y',@A=1,exec p" := by
    simp [qs, more, Text.join]
  obtain ⟨shape, order, settled⟩ := generate_arranged .roomy {} none "SELECT @a, @B" whole distinct
  obtain ⟨s, first⟩ := settled (Text.join [','] ps) 8 rfl (not_breaks_none _ _)
  obtain ⟨t, second⟩ := settled (Text.join [','] (qs ++ more).reverse) 8 rfl (not_breaks_none _ _)
  obtain ⟨u, third⟩ := settled (Text.join [','] ps.reverse) 8 rfl (not_breaks_none _ _)
  have arranged := shape qs more _ recased clutter (List.reverse_perm _)
  rw [first, second] at arranged
  obtain ⟨mode, output⟩ := Prod.mk.inj (Except.ok.inj arranged)
  obtain ⟨params, messages⟩ := order ps.reverse u s (List.reverse_perm _) third first
  exact ⟨s, t, u, joined ▸ first, cluttered ▸ second, mode.symm, output.symm, reversed ▸ third,
    params, messages⟩

end

end SqlReplay
