import SqlReplay.Proofs.Json.Fields
import SqlReplay.Proofs.Json.Lexing

/-! Values are read back as they are written, with code points for characters, in every layout that
keeps the order of their fields. A written piece is known by what it does to the reader, whatever
follows it, and pieces compose. Only a number asks something of what follows: that it does not go on
with it. -/

namespace SqlReplay

namespace Json

/-- Values without floating-point numbers and overlong integers, in which each field has a name of
its own. -/
inductive Plain : Json → Prop
  | null : Plain .null
  | bool (b : Bool) : Plain (.bool b)
  | int {n : Int} (short : IsShort n) : Plain (.int n)
  | str (s : Text) : Plain (.str s)
  | arr {items : List Json} (each : ∀ v ∈ items, Plain v) : Plain (.arr items)
  | obj {fields : Fields} (distinct : (fields.map (·.1)).Nodup) (each : ∀ f ∈ fields, Plain f.2) :
    Plain (.obj fields)

/-- What a piece of text does to the reader, wherever it stands. -/
def Reads (limit : Nat) (piece : Text) (before after : Reading) : Prop :=
  ∀ finish position rest, run limit finish (tokens position (piece ++ rest)) before =
    run limit finish (tokens (position + piece.length) rest) after

/-- What a piece of text does to the reader where no number goes on after it. -/
def ReadsApart (limit : Nat) (piece : Text) (before after : Reading) : Prop :=
  ∀ finish position rest, Stops rest → run limit finish (tokens position (piece ++ rest)) before =
    run limit finish (tokens (position + piece.length) rest) after

/-- No number goes on into a text, and the text is not empty. -/
def Parts (piece : Text) : Prop := ∃ c more, piece = c :: more ∧ continuesNumber c = false

section Pieces

variable {limit : Nat} {piece other : Text} {a b c : Reading}

theorem Parts.append (parts : Parts piece) (rest : Text) : Parts (piece ++ rest) := by
  obtain ⟨first, more, rfl, stops⟩ := parts
  exact ⟨first, more ++ rest, rfl, stops⟩

theorem Parts.stops (parts : Parts piece) : Stops piece := by
  obtain ⟨first, more, rfl, stops⟩ := parts
  rintro _ ⟨⟩
  exact stops

namespace Reads

theorem apart (reads : Reads limit piece a b) : ReadsApart limit piece a b :=
  fun finish position rest _ => reads finish position rest

theorem trans (first : Reads limit piece a b) (second : Reads limit other b c) :
    Reads limit (piece ++ other) a c := by
  intro finish position rest
  rw [List.append_assoc, first, second, List.length_append, Nat.add_assoc]

theorem transApart (first : Reads limit piece a b) (second : ReadsApart limit other b c) :
    ReadsApart limit (piece ++ other) a c := by
  intro finish position rest stops
  rw [List.append_assoc, first, second _ _ _ stops, List.length_append, Nat.add_assoc]

end Reads

theorem ReadsApart.trans (first : ReadsApart limit piece a b) (second : Reads limit other b c)
    (parts : Parts other) : Reads limit (piece ++ other) a c := by
  intro finish position rest
  rw [List.append_assoc, first _ _ _ (parts.append rest).stops, second, List.length_append,
    Nat.add_assoc]

namespace Reads

theorem spaces (blank : ∀ d ∈ piece, isSpace d = true) : Reads limit piece a a := by
  intro finish position rest
  induction piece generalizing position with
  | nil => rfl
  | cons d piece ih =>
    rw [List.cons_append, tokens, if_pos (blank d List.mem_cons_self),
      ih fun e he => blank e (List.mem_cons_of_mem d he), List.length_cons]
    congr 2
    omega

/-- A character that is a token by itself. -/
theorem mark {d : Char} (token : Token) (ink : isSpace d = false)
    (next : ∀ position rest, Token.next position d rest = (token, 0))
    (good : ∀ fault, token ≠ .bad fault) (fits : ∀ position, step limit position token a = .ok b) :
    Reads limit [d] a b := by
  intro finish position rest
  rw [List.singleton_append, tokens_cons ink (next position rest) good, run, fits]
  rfl

end Reads

/-- A piece that is one token before what comes after it. -/
theorem run_token {d : Char} {more rest : Text} {token : Token} {finish position : Nat}
    (ink : isSpace d = false)
    (next : Token.next position d (more ++ rest) = (token, more.length))
    (good : ∀ fault, token ≠ .bad fault) (fits : step limit position token a = .ok b) :
    run limit finish (tokens position (d :: more ++ rest)) a =
      run limit finish (tokens (position + (d :: more).length) rest) b := by
  rw [List.cons_append, tokens_cons ink next good, run, fits, List.drop_left]
  simp only [List.length_cons, Nat.add_assoc, Nat.add_comm 1]
  rfl

theorem Reads.string (s : Text) (fits : ∀ position, step limit position (.str s.coded) a = .ok b) :
    Reads limit (writeString false s) a b := by
  intro finish position rest
  have next : Token.next position '"' (s.flatMap (escapeChar false) ++ ['"'] ++ rest) =
      (.str s.coded, (s.flatMap (escapeChar false) ++ ['"']).length) := by
    rw [List.append_assoc, List.singleton_append]
    simp only [Token.next, scanString_written, List.length_append, List.length_singleton]
  exact run_token (by decide) next (by simp) (fits position)

theorem Reads.word {d : Char} {more : Text} {v : JsonOf CodePoint} (ink : isSpace d = false)
    (next : ∀ position rest, Token.next position d (more ++ rest) = (.scalar v, more.length))
    (fits : ∀ position, step limit position (.scalar v) a = .ok b) : Reads limit (d :: more) a b :=
  fun _ position rest => run_token ink (next position rest) (by simp) (fits position)

theorem startsNumber_ofInt {n : Int} {d : Char} {more : Text}
    (written : Text.ofInt n = d :: more) (rest : Text) : StartsNumber d (more ++ rest) := by
  cases n with
  | ofNat m =>
    have digits : Text.ofNat m = d :: more := written
    exact .inl (isDigit_of_mem_ofNat (digits ▸ List.mem_cons_self))
  | negSucc m =>
    obtain ⟨rfl, rfl⟩ := List.cons_eq_cons.1 written
    refine .inr ⟨rfl, fun e first => ?_⟩
    rw [List.head?_append_of_ne_nil _ (ofNat_ne_nil (m + 1))] at first
    exact isDigit_of_mem_ofNat (List.mem_of_mem_head? first)

theorem ReadsApart.int {n : Int} (short : IsShort n)
    (fits : ∀ position, step limit position (.scalar (.int n)) a = .ok b) :
    ReadsApart limit (Text.ofInt n) a b := by
  intro finish position rest stops
  have scanned := scan?_ofInt short stops
  cases written : Text.ofInt n with
  | nil =>
    cases n with
    | ofNat m => exact absurd written (ofNat_ne_nil m)
    | negSucc m => contradiction
  | cons d more =>
    have number := startsNumber_ofInt written rest
    rw [written, List.cons_append] at scanned
    have ink : isSpace d = false := by
      obtain digit | ⟨rfl, -⟩ := number
      · have isInk (mark : Char) (other : mark.isDigit = false) : d ≠ mark := by
          rintro rfl
          rw [other] at digit
          contradiction
        simp [isSpace, isInk]
      · rfl
    exact run_token ink (next_number number scanned) (by simp) (fits position)

end Pieces

/-- How a value is laid out with characters beyond ASCII as themselves and fields in their order. -/
abbrev Layout.ordered (indent : Option Nat) : Layout := ⟨false, false, indent⟩

section Layouts

variable {c : Char} {l : Layout} {depth : Nat} {indent : Option Nat}

theorem mem_lineBreak (mem : c ∈ l.lineBreak depth) : c = '\n' ∧ l.indent.isSome ∨ c = ' ' := by
  unfold Layout.lineBreak at mem
  split at mem
  next => contradiction
  next n indented =>
    refine (List.mem_cons.1 mem).imp (fun feed => ⟨feed, ?_⟩) List.eq_of_mem_replicate
    rw [indented]
    rfl

theorem reads_lineBreak {limit : Nat} (l : Layout) (depth : Nat) (reading : Reading) :
    Reads limit (l.lineBreak depth) reading reading :=
  .spaces fun c mem => by obtain ⟨rfl, -⟩ | rfl := mem_lineBreak mem <;> rfl

theorem parts_lineBreak_append {rest : Text} (parts : Parts rest) :
    Parts (l.lineBreak depth ++ rest) := by
  unfold Layout.lineBreak
  split
  next => exact parts
  next => exact ⟨'\n', _, rfl, rfl⟩

/-- A separator is a comma and blanks. -/
theorem separator_eq (l : Layout) (depth : Nat) : ∃ blank, l.separator depth = ',' :: blank ∧
    ∀ c ∈ blank, c = '\n' ∧ l.indent.isSome ∨ c = ' ' := by
  unfold Layout.separator
  split
  next => exact ⟨_, rfl, by simp⟩
  next => exact ⟨_, rfl, fun c mem => mem_lineBreak mem⟩

theorem writeItems_eq (l : Layout) (depth : Nat) (items : List Json) :
    writeItems l depth items = items.map (write l depth) := by
  induction items with
  | nil => rfl
  | cons item items ih => rw [writeItems, ih, List.map_cons]

/-- A field as it is written among others. -/
def writeField (indent : Option Nat) (depth : Nat) (field : Text × Json) : Text :=
  writeString false field.1 ++ ':' :: ' ' :: field.2.write (.ordered indent) depth

theorem arrange_writeFields (indent : Option Nat) (depth : Nat) (fields : Fields) :
    (Layout.ordered indent).arrange (writeFields (.ordered indent) depth fields) =
      fields.map (writeField indent depth) := by
  induction fields with
  | nil => rfl
  | cons field fields ih =>
    simp only [Layout.arrange, Bool.false_eq_true, if_false] at ih ⊢
    rw [writeFields, List.map_cons, ih]
    rfl

theorem depthItems_le_iff {n : Nat} {items : List Json} :
    JsonOf.depthItems items ≤ n ↔ ∀ v ∈ items, v.depth ≤ n := by
  induction items with
  | nil => simp [JsonOf.depthItems]
  | cons item items ih => rw [JsonOf.depthItems, Nat.max_le, ih, List.forall_mem_cons]

theorem depthFields_le_iff {n : Nat} {fields : Fields} :
    JsonOf.depthFields fields ≤ n ↔ ∀ f ∈ fields, f.2.depth ≤ n := by
  induction fields with
  | nil => simp [JsonOf.depthFields]
  | cons field fields ih => rw [JsonOf.depthFields, Nat.max_le, ih, List.forall_mem_cons]

end Layouts

section Brackets

variable {α : Type} {limit : Nat} {piece : α → Text} {separator closing : Text}
  {before start : Reading}

/- Pieces between brackets. Those that were read are kept, the last first: where a next one is due
(`opened`), where one is complete (`holding`), and after the bracket was closed (`closed`). -/
variable (opened : List α → Reading) (holding : α → List α → Reading) (closed : List α → Reading)

theorem reads_join (parts : Parts separator) (ends : Parts closing)
    (separates : ∀ x done, Reads limit separator (holding x done) (opened (x :: done)))
    (closes : ∀ x done, Reads limit closing (holding x done) (closed (x :: done)))
    (x : α) (xs done : List α) (first : ReadsApart limit (piece x) start (holding x done))
    (each : ∀ y ∈ xs, ∀ done, ReadsApart limit (piece y) (opened done) (holding y done)) :
    Reads limit (Text.join separator ((x :: xs).map piece) ++ closing) start
      (closed (xs.reverse ++ x :: done)) := by
  induction xs generalizing x done start with
  | nil => exact first.trans (closes x done) ends
  | cons y xs ih =>
    have rest := ih y (x :: done) (each y List.mem_cons_self (x :: done))
      fun z mem => each z (List.mem_cons_of_mem y mem)
    have whole := first.trans ((separates x done).trans rest) (parts.append _)
    simpa only [List.map_cons, Text.join, List.reverse_cons, List.append_assoc,
      List.singleton_append] using whole

theorem reads_enclose {openMark closeMark : Char} (l : Layout) (depth : Nat)
    (opens : Reads limit [openMark] before start) (ends : continuesNumber closeMark = false)
    (empty : Reads limit [closeMark] start (closed []))
    (separates : ∀ x done, Reads limit [','] (holding x done) (opened (x :: done)))
    (closes : ∀ x done, Reads limit [closeMark] (holding x done) (closed (x :: done)))
    (xs : List α) (first : ∀ x ∈ xs, ReadsApart limit (piece x) start (holding x []))
    (each : ∀ x ∈ xs, ∀ done, ReadsApart limit (piece x) (opened done) (holding x done)) :
    Reads limit (l.enclose depth openMark closeMark (xs.map piece)) before (closed xs.reverse) := by
  cases xs with
  | nil => exact opens.trans empty
  | cons x xs =>
    have closeParts : Parts (l.lineBreak depth ++ [closeMark]) :=
      parts_lineBreak_append ⟨closeMark, [], rfl, ends⟩
    obtain ⟨blank, separator, spaces⟩ := separator_eq l (depth + 1)
    have separatesLines (x : α) (done : List α) :
        Reads limit (l.separator (depth + 1)) (holding x done) (opened (x :: done)) := by
      rw [separator]
      refine (separates x done).trans (.spaces fun c mem => ?_)
      obtain ⟨rfl, -⟩ | rfl := spaces c mem <;> rfl
    have inner := reads_join opened holding closed ⟨',', blank, separator, rfl⟩ closeParts
      separatesLines (fun x done => (reads_lineBreak l depth _).trans (closes x done))
      x xs [] (first x List.mem_cons_self) fun y mem => each y (List.mem_cons_of_mem x mem)
    have whole := opens.trans ((reads_lineBreak l (depth + 1) start).trans inner)
    simpa only [Layout.enclose, List.map_cons, List.append_assoc, List.cons_append, List.nil_append,
      List.reverse_cons] using whole

end Brackets

def Expects.IsValue (expects : Expects) : Prop := expects = .value ∨ expects = .firstItem

theorem step_scalar {limit : Nat} {expects : Expects} (due : expects.IsValue)
    (stack : List Frame) (v : JsonOf CodePoint) (position : Nat) :
    step limit position (.scalar v) (stack, expects) = .ok (stack, .after v) := by
  obtain rfl | rfl := due <;> rfl

theorem step_string {limit : Nat} {expects : Expects} (due : expects.IsValue)
    (stack : List Frame) (s : List CodePoint) (position : Nat) :
    step limit position (.str s) (stack, expects) = .ok (stack, .after (.str s)) := by
  obtain rfl | rfl := due <;> rfl

/-- A field of an object where its name is due. -/
theorem reads_writeField {limit : Nat} {field : Text × Json} {indent : Option Nat} {depth : Nat}
    {stack : List Frame} {expects : Expects} {done : FieldsOf CodePoint}
    (named : expects = .firstName ∨ expects = .name)
    (value : ReadsApart limit (field.2.write (.ordered indent) depth)
      (.field done (Text.coded field.1) :: stack, .value)
      (.field done (Text.coded field.1) :: stack, .after field.2.coded)) :
    ReadsApart limit (writeField indent depth field) (.object done :: stack, expects)
      (.field done (Text.coded field.1) :: stack, .after field.2.coded) := by
  have name : Reads limit (writeString false field.1) (.object done :: stack, expects)
      (.object done :: stack, .colon (Text.coded field.1)) := by
    refine .string field.1 fun position => ?_
    obtain rfl | rfl := named <;> rfl
  have colon : Reads limit [':'] (.object done :: stack, .colon (Text.coded field.1))
      (.field done (Text.coded field.1) :: stack, .value) :=
    .mark .colon rfl (fun _ _ => rfl) (by simp) fun _ => rfl
  have space : Reads limit [' '] (.field done (Text.coded field.1) :: stack, .value)
      (.field done (Text.coded field.1) :: stack, .value) :=
    .spaces (by simp [isSpace])
  exact name.transApart (colon.transApart (space.transApart value))

theorem reads_write {limit : Nat} {v : Json} (plain : Plain v) (indent : Option Nat) (depth : Nat)
    {stack : List Frame} (room : stack.length + v.depth ≤ limit) {expects : Expects}
    (due : expects.IsValue) :
    ReadsApart limit (v.write (.ordered indent) depth) (stack, expects)
      (stack, .after v.coded) := by
  induction plain generalizing depth stack expects with
  | null => exact (Reads.word rfl (fun _ _ => rfl) (step_scalar due stack .null)).apart
  | bool b =>
    cases b with
    | false => exact (Reads.word rfl (fun _ _ => rfl) (step_scalar due stack (.bool false))).apart
    | true => exact (Reads.word rfl (fun _ _ => rfl) (step_scalar due stack (.bool true))).apart
  | int short => exact .int short (step_scalar due stack _)
  | str s => exact (Reads.string s (step_string due stack (Text.coded s))).apart
  | @arr items each ih =>
    -- A bracket takes one place on the stack, which is the one that it adds to the depth.
    rw [JsonOf.depth] at room
    have opens : Reads limit ['['] (stack, expects) (.array [] :: stack, .firstItem) := by
      refine .mark .openArray rfl (fun _ _ => rfl) (by simp) fun _ => ?_
      obtain rfl | rfl := due <;> exact if_pos (by omega)
    have empty : Reads limit [']'] (.array [] :: stack, .firstItem) (stack, .after (.arr [])) :=
      .mark .closeArray rfl (fun _ _ => rfl) (by simp) fun _ => rfl
    have item (v : Json) (mem : v ∈ items) (done : List (JsonOf CodePoint)) {expects : Expects}
        (due : expects.IsValue) : ReadsApart limit (v.write (.ordered indent) (depth + 1))
          (.array done :: stack, expects) (.array done :: stack, .after v.coded) := by
      have within := depthItems_le_iff.1 (Nat.le_refl _) v mem
      exact ih v mem (depth + 1) (by simp only [List.length_cons]; omega) due
    have read := reads_enclose (fun done => (.array (done.map coded) :: stack, .value))
      (fun v done => (.array (done.map coded) :: stack, .after v.coded))
      (fun done => (stack, .after (.arr (done.map coded).reverse))) (.ordered indent) depth opens
      (by decide) empty
      (fun _ _ => .mark .comma rfl (fun _ _ => rfl) (by simp) fun _ => rfl)
      (fun _ _ => .mark .closeArray rfl (fun _ _ => rfl) (by simp) fun _ => rfl)
      items (fun v mem => item v mem [] (.inr rfl)) fun v mem done => item v mem _ (.inl rfl)
    rw [write, writeItems_eq, coded_arr]
    rw [List.map_reverse, List.reverse_reverse] at read
    exact read.apart
  | @obj fields distinct each ih =>
    rw [JsonOf.depth] at room
    have opens : Reads limit ['\x7b'] (stack, expects) (.object [] :: stack, .firstName) := by
      refine .mark .openObject rfl (fun _ _ => rfl) (by simp) fun _ => ?_
      obtain rfl | rfl := due <;> exact if_pos (by omega)
    have empty : Reads limit ['\x7d'] (.object [] :: stack, .firstName)
        (stack, .after (.obj [])) :=
      .mark .closeObject rfl (fun _ _ => rfl) (by simp) fun _ => rfl
    have field (f : Text × Json) (mem : f ∈ fields) (done : FieldsOf CodePoint)
        {expects : Expects} (named : expects = .firstName ∨ expects = .name) :
        ReadsApart limit (writeField indent (depth + 1) f) (.object done :: stack, expects)
          (.field done (Text.coded f.1) :: stack, .after f.2.coded) := by
      have within := depthFields_le_iff.1 (Nat.le_refl _) f mem
      exact reads_writeField named
        (ih f mem (depth + 1) (by simp only [List.length_cons]; omega) (.inl rfl))
    have read := reads_enclose (fun done => (.object (Fields.coded done) :: stack, .name))
      (fun f done => (.field (Fields.coded done) (Text.coded f.1) :: stack, .after (coded f.2)))
      (fun done => (stack, .after (.obj (FieldsOf.ofList (Fields.coded done).reverse))))
      (.ordered indent) depth opens (by decide) empty
      (fun _ _ => .mark .comma rfl (fun _ _ => rfl) (by simp) fun _ => rfl)
      (fun _ _ => .mark .closeObject rfl (fun _ _ => rfl) (by simp) fun _ => rfl)
      fields (fun f mem => field f mem [] (.inl rfl)) fun f mem done => field f mem _ (.inr rfl)
    rw [write, arrange_writeFields, Fields.coded_obj]
    rw [Fields.coded, List.map_reverse, List.reverse_reverse, ← Fields.coded,
      FieldsOf.ofList_of_nodup (Fields.nodup_coded distinct)] at read
    exact read.apart

/-- A written value starts with a printable ASCII character. -/
theorem write_start {v : Json} (plain : Plain v) (l : Layout) (depth : Nat) :
    ∃ c rest, v.write l depth = c :: rest ∧ 0x20 < c.toNat ∧ c.toNat < 0x7F := by
  have enclosed (opening closing : Char) (pieces : List Text) :
      ∃ rest, l.enclose depth opening closing pieces = opening :: rest := by
    unfold Layout.enclose
    split
    next => exact ⟨_, rfl⟩
    next => exact ⟨_, rfl⟩
  cases plain with
  | null => exact ⟨_, _, rfl, by decide⟩
  | bool b => cases b <;> exact ⟨_, _, rfl, by decide⟩
  | @int n =>
    rw [write]
    cases n with
    | negSucc m => exact ⟨'-', _, rfl, by decide⟩
    | ofNat m =>
      obtain ⟨c, rest, digits⟩ := List.exists_cons_of_ne_nil (ofNat_ne_nil m)
      have digit : c.isDigit = true := isDigit_of_mem_ofNat (digits ▸ List.mem_cons_self)
      refine ⟨c, rest, digits, ?_⟩
      have bounds : 48 ≤ c.toNat ∧ c.toNat ≤ 57 := Char.isDigit_iff_toNat.1 digit
      omega
  | str s => exact ⟨'"', _, rfl, by decide⟩
  | @arr items =>
    obtain ⟨rest, start⟩ := enclosed '[' ']' (writeItems l (depth + 1) items)
    exact ⟨'[', rest, start, by decide⟩
  | @obj fields =>
    obtain ⟨rest, start⟩ := enclosed '\x7b' '\x7d' (l.arrange (writeFields l (depth + 1) fields))
    exact ⟨'\x7b', rest, start, by decide⟩

/-- Values that are not nested too deep are read back as they were written. -/
theorem decode_write {limit : Nat} {v : Json} (plain : Plain v) (shallow : v.depth ≤ limit)
    (indent : Option Nat) : decode limit (v.write (.ordered indent) 0) = .ok v.coded := by
  obtain ⟨c, rest, start, -, ascii⟩ := write_start plain (.ordered indent) 0
  have unmarked : (v.write (.ordered indent) 0).head? ≠ some '\ufeff' := by
    rw [start]
    rintro ⟨⟩
    contradiction
  have room : ([] : List Frame).length + v.depth ≤ limit := by
    rw [List.length_nil, Nat.zero_add]
    exact shallow
  have read := reads_write plain indent 0 room (.inl rfl)
    (v.write (.ordered indent) 0).length 0 [] nofun
  rw [List.append_nil, tokens, run] at read
  rw [decode, if_neg unmarked, read]

section Characters

variable {indent : Option Nat}

/-- Characters that are no controls, and line feeds where a value is laid out on lines. -/
def Shows (indent : Option Nat) (t : Text) : Prop :=
  ∀ c ∈ t, 0x20 ≤ c.toNat ∨ c = '\n' ∧ indent.isSome

theorem Shows.append {s t : Text} (first : Shows indent s) (second : Shows indent t) :
    Shows indent (s ++ t) :=
  fun c mem => (List.mem_append.1 mem).elim (first c) (second c)

theorem shows_of_all {t : Text} (visible : t.all (0x20 ≤ ·.toNat) = true) : Shows indent t :=
  fun c mem => .inl (by simpa using List.all_eq_true.1 visible c mem)

theorem shows_writeString (s : Text) : Shows indent (writeString false s) := by
  have escaped (c : Char) : Shows indent (escapeChar false c) := by
    refine shows_of_all ?_
    fun_cases escapeChar false c with
    | case8 _ _ _ _ _ _ _ escaped =>
      have control : c.toNat < 0x20 := by simpa using escaped
      rw [unitEscapes, if_pos (by omega)]
      exact (by decide : ∀ n < 0x20, (unitEscape n).all (0x20 ≤ ·.toNat) = true) _ control
    | case9 _ _ _ _ _ _ _ plain =>
      have large : ¬ c.toNat < 0x20 := by simpa using plain
      simpa using large
    | _ => decide
  have quote : Shows indent ['"'] := shows_of_all (by decide)
  refine (Shows.append (s := '"' :: s.flatMap (escapeChar false)) ?_ quote)
  refine Shows.append (s := ['"']) quote fun d mem => ?_
  obtain ⟨c, -, within⟩ := List.mem_flatMap.1 mem
  exact escaped c d within

theorem shows_ofInt (n : Int) : Shows indent (Text.ofInt n) := by
  have digits (m : Nat) : Shows indent (Text.ofNat m) := by
    intro c mem
    have bounds : 48 ≤ c.toNat ∧ c.toNat ≤ 57 :=
      Char.isDigit_iff_toNat.1 (isDigit_of_mem_ofNat mem)
    exact .inl (by omega)
  cases n with
  | ofNat m => exact digits m
  | negSucc m => exact Shows.append (s := ['-']) (shows_of_all (by decide)) (digits (m + 1))

theorem shows_lineBreak (depth : Nat) : Shows indent ((Layout.ordered indent).lineBreak depth) := by
  intro c mem
  obtain feed | rfl := mem_lineBreak mem
  · exact .inr feed
  · exact .inl (by decide)

theorem shows_join {separator : Text} (between : Shows indent separator) {pieces : List Text}
    (each : ∀ t ∈ pieces, Shows indent t) : Shows indent (Text.join separator pieces) := by
  fun_induction Text.join separator pieces with
  | case1 => exact nofun
  | case2 t => exact each t List.mem_cons_self
  | case3 t rest _ ih =>
    exact ((each t List.mem_cons_self).append between).append
      (ih fun u mem => each u (List.mem_cons_of_mem t mem))

theorem shows_enclose {opening closing : Char}
    (marks : 0x20 ≤ opening.toNat ∧ 0x20 ≤ closing.toNat) (depth : Nat) {pieces : List Text}
    (each : ∀ t ∈ pieces, Shows indent t) :
    Shows indent ((Layout.ordered indent).enclose depth opening closing pieces) := by
  have opens : Shows indent [opening] := shows_of_all (by simpa using marks.1)
  have closes : Shows indent [closing] := shows_of_all (by simpa using marks.2)
  have separator : Shows indent ((Layout.ordered indent).separator (depth + 1)) := by
    obtain ⟨blank, separator, spaces⟩ := separator_eq (.ordered indent) (depth + 1)
    rw [separator]
    intro c mem
    obtain rfl | later := List.mem_cons.1 mem
    · exact .inl (by decide)
    · obtain feed | rfl := spaces c later
      · exact .inr feed
      · exact .inl (by decide)
  unfold Layout.enclose
  split
  next => exact opens.append closes
  next =>
    exact (((opens.append (shows_lineBreak _)).append (shows_join separator each)).append
      (shows_lineBreak _)).append closes

/-- What is written on one line has no control character. -/
theorem shows_write {v : Json} (plain : Plain v) (depth : Nat) :
    Shows indent (v.write (.ordered indent) depth) := by
  induction plain generalizing depth with
  | null =>
    rw [write]
    exact shows_of_all (by decide)
  | bool b =>
    cases b with
    | false =>
      rw [write]
      exact shows_of_all (by decide)
    | true =>
      rw [write]
      exact shows_of_all (by decide)
  | int => exact shows_ofInt _
  | str s => exact shows_writeString s
  | arr each ih =>
    rw [write, writeItems_eq]
    refine shows_enclose (by decide) depth fun t mem => ?_
    obtain ⟨v, member, rfl⟩ := List.mem_map.1 mem
    exact ih v member (depth + 1)
  | obj distinct each ih =>
    rw [write, arrange_writeFields]
    refine shows_enclose (by decide) depth fun t mem => ?_
    obtain ⟨f, member, rfl⟩ := List.mem_map.1 mem
    have marks : Shows indent [':', ' '] := shows_of_all (by decide)
    have field := ((shows_writeString f.1).append marks).append (ih f member (depth + 1))
    simpa only [writeField, List.append_assoc, List.cons_append, List.nil_append] using field

end Characters

end Json

end SqlReplay
