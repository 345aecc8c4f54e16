import SqlReplay.Proofs.Exec.RoundTrip

/-! What is reported of the warnings of a script. Different warnings have different messages, so
dropping repeated messages drops no warning, and each reported message tells its warning. -/

namespace SqlReplay

namespace Warning

/-- A warning that is raised before formatting: about the call as a whole or about a name. -/
def Planned : Warning → Prop
  | emptyCall | noAssignments => True
  | duplicateAssignment name | missingValue name | noLiteral name | uncertainType name _
  | unreferencedParam name | declaredUninitialized name | declaredVariant name
  | unresolved name | leftUnchanged name | bestEffort name _ => IsName name
  | formatterUnavailable | formatterFailed _ => False

def stem : Warning → String
  | emptyCall => "EXEC s"
  | noAssignments => "No par"
  | duplicateAssignment _ => "Duplic"
  | missingValue _ => "Missin"
  | noLiteral _ => "No lit"
  | uncertainType _ _ => "Type i"
  | unreferencedParam _ => "EXEC p"
  | declaredUninitialized _ | declaredVariant _ => "Declar"
  | unresolved _ => "Unreso"
  | leftUnchanged _ => "Placeh"
  | bestEffort _ _ => "Used b"
  | formatterUnavailable | formatterFailed _ => "SQL fo"

theorem take_message (w : Warning) : w.message.take 6 = w.stem.toList := by
  cases w
  all_goals
    delta message stem
    simp only [String.reduceToList, List.cons_append, List.take_succ_cons, List.take_zero]

theorem stem_of_message {w v : Warning} (same : w.message = v.message) : w.stem = v.stem := by
  have start := congrArg (List.take 6) same
  rwa [take_message, take_message, String.toList_inj] at start

end Warning

theorem LiteralIssue.eq_of_message (same : message i = message j) : i = j := by
  have start := congrArg (List.take 4) same
  revert start
  clear same
  cases i <;> cases j <;> decide

theorem eq_of_framed {start m n tail : Text} (same : start ++ m ++ tail = start ++ n ++ tail) :
    m = n :=
  List.append_cancel_left (List.append_cancel_right same)

/-- A name ends at the first character that is none of a name. -/
theorem eq_of_name_framed (first : IsName m) (second : IsName n)
    (stops : Cursor.isNameChar c = false) {start s t : Text}
    (same : start ++ m ++ c :: s = start ++ n ++ c :: t) : m = n ∧ s = t := by
  rw [List.append_assoc, List.append_assoc] at same
  have whole := List.append_cancel_left same
  obtain ⟨m, rfl, _, named⟩ := first
  obtain ⟨n, rfl, _, named'⟩ := second
  have ends (more : Text) : ∀ d, (c :: more).head? = some d → Cursor.isNameChar d = false := by
    rintro d ⟨⟩
    exact stops
  have rest : m ++ c :: s = n ++ c :: t := (List.cons.inj whole).2
  have start : m = n := by
    rw [← takeWhile_append_stop named (ends s), rest, takeWhile_append_stop named' (ends t)]
  subst start
  exact ⟨rfl, (List.cons.inj (List.append_cancel_left rest)).2⟩

namespace Warning

theorem message_uncertainType (name : Text) (issue : LiteralIssue) :
    (uncertainType name issue).message = "Type inference is not confident for ".toList ++ name ++
      ' ' :: '(' :: (issue.message ++ [')', '.']) := by
  delta message
  simp only [String.reduceToList, List.append_assoc, List.cons_append, List.nil_append]

theorem message_bestEffort (name : Text) (issue : LiteralIssue) :
    (bestEffort name issue).message =
      "Used best-effort value for ".toList ++ name ++ ':' :: ' ' :: issue.message := by
  delta message
  simp only [String.reduceToList, List.append_assoc, List.cons_append, List.nil_append]

theorem message_declared (name : Text) :
    (∃ more, (declaredUninitialized name).message =
      "Declaring ".toList ++ name ++ ' ' :: 'a' :: more) ∧
    ∃ more, (declaredVariant name).message = "Declaring ".toList ++ name ++ ' ' :: 'u' :: more := by
  delta message
  simp only [String.reduceToList, List.append_assoc, List.cons_append, List.nil_append]
  exact ⟨⟨_, rfl⟩, ⟨_, rfl⟩⟩

theorem declaredUninitialized_ne (first : IsName m) (second : IsName n) :
    (declaredUninitialized m).message ≠ (declaredVariant n).message := by
  obtain ⟨⟨more, left⟩, _⟩ := message_declared m
  obtain ⟨_, ⟨other, right⟩⟩ := message_declared n
  intro same
  rw [left, right] at same
  have rest := (eq_of_name_framed first second rfl same).2
  exact absurd (List.cons.inj rest).1 (by decide)

/-- Different warnings have different messages. -/
theorem eq_of_message (planned : Planned w) (planned' : Planned v)
    (same : w.message = v.message) : w = v := by
  have stem := stem_of_message same
  cases w <;> cases v <;> simp [Warning.stem] at stem
  case emptyCall.emptyCall | noAssignments.noAssignments => rfl
  case duplicateAssignment.duplicateAssignment => exact congrArg _ (eq_of_framed same)
  case missingValue.missingValue => exact congrArg _ (eq_of_framed same)
  case noLiteral.noLiteral => exact congrArg _ (eq_of_framed same)
  case unreferencedParam.unreferencedParam => exact congrArg _ (eq_of_framed same)
  case unresolved.unresolved => exact congrArg _ (eq_of_framed same)
  case leftUnchanged.leftUnchanged => exact congrArg _ (eq_of_framed same)
  case declaredUninitialized.declaredUninitialized =>
    exact congrArg _ (eq_of_framed (List.append_cancel_right (List.append_cancel_right same)))
  case declaredVariant.declaredVariant =>
    exact congrArg _ (eq_of_framed (List.append_cancel_right (List.append_cancel_right same)))
  case declaredUninitialized.declaredVariant =>
    exact absurd same (declaredUninitialized_ne planned planned')
  case declaredVariant.declaredUninitialized =>
    exact absurd same.symm (declaredUninitialized_ne planned' planned)
  case uncertainType.uncertainType =>
    rw [message_uncertainType, message_uncertainType] at same
    obtain ⟨rfl, rest⟩ := eq_of_name_framed planned planned' rfl same
    exact congrArg _ (LiteralIssue.eq_of_message (List.append_cancel_right (List.cons.inj rest).2))
  case bestEffort.bestEffort =>
    rw [message_bestEffort, message_bestEffort] at same
    obtain ⟨rfl, rest⟩ := eq_of_name_framed planned planned' rfl same
    exact congrArg _ (LiteralIssue.eq_of_message (List.cons.inj rest).2)
  all_goals contradiction

end Warning

section

variable {ws : List Warning} {v : Warning}

theorem distinctTexts_prefix (ws more : List Warning) :
    distinctTexts (ws.map Warning.message) <+:
      distinctTexts ((ws ++ more).map Warning.message) := by
  rw [distinctTexts_messages, distinctTexts_messages, List.map_append, List.eraseDups_append]
  exact List.prefix_append _ _

theorem mem_distinctTexts_iff (ws : List Warning) (text : Text) :
    text ∈ distinctTexts (ws.map Warning.message) ↔ ∃ w ∈ ws, w.message = text := by
  rw [distinctTexts_messages, List.mem_eraseDups, List.mem_map]

/-- A message is reported where its warning is raised. -/
theorem message_mem_iff (planned : ∀ w ∈ ws, w.Planned) (planned' : v.Planned) :
    v.message ∈ distinctTexts (ws.map Warning.message) ↔ v ∈ ws := by
  rw [mem_distinctTexts_iff]
  constructor
  · rintro ⟨w, member, same⟩
    exact Warning.eq_of_message (planned w member) planned' same ▸ member
  · intro member
    exact ⟨v, member, rfl⟩

/-- A message whose first letters no other has is reported last when it is raised last. -/
theorem distinctTexts_concat (fresh : ∀ w ∈ ws, w.stem ≠ v.stem) :
    distinctTexts ((ws ++ [v]).map Warning.message) =
      distinctTexts (ws.map Warning.message) ++ [v.message] := by
  have unseen : v.message ∉ ws.map Warning.message := by
    intro member
    obtain ⟨w, among, same⟩ := List.mem_map.1 member
    exact fresh w among (Warning.stem_of_message same)
  rw [distinctTexts_messages, distinctTexts_messages, List.map_append, List.map_singleton,
    eraseDups_concat, if_neg unseen]

theorem nodup_distinctTexts (ws : List Warning) :
    (distinctTexts (ws.map Warning.message)).Nodup := by
  rw [distinctTexts_messages, eraseDups_eq_distinctBy]
  simpa using nodup_distinctBy id (ws.map Warning.message)

theorem distinctTexts_eq_nil_iff (ws : List Warning) :
    distinctTexts (ws.map Warning.message) = [] ↔ ws = [] := by
  cases ws with
  | nil => simp [distinctTexts]
  | cons w ws =>
    rw [distinctTexts_messages, List.map_cons, List.eraseDups_cons]
    simp

end

end SqlReplay
