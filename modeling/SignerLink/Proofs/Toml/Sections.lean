import SignerLink.Proofs.Json.Fields
import SignerLink.Toml.Reader
/-!
Documents of sections: a header, and below it one key with its value on each line. They read back
section by section, whatever the values are, as long as each of them reads back from its line.
-/

namespace SignerLink

namespace Toml

variable {key name : String} {next mark : Char} {line more rest : List Char} {json : Json}
variable {fuel : Nat} {document : Document}

/-! Starts of lines. -/

def startsLine : List Char → Bool
  | [] => false
  | character :: _ => isBare character || character == '['

theorem skipBlanks_of_starts (starts : startsLine line = true) : skipBlanks line = line := by
  rw [skipBlanks.eq_def]
  split
  next => cases starts
  next => cases starts
  next => rfl

theorem skipComment_of_starts (starts : startsLine line = true) : skipComment line = line := by
  rw [skipComment.eq_def]
  split
  next => cases starts
  next => rfl

theorem nextLine?_of_starts (starts : startsLine line = true) : nextLine? line = none := by
  rw [nextLine?.eq_def, skipBlanks_of_starts starts, skipComment_of_starts starts]
  split
  next => cases starts
  next => cases starts
  next => cases starts
  next => rfl

theorem lines?_of_starts (starts : startsLine line = true) :
    lines? (fuel + 1) document line =
      (line? document line).bind fun read => lines? fuel read.1 read.2 := by
  rw [lines?, skipBlanks_of_starts starts]
  split
  next => cases starts
  next => simp [nextLine?_of_starts starts]

theorem nextLine?_line (rest : List Char) : nextLine? ('\n' :: rest) = some rest := by
  simp [nextLine?, skipBlanks, skipComment]

theorem lines?_line : lines? (fuel + 1) document ('\n' :: rest) = lines? fuel document rest := by
  simp [lines?, skipBlanks, nextLine?_line]

theorem lines?_nil : lines? (fuel + 1) document [] = some document := by
  simp [lines?, skipBlanks]

/-! Keys. -/

def IsBareKey (key : String) : Prop := (!key.toList.isEmpty && key.toList.all isBare) = true

instance : DecidablePred IsBareKey := fun key =>
  inferInstanceAs (Decidable ((!key.toList.isEmpty && key.toList.all isBare) = true))

theorem isBareKey_iff :
    IsBareKey key ↔ key.toList ≠ [] ∧ ∀ character ∈ key.toList, isBare character = true := by
  rw [IsBareKey, Bool.and_eq_true, List.all_eq_true, Bool.not_eq_true', List.isEmpty_eq_false_iff]

theorem IsBareKey.cons (bare : IsBareKey key) :
    ∃ first characters, key.toList = first :: characters ∧ isBare first = true := by
  obtain ⟨further, all⟩ := isBareKey_iff.mp bare
  rcases written : key.toList with _ | ⟨first, characters⟩
  · exact absurd written further
  · exact ⟨first, characters, rfl, all first (written ▸ List.mem_cons_self)⟩

theorem IsBareKey.starts (bare : IsBareKey key) (more : List Char) :
    startsLine (key.toList ++ more) = true := by
  obtain ⟨first, characters, written, here⟩ := bare.cons
  simp [startsLine, written, here]

theorem segment?_bare (bare : IsBareKey key) (stop : isBare next = false) (more : List Char) :
    segment? (key.toList ++ next :: more) = some (key, next :: more) := by
  obtain ⟨further, all⟩ := isBareKey_iff.mp bare
  have taken : (key.toList ++ next :: more).takeWhile isBare = key.toList := by
    rw [List.takeWhile_append_of_pos all, List.takeWhile_cons, stop]
    simp
  have left : (key.toList ++ next :: more).dropWhile isBare = next :: more := by
    rw [List.dropWhile_append_of_pos all, List.dropWhile_cons, stop]
    simp
  have starts := bare.starts (next :: more)
  rw [segment?.eq_def]
  split
  next same => simp [same, startsLine, isBare] at starts
  next same => simp [same, startsLine, isBare] at starts
  next => simp [taken, left, further]

theorem key?_bare (bare : IsBareKey key) (stop : isBare next = false)
    (after : skipBlanks (next :: more) = mark :: rest) (single : mark ≠ '.') :
    key? (fuel + 1) (key.toList ++ next :: more) = some (⟨[], key⟩, mark :: rest) := by
  simp only [key?, skipBlanks_of_starts (bare.starts _), segment?_bare bare stop,
    Option.bind_eq_bind, Option.bind_some, after]
  split
  next same => exact absurd (List.cons.inj same).1 single
  next => rfl

/-! Lines. -/

/-- The value is read from what is written for it, up to the end of the line. -/
def Reads (written : List Char) (value : Json) : Prop :=
  ∀ fuel depth rest, value? (fuel + 1) depth (skipBlanks (written ++ '\n' :: rest)) =
    some (value, '\n' :: rest)

structure Assignment where
  key : String
  written : List Char
  value : Json

namespace Assignment

def text (assignment : Assignment) : List Char :=
  assignment.key.toList ++ ' ' :: '=' :: ' ' :: (assignment.written ++ ['\n'])

def entry (assignment : Assignment) : String × Node := (assignment.key, .value assignment.value)

structure IsReadable (assignment : Assignment) : Prop where
  bare : IsBareKey assignment.key
  reads : Reads assignment.written assignment.value

end Assignment

theorem Assignment.text_append (assignment : Assignment) (rest : List Char) :
    assignment.text ++ rest =
      assignment.key.toList ++ ' ' :: '=' :: ' ' :: (assignment.written ++ '\n' :: rest) := by
  simp [text]

theorem line?_assignment {assignment : Assignment} (readable : assignment.IsReadable) :
    line? document (assignment.text ++ rest) =
      (document.assign? ⟨[], assignment.key⟩ assignment.value).map fun read => (read, rest) := by
  rw [assignment.text_append]
  obtain ⟨first, characters, written, here⟩ := readable.bare.cons
  have keyed : key? longestKey (assignment.key.toList ++
      ' ' :: '=' :: ' ' :: (assignment.written ++ '\n' :: rest)) =
        some (⟨[], assignment.key⟩, '=' :: ' ' :: (assignment.written ++ '\n' :: rest)) :=
    key?_bare readable.bare (by decide) rfl (by decide)
  have header : first ≠ '[' := by
    rintro rfl
    cases here
  have blank (more : List Char) : skipBlanks (' ' :: more) = skipBlanks more := by
    simp [skipBlanks]
  rw [line?.eq_def]
  split
  next same =>
    rw [written] at same
    exact absurd (List.cons.inj same).1 header
  next same =>
    rw [written] at same
    exact absurd (List.cons.inj same).1 header
  next =>
    simp only [keyed, past?, blank, readable.reads _ _ _, nextLine?_line, Option.bind_eq_bind,
      Option.bind_some, Option.pure_def, if_true]
    cases document.assign? ⟨[], assignment.key⟩ assignment.value <;> rfl

theorem line?_header (bare : IsBareKey name) (rest : List Char) :
    line? document ('[' :: (name.toList ++ ']' :: '\n' :: rest)) =
      (document.entries.openTable? [] name).map fun entries => (⟨entries, [name]⟩, rest) := by
  obtain ⟨first, characters, written, here⟩ := bare.cons
  have keyed : key? longestKey (name.toList ++ ']' :: '\n' :: rest) =
      some (⟨[], name⟩, ']' :: '\n' :: rest) :=
    key?_bare bare (by decide) rfl (by decide)
  rw [line?.eq_def]
  split
  next same =>
    rw [written] at same
    have double := (List.cons.inj (List.cons.inj same).2).1
    rw [double] at here
    cases here
  next same =>
    obtain rfl := (List.cons.inj same).2
    have closed : header? [']'] (name.toList ++ ']' :: '\n' :: rest) =
        some (⟨[], name⟩, rest) := by
      simp [header?, keyed, nextLine?_line]
    simp only [closed, Option.bind_eq_bind, Option.bind_some, Option.pure_def, List.nil_append]
    cases document.entries.openTable? [] name <;> rfl
  next other => exact absurd rfl (other _)

/-! Entries. -/

namespace Entries

variable {entries before after : Entries} {node : Node}

def Lacks (key : String) (entries : Entries) : Prop := ∀ entry ∈ entries, entry.1 ≠ key

theorem Lacks.nil (key : String) : Lacks key [] := fun _ member => absurd member List.not_mem_nil

theorem find?_of_lacks (absent : Lacks key before) (after : Entries) :
    find? key (before ++ after) = find? key after := by
  induction before with
  | nil => rfl
  | cons entry before ih =>
      obtain ⟨here, later⟩ := List.forall_mem_cons.mp absent
      simp [find?, here, ih later]

theorem insert_of_lacks (absent : Lacks key before) (after : Entries) (node : Node) :
    insert key node (before ++ after) = before ++ insert key node after := by
  induction before with
  | nil => rfl
  | cons entry before ih =>
      obtain ⟨here, later⟩ := List.forall_mem_cons.mp absent
      simp [insert, here, ih later]

theorem get?_toJson (entries : Entries) (key : String) :
    (toJson entries).get? key = (find? key entries).map Node.toJson := by
  change Json.Fields.find? key (fields entries) = _
  induction entries with
  | nil => simp [fields, Json.Fields.find?, find?]
  | cons entry entries ih =>
      obtain ⟨other, node⟩ := entry
      rw [fields, find?]
      split
      next same => rw [same, Json.Fields.find?_insert, Option.map_some]
      next differ => rw [Json.Fields.find?_insert_of_ne differ, ih]

theorem toJson_value (value : Json) : (Node.value value).toJson = value := by
  rw [Node.toJson]

theorem toJson_table (origin : Origin) (entries : Entries) :
    (Node.table origin entries).toJson = entries.toJson := by
  rw [Node.toJson, toJson]

theorem openTable?_of_lacks (absent : Lacks name entries) :
    entries.openTable? [] name = some (entries ++ [(name, .table .header [])]) := by
  have missing : find? name entries = none := by simpa [find?] using find?_of_lacks absent []
  have added : insert name (.table .header []) entries =
      entries ++ [(name, .table .header [])] := by
    simpa [insert] using insert_of_lacks absent [] (.table .header [])
  simp [openTable?, changeAt?, missing, added]

theorem assign?_of_lacks {inner : Entries} (opened : Lacks name before)
    (absent : Lacks key inner) (value : Json) :
    Document.assign? ⟨before ++ [(name, .table .header inner)], [name]⟩ ⟨[], key⟩ value =
      some ⟨before ++ [(name, .table .header (inner ++ [(key, .value value)]))], [name]⟩ := by
  have found : find? name (before ++ [(name, .table .header inner)]) =
      some (.table .header inner) := by
    simp [find?_of_lacks opened, find?]
  have missing : find? key inner = none := by simpa [find?] using find?_of_lacks absent []
  have added : insert key (.value value) inner = inner ++ [(key, .value value)] := by
    simpa [insert] using insert_of_lacks absent [] (.value value)
  have grown (changed : Entries) :
      insert name (.table .header changed) (before ++ [(name, .table .header inner)]) =
        before ++ [(name, .table .header changed)] := by
    simp [insert_of_lacks opened, insert]
  have assigned : inner.assign? [] key value = some (inner ++ [(key, .value value)]) := by
    simp [assign?, changeAt?, missing, added]
  simp [Document.assign?, changeAt?, found, assigned, grown]

end Entries

/-! Sections. -/

structure Section where
  name : String
  assignments : List Assignment

namespace Section

def text (part : Section) : List Char :=
  '[' :: (part.name.toList ++ ']' :: '\n' :: part.assignments.flatMap Assignment.text)

def entry (part : Section) : String × Node :=
  (part.name, .table .header (part.assignments.map Assignment.entry))

structure IsReadable (part : Section) : Prop where
  bare : IsBareKey part.name
  distinct : (part.assignments.map Assignment.key).Nodup
  assignments : ∀ assignment ∈ part.assignments, assignment.IsReadable

end Section

variable {before inner : Entries} {assignments : List Assignment} {part : Section}

theorem lines?_assignments (readable : ∀ assignment ∈ assignments, assignment.IsReadable)
    (opened : Entries.Lacks name before)
    (absent : ∀ assignment ∈ assignments, Entries.Lacks assignment.key inner)
    (distinct : (assignments.map Assignment.key).Nodup) :
    lines? (fuel + assignments.length) ⟨before ++ [(name, .table .header inner)], [name]⟩
        (assignments.flatMap Assignment.text ++ rest) =
      lines? fuel ⟨before ++ [(name, .table .header (inner ++ assignments.map Assignment.entry))],
        [name]⟩ rest := by
  induction assignments generalizing inner with
  | nil => simp
  | cons assignment assignments ih =>
      obtain ⟨first, later⟩ := List.forall_mem_cons.mp readable
      obtain ⟨here, others⟩ := List.forall_mem_cons.mp absent
      rw [List.map_cons, List.nodup_cons] at distinct
      have starts : startsLine
          (assignment.text ++ (assignments.flatMap Assignment.text ++ rest)) = true := by
        rw [assignment.text_append]
        exact first.bare.starts _
      have kept : ∀ other ∈ assignments,
          Entries.Lacks other.key (inner ++ [(assignment.key, .value assignment.value)]) := by
        intro other member entry held
        rcases List.mem_append.mp held with earlier | last
        · exact others other member entry earlier
        · rw [List.mem_singleton.mp last]
          intro (same : assignment.key = other.key)
          exact distinct.1 (same ▸ List.mem_map_of_mem member)
      rw [List.length_cons, ← Nat.add_assoc, List.flatMap_cons, List.append_assoc,
        lines?_of_starts starts, line?_assignment first, Entries.assign?_of_lacks opened here,
        Option.map_some, Option.bind_some, ih later kept distinct.2, List.map_cons,
        List.append_assoc]
      rfl

theorem lines?_section (readable : part.IsReadable) (absent : Entries.Lacks part.name before)
    (path : List String) :
    lines? (fuel + (part.assignments.length + 1)) ⟨before, path⟩ (part.text ++ rest) =
      lines? fuel ⟨before ++ [part.entry], [part.name]⟩ rest := by
  have written : part.text ++ rest = '[' :: (part.name.toList ++ ']' :: '\n' ::
      (part.assignments.flatMap Assignment.text ++ rest)) := by
    simp [Section.text]
  rw [written, ← Nat.add_assoc, lines?_of_starts rfl, line?_header readable.bare,
    Entries.openTable?_of_lacks absent, Option.map_some, Option.bind_some,
    lines?_assignments readable.assignments absent (fun _ _ => .nil _) readable.distinct]
  rfl

theorem Section.length_le (part : Section) : part.assignments.length + 1 ≤ part.text.length := by
  have within (assignments : List Assignment) :
      assignments.length ≤ (assignments.flatMap Assignment.text).length := by
    induction assignments with
    | nil => simp
    | cons assignment assignments ih =>
        have one : 1 ≤ assignment.text.length := by
          simp only [Assignment.text, List.length_append, List.length_cons]
          omega
        simp only [List.length_cons, List.flatMap_cons, List.length_append]
        omega
  have := within part.assignments
  simp only [text, List.length_cons, List.length_append]
  omega

/-- Two sections with a blank line between them are read as their two tables. -/
theorem parse?_sections {first second : Section} (one : first.IsReadable) (two : second.IsReadable)
    (differ : first.name ≠ second.name) :
    parse? (String.ofList (first.text ++ '\n' :: second.text)) =
      some (Entries.toJson [first.entry, second.entry]) := by
  obtain ⟨fuel, enough⟩ : ∃ fuel, (first.text ++ '\n' :: second.text).length + 1 =
      fuel + 1 + (second.assignments.length + 1) + 1 + (first.assignments.length + 1) := by
    have := first.length_le
    have := second.length_le
    rw [List.length_append, List.length_cons]
    exact ⟨first.text.length + second.text.length - first.assignments.length -
      second.assignments.length - 2, by omega⟩
  have opening : dropByteOrderMark (first.text ++ '\n' :: second.text) =
      first.text ++ '\n' :: second.text := rfl
  have last : lines? (fuel + 1 + (second.assignments.length + 1)) ⟨[first.entry], [first.name]⟩
      (second.text ++ []) =
        lines? (fuel + 1) ⟨[first.entry, second.entry], [second.name]⟩ [] :=
    lines?_section two (List.forall_mem_singleton.mpr differ) _
  have whole : lines? ((first.text ++ '\n' :: second.text).length + 1) {}
      (first.text ++ '\n' :: second.text) =
        some ⟨[first.entry, second.entry], [second.name]⟩ := by
    rw [List.append_nil] at last
    rw [enough, lines?_section one (Entries.Lacks.nil _), lines?_line, List.nil_append, last,
      lines?_nil]
  simp only [parse?, String.toList_ofList, opening, whole, Option.bind_eq_bind, Option.bind_some,
    Option.pure_def]

end Toml

end SignerLink
