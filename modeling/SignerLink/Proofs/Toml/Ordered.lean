import SignerLink.Proofs.Json.Ordered
import SignerLink.Toml.Reader
/-!
Every document that is read holds values in order, at any depth.
-/

namespace SignerLink

namespace Toml

open Json (IsOrdered)

/-! Tables. -/

inductive Node.IsOrdered : Node → Prop where
  | value (json : Json) : json.IsOrdered → Node.IsOrdered (.value json)
  | table (origin : Origin) (entries : Entries) :
      (∀ entry ∈ entries, Node.IsOrdered entry.2) → Node.IsOrdered (.table origin entries)
  | tables (closed : List Json) (last : Entries) : (∀ json ∈ closed, json.IsOrdered) →
      (∀ entry ∈ last, Node.IsOrdered entry.2) → Node.IsOrdered (.tables closed last)

namespace Entries

def AllOrdered (entries : Entries) : Prop := ∀ entry ∈ entries, entry.2.IsOrdered

variable {entries inner : Entries} {key : String} {node : Node}

theorem fields_isOrdered (within : ∀ entry ∈ entries, entry.2.toJson.IsOrdered) :
    IsOrdered (.object (fields entries)) := by
  induction entries with
  | nil => simpa [fields] using IsOrdered.empty
  | cons entry rest ih =>
      obtain ⟨key, node⟩ := entry
      obtain ⟨first, later⟩ := List.forall_mem_cons.mp within
      rw [fields]
      exact (ih later).insert key first

end Entries

theorem Node.IsOrdered.toJson {node : Node} (ordered : node.IsOrdered) :
    node.toJson.IsOrdered := by
  induction ordered with
  | value json ordered => simpa [Node.toJson] using ordered
  | table origin entries _ ih =>
      rw [Node.toJson]
      exact Entries.fields_isOrdered ih
  | tables closed last before _ ih =>
      rw [Node.toJson]
      refine .array _ fun json member => ?_
      rcases List.mem_append.mp member with earlier | here
      · exact before json earlier
      · rw [List.mem_singleton.mp here]
        exact Entries.fields_isOrdered ih

namespace Entries

variable {entries inner : Entries} {key : String} {node : Node}

theorem AllOrdered.nil : AllOrdered [] := fun _ member => absurd member List.not_mem_nil

theorem AllOrdered.toJson (ordered : AllOrdered entries) : (toJson entries).IsOrdered :=
  fields_isOrdered fun entry member => (ordered entry member).toJson

theorem AllOrdered.find? (ordered : AllOrdered entries) (found : find? key entries = some node) :
    node.IsOrdered := by
  induction entries with
  | nil => cases found
  | cons entry rest ih =>
      obtain ⟨other, held⟩ := entry
      obtain ⟨first, later⟩ := List.forall_mem_cons.mp ordered
      simp only [Entries.find?] at found
      split at found
      next => exact Option.some.inj found ▸ first
      next => exact ih later found

theorem AllOrdered.insert (ordered : AllOrdered entries) (key : String) (held : node.IsOrdered) :
    AllOrdered (insert key node entries) := by
  induction entries with
  | nil => exact List.forall_mem_singleton.mpr held
  | cons entry rest ih =>
      obtain ⟨other, value⟩ := entry
      obtain ⟨first, later⟩ := List.forall_mem_cons.mp ordered
      simp only [Entries.insert]
      split
      next => exact List.forall_mem_cons.mpr ⟨held, later⟩
      next => exact List.forall_mem_cons.mpr ⟨first, ih later⟩

theorem AllOrdered.changeAt? {dotted : Bool} {change : Origin → Entries → Option Entries}
    (keeps : ∀ origin entries changed, AllOrdered entries → change origin entries = some changed →
      AllOrdered changed)
    {path : List String} {origin : Origin} {changed : Entries} (ordered : AllOrdered entries)
    (read : changeAt? dotted change path origin entries = some changed) : AllOrdered changed := by
  induction path generalizing origin entries changed with
  | nil => exact keeps origin entries changed ordered read
  | cons key path ih =>
      simp only [Entries.changeAt?, Option.bind_eq_bind, Option.pure_def] at read
      split at read
      next =>
        obtain ⟨inner, here, same⟩ := Option.bind_eq_some_iff.mp read
        cases same
        exact ordered.insert key (.table _ _ (ih .nil here))
      next origin table found =>
        split at read
        next => cases read
        next =>
          obtain ⟨inner, here, same⟩ := Option.bind_eq_some_iff.mp read
          cases same
          cases ordered.find? found with
          | table _ _ within => exact ordered.insert key (.table _ _ (ih within here))
      next closed last found =>
        obtain ⟨inner, here, same⟩ := Option.bind_eq_some_iff.mp read
        cases same
        cases ordered.find? found with
        | tables _ _ before within => exact ordered.insert key (.tables _ _ before (ih within here))
      next => cases read

theorem AllOrdered.assign? {path : List String} {value : Json} {changed : Entries}
    (ordered : AllOrdered entries) (held : value.IsOrdered)
    (read : assign? path key value entries = some changed) : AllOrdered changed := by
  refine ordered.changeAt? (fun origin entries changed ordered read => ?_) read
  split at read
  next => cases read
  next =>
    cases read
    exact ordered.insert key (.value _ held)

theorem AllOrdered.openTable? {path : List String} {changed : Entries}
    (ordered : AllOrdered entries) (read : openTable? path key entries = some changed) :
    AllOrdered changed := by
  refine ordered.changeAt? (fun origin entries changed ordered read => ?_) read
  split at read
  next =>
    cases read
    exact ordered.insert key (.table _ _ AllOrdered.nil)
  next inner found =>
    cases read
    cases ordered.find? found with
    | table _ _ within => exact ordered.insert key (.table _ _ within)
  next => cases read

theorem AllOrdered.openNext? {path : List String} {changed : Entries}
    (ordered : AllOrdered entries) (read : openNext? path key entries = some changed) :
    AllOrdered changed := by
  refine ordered.changeAt? (fun origin entries changed ordered read => ?_) read
  split at read
  next =>
    cases read
    exact ordered.insert key (.tables _ _ (by simp) AllOrdered.nil)
  next closed last found =>
    cases read
    cases ordered.find? found with
    | tables _ _ before within =>
        refine ordered.insert key (.tables _ _ (fun json member => ?_) AllOrdered.nil)
        rcases List.mem_append.mp member with earlier | here
        · exact before json earlier
        · rw [List.mem_singleton.mp here]
          exact AllOrdered.toJson within
  next => cases read

end Entries

/-! Values. -/

section Values

variable {fuel depth : Nat} {text rest : List Char} {json : Json}

theorem integer?_isOrdered {value : Int} (read : integer? value = some json) :
    json.IsOrdered := by
  simp only [integer?] at read
  split at read
  next =>
    cases read
    exact .number _
  next => cases read

theorem fractional?_isOrdered {negative : Bool} {digits : List Nat} {exponent : Int}
    (read : fractional? negative digits exponent = some json) : json.IsOrdered := by
  simp only [fractional?] at read
  split at read
  next =>
    cases read
    exact .number _
  next =>
    split at read
    next =>
      cases read
      exact .null
    next => cases read

theorem exponential?_isOrdered {negative : Bool} {digits : List Nat} {places : Nat}
    (read : exponential? negative digits places text = some (json, rest)) : json.IsOrdered := by
  simp only [exponential?, Option.bind_eq_bind, Option.pure_def] at read
  split at read
  next =>
    simp only [Option.bind_eq_some_iff, Option.some.injEq, Prod.mk.injEq] at read
    obtain ⟨_, _, _, read, rfl, _⟩ := read
    exact fractional?_isOrdered read
  next =>
    simp only [Option.bind_eq_some_iff, Option.some.injEq, Prod.mk.injEq] at read
    obtain ⟨_, _, _, read, rfl, _⟩ := read
    exact fractional?_isOrdered read
  next =>
    simp only [Option.bind_eq_some_iff, Option.some.injEq, Prod.mk.injEq] at read
    obtain ⟨_, read, rfl, _⟩ := read
    exact fractional?_isOrdered read

theorem basedInteger?_isOrdered {base : Nat}
    (read : basedInteger? base text = some (json, rest)) : json.IsOrdered := by
  simp only [basedInteger?, Option.bind_eq_bind, Option.pure_def, Option.bind_eq_some_iff,
    Option.some.injEq, Prod.mk.injEq] at read
  obtain ⟨_, _, _, read, rfl, _⟩ := read
  exact integer?_isOrdered read

theorem unsigned?_isOrdered {negative : Bool}
    (read : unsigned? negative text = some (json, rest)) : json.IsOrdered := by
  simp only [unsigned?, Option.bind_eq_bind, Option.pure_def] at read
  split at read
  next =>
    cases read
    exact .null
  next =>
    cases read
    exact .null
  next =>
    obtain ⟨⟨_, _⟩, _, read⟩ := Option.bind_eq_some_iff.mp read
    split at read
    next =>
      obtain ⟨_, _, read⟩ := Option.bind_eq_some_iff.mp read
      exact exponential?_isOrdered read
    next => exact exponential?_isOrdered read
    next => exact exponential?_isOrdered read
    next =>
      simp only [Option.bind_eq_some_iff, Option.some.injEq, Prod.mk.injEq] at read
      obtain ⟨_, whole, rfl, _⟩ := read
      exact integer?_isOrdered whole

theorem number?_isOrdered (read : number? text = some (json, rest)) : json.IsOrdered := by
  simp only [number?] at read
  split at read
  next => exact basedInteger?_isOrdered read
  next => exact basedInteger?_isOrdered read
  next => exact basedInteger?_isOrdered read
  next => exact unsigned?_isOrdered read

theorem word?_isOrdered {word : List Char} {value : Json} (ordered : value.IsOrdered)
    (read : word? word value text = some (json, rest)) : json.IsOrdered := by
  simp only [word?] at read
  split at read
  next =>
    cases read
    exact ordered
  next => cases read

theorem moment?_isOrdered (read : moment? text = some (json, rest)) : json.IsOrdered := by
  simp only [moment?, Option.bind_eq_bind, Option.pure_def, Option.bind_eq_some_iff,
    Option.some.injEq, Prod.mk.injEq] at read
  obtain ⟨_, _, rfl, _⟩ := read
  exact IsOrdered.empty.insert "moment" (.string _)

theorem scalar?_isOrdered (read : scalar? text = some (json, rest)) : json.IsOrdered := by
  simp only [scalar?] at read
  split at read
  next =>
    obtain ⟨_, _, same⟩ := Option.map_eq_some_iff.mp read
    cases same
    exact .string _
  next =>
    obtain ⟨_, _, same⟩ := Option.map_eq_some_iff.mp read
    cases same
    exact .string _
  next => exact word?_isOrdered (.bool true) read
  next => exact word?_isOrdered (.bool false) read
  next =>
    cases moment : moment? text with
    | some found =>
        simp only [moment] at read
        cases read
        exact moment?_isOrdered moment
    | none =>
        simp only [moment] at read
        exact number?_isOrdered read

structure ReadsInOrder (fuel : Nat) : Prop where
  value : ∀ depth text json rest, value? fuel depth text = some (json, rest) → json.IsOrdered
  items : ∀ depth text items rest, items? fuel depth text = some (items, rest) →
    IsOrdered (.array items)
  pairs : ∀ depth held text entries rest, Entries.AllOrdered held →
    pairs? fuel depth held text = some (entries, rest) → Entries.AllOrdered entries

theorem value?_isOrdered (reads : ReadsInOrder fuel)
    (read : value? (fuel + 1) depth text = some (json, rest)) : json.IsOrdered := by
  simp only [value?] at read
  split at read
  next =>
    split at read
    next => cases read
    next =>
      split at read
      next =>
        cases read
        exact .array [] (by simp)
      next =>
        obtain ⟨⟨items, _⟩, gathered, same⟩ := Option.map_eq_some_iff.mp read
        cases same
        exact reads.items _ _ _ _ gathered
  next =>
    split at read
    next => cases read
    next =>
      split at read
      next =>
        cases read
        exact .empty
      next =>
        obtain ⟨⟨entries, _⟩, gathered, same⟩ := Option.map_eq_some_iff.mp read
        cases same
        exact (reads.pairs _ _ _ _ _ .nil gathered).toJson
  next => exact scalar?_isOrdered read

theorem items?_isOrdered {items : List Json} (reads : ReadsInOrder fuel)
    (read : items? (fuel + 1) depth text = some (items, rest)) : IsOrdered (.array items) := by
  simp only [items?, Option.bind_eq_bind, Option.pure_def] at read
  obtain ⟨⟨item, _⟩, first, read⟩ := Option.bind_eq_some_iff.mp read
  have one := reads.value _ _ _ _ first
  have single : IsOrdered (.array [item]) := .array _ (List.forall_mem_singleton.mpr one)
  split at read
  next =>
    split at read
    next =>
      cases read
      exact single
    next =>
      simp only [Option.bind_eq_some_iff, Option.some.injEq, Prod.mk.injEq] at read
      obtain ⟨_, later, rfl, _⟩ := read
      have others := reads.items _ _ _ _ later
      exact .array _ (List.forall_mem_cons.mpr ⟨one, fun _ member => others.item member⟩)
  next =>
    cases read
    exact single
  next => cases read

theorem pairs?_isOrdered {held entries : Entries} (reads : ReadsInOrder fuel)
    (gathered : Entries.AllOrdered held)
    (read : pairs? (fuel + 1) depth held text = some (entries, rest)) :
    Entries.AllOrdered entries := by
  simp only [pairs?, Option.bind_eq_bind, Option.pure_def] at read
  obtain ⟨⟨key, _⟩, _, read⟩ := Option.bind_eq_some_iff.mp read
  obtain ⟨_, _, read⟩ := Option.bind_eq_some_iff.mp read
  obtain ⟨⟨value, _⟩, here, read⟩ := Option.bind_eq_some_iff.mp read
  obtain ⟨more, added, read⟩ := Option.bind_eq_some_iff.mp read
  have ordered := gathered.assign? (reads.value _ _ _ _ here) added
  split at read
  next => exact reads.pairs _ _ _ _ _ ordered read
  next =>
    cases read
    exact ordered
  next => cases read

theorem readsInOrder (fuel : Nat) : ReadsInOrder fuel := by
  induction fuel with
  | zero =>
      constructor
      · intro _ _ _ _ read
        cases read
      · intro _ _ _ _ read
        cases read
      · intro _ _ _ _ _ _ read
        cases read
  | succ fuel ih =>
      constructor
      · exact fun _ _ _ _ read => value?_isOrdered ih read
      · exact fun _ _ _ _ read => items?_isOrdered ih read
      · exact fun _ _ _ _ _ gathered read => pairs?_isOrdered ih gathered read

end Values

/-! Lines. -/

section Lines

variable {document changed : Document} {text rest : List Char}

theorem line?_isOrdered (ordered : document.entries.AllOrdered)
    (read : line? document text = some (changed, rest)) : changed.entries.AllOrdered := by
  simp only [line?, Option.bind_eq_bind, Option.pure_def] at read
  split at read
  next =>
    simp only [Option.bind_eq_some_iff, Option.some.injEq, Prod.mk.injEq] at read
    obtain ⟨_, _, entries, added, rfl, _⟩ := read
    exact ordered.openNext? added
  next =>
    simp only [Option.bind_eq_some_iff, Option.some.injEq, Prod.mk.injEq] at read
    obtain ⟨_, _, entries, added, rfl, _⟩ := read
    exact ordered.openTable? added
  next =>
    simp only [Option.bind_eq_some_iff, Option.some.injEq, Prod.mk.injEq] at read
    obtain ⟨_, _, _, _, ⟨value, _⟩, here, added, written, _, _, rfl, _⟩ := read
    simp only [Document.assign?, Option.bind_eq_bind, Option.pure_def, Option.bind_eq_some_iff,
      Option.some.injEq] at written
    obtain ⟨entries, written, rfl⟩ := written
    exact ordered.changeAt? (fun _ _ _ within assigned =>
      within.assign? ((readsInOrder _).value _ _ _ _ here) assigned) written

theorem lines?_isOrdered {fuel : Nat} (ordered : document.entries.AllOrdered)
    (read : lines? fuel document text = some changed) : changed.entries.AllOrdered := by
  induction fuel generalizing document text with
  | zero => cases read
  | succ fuel ih =>
      simp only [lines?] at read
      split at read
      next =>
        cases read
        exact ordered
      next =>
        split at read
        next => exact ih ordered read
        next =>
          simp only [Option.bind_eq_bind, Option.bind_eq_some_iff] at read
          obtain ⟨⟨next, _⟩, here, read⟩ := read
          exact ih (line?_isOrdered ordered here) read

/-- A document that is read is an object in order. -/
theorem parse?_isOrdered {text : String} {json : Json} (read : parse? text = some json) :
    json.IsOrdered ∧ ∃ fields, json = .object fields := by
  simp only [parse?, Option.bind_eq_bind, Option.pure_def, Option.bind_eq_some_iff,
    Option.some.injEq] at read
  obtain ⟨document, whole, rfl⟩ := read
  exact ⟨(lines?_isOrdered Entries.AllOrdered.nil whole).toJson, _, rfl⟩

end Lines

end Toml

end SignerLink
