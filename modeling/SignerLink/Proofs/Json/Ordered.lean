import SignerLink.Json.Reader
import SignerLink.Json.Record
import SignerLink.Proofs.Json.Fields
/-!
Values in order: every object, at any depth, holds each key once, and its keys ascend. Every value
that is read from a text is in order, and the slots of a record find in such an object just what
their keys hold.
-/

namespace SignerLink

namespace Json

def keys : Json → List String
  | .object fields => fields.map Prod.fst
  | _ => []

inductive IsOrdered : Json → Prop where
  | null : IsOrdered .null
  | bool (value : Bool) : IsOrdered (.bool value)
  | number (value : Number) : IsOrdered (.number value)
  | string (value : String) : IsOrdered (.string value)
  | array (items : List Json) : (∀ item ∈ items, item.IsOrdered) → IsOrdered (.array items)
  | object (fields : Fields) : (fields.map Prod.fst).Pairwise (· < ·) →
      (∀ field ∈ fields, field.2.IsOrdered) → IsOrdered (.object fields)

namespace Fields

variable {key other : String} {value held : Json} {fields : Fields}

theorem mem_insert {field : String × Json} (member : field ∈ insert key value fields) :
    field = (key, value) ∨ field ∈ fields := by
  induction fields with
  | nil => exact .inl (List.mem_singleton.mp member)
  | cons first rest ih =>
      obtain ⟨other, held⟩ := first
      simp only [insert] at member
      split at member
      next =>
        rcases List.mem_cons.mp member with here | later
        · exact .inl here
        · exact .inr (List.mem_cons_of_mem _ later)
      next =>
        split at member
        next => exact List.mem_cons.mp member
        next =>
          rcases List.mem_cons.mp member with here | later
          · exact .inr (here ▸ List.mem_cons_self)
          · exact (ih later).imp_right (List.mem_cons_of_mem _)

theorem insert_ascending (ascending : (fields.map Prod.fst).Pairwise (· < ·)) (key : String)
    (value : Json) : ((insert key value fields).map Prod.fst).Pairwise (· < ·) := by
  induction fields with
  | nil => simp [insert]
  | cons first rest ih =>
      obtain ⟨other, held⟩ := first
      rw [List.map_cons, List.pairwise_cons] at ascending
      obtain ⟨above, tail⟩ := ascending
      simp only [insert]
      split
      next same =>
        subst same
        exact List.pairwise_cons.mpr ⟨above, tail⟩
      next differ =>
        split
        next before =>
          refine List.pairwise_cons.mpr ⟨?_, List.pairwise_cons.mpr ⟨above, tail⟩⟩
          intro later member
          rcases List.mem_cons.mp member with same | member
          · exact same ▸ before
          · exact String.lt_trans before (above later member)
        next after =>
          refine List.pairwise_cons.mpr ⟨?_, ih tail⟩
          intro later member
          obtain ⟨field, within, rfl⟩ := List.mem_map.mp member
          rcases mem_insert within with same | stood
          · -- Of two different keys one comes first.
            rw [same]
            exact (Std.lt_of_le_of_ne (String.not_lt.mp after) differ : other < key)
          · exact above field.1 (List.mem_map_of_mem stood)

theorem mem_of_find? (found : find? key fields = some value) : (key, value) ∈ fields := by
  induction fields with
  | nil => cases found
  | cons first rest ih =>
      obtain ⟨other, held⟩ := first
      simp only [find?] at found
      split at found
      next same =>
        cases found
        exact same ▸ List.mem_cons_self
      next => exact List.mem_cons_of_mem _ (ih found)

theorem find?_eq_none_iff : find? key fields = none ↔ key ∉ fields.map Prod.fst := by
  induction fields with
  | nil => simp [find?]
  | cons first rest ih =>
      obtain ⟨other, held⟩ := first
      by_cases same : other = key
      · simp [find?, same]
      · simp [find?, same, Ne.symm same, ih]

theorem filter_key (distinct : (fields.map Prod.fst).Nodup) (key : String) :
    (fields.filter fun field => field.1 == key) =
      (find? key fields).toList.map fun value => (key, value) := by
  induction fields with
  | nil => rfl
  | cons first rest ih =>
      obtain ⟨other, held⟩ := first
      rw [List.map_cons, List.nodup_cons] at distinct
      obtain ⟨single, distinct⟩ := distinct
      by_cases same : other = key
      · have none : find? key rest = none := find?_eq_none_iff.mpr (same ▸ single)
        simp [find?, same, ih distinct, none]
      · simp [find?, same, ih distinct]

end Fields

namespace IsOrdered

variable {json value : Json} {fields : Fields} {key : String}

theorem empty : IsOrdered (.object []) := .object [] .nil (by simp)

theorem ascending (ordered : IsOrdered (.object fields)) :
    (fields.map Prod.fst).Pairwise (· < ·) := by
  cases ordered with
  | object _ ascending _ => exact ascending

theorem distinct (ordered : IsOrdered (.object fields)) : (fields.map Prod.fst).Nodup := by
  refine ordered.ascending.imp fun {earlier later} before => ?_
  rintro rfl
  exact String.lt_irrefl earlier before

theorem field (ordered : IsOrdered (.object fields)) {field : String × Json}
    (member : field ∈ fields) : field.2.IsOrdered := by
  cases ordered with
  | object _ _ within => exact within field member

theorem item {items : List Json} (ordered : IsOrdered (.array items)) (member : value ∈ items) :
    value.IsOrdered := by
  cases ordered with
  | array _ within => exact within value member

theorem get? (ordered : json.IsOrdered) (found : json.get? key = some value) :
    value.IsOrdered := by
  cases json with
  | object fields => exact ordered.field (Fields.mem_of_find? found)
  | null | bool _ | number _ | string _ | array _ => cases found

theorem insert (ordered : IsOrdered (.object fields)) (key : String) (held : value.IsOrdered) :
    IsOrdered (.object (Fields.insert key value fields)) := by
  refine .object _ (Fields.insert_ascending ordered.ascending key value) ?_
  intro field member
  rcases Fields.mem_insert member with rfl | stood
  · exact held
  · exact ordered.field stood

theorem erase (ordered : IsOrdered (.object fields)) (key : String) :
    IsOrdered (.object (Fields.erase key fields)) := by
  have fewer : (Fields.erase key fields).Sublist fields := List.filter_sublist
  exact .object _ (ordered.ascending.sublist (fewer.map Prod.fst))
    fun field member => ordered.field (fewer.subset member)

end IsOrdered

/-! Reading text. -/

section Reading

variable {fuel depth : Nat} {text rest : List Char} {json : Json}

theorem literal?_isOrdered {word : String} {value : Json} (ordered : value.IsOrdered)
    (read : literal? word value text = some (json, rest)) : json.IsOrdered := by
  simp only [literal?] at read
  split at read
  · cases read
    exact ordered
  · cases read

/-- What reading with this much fuel keeps: a value is in order, and so are the items and the
fields gathered so far. -/
structure ReadsInOrder (fuel : Nat) : Prop where
  value : ∀ depth text json rest, value? fuel depth text = some (json, rest) → json.IsOrdered
  items : ∀ depth reversed text items rest, IsOrdered (.array reversed) →
    items? fuel depth reversed text = some (items, rest) → IsOrdered (.array items)
  fields : ∀ depth held text fields rest, IsOrdered (.object held) →
    fields? fuel depth held text = some (fields, rest) → IsOrdered (.object fields)

theorem value?_isOrdered (reads : ReadsInOrder fuel)
    (read : value? (fuel + 1) depth text = some (json, rest)) : json.IsOrdered := by
  simp only [value?] at read
  split at read
  next =>
    split at read
    next => cases read
    next => cases read
    next =>
      split at read
      next =>
        cases read
        exact .array [] (by simp)
      next =>
        obtain ⟨⟨items, _⟩, gathered, same⟩ := Option.map_eq_some_iff.mp read
        cases same
        exact reads.items _ [] _ _ _ (.array [] (by simp)) gathered
  next =>
    split at read
    next => cases read
    next => cases read
    next =>
      split at read
      next =>
        cases read
        exact .empty
      next =>
        obtain ⟨⟨fields, _⟩, gathered, same⟩ := Option.map_eq_some_iff.mp read
        cases same
        exact reads.fields _ [] _ _ _ .empty gathered
  next =>
    obtain ⟨_, _, same⟩ := Option.map_eq_some_iff.mp read
    cases same
    exact .string _
  next => exact literal?_isOrdered (.bool true) read
  next => exact literal?_isOrdered (.bool false) read
  next => exact literal?_isOrdered .null read
  next =>
    obtain ⟨_, _, same⟩ := Option.map_eq_some_iff.mp read
    cases same
    exact .number _

theorem items?_isOrdered {reversed items : List Json} (reads : ReadsInOrder fuel)
    (gathered : IsOrdered (.array reversed))
    (read : items? (fuel + 1) depth reversed text = some (items, rest)) :
    IsOrdered (.array items) := by
  simp only [items?, Option.bind_eq_bind] at read
  obtain ⟨⟨item, _⟩, first, read⟩ := Option.bind_eq_some_iff.mp read
  have ordered : IsOrdered (.array (item :: reversed)) := by
    refine .array _ fun other member => ?_
    rcases List.mem_cons.mp member with rfl | member
    · exact reads.value _ _ _ _ first
    · exact gathered.item member
  split at read
  next => exact reads.items _ _ _ _ _ ordered read
  next =>
    cases read
    exact .array _ fun other member => ordered.item (List.mem_reverse.mp member)
  next => cases read

theorem fields?_isOrdered {held fields : Fields} (reads : ReadsInOrder fuel)
    (gathered : IsOrdered (.object held))
    (read : fields? (fuel + 1) depth held text = some (fields, rest)) :
    IsOrdered (.object fields) := by
  simp only [fields?, Option.bind_eq_bind] at read
  obtain ⟨⟨key, _⟩, _, read⟩ := Option.bind_eq_some_iff.mp read
  split at read
  next =>
    obtain ⟨⟨value, _⟩, first, read⟩ := Option.bind_eq_some_iff.mp read
    have ordered := gathered.insert key (reads.value _ _ _ _ first)
    split at read
    next => exact reads.fields _ _ _ _ _ ordered read
    next =>
      cases read
      exact ordered
    next => cases read
  next => cases read

theorem readsInOrder (fuel : Nat) : ReadsInOrder fuel := by
  induction fuel with
  | zero =>
      constructor
      · intro _ _ _ _ read
        cases read
      · intro _ _ _ _ _ _ read
        cases read
      · intro _ _ _ _ _ _ read
        cases read
  | succ fuel ih =>
      constructor
      · exact fun _ _ _ _ read => value?_isOrdered ih read
      · exact fun _ _ _ _ _ gathered read => items?_isOrdered ih gathered read
      · exact fun _ _ _ _ _ gathered read => fields?_isOrdered ih gathered read

/-- Every value that is read from a text is in order. -/
theorem parse?_isOrdered {text : String} {json : Json} (read : parse? text = some json) :
    json.IsOrdered := by
  simp only [parse?, Option.bind_eq_bind] at read
  obtain ⟨⟨value, _⟩, whole, read⟩ := Option.bind_eq_some_iff.mp read
  split at read
  next =>
    cases read
    exact (readsInOrder _).value _ _ _ _ whole
  next => cases read

end Reading

/-! Records. -/

namespace Slot

variable {fields : Fields}

theorem read?_single (distinct : (fields.map Prod.fst).Nodup) (key : String) (mayEnd : Bool) :
    read? ⟨[key], mayEnd⟩ fields = some (Fields.find? key fields) := by
  have alone : (fields.filter fun field => [key].contains field.1) =
      fields.filter fun field => field.1 == key := by
    simp only [List.contains_cons, List.contains_nil, Bool.or_false]
  rw [read?, alone, Fields.filter_key distinct key]
  cases Fields.find? key fields <;> rfl

theorem read?_congr {slot other : Slot}
    (same : ∀ field ∈ fields, slot.keys.contains field.1 = other.keys.contains field.1) :
    slot.read? fields = other.read? fields := by
  rw [read?, read?, List.filter_congr same]

theorem read?_reverse (slot : Slot) (fields : Fields) :
    slot.read? fields.reverse = slot.read? fields := by
  simp only [read?, List.filter_reverse]
  generalize (fields.filter fun field => slot.keys.contains field.1) = found
  rcases found with _ | ⟨first, _ | ⟨second, rest⟩⟩
  · rfl
  · rfl
  · -- Two fields stay two when they are turned round, and are refused.
    split
    next none => simp at none
    next key value one =>
      have length := congrArg List.length one
      simp at length
    next => rfl

theorem read?_either (distinct : (fields.map Prod.fst).Nodup) {key other : String}
    (differ : key ≠ other) (mayEnd : Bool) :
    read? ⟨[key, other], mayEnd⟩ fields =
      if (Fields.find? key fields).isSome && (Fields.find? other fields).isSome then none
      else some ((Fields.find? key fields).or (Fields.find? other fields)) := by
  have unheld {key : String} (absent : Fields.find? key fields = none) {field : String × Json}
      (member : field ∈ fields) : field.1 ≠ key := by
    rintro rfl
    exact Fields.find?_eq_none_iff.mp absent (List.mem_map_of_mem member)
  cases here : Fields.find? key fields with
  | none =>
      have only : read? ⟨[key, other], mayEnd⟩ fields = read? ⟨[other], mayEnd⟩ fields :=
        read?_congr fun field member => by simp [unheld here member]
      rw [only, read?_single distinct]
      rfl
  | some value =>
      cases there : Fields.find? other fields with
      | none =>
          have only : read? ⟨[key, other], mayEnd⟩ fields = read? ⟨[key], mayEnd⟩ fields :=
            read?_congr fun field member => by simp [unheld there member]
          rw [only, read?_single distinct, here]
          rfl
      | some held =>
          -- Both fields are found, so that there are two of them.
          have first : (key, value) ∈ fields.filter fun field => [key, other].contains field.1 :=
            List.mem_filter.mpr ⟨Fields.mem_of_find? here, by simp⟩
          have second : (other, held) ∈ fields.filter fun field => [key, other].contains field.1 :=
            List.mem_filter.mpr ⟨Fields.mem_of_find? there, by simp⟩
          simp only [read?]
          split
          next none =>
            rw [none] at first
            cases first
          next single =>
            rw [single, List.mem_singleton] at first second
            exact absurd (congrArg Prod.fst (first.trans second.symm)) differ
          next => rfl

theorem mem_of_read? {slot : Slot} {value : Json}
    (read : slot.read? fields = some (some value)) : ∃ key, (key, value) ∈ fields := by
  simp only [read?] at read
  split at read
  next => cases read
  next key held single =>
    cases read
    have member : (key, value) ∈ fields.filter fun field => slot.keys.contains field.1 :=
      single ▸ List.mem_singleton_self _
    exact ⟨key, (List.mem_filter.mp member).1⟩
  next => cases read

end Slot

theorem record?_reverse (slots : List Slot) (fields : Fields) :
    record? slots (.object fields.reverse) = record? slots (.object fields) := by
  simp only [record?, Slot.read?_reverse]

theorem IsOrdered.slots {fields : Fields} (ordered : IsOrdered (.object fields))
    {slots : List Slot} {values : List (Option Json)}
    (read : (slots.mapM fun slot => slot.read? fields) = some values) {value : Json}
    (member : some value ∈ values) : value.IsOrdered := by
  induction slots generalizing values with
  | nil =>
      cases read
      cases member
  | cons slot rest ih =>
      simp only [List.mapM_cons, Option.bind_eq_bind, Option.pure_def,
        Option.bind_eq_some_iff] at read
      obtain ⟨first, here, others, later, same⟩ := read
      cases same
      rcases List.mem_cons.mp member with rfl | member
      · obtain ⟨_, field⟩ := Slot.mem_of_read? here
        exact ordered.field field
      · exact ih later member

theorem IsOrdered.record {json : Json} (ordered : json.IsOrdered) {slots : List Slot}
    {values : List (Option Json)} (read : record? slots json = some values) {value : Json}
    (member : some value ∈ values) : value.IsOrdered := by
  cases json with
  | object fields => exact ordered.slots read member
  | array items =>
      simp only [record?] at read
      split at read
      next =>
        cases read
        rcases List.mem_append.mp member with item | missing
        · obtain ⟨_, within, same⟩ := List.mem_map.mp item
          cases same
          exact ordered.item within
        · obtain ⟨_, _, same⟩ := List.mem_map.mp missing
          cases same
      next => cases read
  | null | bool _ | number _ | string _ => cases read

end Json

end SignerLink
