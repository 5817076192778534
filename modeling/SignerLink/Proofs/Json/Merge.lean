import SignerLink.Json.Merge
import SignerLink.Proofs.Json.Ordered
/-!
What a value holds that was laid over another one: under each key the upper one's value over the
lower one's, and the lower one's where the upper one has none. Values in order stay in order.
-/

namespace SignerLink

namespace Json

def held : Json → Fields
  | .object fields => fields
  | _ => []

def overlay (lower upper : Option Json) : Option Json :=
  match upper with
  | none => lower
  | some value => some (merge (lower.getD (.object [])) value)

variable {lower value : Json} {fields : Fields} {key : String}

theorem find?_held (json : Json) (key : String) : Fields.find? key json.held = json.get? key := by
  cases json <;> rfl

theorem merge_object (lower : Json) (fields : Fields) :
    merge lower (.object fields) = .object (mergeFields lower.held fields) := by
  cases lower <;> simp [merge, held]

theorem merge_plain (lower : Json) (plain : ∀ fields, value ≠ .object fields) :
    merge lower value = value := by
  cases value with
  | object fields => exact absurd rfl (plain fields)
  | null | bool _ | number _ | string _ | array _ => simp [merge]

theorem find?_mergeFields (distinct : (fields.map Prod.fst).Nodup) (held : Fields)
    (key : String) :
    Fields.find? key (mergeFields held fields) =
      overlay (Fields.find? key held) (Fields.find? key fields) := by
  induction fields generalizing held with
  | nil => simp [mergeFields, Fields.find?, overlay]
  | cons field rest ih =>
      obtain ⟨other, value⟩ := field
      rw [List.map_cons, List.nodup_cons] at distinct
      rw [mergeFields, ih distinct.2]
      by_cases same : other = key
      · subst same
        have alone : Fields.find? other rest = none := Fields.find?_eq_none_iff.mpr distinct.1
        simp [alone, overlay, Fields.find?, Fields.find?_insert]
      · simp [Fields.find?, same, Fields.find?_insert_of_ne same]

theorem get?_merge (distinct : (fields.map Prod.fst).Nodup) (lower : Json) (key : String) :
    (merge lower (.object fields)).get? key =
      overlay (lower.get? key) (Fields.find? key fields) := by
  rw [merge_object, get?, find?_mergeFields distinct, find?_held]

mutual

theorem merge_isOrdered {lower upper : Json} (below : lower.IsOrdered) (above : upper.IsOrdered) :
    (merge lower upper).IsOrdered := by
  cases above with
  | object fields _ within =>
      rw [merge_object]
      refine mergeFields_isOrdered ?_ within
      cases lower with
      | object held => exact below
      | null | bool _ | number _ | string _ | array _ => exact .empty
  | null => simpa [merge] using IsOrdered.null
  | bool value => simpa [merge] using IsOrdered.bool value
  | number value => simpa [merge] using IsOrdered.number value
  | string value => simpa [merge] using IsOrdered.string value
  | array items within => simpa [merge] using IsOrdered.array items within

theorem mergeFields_isOrdered {held fields : Fields} (below : IsOrdered (.object held))
    (above : ∀ field ∈ fields, field.2.IsOrdered) :
    IsOrdered (.object (mergeFields held fields)) := by
  cases fields with
  | nil => simpa [mergeFields] using below
  | cons field rest =>
      obtain ⟨key, value⟩ := field
      rw [mergeFields]
      refine mergeFields_isOrdered (below.insert key (merge_isOrdered ?_ ?_)) ?_
      · cases found : Fields.find? key held with
        | none => exact .empty
        | some lower => exact below.field (Fields.mem_of_find? found)
      · exact above (key, value) List.mem_cons_self
      · exact fun later member => above later (List.mem_cons_of_mem _ member)

end

end Json

end SignerLink
