import SignerLink.Json.Value
/-!
Looking up, inserting and erasing fields of an object, whether or not the keys are sorted.
-/

namespace SignerLink

namespace Json

namespace Fields

variable {key other : String} {value held : Json} {rest : Fields}

theorem insert_nil : insert key value [] = [(key, value)] := rfl

theorem insert_before (differ : other ≠ key) (before : key < other) :
    insert key value ((other, held) :: rest) = (key, value) :: (other, held) :: rest := by
  rw [insert, if_neg differ, if_pos before]

theorem insert_after (differ : other ≠ key) (after : ¬key < other) :
    insert key value ((other, held) :: rest) = (other, held) :: insert key value rest := by
  rw [insert, if_neg differ, if_neg after]

theorem find?_insert (fields : Fields) : find? key (insert key value fields) = some value := by
  induction fields with
  | nil => simp [insert, find?]
  | cons field rest ih =>
      obtain ⟨other, held⟩ := field
      by_cases same : other = key
      · simp [insert, find?, same]
      · by_cases before : key < other
        · simp [insert, find?, same, before]
        · simp [insert, find?, same, before, ih]

theorem find?_insert_of_ne (differ : key ≠ other) (fields : Fields) :
    find? other (insert key value fields) = find? other fields := by
  induction fields with
  | nil => simp [insert, find?, differ]
  | cons field rest ih =>
      obtain ⟨named, held⟩ := field
      by_cases same : named = key
      · simp [insert, find?, same, differ]
      · by_cases before : key < named
        · simp [insert, find?, same, before, differ]
        · simp [insert, find?, same, before, ih]

theorem find?_of_asString? {fields : Fields} {text : String}
    (read : (find? key fields).bind asString? = some text) :
    find? key fields = some (.string text) := by
  obtain ⟨value, found, same⟩ := Option.bind_eq_some_iff.mp read
  cases value with
  | string value =>
      cases same
      exact found
  | null | bool _ | number _ | array _ | object _ => cases same

theorem find?_erase (fields : Fields) : find? key (erase key fields) = none := by
  induction fields with
  | nil => rfl
  | cons field rest ih =>
      obtain ⟨other, held⟩ := field
      by_cases same : other = key
      · simpa [erase, same] using ih
      · simpa [erase, find?, same] using ih

theorem erase_of_absent {fields : Fields} (absent : find? key fields = none) :
    erase key fields = fields := by
  induction fields with
  | nil => rfl
  | cons field rest ih =>
      obtain ⟨other, held⟩ := field
      by_cases same : other = key
      · simp [find?, same] at absent
      · simp only [find?, same, if_false] at absent
        simpa [erase, same] using ih absent

theorem erase_insert_of_absent {fields : Fields} (absent : find? key fields = none) :
    erase key (insert key value fields) = fields := by
  have kept := erase_of_absent absent
  induction fields with
  | nil => simp [insert, erase]
  | cons field rest ih =>
      obtain ⟨other, held⟩ := field
      by_cases same : other = key
      · simp [find?, same] at absent
      · simp only [find?, same, if_false] at absent
        have tail := erase_of_absent absent
        by_cases before : key < other
        · simpa [insert, erase, same, before] using tail
        · simpa [insert, erase, same, before] using ih absent tail

end Fields

end Json

end SignerLink
