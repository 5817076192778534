import Mathlib.Data.List.Induction
import SignerLink.Proofs.Json.Merge
import SignerLink.Settings.Environment
/-!
Variables as layers of settings. Each variable that leads somewhere is a layer of its own, in order
at any depth, and the environment is these layers laid over each other.
-/

namespace SignerLink

namespace Environment

open Json (IsOrdered)

variable {fuel : Nat} {text rest : List Char} {json : Json}

/-! Values. -/

theorem decimal?_isOrdered (read : decimal? text = some json) : json.IsOrdered := by
  have number (value : Option Binary64) :
      ((value.map fun value => Json.number (.float value)).getD .null).IsOrdered := by
    cases value with
    | none => exact .null
    | some value => exact .number _
  simp only [decimal?, Option.bind_eq_bind, Option.pure_def] at read
  obtain ⟨_, _, read⟩ := Option.bind_eq_some_iff.mp read
  split at read
  next => cases read
  next =>
    have finish {exponent : Option Int} {value : Int → Option Binary64}
        (read : (exponent.bind fun exponent =>
          some (((value exponent).map fun value => Json.number (.float value)).getD .null)) =
            some json) : json.IsOrdered := by
      obtain ⟨_, _, same⟩ := Option.bind_eq_some_iff.mp read
      cases same
      exact number _
    -- Every way to write the exponent ends in the same number.
    split at read
    next => exact finish read
    next =>
      split at read
      next => exact finish read
      next => exact finish read
    next =>
      split at read
      next => exact finish read
      next => exact finish read
    next => exact finish read

theorem integer?_isOrdered (read : integer? text = some json) : json.IsOrdered := by
  simp only [integer?] at read
  split at read
  next => cases read
  next =>
    obtain ⟨_, same⟩ := Option.ite_none_right_eq_some.mp read
    cases same
    exact .number _
  next => cases read

theorem plain_isOrdered (text : List Char) : (plain text).IsOrdered := by
  simp only [plain]
  cases decimal : decimal? text with
  | some json => exact decimal?_isOrdered decimal
  | none =>
      cases integer : integer? text with
      | some json => exact integer?_isOrdered integer
      | none => exact .string _

structure ReadsInOrder (fuel : Nat) : Prop where
  value : ∀ text json rest, value? fuel text = some (json, rest) → json.IsOrdered
  items : ∀ text items rest, items? fuel text = some (items, rest) → IsOrdered (.array items)
  entries : ∀ held text fields rest, IsOrdered (.object held) →
    entries? fuel held text = some (fields, rest) → IsOrdered (.object fields)

theorem value?_isOrdered (reads : ReadsInOrder fuel)
    (read : value? (fuel + 1) text = some (json, rest)) : json.IsOrdered := by
  have left {whole : Option (Json × List Char)}
      (read : (whole.bind fun read => some (read.1, skipBlanks read.2)) = some (json, rest)) :
      ∃ left, whole = some (json, left) := by
    obtain ⟨⟨value, left⟩, whole, same⟩ := Option.bind_eq_some_iff.mp read
    cases same
    exact ⟨left, whole⟩
  simp only [value?, Option.bind_eq_bind, Option.pure_def] at read
  split at read
  next =>
    cases read
    exact .bool true
  next =>
    cases read
    exact .bool false
  next =>
    obtain ⟨_, whole⟩ := left read
    obtain ⟨⟨items, _⟩, gathered, same⟩ := Option.map_eq_some_iff.mp whole
    cases same
    exact reads.items _ _ _ gathered
  next =>
    obtain ⟨_, whole⟩ := left read
    obtain ⟨⟨fields, _⟩, gathered, same⟩ := Option.map_eq_some_iff.mp whole
    cases same
    exact reads.entries _ _ _ _ .empty gathered
  next =>
    obtain ⟨_, whole⟩ := left read
    obtain ⟨_, _, same⟩ := Option.map_eq_some_iff.mp whole
    cases same
    exact .string _
  next =>
    cases read
    exact .string _
  next => cases read
  next =>
    cases read
    exact plain_isOrdered _

theorem items?_isOrdered {items : List Json} (reads : ReadsInOrder fuel)
    (read : items? (fuel + 1) text = some (items, rest)) : IsOrdered (.array items) := by
  rw [items?.eq_def] at read
  split at read
  next absent => cases absent
  next =>
    cases read
    exact .array [] (by simp)
  next same _ =>
    cases same
    simp only [Option.bind_eq_bind, Option.pure_def] at read
    obtain ⟨⟨item, _⟩, first, read⟩ := Option.bind_eq_some_iff.mp read
    have one := reads.value _ _ _ first
    split at read
    next =>
      simp only [Option.bind_eq_some_iff, Option.some.injEq, Prod.mk.injEq] at read
      obtain ⟨_, later, rfl, _⟩ := read
      have others := reads.items _ _ _ later
      exact .array _ (List.forall_mem_cons.mpr ⟨one, fun _ member => others.item member⟩)
    next =>
      cases read
      exact .array _ (List.forall_mem_singleton.mpr one)
    next => cases read

theorem entries?_isOrdered {held fields : Json.Fields} (reads : ReadsInOrder fuel)
    (gathered : IsOrdered (.object held))
    (read : entries? (fuel + 1) held text = some (fields, rest)) : IsOrdered (.object fields) := by
  rw [entries?.eq_def] at read
  split at read
  next absent => cases absent
  next =>
    cases read
    exact gathered
  next same _ =>
    cases same
    simp only [Option.bind_eq_bind, Option.pure_def] at read
    obtain ⟨⟨key, _⟩, _, read⟩ := Option.bind_eq_some_iff.mp read
    obtain ⟨_, _, read⟩ := Option.bind_eq_some_iff.mp read
    obtain ⟨⟨value, _⟩, here, read⟩ := Option.bind_eq_some_iff.mp read
    have ordered := gathered.insert key (reads.value _ _ _ here)
    split at read
    next => exact reads.entries _ _ _ _ ordered read
    next =>
      cases read
      exact ordered
    next => cases read

theorem readsInOrder (fuel : Nat) : ReadsInOrder fuel := by
  induction fuel with
  | zero =>
      constructor
      · intro _ _ _ read
        rw [value?] at read
        cases read
      · intro _ _ _ read
        rw [items?] at read
        cases read
      · intro _ _ _ _ _ read
        rw [entries?] at read
        cases read
  | succ fuel ih =>
      constructor
      · exact fun _ _ _ read => value?_isOrdered ih read
      · exact fun _ _ _ read => items?_isOrdered ih read
      · exact fun _ _ _ _ gathered read => entries?_isOrdered ih gathered read

theorem ofText_isOrdered (text : String) : (ofText text).IsOrdered := by
  simp only [ofText]
  split
  next read => exact (readsInOrder _).value _ _ _ read
  next => exact .string _

/-! Layers. -/

def layer (entry : String × String) : Json :=
  match path? entry.1 with
  | none => .object []
  | some path => nest (ofText entry.2) path

theorem splitPoints_ne_nil (text : List Char) : splitPoints text ≠ [] := by
  induction text with
  | nil => simp [splitPoints]
  | cons character rest ih =>
      rw [splitPoints.eq_def]
      split
      next => simp
      next => simp
      next => split <;> simp

theorem path?_ne_nil {name : String} {path : List String} (leads : path? name = some path) :
    path ≠ [] := by
  simp only [path?] at leads
  split at leads
  next =>
    split at leads
    next => cases leads
    next =>
      rw [← Option.some.inj leads]
      exact List.map_eq_nil_iff.not.mpr (splitPoints_ne_nil _)
  next => cases leads

theorem nest_isOrdered {value : Json} (ordered : value.IsOrdered) (path : List String) :
    (nest value path).IsOrdered := by
  induction path with
  | nil => exact ordered
  | cons key path ih => exact IsOrdered.empty.insert key ih

theorem layer_isOrdered (entry : String × String) : (layer entry).IsOrdered := by
  simp only [layer]
  split
  next => exact .empty
  next path _ => exact nest_isOrdered (ofText_isOrdered _) path

theorem layer_object (entry : String × String) : ∃ fields, layer entry = .object fields := by
  simp only [layer]
  split
  next => exact ⟨[], rfl⟩
  next path leads =>
    cases path with
    | nil => exact absurd rfl (path?_ne_nil leads)
    | cons key path => exact ⟨_, rfl⟩

theorem settings_object (environment : Environment) :
    ∃ fields, environment.settings = .object fields := by
  induction environment using List.reverseRecOn with
  | nil => exact ⟨[], rfl⟩
  | append_singleton environment entry ih =>
      simp only [settings, List.foldl_append, List.foldl_cons, List.foldl_nil]
      cases leads : path? entry.1 with
      | none => exact ih
      | some path =>
          obtain ⟨fields, object⟩ := layer_object entry
          simp only [layer, leads] at object
          simp only [object, Json.merge_object]
          exact ⟨_, rfl⟩

theorem settings_concat (environment : Environment) (entry : String × String) :
    settings (environment ++ [entry]) = (settings environment).merge (layer entry) := by
  simp only [layer]
  cases leads : path? entry.1 with
  | none =>
      obtain ⟨fields, object⟩ := settings_object environment
      simp only [Json.merge_object, object, Json.held, Json.mergeFields]
      simpa [settings, leads] using object
  | some path => simp [settings, leads]

theorem settings_isOrdered (environment : Environment) : environment.settings.IsOrdered := by
  induction environment using List.reverseRecOn with
  | nil => exact .empty
  | append_singleton environment entry ih =>
      rw [settings_concat]
      exact Json.merge_isOrdered ih (layer_isOrdered entry)

end Environment

end SignerLink
