import Mathlib.Algebra.Order.BigOperators.Group.List
import Mathlib.Algebra.Order.Ring.Nat
import LumenFlow.Kit.Fields
import LumenFlow.Model.Types

/-!
# Strings of the security helpers

A string of well-formed Unicode is modelled by its characters.
-/

namespace LumenFlow

open Kit

namespace Security

/-- A JavaScript string. -/
abbrev JsString := List Char

/-- `Buffer.from(text, "utf8")` -/
def utf8 (text : JsString) : Bytes := text.flatMap String.utf8EncodeChar

/-- The characters of well-formed UTF-8. -/
def fromUtf8 (bytes : Bytes) : Option JsString :=
  bytes.toByteArray.utf8Decode?.map Array.toList

/-- `text.split(".")` -/
def splitDots (text : JsString) : List JsString := text.splitOn '.'

/-- `fields.join(".")` -/
def joinDots (fields : List JsString) : JsString := ['.'].intercalate fields

theorem fromUtf8_utf8 (text : JsString) : fromUtf8 (utf8 text) = some text := by
  have read : (utf8 text).toByteArray.utf8Decode? = some text.toArray :=
    List.utf8Decode?_utf8Encode
  rw [fromUtf8, read, Option.map_some]

theorem utf8_injective : Function.Injective utf8 := by
  intro first second same
  have read := congrArg fromUtf8 same
  simpa only [fromUtf8_utf8, Option.some.injEq] using read

theorem splitDots_joinDots {fields : List JsString} (some : fields ≠ [])
    (plain : ∀ field ∈ fields, '.' ∉ field) : splitDots (joinDots fields) = fields :=
  List.splitOn_intercalate '.' plain some

theorem length_splitDots_joinDots {first : JsString} {fields : List JsString}
    (dotted : ∃ field ∈ first :: fields, '.' ∈ field) :
    fields.length + 1 < (splitDots (joinDots (first :: fields))).length := by
  rw [splitDots, joinDots, length_splitOn, count_intercalate]
  obtain ⟨field, member, dot⟩ := dotted
  have counted : List.count '.' field ≤ ((first :: fields).map (List.count '.')).sum :=
    List.single_le_sum (by simp) _ (List.mem_map_of_mem member)
  have positive := List.count_pos_iff.mpr dot
  omega

end Security

end LumenFlow
