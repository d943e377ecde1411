import SamTemplate.Proofs.OutputReadBack

/-!
# Lenient readings

In the place of an integer or a text, templates may have a number, a truth value or a text. Such
a value is read at two places: in the tree itself, as most settings are (`Node.int?`,
`Node.text`), and in its JSON, as the properties of tables and buckets are
(`Reader.lenientInt64`, `Reader.lenientText`). The JSON is first sorted into one of the four
kinds of single values, and for the JSON of a tree that kind is the one of the node
(`Reader.scalar_toJson`).

* `Reader.lenient_toJson`: both places read the same integers and the same texts.
-/

namespace SamTemplate

open Reader

/-- The single value that a node is. Sequences, mappings, `null` and what is not finite are
    none. -/
def Node.scalar? : Node → Option Scalar
  | .bool value => some (.bool value)
  | .int value => some (.int value)
  | .float value => if value.isFinite then some (.float value) else none
  | .str text => some (.text text)
  | _ => none

/-- The text of a single value. -/
def Reader.Scalar.toText : Scalar → String
  | .int value => intText value.toInt
  | .float value => FloatLayout.plain.text value
  | .bool value => if value then "true" else "false"
  | .text value => value

namespace Reader

theorem lenientText_eq (json : Json) : lenientText json = (scalar json).map Scalar.toText := by
  rw [lenientText]
  cases scalar json with
  | error misfit => rfl
  | ok value => cases value <;> rfl

/-- In the JSON of a tree a single value is of the kind that it is of in the tree. -/
theorem scalar_toJson (node : Node) :
    scalar node.toJson = (node.scalar?.map Except.ok).getD (.error .notScalar) := by
  cases node with
  | int value => rw [Node.toJson, scalar, int64OfInt?_toInt]; rfl
  | float value =>
    rw [Node.toJson, Node.scalar?]
    split <;> rfl
  | _ => rfl

/-- A node with an integer is a single value. -/
theorem int?_eq_bind_scalar? (node : Node) :
    node.int? = node.scalar?.bind fun value => value.toInt64.toOption := by
  cases node with
  | float value =>
    rw [Node.int?, Node.scalar?]
    split <;> simp_all [Scalar.toInt64, Except.toOption]
  | str text =>
    rw [Node.int?, Node.scalar?, Option.bind_some, Scalar.toInt64]
    cases int64? (trimChars text.toList) <;> rfl
  | _ => rfl

theorem text_of_scalar? {node : Node} {value : Scalar} (h : node.scalar? = some value) :
    node.text = value.toText := by
  cases node with
  | float number =>
    rw [Node.scalar?] at h
    split at h
    · exact Option.some.inj h ▸ rfl
    · exact nomatch h
  | null | seq _ | map _ => exact nomatch h
  | _ => exact Option.some.inj h ▸ rfl

theorem lenientInt64_toJson (node : Node) : (lenientInt64 node.toJson).toOption = node.int? := by
  rw [lenientInt64, scalar_toJson, int?_eq_bind_scalar?]
  cases node.scalar? <;> rfl

theorem optional_of_ne_null {α : Type} (read : Reader α) {json : Json} (h : json ≠ .null) :
    optional read json = (read json).map some := by
  cases json with
  | null => exact absurd rfl h
  | _ => rfl

/-- Both places read the same. An integer is read from the JSON of a node if the node stands for
    it; where a value may be absent, `null` counts as absent and nothing else does; and a text is
    read if the node is a single value, and is what this stands for. -/
theorem lenient_toJson (node : Node) :
    (∀ i, lenientInt64 node.toJson = .ok i ↔ node.int? = some i) ∧
    (∀ json, (optional lenientInt64 json = .ok none ↔ json = .null) ∧
      (json ≠ .null → optional lenientInt64 json = (lenientInt64 json).map some)) ∧
    ∀ text, lenientText node.toJson = .ok text ↔
      node.scalar?.isSome = true ∧ text = node.text := by
  refine ⟨fun i => ?_, fun json => ⟨⟨fun h => ?_, fun h => h ▸ rfl⟩, optional_of_ne_null _⟩,
    fun text => ?_⟩
  · rw [← lenientInt64_toJson]
    cases lenientInt64 node.toJson <;> simp [Except.toOption]
  · -- A value that is read is there.
    by_contra hne
    rw [optional_of_ne_null _ hne] at h
    cases hread : lenientInt64 json <;> rw [hread] at h <;> exact nomatch h
  · rw [lenientText_eq, scalar_toJson]
    cases h : node.scalar? with
    | none => simp [Except.map]
    | some value => simp [Except.map, text_of_scalar? h, eq_comm]

end Reader

end SamTemplate
