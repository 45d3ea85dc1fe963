import FilterQuery.Filter.Basic

/-!
# Writing filter trees

A group is written with its mode and children, a filter with its kind and all its fields, in the
order of their names; a property that has no attribute or schema gets null for it.
-/

namespace FilterQuery

def FilterValue.toJson : FilterValue → Json
  | .single text => .string text
  | .multiple texts => .ofStrings texts

namespace Filter

def toJson : Filter → Json
  | .page operator value =>
    .object [("kind", .string "page"), ("operator", .string operator.name), ("value", value.toJson)]
  | .tags value includeExtensions =>
    .object [("includeExtensions", .bool includeExtensions), ("kind", .string "tags"),
      ("value", value.toJson)]
  | .fullText operator value =>
    .object [("kind", .string "full-text"), ("operator", .string operator.name),
      ("value", value.toJson)]
  | .property filter =>
    .object [("kind", .string "property"), ("operator", .string filter.operator.name),
      ("propertyIdent", .ofOption .string filter.propertyIdent),
      ("propertyName", .string filter.propertyName),
      ("propertySchema", .ofOption PropertySchema.toJson filter.propertySchema),
      ("value", filter.value.toJson)]
  | .pageReference value =>
    .object [("kind", .string "page-reference"), ("value", value.toJson)]
  | .task value includeExtensions includeAllStatusProperties =>
    .object [("includeAllStatusProperties", .bool includeAllStatusProperties),
      ("includeExtensions", .bool includeExtensions), ("kind", .string "task"),
      ("value", value.toJson)]
  | .priority value => .object [("kind", .string "priority"), ("value", value.toJson)]
  | .between startDate endDate dateProperty =>
    .object [("dateProperty", .string dateProperty.name), ("endDate", .string endDate),
      ("kind", .string "between"), ("startDate", .string startDate)]
  | .unknown => .object [("kind", .string "unknown")]

end Filter

namespace Node

mutual

def toJson : Node → Json
  | .group mode children =>
    .object [("children", .array (toJsonList children)), ("matchMode", .string mode.name)]
  | .leaf filter => filter.toJson

def toJsonList : List Node → List Json
  | [] => []
  | child :: children => child.toJson :: toJsonList children

end

end Node

end FilterQuery
