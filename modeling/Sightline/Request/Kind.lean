/-!
# Kinds of requests

Each kind of request has one place in the channel. All but the first two belong to the typed
family, whose requests name their type.
-/

namespace Sightline

/-- The kind of a request. -/
inductive RequestKind
  | link
  | accessPoint
  | polygon
  | grantGeography
  | zipGeography
  | countyGeography
  | censusBlockGeography
  | viewshed
  deriving DecidableEq, Repr, Inhabited

namespace RequestKind

/-- All kinds in their order. -/
def all : List RequestKind :=
  [.link, .accessPoint, .polygon, .grantGeography, .zipGeography, .countyGeography,
    .censusBlockGeography, .viewshed]

theorem mem_all (k : RequestKind) : k ∈ all := by cases k <;> decide

/-- The type that a request of the typed family names. -/
def requestType? : RequestKind → Option String
  | .link => none
  | .accessPoint => none
  | .polygon => some "standard_polygon"
  | .grantGeography => some "grant_geography"
  | .zipGeography => some "zip_geography"
  | .countyGeography => some "county_geography"
  | .censusBlockGeography => some "census_block_geography"
  | .viewshed => some "viewshed"

/-- The label of a kind. -/
def label : RequestKind → String
  | .link => "link"
  | .accessPoint => "access_point"
  | k => k.requestType?.getD "unknown"

/-- The name of a kind in stored values; it differs from the label for polygons. -/
def name : RequestKind → String
  | .polygon => "polygon"
  | k => k.label

/-- The kind with a label. -/
def ofLabel? (text : String) : Option RequestKind := all.find? fun k => k.label = text

end RequestKind

end Sightline
