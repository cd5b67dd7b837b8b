import FeatureService.Encoder.Descriptor

/-!
# Built-in output formats

The encoders that every service has, in the order of registration. The first
one serves operations that name no format.
-/

namespace FeatureService.BuiltIn

def typeNameOf (format : String) : String :=
  "geoformat_runtime::formats::" ++ format ++ "OutputFormat"

def gml2 : Descriptor where
  aliases := ["GML2", "text/xml; subtype=gml/2.1.2"]
  predicate := .acceptAll
  identifierOverride := none
  typeName := some (typeNameOf "Gml2")
  mimeType := "text/xml; subtype=gml/2.1.2"
  publishMode := .primary

def gml3 : Descriptor where
  aliases := ["text/xml; subtype=gml/3.1.1", "gml3", "GML3"]
  predicate := .acceptAll
  identifierOverride := some "GML3"
  typeName := some (typeNameOf "Gml3")
  mimeType := "text/xml; subtype=gml/3.1.1"
  publishMode := .primary

def geoJson : Descriptor where
  aliases := ["application/json", "json"]
  predicate := .acceptAll
  identifierOverride := none
  typeName := some (typeNameOf "GeoJson")
  mimeType := "application/json"
  publishMode := .allAliases

/-- A table in text form holds one feature type only. -/
def csv : Descriptor where
  aliases := ["csv", "text/csv"]
  predicate := .singleFeatureType
  identifierOverride := none
  typeName := some (typeNameOf "Csv")
  mimeType := "text/csv"
  publishMode := .primary

def shapeZip : Descriptor where
  aliases := ["SHAPE-ZIP", "application/zip"]
  predicate := .acceptAll
  identifierOverride := none
  typeName := some (typeNameOf "ShapeZip")
  mimeType := "application/zip"
  publishMode := .primary

def descriptors : List Descriptor := [gml2, gml3, geoJson, csv, shapeZip]

end FeatureService.BuiltIn
