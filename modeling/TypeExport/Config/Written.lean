import TypeExport.Config.Document

/-!
# Written configurations

The document that spells a configuration in full.
-/

namespace TypeExport

def Json.record (members : List (String × Json)) : Json :=
  .object (members.map fun (k, v) => (.ofString k, v))

def EnumSource.toJson (s : EnumSource CodeText) : Json :=
  .record [("tableName", .text s.table), ("keyColumn", .text s.keyColumn),
    ("valueColumn", .text s.labelColumn), ("enumName", .text s.name),
    ("customOutputPath", s.outputDirectory.elim .null .text)]

def Config.toJson (c : Config CodeText) : Json :=
  .record [("connectionString", .text c.connection),
    ("modulesToScan", .array (c.targets.map .text)),
    ("typeScriptInterfacesOutputPath", .text c.interfaceDirectory),
    ("typeScriptEnumsOutputPath", .text c.enumDirectory),
    ("pythonEnumsOutputPath", .text c.moduleDirectory),
    ("databaseEnums", .array (c.sources.map EnumSource.toJson)),
    ("generateIndexFiles", .bool c.manifests), ("useCamelCase", .bool c.camelCaseKeys),
    ("addGeneratedHeaders", .bool c.header),
    ("ignoreNavigationProperties", .bool c.dropNavigation),
    ("generateNestedInterfaces", .bool c.inlineNested),
    ("includeJsonIgnoreProperties", .bool c.keepIgnored),
    ("typeMappings", .object (c.typeMappings.map fun (k, v) => (k, .text v)))]

end TypeExport
