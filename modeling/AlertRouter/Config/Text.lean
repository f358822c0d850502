import AlertRouter.Config.Basic
import AlertRouter.Yaml.Printer
import AlertRouter.Yaml.Reader

/-! # Configurations as texts

A configuration is kept in a YAML file.  What is read from one is consistent; what is written shows
no secrets. -/

namespace AlertRouter.Config

/-- Reads a configuration, which has to be consistent. -/
def ofYaml (text : String) : Except AlertError Config :=
  match (Yaml.read? text).map schema.read with
  | some (.ok c) => c.validate.map fun _ => c
  | _ => .error (.badConfig .badYaml)

/-- The text of a configuration. -/
def yaml (c : Config) : String := Yaml.render (schema.write c)

end AlertRouter.Config
