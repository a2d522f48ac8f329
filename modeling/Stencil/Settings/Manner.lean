import Stencil.Settings.Value
import Stencil.Text.Case

/-!
# How Settings Are Read

Beside settings, a caller can give options that say how the environment is read.

An option has a name that begins with a low line. It is taken for what it plainly
says, so that an option without a value, or with a value that says nothing, is as
good as none. Some options are for sources that are not read here, such as files;
they are no fault, and change nothing.

## Main definitions

* `Manner`: How the environment is read.
* `Manner.ofOptions`: The manner that options ask for.
* `Manner.value?`: What the environment holds for a name.
-/

namespace Stencil.Settings

/-- How the environment is read. -/
structure Manner where
  /-- What the names of variables begin with, before the name of the setting. -/
  beginning : String
  /-- Whether the case of their letters counts. -/
  isExact : Bool := false
  /-- Whether a variable without a text is as good as none. -/
  skipsEmpty : Bool := false
  /-- The text that stands for no value. -/
  nullText? : Option String := none
deriving DecidableEq, Repr

/-- The options that have no effect here. -/
def idleOptions : List String :=
  ["_nested_model_default_partial_update", "_env_prefix_target", "_env_file",
    "_env_file_encoding", "_env_nested_delimiter", "_env_nested_max_split", "_env_parse_enums",
    "_cli_prog_name", "_cli_parse_args", "_cli_settings_source", "_cli_parse_none_str",
    "_cli_hide_none_type", "_cli_avoid_json", "_cli_enforce_required",
    "_cli_use_class_docs_for_groups", "_cli_exit_on_error", "_cli_prefix",
    "_cli_flag_prefix_char", "_cli_implicit_flags", "_cli_ignore_unknown_args",
    "_cli_kebab_case", "_cli_shortcuts", "_secrets_dir", "_build_sources"]

/-- Whether a name is that of an option. -/
def isOption (name : String) : Bool :=
  ["_env_prefix", "_case_sensitive", "_env_ignore_empty", "_env_parse_none_str"].contains name ||
    idleOptions.contains name

namespace Value

/-- Whether a value says yes to an option; no value says nothing. -/
def says? : Value → Option Bool
  | null => none
  | flag b => some b
  | whole n | wholeFloat n => some (n != 0)
  | text s => some (s != "")
  | fraction | boundless | compound => some true

/-- The text that a value is. -/
def text? : Value → Option String
  | text s => some s
  | _ => none

end Value

namespace Manner

/-- The manner that options ask for, if names begin with `beginning` where none is asked
    for. -/
def ofOptions (beginning : String) (options : List (String × Value)) : Manner :=
  let usual : Manner := { beginning }
  { beginning := ((options.lookup "_env_prefix").bind Value.text?).getD usual.beginning
    isExact := ((options.lookup "_case_sensitive").bind Value.says?).getD usual.isExact
    skipsEmpty := ((options.lookup "_env_ignore_empty").bind Value.says?).getD usual.skipsEmpty
    nullText? := (options.lookup "_env_parse_none_str").bind Value.text? }

/-- A name as it is compared with others. -/
def compared (m : Manner) (name : String) : String :=
  if m.isExact then name else Text.lowerCase name

/-- What the environment holds for the setting with a name. -/
def value? (m : Manner) (environment : List (String × String)) (name : String) : Option Value :=
  let variableName := m.compared (m.beginning ++ name)
  let counts (v : String × String) : Bool :=
    m.compared v.1 = variableName && !(m.skipsEmpty && v.2 = "")
  (environment.reverse.find? counts).map fun v =>
    if m.nullText? = some v.2 then .null else .text v.2

end Manner

end Stencil.Settings
