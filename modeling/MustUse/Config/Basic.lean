import MustUse.Config.Setting
import MustUse.Text.Cut

/-!
# Configuration

The settings of a report, their defaults and their validity.

Main definitions:

- `Settings`, `Settings.defaults`;
- `Overrides`, `Overrides.apply`: the settings that are given in one place, over other settings;
- `Settings.validate`: the first setting that is invalid;
- `Settings.funcList`: the configured functions as one comma-separated list.
-/

namespace MustUse
namespace Config

/-- The settings of a report. -/
structure Settings where
  /-- The name of the output format. -/
  format : String
  /-- The color mode. -/
  color : String
  /-- Further functions whose result must be used. -/
  funcs : List String
  /-- How many packages are analysed at once; zero leaves it to the machine. -/
  jobs : Int
  /-- Whether test files are analysed. -/
  tests : Bool
deriving DecidableEq, Repr

/-- The names of the output formats. -/
def formatNames : List String :=
  ["text", "json", "yaml"]

/-- The color modes. -/
def colorModes : List String :=
  ["auto", "on", "off"]

namespace Settings

/-- The settings that hold when nothing is configured. -/
def defaults : Settings :=
  { format := "text", color := "auto", funcs := [], jobs := 0, tests := false }

/-- Format, color mode and number of jobs are checked in this order. -/
def validate (s : Settings) : Except SettingError Unit :=
  if !formatNames.contains s.format then .error (.unknownFormat s.format)
  else if !colorModes.contains s.color then .error (.unknownColor s.color)
  else if s.jobs < 0 then .error .negativeJobs
  else .ok ()

/-- The configured functions as a comma-separated list. -/
def funcList (s : Settings) : String :=
  Text.joinWith "," s.funcs

end Settings

/-- The settings that are given in one place, on a command line or in a file. -/
structure Overrides where
  format : Option String := none
  color : Option String := none
  funcs : Option (List String) := none
  jobs : Option Int := none
  tests : Option Bool := none
deriving DecidableEq, Repr

/-- The settings with the given ones in place of others. -/
def Overrides.apply (o : Overrides) (s : Settings) : Settings :=
  { format := o.format.getD s.format
    color := o.color.getD s.color
    funcs := o.funcs.getD s.funcs
    jobs := o.jobs.getD s.jobs
    tests := o.tests.getD s.tests }

end Config
end MustUse
