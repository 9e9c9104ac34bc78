import MustUse.Text.Quoted

/-!
# Invalid settings

The settings that have a fixed set of values, and what is said about a value outside of it.

Main definitions: `SettingError` and `SettingError.message`.
-/

namespace MustUse
namespace Config

/-- What is wrong with a setting. -/
inductive SettingError where
  | unknownFormat (name : String)
  | unknownColor (mode : String)
  | negativeJobs
deriving DecidableEq, Repr

/-- The description of an error. -/
def SettingError.message : SettingError → String
  | .unknownFormat name => "unknown output format: " ++ Text.quote name
  | .unknownColor mode => "unknown color mode: " ++ Text.quote mode
  | .negativeJobs => "jobs must not be negative"

end Config
end MustUse
