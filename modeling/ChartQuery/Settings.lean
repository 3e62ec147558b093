/-
# Settings

Where the server is, how long to wait for it, and whether its certificate is verified. A setting
comes from an override, else from an environment variable, else it has its standard value. The names
of environment variables are read in any case; of two that differ only in case the later counts. The
verification has two variables, of which the first one wins.
-/

import ChartQuery.Schema.Reading
import ChartQuery.Text.Case

namespace ChartQuery

open Schema

/-- How to reach the server. -/
structure Settings where
  baseUrl : Text
  timeout : Binary64
  verifies : Bool
  deriving Repr, Inhabited

/-- The variables of a process: names with their values, in order. -/
abbrev Environment := List (Text × Text)

namespace Settings

/-- The seconds to wait when nothing is said about it. -/
def standardTimeout : Binary64 := Binary64.ofInt 30

/-- What the names of all variables begin with. -/
def variableHead : String := "VIZFORGE_"

/-- The variable that says first of all whether certificates are verified. It is also a key for
overrides. -/
def verifyVariable : String := "VIZFORGE_HTTPS_VERIFY"

/-- The value of a variable; the last one of that name counts. -/
def held? (environment : Environment) (name : Text) : Option Value :=
  (environment.reverse.find? fun (n, _) => Text.lower n == Text.lower name).map fun (_, s) =>
    .text s

/-- The value of a setting that has one key: its override, else its variable. -/
def stated? (environment : Environment) (overrides : Fields) (key : String) : Option Value :=
  match Value.field? key overrides with
  | some v => some v
  | none => held? environment (variableHead ++ key)

/-- The value of the verification with the key under which it is reported. -/
def statedVerification? (environment : Environment) (overrides : Fields) :
    Option (String × Value) :=
  let overriding :=
    (Value.field? verifyVariable overrides).or (Value.field? "verify" overrides)
  match overriding.or (held? environment verifyVariable) with
  | some v => some (verifyVariable, v)
  | none => (held? environment (variableHead ++ "verify")).map fun v => ("verify", v)

/-- A setting that may have been stated under a key. -/
def readStated {α : Type} (stated : Option (String × Value)) (fallback : α)
    (read : Value → Reading α) : Reading α :=
  match stated with
  | some (key, v) => (read v).below (.key key)
  | none => .accepted fallback

/-- The settings under an environment and overrides, or everything that is wrong with them. -/
def read (environment : Environment) (overrides : Fields) : Except Rejection Settings :=
  let single := fun (key : String) => (stated? environment overrides key).map fun v => (key, v)
  let settings : Reading Settings :=
    Settings.mk
      <$> readStated (single "base_url") "" readText
      <*> readStated (single "timeout") standardTimeout readFloat
      <*> readStated (statedVerification? environment overrides) true readBool
  settings.toExcept "ClientSettings"

/-- The value of the settings. -/
def toValue (s : Settings) : Value :=
  .ofFields [("baseUrl", .text s.baseUrl), ("timeout", .float s.timeout),
    ("verify", .bool s.verifies)]

end Settings

end ChartQuery
