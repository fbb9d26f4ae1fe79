import ContainerFleet.Fault
import ContainerFleet.Json.Reader
import ContainerFleet.Settings.Basic
import ContainerFleet.Text.Capital

/-!
# Loading settings

All settings together, from keywords and variables.  Keywords count before
variables.  A group of settings can be given as a whole, by a keyword or as a
document in the variable of its name; of a group that is not given, each field
has a variable of its own.  `levels` is how deep such a document may be nested.
-/

namespace ContainerFleet
namespace Settings

open Decode

def logLevels : List String := ["DEBUG", "INFO", "WARNING", "ERROR", "CRITICAL"]

/-- A logging level in any letter case, kept in capitals. -/
def logLevelName : Decoder String := fun document =>
  (text document).andThen fun level =>
    if logLevels.contains (Text.capitals level) then .ok (Text.capitals level)
    else .problem (.rejected
      "Log level must be one of: ['DEBUG', 'INFO', 'WARNING', 'ERROR', 'CRITICAL']")

/-- The logging level from keywords and variables. -/
def decodeLevel (environment : Variables) (keywords : Members) : Checked String :=
  let members := fieldMembers keywords ["log_level"] ++ environment.toMembers "" ["log_level"]
  withDefault members "log_level" logLevelName "INFO"

/-- The two names of the read-only flag, the one that counts first in front. -/
def readOnlyNames : String × String := ("READONLY_MODE", "read_only")

/-- The read-only flag with the name under which it is reported: that of the
variable it comes from, or for keywords the second name where it was used as it
is written. -/
def readOnlyMember? (environment : Variables) (keywords : Members) : Option (String × Json) :=
  match (keyword? keywords "readonly_mode").or (keyword? keywords "read_only") with
  | some value =>
    some (if (keywords.lookup readOnlyNames.2).isSome then readOnlyNames.2 else readOnlyNames.1,
      value)
  | none =>
    match environment.find? "readonly_mode", environment.find? "read_only" with
    | some value, _ => some (readOnlyNames.1, .text value)
    | none, some value => some (readOnlyNames.2, .text value)
    | none, none => none

/-- The read-only flag from keywords and variables. -/
def decodeReadOnly (environment : Variables) (keywords : Members) : Checked Bool :=
  match readOnlyMember? environment keywords with
  | some (name, value) => (flag value).within (.key name)
  | none => .ok false

/-- The names of the two groups. -/
def hostGroup : String := "docker"

def alertGroup : String := "alerts"

/-- The document in the variable of a group, none where there is no such
variable or only null in it. -/
def groupVariable? (levels : Nat) (environment : Variables) (group : String) :
    Except Fault (Option Json) :=
  match environment.find? group with
  | none => .ok none
  | some content =>
    match Json.read content levels with
    | .ok .null => .ok none
    | .ok document => .ok (some document)
    | .error .malformed => .error (.unreadableSetting group)
    | .error .tooDeep => .error .tooDeep

/-- An object with the keys that name fields spelled like the fields. -/
def withFieldNames (fields : List String) : Json → Json
  | .object members => .object <| Table.ofEntries <| members.map fun (name, value) =>
      ((fields.find? (isNameOf name)).getD name, value)
  | document => document

/-- One document laid over another: the members of two objects are joined, and
otherwise the upper one hides the lower. -/
def overlay : (lower upper : Json) → Json
  | .object lower, .object upper =>
    .object (upper.foldl (fun table entry => Table.set table entry.1 entry.2) lower)
  | _, upper => upper

/-- What keywords and variables give for a group as a whole. -/
def givenGroup? (fields : List String) (keyword lower : Option Json) : Option Json :=
  match lower.map (withFieldNames fields), keyword with
  | some lower, some upper => some (overlay lower upper)
  | lower, upper => upper.or lower

/-- Load a group.  One that is given has its issues under its name; the issues
of one that is not are a fault of its own. -/
def loadGroup {α : Type} (group : String) (load : Members → Checked α) :
    Option Json → Except Fault (Checked α)
  | some given => .ok ((record load given).within (.key group))
  | none => ((load []).toExcept.mapError .invalid).map .ok

/-- The settings from keywords and variables. -/
def load (environment : Variables) (keywords : Members)
    (levels : Nat := Json.Reader.usualLevels) : Except Fault Settings := do
  let hosts ← groupVariable? levels environment hostGroup
  let alerts ← groupVariable? levels environment alertGroup
  let hosts ← loadGroup hostGroup (HostSettings.load environment)
    (givenGroup? HostSettings.fields (keyword? keywords hostGroup) hosts)
  let alerts ← loadGroup alertGroup (AlertSettings.load environment)
    (givenGroup? AlertSettings.fields (keyword? keywords alertGroup) alerts)
  (Settings.mk <$> decodeLevel environment keywords <*> decodeReadOnly environment keywords
    <*> hosts <*> alerts).toExcept.mapError .invalid

/-- The settings from keywords and variables, with keywords of their own for
the groups, which are loaded first.  The variables of the groups are not used,
but they have to be readable. -/
def loadInGroups (environment : Variables) (keywords hostKeywords alertKeywords : Members)
    (levels : Nat := Json.Reader.usualLevels) : Except Fault Settings := do
  let hosts ← (HostSettings.load environment hostKeywords).toExcept.mapError .invalid
  let alerts ← (AlertSettings.load environment alertKeywords).toExcept.mapError .invalid
  let _ ← groupVariable? levels environment hostGroup
  let _ ← groupVariable? levels environment alertGroup
  (Settings.mk <$> decodeLevel environment keywords <*> decodeReadOnly environment keywords
    <*> .ok hosts <*> .ok alerts).toExcept.mapError .invalid

end Settings

/-- Settings that are loaded once and then kept; a failed load keeps nothing. -/
structure SettingsCache where
  kept : Option Settings

namespace SettingsCache

/-- The kept settings, loaded if there are none. -/
def get (cache : SettingsCache) (environment : Variables)
    (levels : Nat := Json.Reader.usualLevels) : Except Fault Settings × SettingsCache :=
  match cache.kept with
  | some settings => (.ok settings, cache)
  | none =>
    match Settings.loadInGroups environment [] [] [] levels with
    | .ok settings => (.ok settings, ⟨some settings⟩)
    | .error fault => (.error fault, ⟨none⟩)

/-- The settings loaded anew. -/
def reload (environment : Variables) (levels : Nat := Json.Reader.usualLevels) :
    Except Fault Settings × SettingsCache :=
  get ⟨none⟩ environment levels

end SettingsCache
end ContainerFleet
