import Windhawk.Js.Builtins

/-! The per-mod data of the webview's mods browsers and the replies of the extension host
they handle, as `webviewIPCMessages` declares them, with the fields these components read
or write. -/

set_option autoImplicit false

namespace Windhawk.Webview

structure ModMetadata where
  name : Option String
  description : Option String
  author : Option String
  «include» : Option (List String)
  deriving DecidableEq, Repr

inductive ConfigValue where
  | boolean (value : Bool)
  | number (value : Int)
  | string (value : String)
  | strings (values : List String)
  deriving DecidableEq, Repr

/-- A value used as a condition: `false`, `0` and `""` are falsy, arrays are truthy. -/
def ConfigValue.truthy : ConfigValue → Bool
  | .boolean value => value
  | .number value => value ≠ 0
  | .string value => value ≠ ""
  | .strings _ => true

abbrev ModConfig := Js.Object ConfigValue

structure RepositoryDetails where
  users : Int
  rating : Int
  defaultSorting : Int
  published : Int
  updated : Int
  deriving DecidableEq, Repr

structure InstalledModDetails where
  metadata : Option ModMetadata
  config : Option ModConfig
  userRating : Option Int
  deriving DecidableEq

structure UpdatedModDetails where
  updateAvailable : Bool
  userRating : Int
  deriving DecidableEq, Repr

/-- The messages of the extension host the mods browsers handle, with their data. -/
inductive Reply where
  | updateInstalledModsDetails (details : Js.Object UpdatedModDetails)
  | setNewModConfig (modId : String) (config : ModConfig)
  | installMod (modId : String) (installedModDetails : Option InstalledModDetails)
  | compileMod (modId : String) (compiledModDetails : Option InstalledModDetails)
  | enableMod (modId : String) (enabled succeeded : Bool)
  | deleteMod (modId : String) (succeeded : Bool)
  | updateModRating (modId : String) (rating : Int) (succeeded : Bool)
  deriving DecidableEq

def Reply.addressee : Reply → Option String
  | .updateInstalledModsDetails _ => none
  | .setNewModConfig modId _ | .installMod modId _ | .compileMod modId _ | .enableMod modId _ _
  | .deleteMod modId _ | .updateModRating modId _ _ => some modId

/-- The `TypeError` of a property access on `undefined`, with the property's name:
"Cannot read properties of undefined", "Cannot set properties of undefined", or, from a
`delete`, "Cannot convert undefined or null to object". -/
inductive TypeError where
  | reading (property : String)
  | setting (property : String)
  | deleting (property : String)
  deriving DecidableEq, Repr

end Windhawk.Webview
