import ShardFleet.Settings.Basic
import ShardFleet.Value.Place

/-!
# Changes through a snapshot

A snapshot of settings copies the sections but shares the lists in them. A change that is made in a
section of a snapshot leaves the settings as they are, and one that is made inside a list is a
change of the settings too, wherever the list stands.
-/

namespace ShardFleet.Settings

/-- The settings with a value set at a site, if that is inside a list. -/
def setShared (settings : Settings) (site : Site) (value : Value) : Settings :=
  match site.collection with
  | some number =>
      { settings with shelf := settings.shelf.modify number (Value.replaceAt value site.place) }
  | none =>
      let whole : Value := .mapping settings.content
      if whole.entersList site.place then
        match Value.replaceAt value site.place whole with
        | .mapping content => { settings with content }
        | _ => settings
      else settings

/-- What a change made through a snapshot, at the place that steps lead to, leaves of the settings.
A number of the shelf is used up as a mark for the last key, should that be an undefined number. -/
def changeSnapshot (settings : Settings) (steps : List Value) (value : Value) :
    Except Failure Settings :=
  let mark := settings.shelf.size
  (Value.siteFrom settings.shelf mark steps {} (.mapping settings.snapshot)).map fun site =>
    { settings with shelf := settings.shelf.push .null }.setShared site value

end ShardFleet.Settings
