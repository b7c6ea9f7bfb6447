import SecretRotation.Zone.History.Africa
import SecretRotation.Zone.History.Antarctica
import SecretRotation.Zone.History.Asia
import SecretRotation.Zone.History.Australia
import SecretRotation.Zone.History.CentralAmerica
import SecretRotation.Zone.History.Europe
import SecretRotation.Zone.History.NorthAmerica
import SecretRotation.Zone.History.Ocean
import SecretRotation.Zone.History.SouthAmerica
import SecretRotation.Zone.History.Universal
import SecretRotation.Zone.Name

/-!
# The zone table

The zones that a maintenance window can name, with all changes of offset from the first standard times on through 2099.

## Main definitions

* `History.table`: the histories of all zones by their proper names.
* `Zone.find?`: the zone of a name.
-/

namespace SecretRotation

/-- The histories of all zones by their proper names. -/
def History.table : List (String × History) :=
  africa ++ antarctica ++ asia ++ australia ++ centralAmerica ++ europe ++ northAmerica ++ ocean ++ southAmerica ++
    universal

/-- The zone of a name. Names are told apart by case, and the zone keeps the name by which it was asked for. -/
def Zone.find? (name : String) : Option Zone :=
  (History.table.lookup (properName name)).map (History.zone name)

end SecretRotation
