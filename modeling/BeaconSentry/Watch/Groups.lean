/-!
This module contains the grouping of keyed values. Groups and the values in them keep the order in which they
were seen first.
-/

namespace BeaconSentry
namespace Watch

variable {κ ν : Type}

/-- Add a value to the group of its key, which is a new one at the end if there is none yet. -/
def addToGroups [BEq κ] (key : κ) (value : ν) : List (κ × List ν) → List (κ × List ν)
  | [] => [(key, [value])]
  | (other, values) :: rest =>
    if other == key then (other, values ++ [value]) :: rest
    else (other, values) :: addToGroups key value rest

def groupByKey [BEq κ] (items : List (κ × ν)) : List (κ × List ν) :=
  items.foldl (fun groups (key, value) => addToGroups key value groups) []

end Watch
end BeaconSentry
