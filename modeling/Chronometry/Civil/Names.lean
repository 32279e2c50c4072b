/-!
# Names of months and weekdays

English names in full; an abbreviation is the first three letters.
-/

namespace Chronometry
namespace Civil

/-- The names of the months, January first. -/
def monthNames : List String :=
  ["January", "February", "March", "April", "May", "June", "July", "August", "September", "October",
    "November", "December"]

/-- The names of the weekdays, Sunday first. -/
def weekdayNames : List String :=
  ["Sunday", "Monday", "Tuesday", "Wednesday", "Thursday", "Friday", "Saturday"]

/-- The first three letters of a name. -/
def abbreviated (name : String) : String :=
  String.ofList (name.toList.take 3)

/-- The name of a month, counted from 1. -/
def monthName (month : Nat) : String :=
  monthNames.getD (month - 1) ""

/-- The name of a weekday, counted from Sunday. -/
def weekdayName (weekday : Nat) : String :=
  weekdayNames.getD weekday ""

end Civil
end Chronometry
