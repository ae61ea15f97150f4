/-! # Sets of code points

A set is written as the ascending list of the code points at which membership changes, so a code
point belongs to it when an odd number of changes lies at or below it.
-/

namespace MockHttp.Text

def oddlyPassed (changes : List Nat) (n : Nat) : Bool :=
  changes.foldl (fun inside k => if k ≤ n then !inside else inside) false

end MockHttp.Text
