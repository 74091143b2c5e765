import Mathlib.Algebra.Group.Int.Defs
import Mathlib.Data.Fin.VecNotation
import Cooboc.Foundations.ObjectText
import Cooboc.HeadRest.DisplayLoop

/-! The text of a display: `HrDisplay::sendDistance` formats the two values, and the page of
`server/static-hr/index.html` evaluates the text as an object.
-/

namespace Cooboc.HeadRest

open Cooboc.Foundations

/-- The names `dist0` and `dist1`. -/
def distName : Fin 2 → List Char :=
  ![['d', 'i', 's', 't', '0'], ['d', 'i', 's', 't', '1']]

/-- The text that `sprintf` leaves in `mTextBuffer`. -/
def distanceText (value : Fin 2 → Int) : List Char :=
  ['\x7b', '"'] ++ distName cell0 ++ ['"', ':'] ++ decimalText (value cell0)
    ++ [',', ' ', '"'] ++ distName cell1 ++ ['"', ':'] ++ decimalText (value cell1) ++ ['\x7d']

/-- A property of an object; the last one of a name counts. -/
def propertyOf (name : List Char) (object : List Property) : Option Int :=
  (object.reverse.find? (fun property => property.1 = name)).map Prod.snd

/-- The page's handler of "data": the two properties of the object that the text evaluates to. -/
def onData (data : List Char) : Option (Fin 2 → Int) := do
  let distObj ← readObject data
  let dist0 ← propertyOf (distName cell0) distObj
  let dist1 ← propertyOf (distName cell1) distObj
  return ![dist0, dist1]

end Cooboc.HeadRest
