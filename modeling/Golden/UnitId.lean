import Golden.FileSystem

/-! # Names of test units

A test unit is known by its name and the directory it was found in, its root. Units are ordered by
name first. The file of expected output of a unit lies in the directory `output` of its root. -/

namespace Golden

/-- A test unit. -/
structure UnitId where
  name : String
  root : Path
  deriving DecidableEq, Inhabited

namespace UnitId

/-- The directory of a root that holds the expected outputs. -/
def goldenDirectory : String := "output"

/-- The file of expected output. -/
def goldenPath (u : UnitId) : Path := (u.root.join goldenDirectory).join u.name

/-- The source file. -/
def source (u : UnitId) (extension : String) : Path := sourcePath u.root u.name extension

/-- The output that is expected when there is no file of expected output: the name on a line. -/
def baseline (u : UnitId) : String := u.name ++ "\n"

/-- How a report shows the unit: with its root if there are several. -/
def display (u : UnitId) (severalRoots : Bool) : String :=
  if severalRoots then "[" ++ u.root.spelling ++ "]" ++ u.name else u.name

/-- Whether two units have the same name and roots that are the same. -/
def same (u v : UnitId) : Bool := u.name = v.name && u.root.same v.root

/-- Whether `u` comes before `v` or is the same. -/
def le (u v : UnitId) : Bool := u.name < v.name || (u.name = v.name && u.root.le v.root)

/-- Units in ascending order. Units that are the same keep the order they came in. -/
def sort (us : List UnitId) : List UnitId := us.mergeSort le

end UnitId

end Golden
