import StreetEnv.Decimal.Text
import StreetEnv.Grid.DataArray
import StreetEnv.Text.Quoted
import StreetEnv.Validation

/-!
# Faults

`Fault` lists the causes for which an operation of the library stops.

* `Fault.message?` is what is reported about a fault; some faults are reported by their kind alone;
* `Fault.isInvalidValue` groups the faults that mean that data or settings hold an impossible value.
-/

namespace StreetEnv

/-- The cause for which an operation stopped. -/
inductive Fault where
  /-- Not-a-number has no integer part. -/
  | nanToInteger
  /-- An infinity has no integer part. -/
  | infinityToInteger
  /-- A running sum left the range of doubles. -/
  | sumOverflow
  /-- An integer is no value of the cell type. -/
  | cellOutOfRange (value : Int) (type : CellType)
  /-- An integer is no machine word at all. -/
  | integerTooLarge
  /-- Samples cannot belong to a negative time index. -/
  | negativeTime (time : Int)
  /-- Progress cannot be reported every zero edges. -/
  | zeroReportInterval
  /-- Samples cannot be spaced by nothing, or backwards. -/
  | spacingNotPositive (spacing : Number)
  /-- Samples cannot be fewer than none. -/
  | negativeCount
  /-- So many samples cannot be counted. -/
  | countTooLarge
  /-- An axis has no entry at the index. -/
  | indexOutOfBounds (index : Int) (size : Nat)
  /-- A variable that serves as an axis has no dimension. -/
  | axisWithoutDimension
  /-- An axis entry is not a single number. -/
  | axisEntryNotScalar
  /-- The units of a time axis are a number. -/
  | numericUnits (type : CellType)
  /-- The units of a time axis are several texts. -/
  | listedUnits
  /-- The units of a time axis are an array of several numbers, or of none. -/
  | ambiguousUnits (size : Nat)
  /-- A variable has a dimension twice. -/
  | repeatedDimension (name : String) (dimensions : List String)
  /-- A file without data has no bounding box. -/
  | noData
  /-- A time offset leaves the representable range. -/
  | offsetOutOfRange
  /-- An instant leaves the representable range. -/
  | instantOutOfRange
  /-- An instant has no epoch time at nanosecond resolution. -/
  | epochOutOfRange
  /-- Air quality files could not be used; the text lists why. -/
  | invalidFiles (errors : String)
  /-- No measurement of noise has this name. -/
  | unknownMeasurement (name : String)
  /-- A text cannot be compared with a level. -/
  | levelNotComparable
  /-- The broker could not be reached. -/
  | transport (url text : String)
  /-- Data does not fit its schema. -/
  | invalid (issues : List Issue)
  /-- A part of a line has no vertices. -/
  | emptyPart
  /-- There is no vector file at the path. -/
  | vectorFileNotFound (path : String)
  /-- A vector file has no such layer. -/
  | noSuchLayer
  /-- A file cannot be read or written as vector data. -/
  | vectorSource
  /-- A reference system is not known. -/
  | unknownReferenceSystem
  /-- Features without a reference system cannot be reprojected. -/
  | noReferenceSystem
  /-- There is no way from one reference system to another. -/
  | noConversion
  /-- A file stands where a directory is needed. -/
  | fileExists
  /-- A file stands on the way to a directory. -/
  | notADirectory
  /-- A directory on the way is missing. -/
  | noSuchDirectory
  /-- The working directory cannot be removed. -/
  | workingDirectory
  /-- An updater was run before it was given a graph. -/
  | noManager (updater : String)
  /-- So long a time cannot be waited. -/
  | waitTooLong
  /-- No output file has this attribute. -/
  | noSuchOutput
  /-- An action failed for a reason of its own. -/
  | failure (text : String)
  /-- The process ends with an exit status. -/
  | exit (status : Int)
  /-- The command line could not be understood. -/
  | usage (text : String)
  deriving DecidableEq, Inhabited

/-! ### The wording -/

namespace Fault

/-- What is reported about a fault, apart from its kind. -/
def message? : Fault → Option String
  | nanToInteger => some "cannot convert float NaN to integer"
  | infinityToInteger => some "cannot convert float infinity to integer"
  | sumOverflow => some "intermediate overflow in fsum"
  | cellOutOfRange n t => some s!"Python integer {n} out of bounds for {t.name}"
  | integerTooLarge => some "Python int too large to convert to C long"
  | negativeTime t => some s!"Time index must not be negative, got {t}"
  | zeroReportInterval => some "integer modulo by zero"
  | spacingNotPositive x => some s!"Sample spacing must be positive, got {x.text}"
  | negativeCount => some "__len__() should return >= 0"
  | countTooLarge => some "cannot fit 'int' into an index-sized integer"
  | indexOutOfBounds i n => some s!"index {i} is out of bounds for axis 0 with size {n}"
  | axisWithoutDimension => some "tuple index out of range"
  | axisEntryNotScalar => some "only 0-dimensional arrays can be converted to Python scalars"
  | numericUnits type => some s!"argument of type 'numpy.{type.name}' is not iterable"
  | listedUnits => some "'list' object has no attribute 'split'"
  | ambiguousUnits 0 =>
    some ("The truth value of an empty array is ambiguous. Use `array.size > 0` to check that " ++
      "an array is not empty.")
  | ambiguousUnits _ =>
    some ("The truth value of an array with more than one element is ambiguous. Use a.any() or " ++
      "a.all()")
  | repeatedDimension name dimensions =>
    some ("This function cannot handle duplicate dimensions, but dimensions " ++
      s!"\x7b{Quoted.quote name}\x7d appear more than once on this object's dims: " ++
      "(" ++ ", ".intercalate (dimensions.map Quoted.quote) ++ ")")
  | noData => some "'NoneType' object is not subscriptable"
  | offsetOutOfRange => none
  | instantOutOfRange => none
  | epochOutOfRange => none
  | invalidFiles errors => some errors
  | unknownMeasurement name => some s!"Unknown noise measurement attribute: {name}"
  | levelNotComparable => some "'>' not supported between instances of 'str' and 'float'"
  | transport url text => some s!"Error fetching noise levels from {url}: {text}"
  | invalid _ => none
  | emptyPart => some "list index out of range"
  | vectorFileNotFound path => some s!"Input vector file not found: {path}"
  | noSuchLayer => none
  | vectorSource => none
  | unknownReferenceSystem => none
  | noReferenceSystem => some "Input GeoDataFrame has no CRS defined. Cannot reproject."
  | noConversion => none
  | fileExists => none
  | notADirectory => none
  | noSuchDirectory => none
  | workingDirectory => none
  | noManager updater => some s!"{updater} has no graph updater manager"
  | waitTooLong => none
  | noSuchOutput => none
  | failure text => some text
  | exit _ => none
  | usage text => some text

/-- A fault in words, whether or not it is reported with them. -/
def text (f : Fault) : String :=
  match f with
  | epochOutOfRange =>
    "Cannot convert Timestamp to nanoseconds without overflow. Use `.asm8.view('i8')` to cast " ++
      "represent Timestamp in its own unit (here, us)."
  | offsetOutOfRange => "cannot convert the offset without overflow"
  | instantOutOfRange => "cannot add the offset without overflow"
  | f => f.message?.getD ""

/-- The fault means that data or settings hold an impossible value. -/
def isInvalidValue : Fault → Bool
  | nanToInteger => true
  | spacingNotPositive _ => true
  | negativeCount => true
  | ambiguousUnits _ => true
  | repeatedDimension _ _ => true
  | offsetOutOfRange => true
  | instantOutOfRange => true
  | invalidFiles _ => true
  | unknownMeasurement _ => true
  | invalid _ => true
  | noReferenceSystem => true
  | _ => false

end Fault

end StreetEnv
